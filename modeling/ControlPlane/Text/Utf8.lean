/-
Reading bytes as UTF-8, whatever they are.

A sequence of bytes that starts like a character but does not end like one is replaced:
every longest run of bytes that could have started a character gives one U+FFFD, and so
does every byte that starts none.
-/
import ControlPlane.Text.Base64

namespace ControlPlane.Text

/-- The bytes of a text in UTF-8. -/
def utf8 (cs : List Char) : Bytes := cs.flatMap String.utf8EncodeChar

/-- What stands for bytes that are no character. -/
def replacement : Char := Char.ofNat 0xFFFD

/-- A byte that may follow in the middle of a character. -/
def isFollower (b : UInt8) : Bool := 0x80 ≤ b && b < 0xC0

/-- How many bytes a character has that starts with this byte. -/
def widthOf (b : UInt8) : Nat :=
  if b < 0x80 then 1
  else if 0xC2 ≤ b ∧ b < 0xE0 then 2
  else if 0xE0 ≤ b ∧ b < 0xF0 then 3
  else if 0xF0 ≤ b ∧ b < 0xF5 then 4
  else 0

/-- A byte may come second after a first one: beyond being a follower, it rules out what
has a shorter form, the surrogates, and what lies beyond the last character. -/
def maySecond (first second : UInt8) : Bool :=
  isFollower second &&
    (first ≠ 0xE0 || 0xA0 ≤ second) && (first ≠ 0xED || second < 0xA0) &&
    (first ≠ 0xF0 || 0x90 ≤ second) && (first ≠ 0xF4 || second < 0x90)

/-- The lower six bits of a follower. -/
def low (b : UInt8) : Nat := b.toNat % 64

/-- The character of a first byte and its followers. -/
def joined (first : UInt8) : List UInt8 → Char
  | [b] => Char.ofNat (first.toNat % 32 * 64 + low b)
  | [b, c] => Char.ofNat (first.toNat % 16 * 4096 + low b * 64 + low c)
  | [b, c, d] => Char.ofNat (first.toNat % 8 * 262144 + low b * 4096 + low c * 64 + low d)
  | _ => Char.ofNat first.toNat

/-- The bytes that go on with the character that a first byte starts. -/
def continuation (first : UInt8) : Bytes → Bytes
  | [] => []
  | second :: rest =>
    if 1 < widthOf first ∧ maySecond first second then
      second :: (rest.take (widthOf first - 2)).takeWhile isFollower
    else []

/-- Reads bytes; `acc` holds the characters already read, last first. -/
def readUtf8 (acc : List Char) : Bytes → List Char
  | [] => acc.reverse
  | first :: rest =>
    let run := continuation first rest
    let c := if run.length + 1 = widthOf first then joined first run else replacement
    readUtf8 (c :: acc) (rest.drop run.length)
termination_by bytes => bytes.length
decreasing_by simp only [List.length_drop, List.length_cons]; omega

end ControlPlane.Text
