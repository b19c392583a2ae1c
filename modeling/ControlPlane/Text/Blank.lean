/-
White space, as Unicode's property `White_Space` has it.

Duration texts and settings are trimmed of it before they are read, and a duration
may hold it between its parts, so the class is the Unicode one and not the six
ASCII characters.
-/

namespace ControlPlane.Text

/-- A character with the Unicode property `White_Space`. -/
def isBlank (c : Char) : Bool :=
  let n := c.toNat
  (0x9 ≤ n && n ≤ 0xD) || n == 0x20 || n == 0x85 || n == 0xA0 || n == 0x1680 ||
    (0x2000 ≤ n && n ≤ 0x200A) || n == 0x2028 || n == 0x2029 || n == 0x202F ||
    n == 0x205F || n == 0x3000

/-- The text without the white space at its start. -/
def trimStart (s : List Char) : List Char :=
  s.dropWhile isBlank

/-- The text without the white space at both ends. -/
def trim (s : List Char) : List Char :=
  (trimStart (trimStart s).reverse).reverse

/-- The bytes that a text takes in UTF-8. -/
def byteLength : List Char → Nat
  | [] => 0
  | c :: rest => c.utf8Size + byteLength rest

/-- A text that neither starts nor ends with white space is its own trimmed form. -/
theorem trim_eq_self {s : List Char} (first : ∀ c ∈ s.head?, isBlank c = false)
    (last : ∀ c ∈ s.getLast?, isBlank c = false) : trim s = s := by
  have keep : ∀ {l : List Char}, (∀ c ∈ l.head?, isBlank c = false) → trimStart l = l := by
    intro l h
    cases l with
    | nil => rfl
    | cons c r => simp [trimStart, h c (by simp)]
  have back : ∀ c ∈ s.reverse.head?, isBlank c = false := by
    simpa [List.head?_reverse] using last
  simp [trim, keep first, keep back]

end ControlPlane.Text
