/-
Where a request goes.

A request is written as a URL: a path, and behind a question mark its parameters.  The
path is put together from names that may hold anything, so a question mark in a name
starts the parameters early, and a number sign cuts off all that follows.  A URL that is
too long, or holds a character that has no place in it, cannot be sent.

Parameters are written as a form writes them: letters, digits and four marks stand for
themselves, a space is a plus sign, and every other byte is a percent sign and two digits.
-/
import ControlPlane.Text.Digits
import ControlPlane.Text.Utf8

namespace ControlPlane.Kubernetes

/-! ### Forms -/

/-- A byte that a form writes as the character it stands for. -/
def isPlainByte (b : UInt8) : Bool :=
  let c := Char.ofNat b.toNat
  b < 0x80 && (c.isAlphanum || c = '*' || c = '-' || c = '.' || c = '_')

/-- One of sixteen digits. -/
def formDigit (n : Nat) : Char :=
  if n < 10 then Char.ofNat ('0'.toNat + n) else Char.ofNat ('A'.toNat + (n - 10))

/-- How a form writes a byte. -/
def formByte (b : UInt8) : List Char :=
  if isPlainByte b then [Char.ofNat b.toNat]
  else if b = 0x20 then ['+']
  else ['%', formDigit (b.toNat / 16), formDigit (b.toNat % 16)]

/-- How a form writes a text. -/
def formText (s : String) : List Char := (Text.utf8 s.toList).flatMap formByte

/-- The bytes that the text of a form stands for.  A percent sign without two digits stands
for itself. -/
def formBytes : List Char → Bytes
  | [] => []
  | '+' :: rest => 0x20 :: formBytes rest
  | '%' :: a :: b :: rest =>
    match Text.hexDigit? a, Text.hexDigit? b with
    | some x, some y => UInt8.ofNat (x * 16 + y) :: formBytes rest
    | _, _ => 0x25 :: formBytes (a :: b :: rest)
  | c :: rest => String.utf8EncodeChar c ++ formBytes rest

/-- The text that a form writes. -/
def formRead (cs : List Char) : String := String.ofList (Text.readUtf8 [] (formBytes cs))

/-- The parts of a text between separators. -/
def splitOn (separator : Char) : List Char → List (List Char)
  | [] => [[]]
  | c :: rest =>
    match splitOn separator rest with
    | [] => [[c]]
    | part :: parts => if c = separator then [] :: part :: parts else (c :: part) :: parts

/-- A parameter `name=value`. -/
def parameter (cs : List Char) : String × String :=
  (formRead (cs.takeWhile (· ≠ '=')), formRead ((cs.dropWhile (· ≠ '=')).drop 1))

/-- The parameters of a form; nothing between two separators is no parameter. -/
def parameters (form : List Char) : List (String × String) :=
  ((splitOn '&' form).filter (!·.isEmpty)).map parameter

/-! ### URLs -/

/-- The URL of a path, with parameters behind it if it takes any. -/
def urlOf (path : String) : Option (List (String × String)) → List Char
  | none => path.toList
  | some query =>
    path.toList ++ '?' :: query.flatMap fun e => '&' :: (formText e.1 ++ '=' :: formText e.2)

/-- A character that may stand in a path. -/
def isPathCharacter (c : Char) : Bool :=
  let n := c.toNat
  n = 0x21 || n = 0x22 || (0x24 ≤ n && n ≤ 0x3B) || n = 0x3D || (0x40 ≤ n && n ≤ 0x5F) ||
    (0x61 ≤ n && n ≤ 0x7E) || 0x80 ≤ n

/-- A character that may stand in a query. -/
def isQueryCharacter (c : Char) : Bool :=
  let n := c.toNat
  n = 0x21 || (0x24 ≤ n && n ≤ 0x3B) || n = 0x3D || (0x3F ≤ n && n ≤ 0x7E) || 0x80 ≤ n

/-- The most bytes that a URL may have. -/
def urlLimit : Nat := 65534

/-- Where a request goes. -/
structure Target where
  path : String
  /-- The parameters, decoded. -/
  query : List (String × String)
deriving DecidableEq, Repr

/-- The target of a URL, unless it cannot be sent. -/
def Target.ofUrl? (url : List Char) : Option Target :=
  if urlLimit < (Text.utf8 url).length then none
  else
    let shown := url.takeWhile (· ≠ '#')
    let path := shown.takeWhile (· ≠ '?')
    let query := (shown.dropWhile (· ≠ '?')).drop 1
    if path.all isPathCharacter && query.all isQueryCharacter then
      some ⟨String.ofList path, parameters query⟩
    else none

end ControlPlane.Kubernetes
