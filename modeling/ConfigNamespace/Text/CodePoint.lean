/-!
# Code points and texts

A text is a list of code points. Surrogates are allowed, because an escape in a flat document may
name one on its own and the value then keeps it.
-/

namespace ConfigNamespace

/-- A code point: a number below `0x110000`, surrogates included. -/
structure CodePoint where
  /-- The number of the code point. -/
  val : Nat
  /-- Every code point lies below the end of the code space. -/
  isLt : val < 0x110000
  deriving DecidableEq

/-- A text, as the list of its code points. -/
abbrev Text := List CodePoint

namespace CodePoint

/-- The code point of a character. -/
def ofChar (c : Char) : CodePoint :=
  ⟨c.toNat, by
    have h : c.toNat < 0xD800 ∨ (0xDFFF < c.toNat ∧ c.toNat < 0x110000) := c.valid
    omega⟩

/-- The code point with the given number; zero stands in for a number outside the code space. -/
def ofNat (n : Nat) : CodePoint := if h : n < 0x110000 then ⟨n, h⟩ else ⟨0, by decide⟩

instance : Coe Char CodePoint := ⟨ofChar⟩

instance : Inhabited CodePoint := ⟨⟨0, by decide⟩⟩

/-- The single quotation mark. -/
def singleQuote : CodePoint := ofNat 0x27

/-- The double quotation mark. -/
def doubleQuote : CodePoint := ofNat 0x22

/-- The backslash. -/
def backslash : CodePoint := ofNat 0x5C

/-- Whether the code point is half of a surrogate pair. -/
def isSurrogate (c : CodePoint) : Bool := 0xD800 ≤ c.val && c.val < 0xE000

/-- Whether the code point is one of the letters `A` to `Z` and `a` to `z`. -/
def isAsciiLetter (c : CodePoint) : Bool :=
  (0x41 ≤ c.val && c.val ≤ 0x5A) || (0x61 ≤ c.val && c.val ≤ 0x7A)

/-- Whether the code point is one of the digits `0` to `9`. -/
def isAsciiDigit (c : CodePoint) : Bool := 0x30 ≤ c.val && c.val ≤ 0x39

/-- The value of a hexadecimal digit in either case. -/
def hexDigit? (c : CodePoint) : Option Nat :=
  if 0x30 ≤ c.val ∧ c.val ≤ 0x39 then some (c.val - 0x30)
  else if 0x41 ≤ c.val ∧ c.val ≤ 0x46 then some (c.val - 0x37)
  else if 0x61 ≤ c.val ∧ c.val ≤ 0x66 then some (c.val - 0x57)
  else none

/-- Code points with the same number are the same. -/
theorem ext {a b : CodePoint} (h : a.val = b.val) : a = b := by
  cases a; cases b; simp_all

end CodePoint

/-- Whether a number lies in one of the closed ranges. -/
def inRanges (ranges : List (Nat × Nat)) (n : Nat) : Bool :=
  ranges.any fun range => range.1 ≤ n && n ≤ range.2

/-- The text of a character string. -/
def text (s : String) : Text := s.toList.map CodePoint.ofChar

/-- The text of a natural number in decimal digits. -/
def Text.ofNat (n : Nat) : Text := (Nat.toDigits 10 n).map CodePoint.ofChar

/-- The text of an integer in decimal digits, with a minus sign before a negative one. -/
def Text.ofInt : Int → Text
  | .ofNat n => Text.ofNat n
  | .negSucc n => CodePoint.ofChar '-' :: Text.ofNat (n + 1)

/-- The decimal digits of a number, with zeros before them up to the given width. -/
def Text.padded (width n : Nat) : Text :=
  let digits := Text.ofNat n
  List.replicate (width - digits.length) (CodePoint.ofChar '0') ++ digits

/-- The character string of a text without surrogates. -/
def Text.toString? (t : Text) : Option String :=
  if t.any CodePoint.isSurrogate then none
  else some (String.ofList (t.map fun c => Char.ofNat c.val))

/-- Order of texts by their code points, as in a dictionary. -/
def Text.le : Text → Text → Bool
  | [], _ => true
  | _ :: _, [] => false
  | a :: s, b :: t => a.val < b.val || (a.val == b.val && Text.le s t)

end ConfigNamespace
