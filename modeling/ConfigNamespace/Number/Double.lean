import ConfigNamespace.Number.Numeral
import ConfigNamespace.Text.Blank
import ConfigNamespace.Text.Case

/-!
# Doubles

A double is a multiple of the smallest positive one, with a magnitude of at most 53 binary digits
before the zeros that end it. It is kept as that multiple, so that comparing doubles is comparing
integers and reading one is a single rounding of an exact quotient.
-/

namespace ConfigNamespace

/-- A number in double precision. -/
inductive Double
  /-- The magnitude `scaled / 2 ^ 1074`, with a sign that zero has too. -/
  | finite (negative : Bool) (scaled : Nat)
  /-- A number beyond all finite ones. -/
  | infinite (negative : Bool)
  /-- Not a number. -/
  | nan
  deriving DecidableEq, Repr

/-- The integer nearest to `num / den`; a half goes to the even neighbour. -/
def roundHalfEven (num den : Nat) : Nat :=
  let quotient := num / den
  let twice := 2 * (num % den)
  if twice < den then quotient
  else if den < twice then quotient + 1
  else quotient + quotient % 2

namespace Double

/-- How many binary digits after the point the smallest positive double has. -/
def scaleBits : Nat := 1074

/-- How many binary digits the magnitude of a double has, apart from zeros at its end. -/
def precision : Nat := 53

/-- The scaled magnitude of one. -/
def one : Nat := powerOfTwo scaleBits

/-- Where the doubles end: the scaled magnitude of infinity. -/
def limit : Nat := powerOfTwo 1024 * one

/-- How many zeros end a magnitude of this size. -/
def spacingBits (scaled : Nat) : Nat := Nat.log2 scaled + 1 - precision

/-- The distance between the doubles of this size, as a scaled magnitude. -/
def spacing (scaled : Nat) : Nat := powerOfTwo (spacingBits scaled)

/-- The double nearest to `num / den`, rounded to even. -/
def nearest (negative : Bool) (num den : Nat) : Double :=
  let step := spacing (num * one / den)
  let scaled := roundHalfEven (num * one) (den * step) * step
  if scaled < limit then .finite negative scaled else .infinite negative

/-- The double nearest to a numeral. Numerals far beyond the doubles are not multiplied out. -/
def ofNumeral (negative : Bool) (numeral : Numeral) : Double :=
  let digits := numeral.digits.dropWhile (· = 0)
  let n := natOfDigits digits
  let height : Int := digits.length + numeral.exponent
  if n = 0 ∨ height < -330 then .finite negative 0
  else if 310 < height then .infinite negative
  else if 0 ≤ numeral.exponent then nearest negative (n * powerOfTen numeral.exponent.toNat) 1
  else nearest negative n (powerOfTen (-numeral.exponent).toNat)

/-- Reads a double: a numeral with single underscores between digits, or a name of infinity or of
what is not a number, in any case. Blanks around it do not count. -/
def read? (s : Text) : Option Double :=
  match s.trim.ungrouped? with
  | none => none
  | some literal =>
    let signed := literal.splitSign
    let name := signed.2.flatMap lowerAscii
    if name = text "inf" ∨ name = text "infinity" then some (.infinite signed.1)
    else if name = text "nan" then some .nan
    else (Numeral.read? signed.2).map (ofNumeral signed.1)
where
  /-- The lower case of an ASCII letter. -/
  lowerAscii (c : CodePoint) : Text := if c.val < 0x80 then c.lower else [c]

/-- The double of an integer of any size. -/
def ofInt (i : Int) : Double := nearest (i < 0) i.natAbs 1

/-- The signed scaled magnitude of a finite double. -/
def scaled? : Double → Option Int
  | .finite negative scaled => some (if negative then -(scaled : Int) else scaled)
  | _ => none

end Double

end ConfigNamespace
