import ConfigNamespace.Number.Numeral
import ConfigNamespace.Text.Blank
import ConfigNamespace.Text.Search

/-!
# Decimals

A decimal keeps the digits it was written with: `1.0` and `1.00` are equal but are written
differently. It may also be infinite, or not a number with a payload of digits.
-/

namespace ConfigNamespace

/-- A decimal number. -/
inductive Decimal
  /-- The magnitude `coefficient * 10 ^ exponent`. -/
  | finite (negative : Bool) (coefficient : Nat) (exponent : Int)
  /-- A number beyond all finite ones. -/
  | infinite (negative : Bool)
  /-- Not a number; a signalling one stops every comparison. -/
  | nan (negative signalling : Bool) (payload : Nat)
  deriving DecidableEq, Repr

namespace Decimal

/-- The largest power of ten of a first digit. -/
def maxHeight : Int := 999999999999999999

/-- The smallest power of ten of a last digit. -/
def minExponent : Int := -1999999999999999997

/-- A text with its letters in lower case and its digits in ASCII. -/
def plainForm (s : Text) : Text := s.map fun c =>
  match c.digit? with
  | some d => CodePoint.ofNat (0x30 + d)
  | none => if 0x41 ≤ c.val ∧ c.val ≤ 0x5A then CodePoint.ofNat (c.val + 0x20) else c

/-- The payload that follows a name of what is not a number. -/
def payload? (s : Text) : Option Nat :=
  match s.digitRun with
  | (digits, []) => some (natOfDigits digits)
  | _ => none

/-- The finite decimal of a numeral, if its powers of ten lie within the limits. -/
def ofNumeral? (negative : Bool) (numeral : Numeral) : Option Decimal :=
  let n := natOfDigits numeral.digits
  let height := numeral.exponent + (Nat.toDigits 10 n).length - 1
  if height ≤ maxHeight ∧ minExponent ≤ numeral.exponent then
    some (.finite negative n numeral.exponent)
  else none

/-- Reads a decimal: a numeral, or a name of infinity or of what is not a number, in any case.
Blanks around it and underscores anywhere do not count. -/
def read? (s : Text) : Option Decimal :=
  let signed := (plainForm (s.trim.filter (· ≠ '_'))).splitSign
  if signed.2 = text "inf" ∨ signed.2 = text "infinity" then some (.infinite signed.1)
  else
    match Text.dropStart? (text "nan") signed.2 with
    | some rest => (payload? rest).map (.nan signed.1 false)
    | none =>
      match Text.dropStart? (text "snan") signed.2 with
      | some rest => (payload? rest).map (.nan signed.1 true)
      | none => (Numeral.read? signed.2).bind (ofNumeral? signed.1)

/-- The digits of a coefficient with a point and an exponent where they are needed: plain where the
exponent is not positive and at most six zeros follow the point, with one digit before the point
and an exponent otherwise. -/
def renderFinite (coefficient : Nat) (exponent : Int) : Text :=
  let digits := Text.ofNat coefficient
  let height := exponent + digits.length - 1
  let zero := CodePoint.ofNat 0x30
  if exponent ≤ 0 ∧ -6 ≤ height then
    let places := (-exponent).toNat
    if places = 0 then digits
    else
      let filled := List.replicate (places + 1 - digits.length) zero ++ digits
      filled.take (filled.length - places) ++ text "." ++ filled.drop (filled.length - places)
  else
    digits.take 1 ++ (if digits.length ≤ 1 then [] else text "." ++ digits.drop 1) ++
      (if height < 0 then text "E-" else text "E+") ++ Text.ofNat height.natAbs

/-- The text of a decimal. -/
def render : Decimal → Text
  | .finite negative coefficient exponent =>
    (if negative then text "-" else []) ++ renderFinite coefficient exponent
  | .infinite negative => text (if negative then "-Infinity" else "Infinity")
  | .nan negative signalling payload =>
    (if negative then text "-" else []) ++ (if signalling then text "sNaN" else text "NaN") ++
      (if payload = 0 then [] else Text.ofNat payload)

end Decimal

end ConfigNamespace
