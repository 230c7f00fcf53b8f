import ConfigNamespace.Text.Utf8

/-!
# Percent encoding

A name becomes one component of a URL: letters, digits and four signs stand for themselves, and
every other byte of its UTF-8 form is written as a percent sign with two hexadecimal digits.
-/

namespace ConfigNamespace

/-- Whether a byte stands for itself in a URL. -/
def isUnreserved (n : Nat) : Bool :=
  (0x41 ≤ n && n ≤ 0x5A) || (0x61 ≤ n && n ≤ 0x7A) || (0x30 ≤ n && n ≤ 0x39) ||
  n == 0x5F || n == 0x2E || n == 0x2D || n == 0x7E

/-- The capital letter or digit of a hexadecimal digit. -/
def upperHexDigit (n : Nat) : CodePoint := CodePoint.ofNat (if n < 10 then 0x30 + n else 0x37 + n)

/-- A byte as it stands in a URL. -/
def percentByte (b : UInt8) : Text :=
  if isUnreserved b.toNat then [CodePoint.ofNat b.toNat]
  else [CodePoint.ofNat 0x25, upperHexDigit (b.toNat / 16), upperHexDigit (b.toNat % 16)]

/-- A name as a component of a URL. -/
def percentEncode (name : Text) : Text := name.utf8.flatMap percentByte

end ConfigNamespace
