import ConfigNamespace.Number.Double

/-!
# Shortest decimals

A double is written with the fewest digits that read back as the same double, and of those with
the nearest. For one digit, two digits and so on, the two neighbours of the value among the
decimals of that length are tried against the interval of numbers that round to the double.
-/

namespace ConfigNamespace

/-- The numbers that round to a double, in quarters of the smallest double. -/
structure RoundingInterval where
  /-- The lower end. -/
  low : Nat
  /-- The upper end. -/
  high : Nat
  /-- Whether the ends round to the double too. -/
  closed : Bool
  deriving DecidableEq, Repr

/-- The interval of the numbers that round to the double with this scaled magnitude. Below a power
of two the doubles lie twice as close. -/
def Double.interval (scaled : Nat) : RoundingInterval :=
  let spacing := Double.spacing scaled
  let closer := 1 < spacing ∧ scaled = powerOfTwo (Nat.log2 scaled)
  ⟨4 * scaled - (if closer then spacing else 2 * spacing), 4 * scaled + 2 * spacing,
    scaled / spacing % 2 = 0⟩

/-- Whether a number lies in the interval, both being compared after scaling. -/
def RoundingInterval.holds (interval : RoundingInterval) (point unit : Nat) : Bool :=
  if interval.closed then interval.low * unit ≤ point && point ≤ interval.high * unit
  else interval.low * unit < point && point < interval.high * unit

/-- A positive decimal: digits and the power of ten of the first one. -/
structure ShortDecimal where
  /-- The digits, the first and the last of them not zero. -/
  digits : List Nat
  /-- The power of ten that the first digit counts. -/
  height : Int
  deriving DecidableEq, Repr

/-- How many times a fraction has to be multiplied by ten to reach one. -/
def zerosAfterPoint (one : Nat) : (fuel : Nat) → Nat → Nat
  | 0, _ => 0
  | fuel + 1, x => if one ≤ x then 0 else zerosAfterPoint one fuel (10 * x) + 1

/-- The power of ten of the first digit of a double that is not zero. -/
def Double.height (scaled : Nat) : Int :=
  if one ≤ scaled then ((Nat.toDigits 10 (scaled / one)).length : Int) - 1
  else -(zerosAfterPoint one 330 scaled : Int)

/-- The decimal `digits * 10 ^ power` with its digits spelled out. -/
def ShortDecimal.ofNat (digits : Nat) (power : Int) : ShortDecimal :=
  let spelled := (Nat.toDigits 10 digits).map fun c => c.toNat - '0'.toNat
  ⟨(spelled.reverse.dropWhile (· = 0)).reverse, power + spelled.length - 1⟩

/-- The nearest decimal with `count` digits that reads back, if one of the two neighbours does. -/
def ShortDecimal.ofLength? (scaled count : Nat) : Option ShortDecimal :=
  let power := Double.height scaled - count + 1
  let interval := Double.interval scaled
  let grid := 4 * Double.one * powerOfTen power.toNat
  let unit := powerOfTen (-power).toNat
  let value := 4 * scaled * unit
  let below := value / grid
  let above := below + 1
  let nearest := roundHalfEven value grid
  if interval.holds (below * grid) unit then
    if interval.holds (above * grid) unit then some (ofNat nearest power)
    else some (ofNat below power)
  else if interval.holds (above * grid) unit then some (ofNat above power)
  else none

/-- The shortest decimal that reads back as the double with this scaled magnitude. -/
def ShortDecimal.ofScaled (scaled : Nat) : ShortDecimal :=
  ((List.range 17).findSome? fun n => ofLength? scaled (n + 1)).getD
    (ofNat (scaled / Double.one) 0)

/-- How a double is laid out. -/
structure DoubleLayout where
  /-- The lowest power of the first digit that is written with a point alone. -/
  lowestPlain : Int
  /-- The lowest power of the first digit above that range. -/
  endPlain : Int
  /-- The least number of digits of an exponent. -/
  exponentDigits : Nat
  deriving DecidableEq, Repr

/-- Messages and answers write doubles with a point from `1e-04` up to `1e+16`, and with an
exponent of at least two digits beyond. -/
def DoubleLayout.standard : DoubleLayout := ⟨-4, 16, 2⟩

/-- Digits as a text. -/
def Text.ofDigits (digits : List Nat) : Text := digits.map fun d => CodePoint.ofNat (0x30 + d)

/-- A decimal in the given layout. A number without a fraction gets the fraction `0`. -/
def ShortDecimal.render (layout : DoubleLayout) (d : ShortDecimal) : Text :=
  let digits := Text.ofDigits d.digits
  let zero := CodePoint.ofNat 0x30
  if layout.lowestPlain ≤ d.height ∧ d.height < layout.endPlain then
    if d.height < 0 then
      text "0." ++ List.replicate ((-d.height).toNat - 1) zero ++ digits
    else
      let whole := d.height.toNat + 1
      digits.take whole ++ List.replicate (whole - digits.length) zero ++ text "." ++
        (if digits.length ≤ whole then [zero] else digits.drop whole)
  else
    digits.take 1 ++ (if digits.length ≤ 1 then [] else text "." ++ digits.drop 1) ++
      (if d.height < 0 then text "e-" else text "e+") ++
      Text.padded layout.exponentDigits d.height.natAbs

/-- The text of a double. -/
def Double.render : Double → Text
  | .nan => text "nan"
  | .infinite negative => text (if negative then "-inf" else "inf")
  | .finite negative scaled =>
    (if negative then text "-" else []) ++
      (if scaled = 0 then text "0.0"
      else (ShortDecimal.ofScaled scaled).render .standard)

end ConfigNamespace
