import ConfigNamespace.Value.Basic

/-!
# Equal values

Numbers are equal if they have the same value, whatever their types; truth values count as zero
and one. Lists are equal part by part, and dictionaries whatever their order. What is not a number
is equal to nothing.
-/

namespace ConfigNamespace

/-- A number in a form that only equal numbers share: sign, digits that do not end in zero, and the
power of ten of the last of them. -/
inductive NumberForm
  /-- A finite number. -/
  | finite (negative : Bool) (coefficient : Nat) (exponent : Int)
  /-- A number beyond all finite ones. -/
  | infinite (negative : Bool)
  deriving DecidableEq, Repr

/-- Moves zeros at the end of a coefficient into the exponent, at most `fuel` of them. -/
def stripZeros : (fuel : Nat) → Nat → Int → Nat × Int
  | 0, n, e => (n, e)
  | fuel + 1, n, e => if n % 10 = 0 then stripZeros fuel (n / 10) (e + 1) else (n, e)

/-- The form of a finite number. Zero has no sign. -/
def NumberForm.ofDecimal (negative : Bool) (coefficient : Nat) (exponent : Int) : NumberForm :=
  if coefficient = 0 then .finite false 0 0
  else
    let stripped := stripZeros (Nat.log2 coefficient) coefficient exponent
    .finite negative stripped.1 stripped.2

namespace Value

/-- The form of a value that is a number other than what is not a number. -/
def numberForm? : Value → Option NumberForm
  | .bool b => some (NumberForm.ofDecimal false b.toNat 0)
  | .int i => some (NumberForm.ofDecimal (i < 0) i.natAbs 0)
  | .double (.finite negative scaled) =>
    some (NumberForm.ofDecimal negative (scaled * Nat.pow 5 Double.scaleBits) (-Double.scaleBits))
  | .double (.infinite negative) => some (.infinite negative)
  | .decimal (.finite negative coefficient exponent) =>
    some (NumberForm.ofDecimal negative coefficient exponent)
  | .decimal (.infinite negative) => some (.infinite negative)
  | _ => Option.none

/-- Whether two dates with a time of day are the same: the same moment if both are tied to
universal time, the same reading if neither is. -/
def sameTime (a b : DateTime) : Bool :=
  a.offset.isSome == b.offset.isSome && a.instant == b.instant

mutual

/-- Whether two values are equal. -/
def same : Value → Value → Bool
  | .none, .none => true
  | .str a, .str b => a = b
  | .date a, .date b => a = b
  | .dateTime a, .dateTime b => sameTime a b
  | .path a, .path b => a = b
  | .bytes a, .bytes b => a == b
  | .list a, .list b => sameAll a b
  | .tuple a, .tuple b => sameAll a b
  | .dict a, .dict b => a.length == b.length && sameEntries a b
  | .handle a, .handle b => a = b
  | .protocol a, .protocol b => a = b
  | .location a, .location b => a = b
  | .composite ⟨_, _, identity, attributes⟩, .composite b =>
    identity = b.identity && attributes.length == b.attributes.length &&
      sameAttributes attributes b.attributes
  | .view a, .view b => a == b
  | a, b =>
    match numberForm? a, numberForm? b with
    | some x, some y => x = y
    | _, _ => false
termination_by structural a => a

/-- Whether two lists are equal part by part. -/
def sameAll : List Value → List Value → Bool
  | [], [] => true
  | a :: as, b :: bs => same a b && sameAll as bs
  | _, _ => false
termination_by structural as => as

/-- Whether all entries of one dictionary stand in another. -/
def sameEntries : List (Value × Value) → List (Value × Value) → Bool
  | [], _ => true
  | (k, v) :: entries, others =>
    others.any (fun other => same k other.1 && same v other.2) && sameEntries entries others
termination_by structural entries => entries

/-- Whether all attributes of one composite stand in another. -/
def sameAttributes : List (Text × Value) → List (Text × Value) → Bool
  | [], _ => true
  | (k, v) :: entries, others =>
    others.any (fun other => k = other.1 && same v other.2) && sameAttributes entries others
termination_by structural entries => entries

end

end Value

end ConfigNamespace
