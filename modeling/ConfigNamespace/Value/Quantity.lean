import ConfigNamespace.Number.Shortest
import ConfigNamespace.Value.Basic

/-!
# Quantities

A quantity is a number that measures or limits something: a timeout, or a bound of a parameter. It
remembers whether it was given as a truth value, an integer or a double, because it is shown as it
was given. Quantities of all three forms are compared by their values.
-/

namespace ConfigNamespace

/-- A number as it was given. -/
inductive Quantity
  /-- A truth value, which counts as zero or one. -/
  | bool (b : Bool)
  /-- An integer. -/
  | int (i : Int)
  /-- A number in double precision. -/
  | double (d : Double)
  deriving DecidableEq

namespace Quantity

/-- The quantity that a value is, if it is one. -/
def ofValue? : Value → Option Quantity
  | .bool b => some (bool b)
  | .int i => some (int i)
  | .double d => some (double d)
  | _ => none

/-- A quantity as a value. -/
def toValue : Quantity → Value
  | bool b => .bool b
  | int i => .int i
  | double d => .double d

/-- The place of a quantity on the line of numbers: first its side among the infinities, then its
multiple of the smallest double. What is not a number has no place. -/
def place? : Quantity → Option (Int × Int)
  | bool b => some (0, (b.toNat * Double.one : Nat))
  | int i => some (0, i * Double.one)
  | double (.infinite negative) => some (if negative then -1 else 1, 0)
  | double d => d.scaled?.map fun scaled => (0, scaled)

/-- Whether a quantity is at most another one. -/
def le (a b : Quantity) : Bool :=
  match a.place?, b.place? with
  | some x, some y => x.1 < y.1 || (x.1 == y.1 && x.2 ≤ y.2)
  | _, _ => false

/-- A written quantity. -/
def render : Quantity → Text
  | bool b => text (if b then "True" else "False")
  | int i => Text.ofInt i
  | double d => d.render

/-- The quantity `0.1`. -/
def tenth : Quantity := double (Double.nearest false 1 10)

/-- A natural number as a quantity of double precision. -/
def whole (n : Nat) : Quantity := double (Double.nearest false n 1)

/-- The quantity beyond all numbers. -/
def infinity : Quantity := double (.infinite false)

end Quantity

end ConfigNamespace
