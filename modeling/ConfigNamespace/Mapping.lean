import ConfigNamespace.Failure
import ConfigNamespace.Keyed

/-!
# Looking up by any value

Where texts are the keys, any value may be looked up. Values that are no texts are found nowhere;
lists and mappings, which may change, cannot be looked up at all.
-/

namespace ConfigNamespace

namespace Value

mutual

/-- The type on account of which a value cannot be looked up. -/
def unhashable? : Value → Option String
  | .list _ => some "list"
  | .dict _ => some "dict"
  | .tuple vs => unhashableIn? vs
  | _ => Option.none

/-- The first such type among several values. -/
def unhashableIn? : List Value → Option String
  | [] => Option.none
  | v :: vs => unhashable? v <|> unhashableIn? vs

end

/-- The key that a value is, if it is one. -/
def key? (v : Value) : Except Failure (Option Text) :=
  match v.unhashable? with
  | some typeName => .error (.unhashable typeName)
  | Option.none => .ok v.text?

end Value

namespace Keyed

variable {α : Type}

/-- What stands under a value, if anything does. -/
def find? (entries : Keyed α) (key : Value) : Except Failure (Option α) :=
  key.key?.map fun key => key.bind entries.get?

/-- What stands under a value; a failure if nothing does. -/
def item (views : Nat → Text) (entries : Keyed α) (key : Value) : Except Failure α := do
  match ← entries.find? key with
  | some v => .ok v
  | none => .error (.missingKey (key.spelled views))

end Keyed

end ConfigNamespace
