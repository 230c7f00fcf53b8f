import ConfigNamespace.Text.CodePoint

/-!
# Keyed entries

Many parts of the library keep values under keys, each key once, in the order in which the keys came.
A value put under a key that is there already takes the place of the one before.
-/

namespace ConfigNamespace

/-- Values under keys, in order. -/
abbrev Keyed (α : Type) := List (Text × α)

namespace Keyed

variable {α : Type}

/-- The value under a key. -/
def get? (entries : Keyed α) (key : Text) : Option α := entries.lookup key

/-- Whether there is a value under a key. -/
def has (entries : Keyed α) (key : Text) : Bool := (get? entries key).isSome

/-- The keys in order. -/
def keys (entries : Keyed α) : List Text := entries.map (·.1)

/-- Puts a value under a key: in the place of the one before, or at the end. -/
def put (key : Text) (value : α) : Keyed α → Keyed α
  | [] => [(key, value)]
  | (k, v) :: entries => if k = key then (k, value) :: entries else (k, v) :: put key value entries

/-- Takes the value under a key away. -/
def remove (entries : Keyed α) (key : Text) : Keyed α := entries.filter fun entry => entry.1 ≠ key

end Keyed

end ConfigNamespace
