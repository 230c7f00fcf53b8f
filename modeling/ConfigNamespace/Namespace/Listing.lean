import ConfigNamespace.Namespace.Lookup

/-!
# Listing

The entries of a namespace are listed in the order in which they came. With a key, those of the
namespace that the key names are listed.
-/

namespace ConfigNamespace

namespace Family

/-- The entries of a namespace. -/
def ownEntries (number : Nat) (operation : String) : Operation Family (Keyed Value) := do
  refuseClosed number operation
  pure ((← get).view number).entries

/-- The text of a key that was looked up. -/
def shownKey : Value → Text
  | .str key => key
  | _ => []

/-- The entries of the namespace that a key names. -/
def entriesBelow (w : World) (number : Nat) (operation : String) (key : Value) :
    Operation Family (Keyed Value) :=
  match key with
  | .str [] => ownEntries number operation
  | key => do
    refuseClosed number operation
    match ← lookup w number key with
    | .view below => ownEntries below operation
    | _ => throw (.notListable (shownKey key))

/-- Names with the names of the types of their values. -/
def list (w : World) (number : Nat) (key : Value) : Operation Family (List (Text × String)) :=
  return (← entriesBelow w number "list" key).map fun entry => (entry.1, entry.2.typeName)

/-- Names with their values. -/
def listBindings (w : World) (number : Nat) (key : Value) : Operation Family (Keyed Value) :=
  entriesBelow w number "list_bindings" key

end Family

end ConfigNamespace
