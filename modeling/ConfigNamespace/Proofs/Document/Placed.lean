import ConfigNamespace.Key
import ConfigNamespace.Proofs.Document.Grouping

/-!
# Declarations under paths

The formats with a structure declare values under paths of names. Which keys these make is a matter
of the delimiter that joins the names.
-/

namespace ConfigNamespace

/-- A value that is declared under a path of names. -/
structure Placed where
  /-- The names that lead to the value. -/
  path : List Text
  /-- The value. -/
  value : Text

/-- The declaration that a placed value is for a delimiter: its key joins the names of its path. -/
def Placed.joined (delimiter : Text) (placed : Placed) : Text × Text :=
  (joinKey delimiter placed.path, placed.value)

end ConfigNamespace
