import ConfigNamespace.Text.Search

/-!
# Grouping declarations

A document declares values under keys, one after the other. Grouped, each key stands where it was
first declared, with its only value or with all its values in order.
-/

namespace ConfigNamespace

/-- The value of a key in a document. -/
inductive DocumentValue
  /-- The value of a key that is declared once. -/
  | single (value : Text)
  /-- The values of a key that is declared more often. -/
  | several (values : List Text)
  deriving DecidableEq

namespace DocumentValue

/-- All values in order. -/
def values : DocumentValue → List Text
  | single value => [value]
  | several values => values

/-- A value with a further one after it. -/
def add (v : DocumentValue) (value : Text) : DocumentValue := several (v.values ++ [value])

/-- The value that a list of texts makes. -/
def ofValues : List Text → DocumentValue
  | [value] => single value
  | values => several values

end DocumentValue

/-- Adds a declaration to those grouped before. -/
def putDeclaration (key value : Text) : List (Text × DocumentValue) → List (Text × DocumentValue)
  | [] => [(key, .single value)]
  | (k, v) :: entries =>
    if k = key then (k, v.add value) :: entries else (k, v) :: putDeclaration key value entries

/-- Groups declarations. -/
def groupDeclarations (declarations : List (Text × Text)) : List (Text × DocumentValue) :=
  declarations.foldl (fun entries declaration =>
    putDeclaration declaration.1 declaration.2 entries) []

end ConfigNamespace
