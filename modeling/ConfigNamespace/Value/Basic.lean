import ConfigNamespace.Calendar.DateTime
import ConfigNamespace.Number.Decimal
import ConfigNamespace.Number.Double
import ConfigNamespace.Resource.Handle
import ConfigNamespace.Resource.Path

/-!
# Values

What a namespace holds and gives back: texts, numbers, dates and their collections, and the
objects of the library itself. A namespace is known by its number among those of its family.
-/

namespace ConfigNamespace

/-- A named object assembled from all entries of a document that share the beginning of their
keys. -/
structure Composite (α : Type) where
  /-- The last segment of the key that the composite was found under. -/
  name : Text
  /-- The key within the document. -/
  path : Text
  /-- The location of the document with the key. -/
  identity : Text
  /-- The attributes in the order of the document. -/
  attributes : List (Text × α)

/-- A value. -/
inductive Value
  /-- No value. -/
  | none
  /-- A truth value. -/
  | bool (b : Bool)
  /-- A text. -/
  | str (s : Text)
  /-- An integer. -/
  | int (i : Int)
  /-- A number in double precision. -/
  | double (d : Double)
  /-- A decimal number. -/
  | decimal (d : Decimal)
  /-- A date. -/
  | date (d : Date)
  /-- A date with a time of day. -/
  | dateTime (t : DateTime)
  /-- A file path. -/
  | path (p : ResourcePath)
  /-- A row of bytes. -/
  | bytes (bs : List UInt8)
  /-- A list. -/
  | list (vs : List Value)
  /-- A row of fixed length. -/
  | tuple (vs : List Value)
  /-- Keys with their values, in the order in which they came. -/
  | dict (entries : List (Value × Value))
  /-- A resource handle. -/
  | handle (h : ResourceHandle)
  /-- A protocol. -/
  | protocol (p : Protocol)
  /-- A kind of location. -/
  | location (l : Location)
  /-- A composite. -/
  | composite (c : Composite Value)
  /-- A namespace of the family. -/
  | view (number : Nat)
  /-- An object that cannot be shown. -/
  | unprintable

instance : Inhabited Value := ⟨.none⟩

namespace Value

/-- The name of a value's type. -/
def typeName : Value → String
  | .none => "NoneType"
  | .bool _ => "bool"
  | .str _ => "str"
  | .int _ => "int"
  | .double _ => "float"
  | .decimal _ => "Decimal"
  | .date _ => "date"
  | .dateTime _ => "datetime"
  | .path _ => "PosixPath"
  | .bytes _ => "bytes"
  | .list _ => "list"
  | .tuple _ => "tuple"
  | .dict _ => "dict"
  | .handle _ => "ResourceHandle"
  | .protocol _ => "ResourceProtocol"
  | .location _ => "Location"
  | .composite _ => "CompositeResource"
  | .view _ => "Namespace"
  | .unprintable => "Unreprable"

/-- A list of texts. -/
def ofTexts (ts : List Text) : Value := .list (ts.map .str)

/-- A row of texts. -/
def rowOfTexts (ts : List Text) : Value := .tuple (ts.map .str)

/-- A mapping with texts as keys. -/
def ofEntries (entries : List (Text × Value)) : Value :=
  .dict (entries.map fun entry => (.str entry.1, entry.2))

/-- The entries of a mapping. -/
def entries : Value → List (Value × Value)
  | .dict entries => entries
  | _ => []

/-- The entries of a mapping that stand under texts. -/
def textEntries (v : Value) : List (Text × Value) :=
  v.entries.filterMap fun
    | (.str key, value) => some (key, value)
    | _ => Option.none

/-- The text that a value is, if it is one. -/
def text? : Value → Option Text
  | .str s => some s
  | _ => Option.none

end Value

end ConfigNamespace
