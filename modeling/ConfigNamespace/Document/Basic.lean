import ConfigNamespace.Document.Grouping
import ConfigNamespace.Failure

/-!
# Documents

A document is what a resource holds: keys with values, in the order of their declarations.
-/

namespace ConfigNamespace

/-- Keys with values as a parser gives them. -/
abbrev RawMapping := List (Text × Value)

/-- A value of a document as a parser gives it. -/
def DocumentValue.toRaw : DocumentValue → Value
  | .single value => .str value
  | .several values => .list (values.map Value.str)

/-- Grouped declarations as a parser gives them. -/
def RawMapping.ofGrouped (entries : List (Text × DocumentValue)) : RawMapping :=
  entries.map fun entry => (entry.1, entry.2.toRaw)

/-- A document. -/
structure Document where
  /-- Where the document lives. -/
  handle : ResourceHandle
  /-- Its keys with their values, each key once. -/
  entries : List (Text × DocumentValue)

namespace Document

/-- The value of a document that a raw value becomes. Several values are kept as texts; a single one
has to be a text. -/
def valueOfRaw? : Value → Option DocumentValue
  | .str s => some (.single s)
  | .list vs => some (.several (vs.map (Value.plain fun _ => [])))
  | .tuple vs => some (.several (vs.map (Value.plain fun _ => [])))
  | _ => none

/-- The entries of a document at a location. -/
def entriesOfRaw (location : Text) : RawMapping → Except Failure (List (Text × DocumentValue))
  | [] => .ok []
  | (key, raw) :: rest =>
    match valueOfRaw? raw with
    | none => .error (.valueNotText location key raw.typeName)
    | some value =>
      match entriesOfRaw location rest with
      | .ok entries => .ok ((key, value) :: entries)
      | .error failure => .error failure

/-- The document at a handle with the given content. -/
def ofRaw (handle : ResourceHandle) (raw : RawMapping) : Except Failure Document :=
  (entriesOfRaw handle.location raw).map fun entries => ⟨handle, entries⟩

/-- The value under a key. -/
def get? (d : Document) (key : Text) : Option DocumentValue := d.entries.lookup key

/-- Whether a document has a key. -/
def has (d : Document) (key : Text) : Bool := (d.get? key).isSome

/-- The keys in order. -/
def keys (d : Document) : List Text := d.entries.map (·.1)

/-- The entries below a path, with the path and the delimiter taken off their keys; all entries for
the empty path. -/
def under (d : Document) (path delimiter : Text) : List (Text × DocumentValue) :=
  if path = [] then d.entries
  else
    d.entries.filterMap fun entry =>
      (Text.dropStart? (path ++ delimiter) entry.1).map fun rest => (rest, entry.2)

/-- A document spelled out. -/
def spelled (d : Document) : Text :=
  text "<ConfigDocument " ++ d.handle.location ++ text " keys=" ++ Text.ofNat d.entries.length ++
  text ">"

end Document

/-- A value of a document as it is handed out. -/
def DocumentValue.toValue : DocumentValue → Value
  | .single value => .str value
  | .several values => .list (values.map Value.str)

/-- A value of a document as the document itself holds it. -/
def DocumentValue.toFixed : DocumentValue → Value
  | .single value => .str value
  | .several values => .tuple (values.map Value.str)

end ConfigNamespace
