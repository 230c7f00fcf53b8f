import ConfigNamespace.Conversion
import ConfigNamespace.Log
import ConfigNamespace.Value.Equality

/-!
# Composites

Entries of a document that share the beginning of their keys can make one object, with an attribute
for each of them. Either an entry under that beginning marks it, or the whole document is flagged.
-/

namespace ConfigNamespace

/-- The key that flags a whole document. -/
def compositeFlag : Text := text "is-composite"

/-- The last segment of a key that holds the type of another one. -/
def typeSegment : Text := text "type"

/-- The markers that older documents use. -/
def legacyMarkers : List Text := [text "javax.sql.DataSource"]

/-- The key that holds the type of another one. -/
def typeKey (delimiter key : Text) : Text := key ++ delimiter ++ typeSegment

namespace Composite

variable {α : Type}

/-- The attribute of the given name. -/
def get? (c : Composite α) (name : Text) : Option α := c.attributes.lookup name

/-- A property of the composite itself. -/
def property? (c : Composite Value) (name : Text) : Option Value :=
  if name = text "name" then some (.str c.name)
  else if name = text "prefix" then some (.str c.path)
  else if name = text "identity" then some (.str c.identity)
  else if name = text "attributes" then
    some (.dict (c.attributes.map fun entry => (.str entry.1, entry.2)))
  else none

/-- A member of a composite: a property of its own, with or without an underscore in front, or an
attribute whose name does not begin with an underscore. -/
def member (c : Composite Value) (name : Text) : Except Failure Value :=
  match c.property? name, name with
  | some v, _ => .ok v
  | none, [] => attributeMember []
  | none, first :: rest =>
    if first = '_' then
      match c.property? rest with
      | some v => .ok v
      | none => .error (.hiddenAttribute name)
    else attributeMember name
where
  /-- The attribute of the given name; a failure if there is none. -/
  attributeMember (name : Text) : Except Failure Value :=
    match c.get? name with
    | some v => .ok v
    | none => .error (.noAttribute c.identity name)

end Composite

/-- What a text or a composite is found by where values are looked up by their hashes: the text, or the
identity of the composite. -/
def Value.hashText? : Value → Option Text
  | .str s => some s
  | .composite c => some c.identity
  | _ => Option.none

/-- What makes composites of documents. -/
structure CompositeBuilder where
  /-- The word that marks a composite. -/
  marker : Text

namespace CompositeBuilder

/-- The markers that count. -/
def markers (b : CompositeBuilder) : List Text := b.marker :: legacyMarkers

/-- Whether a value of a document is a marker. -/
def isMarker (b : CompositeBuilder) : Option DocumentValue → Bool
  | some (.single value) => b.markers.elem value
  | _ => false

/-- Whether a key of a document stands for a composite: it is marked, or the document is flagged and
the key is no entry itself but the beginning of one. -/
def isComposite (b : CompositeBuilder) (d : Document) (key delimiter : Text) : Bool :=
  if key ≠ [] && b.isMarker (d.get? (typeKey delimiter key)) then true
  else if d.get? compositeFlag ≠ some (.single (text "true")) then false
  else if key = [] then true
  else !d.has key && !(d.under key delimiter).isEmpty

/-- The last segment of a key. -/
def lastSegment (delimiter key : Text) : Text := (Text.afterLast? delimiter key).getD key

/-- The entries of a document that become attributes. -/
def sources (d : Document) (key delimiter : Text) : Keyed DocumentValue :=
  let entries := d.under key delimiter
  if key = [] then Keyed.remove entries compositeFlag else entries

/-- The attribute that an entry becomes: converted if it has a type that is no marker. -/
def attributeOf (b : CompositeBuilder) (converter : TypeConverter) (entries : Keyed DocumentValue)
    (delimiter key : Text) (value : DocumentValue) : Except Failure Value :=
  match entries.get? (typeKey delimiter key) with
  | some (.single typeName) =>
    if b.markers.elem typeName then .ok value.toValue
    else converter.convert value.toValue typeName
  | _ => .ok value.toValue

/-- The attributes that entries become. -/
def attributes (b : CompositeBuilder) (converter : TypeConverter)
    (entries : Keyed DocumentValue) (delimiter : Text) :
    Keyed DocumentValue → Except Failure (Keyed Value)
  | [] => .ok []
  | (key, value) :: rest =>
    match b.attributeOf converter entries delimiter key value with
    | .error failure => .error failure
    | .ok v => (b.attributes converter entries delimiter rest).map ((key, v) :: ·)

/-- The composite under a key of a document. -/
def build (b : CompositeBuilder) (converter : TypeConverter) (d : Document)
    (key delimiter : Text) : Operation Log (Composite Value) := do
  if key ≠ [] && delimiter = [] then
    throw .emptySeparator
  let entries := sources d key delimiter
  let attributes ← Operation.ofExcept (b.attributes converter entries delimiter entries)
  let name := lastSegment delimiter key
  let location := d.handle.location
  note .debug .composite (text "Composite " ++ name.quoted ++ text " built from " ++ location ++
    text " with " ++ Text.ofNat attributes.length ++ text " attributes")
  pure ⟨name, key, if key = [] then location else location ++ text "#" ++ key, attributes⟩

end CompositeBuilder

end ConfigNamespace
