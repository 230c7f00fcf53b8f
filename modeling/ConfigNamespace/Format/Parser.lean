import ConfigNamespace.Format.Properties
import ConfigNamespace.Format.Sections
import ConfigNamespace.Keyed
import ConfigNamespace.Markup.Reader

/-!
# Parsers

A parser turns the bytes of a document into keys with values, for a given delimiter of keys. Three
formats come with the library; others can be supplied.
-/

namespace ConfigNamespace

/-- A parser, with the name that it is known by. -/
structure Parser where
  /-- The name. -/
  name : Text
  /-- The keys and values of a document for a delimiter. -/
  parse : (delimiter : Text) → (content : List UInt8) → Except Failure RawMapping

namespace Parser

/-- The declarations of a flat document in an encoding. -/
def propertiesDeclarations (encoding : Encoding) (content : List UInt8) :
    Except Failure (List (Text × Text)) :=
  match encoding.decode content with
  | .error error => .error (.undecodable encoding error)
  | .ok content => Properties.declarations content

/-- The declarations of a document with sections in an encoding. -/
def sectionsDeclarations (encoding : Encoding) (delimiter : Text) (content : List UInt8) :
    Except Failure (List (Text × Text)) :=
  match encoding.decode content with
  | .error error => .error (.undecodable encoding error)
  | .ok content => Sections.declarations delimiter content

/-- The declarations of a document in markup. Elements that are nested too deep cannot be flattened. -/
def markupDeclarations (delimiter : Text) (content : List UInt8) :
    Except Failure (List (Text × Text)) :=
  match readMarkup content with
  | .error error => .error (.markup error)
  | .ok root =>
    if root.depth ≤ Element.room then .ok (root.declarations delimiter)
    else .error .elementsTooDeep

/-- Grouped declarations as a parser gives them. -/
def grouped (declarations : Except Failure (List (Text × Text))) : Except Failure RawMapping :=
  declarations.map fun declarations => RawMapping.ofGrouped (groupDeclarations declarations)

/-- The parser of flat documents. -/
def properties (encoding : Encoding) : Parser :=
  ⟨text "PropertiesParser", fun _ content => grouped (propertiesDeclarations encoding content)⟩

/-- The parser of documents with sections. -/
def sections (encoding : Encoding) : Parser :=
  ⟨text "IniParser", fun delimiter content =>
    grouped (sectionsDeclarations encoding delimiter content)⟩

/-- The parser of documents in markup. -/
def markup : Parser :=
  ⟨text "XmlParser", fun delimiter content => grouped (markupDeclarations delimiter content)⟩

end Parser

/-- The parsers by extension, and the order in which extensions are tried. -/
structure ParserRegistry where
  /-- The parsers; an extension keeps the place of its first registration. -/
  parsers : Keyed Parser
  /-- The extensions in the order in which they are tried. -/
  order : List Text
  /-- The parser of names without a known extension. -/
  fallback : Parser

namespace ParserRegistry

/-- An extension in lower case with a dot in front. -/
def normalizeExtension (extension : Text) : Text :=
  let lower := extension.toLower
  if Text.startsWith lower (text ".") then lower else text "." ++ lower

/-- Inserts an extension at a position. Negative positions count from the end, and positions beyond
the ends stand for them. -/
def insertAt (position : Int) (extension : Text) (order : List Text) : List Text :=
  let size : Int := order.length
  let index := (if position < 0 then max 0 (position + size) else min position size).toNat
  order.take index ++ extension :: order.drop index

/-- Registers a parser. With a priority, the extension is tried at that place. -/
def register (registry : ParserRegistry) (extension : Text) (parser : Parser)
    (priority : Option Int) : ParserRegistry :=
  let extension := normalizeExtension extension
  let order :=
    match priority with
    | some position => insertAt position extension (registry.order.erase extension)
    | none => registry.order
  { registry with parsers := Keyed.put extension parser registry.parsers, order := order }

/-- Registers what is supplied as a parser. `views` shows the namespaces of the family. -/
def registerSupplied (views : Nat → Text) (registry : ParserRegistry) (extension : Text)
    (parser : Supplied Parser) (priority : Option Int) : Except Failure ParserRegistry :=
  match parser with
  | .usable parser => .ok (registry.register extension parser priority)
  | .other value => .error (.notParser (value.spelled views))

/-- The extensions of the formats that come with the library, in the order in which they are
tried. -/
def defaultOrder : List Text := [text ".xml", text ".ini", text ".properties"]

/-- The parsers that come with the library. -/
def defaultParsers : List (Text × Supplied Parser) := [
  (text ".xml", .usable .markup), (text ".ini", .usable (.sections .utf8)),
  (text ".properties", .usable (.properties .utf8))]

/-- Registers several parsers in turn. -/
def registerAll (registry : ParserRegistry) :
    List (Text × Supplied Parser) → Except Failure ParserRegistry
  | [] => .ok registry
  | (extension, parser) :: rest =>
    match registry.registerSupplied (fun _ => []) extension parser none with
    | .ok registry => registry.registerAll rest
    | .error failure => .error failure

/-- A registry of the given parsers. Each extension of the order needs one of them. -/
def make (parsers : List (Text × Supplied Parser)) (order : List Text) (fallback : Parser) :
    Except Failure ParserRegistry :=
  match registerAll ⟨[], [], fallback⟩ parsers with
  | .error failure => .error failure
  | .ok registry =>
    let order := order.map normalizeExtension
    let unknown := order.filter fun extension => !registry.parsers.has extension
    if unknown = [] then .ok { registry with order := order }
    else .error (.unknownExtensions unknown)

/-- The registry of the formats that come with the library. -/
def default : ParserRegistry :=
  ⟨[(text ".xml", .markup), (text ".ini", .sections .utf8),
      (text ".properties", .properties .utf8)],
    defaultOrder, .properties .utf8⟩

/-- The parser for a name: that of the first registered extension that the name ends in. -/
def parserFor (registry : ParserRegistry) (name : Text) : Parser :=
  match registry.parsers.find? fun entry => Text.endsWith name.toLower entry.1 with
  | some entry => entry.2
  | none => registry.fallback

/-- Parses a document of the given name. -/
def parse (registry : ParserRegistry) (name delimiter : Text) (content : List UInt8) :
    Except Failure RawMapping :=
  (registry.parserFor name).parse delimiter content

end ParserRegistry

end ConfigNamespace
