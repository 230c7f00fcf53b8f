import ConfigNamespace.Markup.Token

/-!
# Document types

A document type declares entities, which stand for texts, and attributes with defaults. Here is
what such declarations mean: how the text of an entity is read, and how the value of an attribute
is made of characters, references and the texts of entities.
-/

namespace ConfigNamespace

/-- What an entity stands for. -/
inductive EntityContent
  /-- A text given in the declaration. -/
  | internal (content : Text)
  /-- A text kept elsewhere. -/
  | external
  /-- Something that is no text. -/
  | unparsed
  deriving DecidableEq

/-- The declaration of an attribute of an element. -/
structure AttributeDeclaration where
  /-- The name of the element. -/
  element : Text
  /-- The name of the attribute. -/
  name : Text
  /-- Whether spaces in the value count one by one. -/
  isCharacterData : Bool
  /-- The value of the attribute where a tag does not give one. -/
  default : Option Text
  deriving DecidableEq

/-- The declarations of a document. -/
structure DocumentType where
  /-- The entities by name; the first declaration of a name counts. -/
  entities : List (Text × EntityContent)
  /-- The attributes in the order of their declarations. -/
  attributes : List AttributeDeclaration
  /-- Whether there are declarations elsewhere, which are not read. -/
  hasUnseen : Bool
  /-- Whether the document says that it needs no declarations from elsewhere. -/
  standalone : Bool
  deriving DecidableEq

namespace DocumentType

/-- The document type without declarations. -/
def empty (standalone : Bool) : DocumentType := ⟨[], [], false, standalone⟩

/-- The declared entity of the given name. -/
def entity? (type : DocumentType) (name : Text) : Option EntityContent := type.entities.lookup name

/-- Whether every entity that is referred to has to be declared here. -/
def isComplete (type : DocumentType) : Bool := !type.hasUnseen || type.standalone

/-- The declarations of an element's attributes. -/
def attributesOf (type : DocumentType) (element : Text) : List AttributeDeclaration :=
  type.attributes.filter fun declaration => declaration.element = element

/-- Whether spaces count one by one in the value of an attribute. -/
def isCharacterData (type : DocumentType) (element name : Text) : Bool :=
  match (type.attributesOf element).find? fun declaration => declaration.name = name with
  | some declaration => declaration.isCharacterData
  | none => true

end DocumentType

/-- The entities that need no declaration. -/
def predefinedEntity? (name : Text) : Option CodePoint :=
  if name = text "lt" then some '<'
  else if name = text "gt" then some '>'
  else if name = text "amp" then some '&'
  else if name = text "quot" then some .doubleQuote
  else if name = text "apos" then some .singleQuote
  else none

/-- The place of a fault. -/
inductive StopPlace
  /-- Where the surrounding token begins. -/
  | token
  /-- Where the reference begins that is being followed. -/
  | reference
  /-- Where so many symbols are left. -/
  | left (count : Nat)
  deriving DecidableEq

/-- A fault within markup: what is wrong, and where. -/
structure Stop where
  /-- What is wrong. -/
  fault : MarkupFault
  /-- The place of the fault. -/
  place : StopPlace
  deriving DecidableEq

/-- The place with `count` symbols left of a literal, of which `left` symbols follow in the
document; literals that do not stand in the document have no places of their own. -/
def StopPlace.within (left : Option Nat) (count : Nat) : StopPlace :=
  match left with
  | some n => .left (n + count)
  | none => .token

/-- How much text entities may add before it is compared with the size of the document. -/
def amplificationThreshold : Nat := 8388608

/-- A text in the making: its characters in reverse, and how many there are. -/
structure TextBuffer where
  /-- The characters in reverse. -/
  reversed : Text
  /-- How many there are. -/
  size : Nat

namespace TextBuffer

/-- The empty buffer. -/
def empty : TextBuffer := ⟨[], 0⟩

/-- Adds a character. -/
def push (b : TextBuffer) (c : CodePoint) : TextBuffer := ⟨c :: b.reversed, b.size + 1⟩

/-- Whether a further space would stand at the start or after another space. -/
def afterSpace (b : TextBuffer) : Bool :=
  match b.reversed with
  | [] => true
  | c :: _ => c = ' '

/-- Adds a space. Where spaces do not count one by one, none follows another or begins the text. -/
def pushSpace (isCharacterData : Bool) (b : TextBuffer) : TextBuffer :=
  if !isCharacterData && b.afterSpace then b else b.push ' '

end TextBuffer

/-- Adds the value that symbols stand for to a buffer. `left` is how many symbols follow them in
the document, if they stand there themselves, and `expand` adds the text of an entity. While
`inReference` is set, symbols up to the next semicolon are passed over. -/
def pushValue (isCharacterData : Bool) (left : Option Nat)
    (expand : Text → TextBuffer → Except Stop TextBuffer) :
    (inReference : Bool) → TextBuffer → Symbols → Except Stop TextBuffer
  | _, b, [] => .ok b
  | true, b, t :: s => pushValue isCharacterData left expand (!t.is ';') b s
  | false, b, .char c :: s =>
    if c = '<' then .error ⟨.invalidToken, .within left (s.length + 1)⟩
    else if c = '\r' ∧ Symbols.nextIs '\n' s then
      pushValue isCharacterData left expand false b s
    else if c.isMarkupSpace then
      pushValue isCharacterData left expand false (b.pushSpace isCharacterData) s
    else if c = '&' then
      match Reference.scan s with
      | .found (.character none) _ =>
        .error ⟨.invalidCharacterNumber, .within left (s.length + 1)⟩
      | .found (.character (some d)) _ =>
        pushValue isCharacterData left expand true
          (if d = ' ' then b.pushSpace isCharacterData else b.push d) s
      | .found (.entity name) _ =>
        match predefinedEntity? name with
        | some d => pushValue isCharacterData left expand true (b.push d) s
        | none =>
          match expand name b with
          | .error ⟨fault, .reference⟩ => .error ⟨fault, .within left (s.length + 1)⟩
          | .error stop => .error stop
          | .ok b' => pushValue isCharacterData left expand true b' s
      | .invalid place => .error ⟨.invalidToken, .within left place.length⟩
      | .unfinished => .error ⟨.invalidToken, .within left (s.length + 1)⟩
      | .cut => .error ⟨.invalidToken, .within left (s.length + 1)⟩
    else pushValue isCharacterData left expand false (b.push c) s
  | false, _, t :: s => .error ⟨.invalidToken, .within left (t :: s).length⟩

/-- Adds the text of an entity to the value of an attribute. Entities may stand within each other
up to the given depth; those that are being expanded may not be referred to again. -/
def expandEntity (type : DocumentType) (isCharacterData : Bool) :
    (depth : Nat) → (opened : List Text) → (name : Text) → TextBuffer → Except Stop TextBuffer
  | 0, _, _, _ => .error ⟨.recursiveEntity, .token⟩
  | depth + 1, opened, name, b =>
    match type.entity? name with
    | none => if type.isComplete then .error ⟨.undefinedEntity, .token⟩ else .ok b
    | some content =>
      if opened.contains name then .error ⟨.recursiveEntity, .token⟩
      else if amplificationThreshold < b.size then .error ⟨.amplification, .token⟩
      else
        match content with
        | .unparsed => .error ⟨.binaryEntity, .reference⟩
        | .external => .error ⟨.externalEntityInAttribute, .reference⟩
        | .internal content =>
          pushValue isCharacterData none (expandEntity type isCharacterData depth (name :: opened))
            false b (Symbols.ofText content)

/-- The value of an attribute. `after` is the input from the end of the value on. Where spaces do
not count one by one, none ends the value. -/
def attributeValue (type : DocumentType) (isCharacterData : Bool) (value after : Symbols) :
    Except Stop Text :=
  match pushValue isCharacterData (some after.length)
      (expandEntity type isCharacterData (type.entities.length + 1) []) false .empty value with
  | .error stop => .error stop
  | .ok b =>
    .ok (if isCharacterData then b.reversed.reverse
      else
        match b.reversed with
        | c :: reversed => if c = ' ' then reversed.reverse else (c :: reversed).reverse
        | [] => [])

/-- A reference to a parameter entity, or a percent sign alone, after the sign. -/
def parameterReference : Scanner Bool
  | [] => .unfinished
  | t :: s =>
    if t.isSpace || t.is '%' then .found false (t :: s)
    else
      (do
        let _ ← Scanner.name
        Scanner.exactly ';'
        return true : Scanner Bool) (t :: s)

/-- The text of an entity as declared. References to characters are replaced and those to entities
are kept; `left` is how many symbols follow the literal. While `inReference` is set, symbols up to
the next semicolon are passed over. -/
def entityText (left : Nat) : (inReference : Bool) → (before : Text) → Symbols → Except Stop Text
  | _, before, [] => .ok before.reverse
  | true, before, t :: s => entityText left (!t.is ';') before s
  | false, before, .char c :: s =>
    if c = '\r' then entityText left false (if Symbols.nextIs '\n' s then before else '\n' :: before) s
    else if c = '&' then
      match Reference.scan s with
      | .found (.character none) _ => .error ⟨.invalidCharacterNumber, .left (left + s.length + 1)⟩
      | .found (.character (some d)) _ => entityText left true (d :: before) s
      | .found (.entity _) _ => entityText left false (c :: before) s
      | .invalid place => .error ⟨.invalidToken, .left (left + place.length)⟩
      | .unfinished => .error ⟨.invalidToken, .left (left + s.length + 1)⟩
      | .cut => .error ⟨.invalidToken, .left (left + s.length + 1)⟩
    else if c = '%' then
      match parameterReference s with
      | .found true _ => .error ⟨.parameterReference, .left (left + s.length + 1)⟩
      | .found false place => .error ⟨.invalidToken, .left (left + place.length)⟩
      | .invalid place => .error ⟨.invalidToken, .left (left + place.length)⟩
      | .unfinished => .error ⟨.invalidToken, .left (left + s.length + 1)⟩
      | .cut => .error ⟨.invalidToken, .left (left + s.length + 1)⟩
    else entityText left false (c :: before) s
  | false, _, t :: s => .error ⟨.invalidToken, .left (left + (t :: s).length)⟩

/-- Whether a character may stand in a public identifier. -/
def isPublicIdChar (c : CodePoint) : Bool :=
  c.isAsciiLetter || c.isAsciiDigit || c = ' ' || c = '\r' || c = '\n' ||
  (text "-'()+,./:=?;!*#@$_%").contains c

/-- Checks that a literal is a public identifier. -/
def checkPublicId (left : Nat) : Symbols → Except Stop Unit
  | [] => .ok ()
  | .char c :: s =>
    if isPublicIdChar c then checkPublicId left s
    else .error ⟨.publicIdentifier, .left (left + s.length + 1)⟩
  | t :: s => .error ⟨.publicIdentifier, .left (left + (t :: s).length)⟩

end ConfigNamespace
