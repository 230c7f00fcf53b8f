import ConfigNamespace.Markup.Prolog
import ConfigNamespace.Text.Search

/-!
# The content of the element

Content is read as a row of events: elements open and close, and text stands between. Names are
resolved against the namespaces that are bound where they stand, and the texts of entities are
read where they are referred to.
-/

namespace ConfigNamespace

/-- What happens in the content. -/
inductive MarkupEvent
  /-- An element opens. -/
  | opened (tag : Text) (attributes : List (Text × Text))
  /-- Text stands here. -/
  | characters (content : Text)
  /-- The innermost open element ends. -/
  | closed
  deriving DecidableEq

/-- The namespaces bound to prefixes, the innermost first. The default namespace is bound to the
empty prefix, and may be bound to none. -/
abbrev Bindings := List (Text × Text)

/-- The namespace of markup itself. -/
def markupNamespace : Text := text "http://www.w3.org/XML/1998/namespace"

/-- The namespace of namespace declarations. -/
def declarationNamespace : Text := text "http://www.w3.org/2000/xmlns/"

/-- The prefix of a name and what follows its colon. -/
def splitName (name : Text) : Option (Text × Text) := Text.breakAt? ':' name

/-- The prefix that an attribute binds, if it binds one. -/
def boundPrefix? (name : Text) : Option Text :=
  if name = text "xmlns" then some []
  else
    match Text.dropStart? (text "xmlns:") name with
    | some bound => some bound
    | none => none

/-- Binds a prefix to a namespace. -/
def bindPrefix (bound uri : Text) (bindings : Bindings) : Except MarkupFault Bindings :=
  if uri = [] ∧ bound ≠ [] then .error .undeclaredPrefix
  else if bound = text "xmlns" then .error .reservedDeclarationPrefix
  else if uri.elem (CodePoint.ofNat 0x7D) then .error .unexpectedToken
  else if bound = text "xml" then
    if uri = markupNamespace then .ok ((bound, uri) :: bindings) else .error .reservedPrefix
  else if uri = markupNamespace ∨ uri = declarationNamespace then .error .reservedNamespace
  else .ok ((bound, uri) :: bindings)

/-- A name within a namespace, in the form in which documents show it. -/
def qualified (uri name : Text) : Text := CodePoint.ofNat 0x7B :: uri ++ CodePoint.ofNat 0x7D :: name

/-- An attribute with its value: the prefix and the rest of its name. -/
structure PlainAttribute where
  /-- The name as it is written. -/
  name : Text
  /-- The value. -/
  value : Text

/-- Adds an attribute to those of a tag, or binds a prefix if that is what it does. -/
def addAttribute (name value : Text) (found : List PlainAttribute × Bindings) :
    Except MarkupFault (List PlainAttribute × Bindings) :=
  match boundPrefix? name with
  | some bound => (bindPrefix bound value found.2).map fun bindings => (found.1, bindings)
  | none => .ok (⟨name, value⟩ :: found.1, found.2)

/-- Reads the attributes of a tag: the values and the bindings, in reverse. `names` are those of the
attributes before. -/
def readAttributes (type : DocumentType) (element : Text) :
    (names : List Text) → List PlainAttribute × Bindings → List RawAttribute →
    Except Stop (List PlainAttribute × Bindings)
  | _, found, [] => .ok found
  | names, found, raw :: rest =>
    if names.contains raw.name then .error ⟨.duplicateAttribute, .left raw.place.length⟩
    else
      match attributeValue type (type.isCharacterData element raw.name) raw.value raw.after with
      | .error stop => .error stop
      | .ok value =>
        match addAttribute raw.name value found with
        | .error fault => .error ⟨fault, .token⟩
        | .ok found' => readAttributes type element (raw.name :: names) found' rest

/-- Adds the declared defaults of attributes that a tag does not have. -/
def addDefaults (names : List Text) :
    List PlainAttribute × Bindings → List AttributeDeclaration →
    Except MarkupFault (List PlainAttribute × Bindings)
  | found, [] => .ok found
  | found, declaration :: rest =>
    match declaration.default with
    | some value =>
      if names.contains declaration.name then addDefaults names found rest
      else
        match addAttribute declaration.name value found with
        | .error fault => .error fault
        | .ok found' => addDefaults names found' rest
    | none => addDefaults names found rest

/-- The name of an attribute within its namespace. Without a prefix it is in none. -/
def attributeName (bindings : Bindings) (name : Text) : Except MarkupFault Text :=
  match splitName name with
  | none => .ok name
  | some (bound, localName) =>
    match bindings.lookup bound with
    | some uri => .ok (qualified uri localName)
    | none => .error .unboundPrefix

/-- The name of an element within its namespace. -/
def elementName (bindings : Bindings) (name : Text) : Except MarkupFault Text :=
  match splitName name with
  | some (bound, localName) =>
    match bindings.lookup bound with
    | some uri => .ok (qualified uri localName)
    | none => .error .unboundPrefix
  | none =>
    match bindings.lookup [] with
    | some uri => .ok (if uri = [] then name else qualified uri name)
    | none => .ok name

/-- The attributes with their names resolved. No two may have the same name then. -/
def resolveAttributes (bindings : Bindings) :
    (before : List Text) → List PlainAttribute → Except MarkupFault (List (Text × Text))
  | _, [] => .ok []
  | before, plain :: rest =>
    match attributeName bindings plain.name with
    | .error fault => .error fault
    | .ok name =>
      if before.contains name then .error .duplicateAttribute
      else
        match resolveAttributes bindings (name :: before) rest with
        | .ok others => .ok ((name, plain.value) :: others)
        | .error fault => .error fault

/-- An element that has not ended. -/
structure OpenElement where
  /-- The name as it is written. -/
  name : Text
  /-- The namespaces bound within it. -/
  bindings : Bindings

/-- What has been read of the content. -/
structure ContentState where
  /-- The open elements, the innermost first. -/
  elements : List OpenElement
  /-- The events, the last first. -/
  events : List MarkupEvent
  /-- The first reference to an entity whose declaration cannot be seen, and its place. -/
  unseen : Option (MarkupFault × Nat)
  /-- How much text entities have added. -/
  expanded : Nat

namespace ContentState

/-- The state before the element. -/
def start : ContentState := ⟨[], [], none, 0⟩

/-- The namespaces bound here. -/
def bindings (state : ContentState) : Bindings :=
  match state.elements with
  | element :: _ => element.bindings
  | [] => [(text "xml", markupNamespace)]

/-- Adds an event. -/
def emit (state : ContentState) (event : MarkupEvent) : ContentState :=
  { state with events := event :: state.events }

/-- The fault to report: a reference that could not be followed comes before all later faults. -/
def fail (state : ContentState) (fault : MarkupFault × Nat) : MarkupFault × Nat :=
  state.unseen.getD fault

/-- Opens an element. -/
def openElement (type : DocumentType) (tag : Tag) (state : ContentState) :
    Except Stop ContentState := do
  let found ← readAttributes type tag.name [] ([], state.bindings) tag.attributes
  let names := tag.attributes.map RawAttribute.name
  let resolved : Except MarkupFault ContentState := do
    let (attributes, bindings) ← addDefaults names found (type.attributesOf tag.name)
    let resolved ← resolveAttributes bindings [] attributes.reverse
    let name ← elementName bindings tag.name
    let opened := state.emit (.opened name resolved)
    return { opened with elements := ⟨tag.name, bindings⟩ :: opened.elements }
  match resolved with
  | .ok state' => .ok state'
  | .error fault => .error ⟨fault, .token⟩

/-- Ends the innermost open element. -/
def closeElement (state : ContentState) : ContentState :=
  { state with elements := state.elements.tail, events := .closed :: state.events }

end ContentState

/-- How far content is read. -/
structure ContentScope where
  /-- How many elements are open around the content. -/
  depth : Nat
  /-- How many symbols are left where the text of an entity is referred to, for such a text. -/
  reference : Option Nat

/-- Reads content. The content of the document ends with its element; the text of an entity has to
end with as many open elements as it began with. `expand` reads the text of an entity that is
referred to with so many symbols left, and `fuel` bounds the number of tokens. -/
def readContent (type : DocumentType) (scope : ContentScope)
    (expand : Text → Nat → ContentState → Except (MarkupFault × Nat) ContentState) :
    (fuel : Nat) → ContentState → Symbols →
    Except (MarkupFault × Nat) (ContentState × Symbols)
  | 0, state, s => .error (state.fail (.unexpectedToken, scope.reference.getD s.length))
  | _ + 1, state, [] =>
    if scope.reference.isNone then .error (state.fail (.noElement, 0))
    else if state.elements.length ≠ scope.depth then
      .error (state.fail (.asynchronousEntity, scope.reference.getD 0))
    else .ok (state, [])
  | _ + 1, state, .malformed :: s =>
    .error (state.fail (.invalidToken, scope.reference.getD (s.length + 1)))
  | _ + 1, state, .cut :: s =>
    .error (state.fail (.partialCharacter, scope.reference.getD (s.length + 1)))
  | fuel + 1, state, .char c :: s =>
    let refuse {α : Type} (fault : MarkupFault) (left : Unit → Nat) :
        Except (MarkupFault × Nat) α :=
      .error (state.fail (fault, scope.reference.getD (left ())))
    let here : Unit → Nat := fun _ => s.length + 1
    let stopped {α β : Type} (scan : Scan α) : Except (MarkupFault × Nat) β :=
      match scan with
      | .invalid place => refuse .invalidToken fun _ => place.length
      | .unfinished => refuse .unclosedToken here
      | .cut => refuse .partialCharacter here
      | .found _ rest => refuse .invalidToken fun _ => rest.length
    if c = '<' then
      match s with
      | [] => refuse .unclosedToken here
      | t :: rest =>
        if t.is '/' then
          match endTag rest with
          | .found name rest' =>
            if state.elements.length = scope.depth then refuse .asynchronousEntity here
            else
              match state.elements with
              | [] => refuse .asynchronousEntity here
              | element :: others =>
                if element.name ≠ name then refuse .mismatchedTag fun _ => rest.length
                else if others.isEmpty then .ok (state.closeElement, rest')
                else readContent type scope expand fuel state.closeElement rest'
          | scan => stopped scan
        else if t.is '!' then
          match rest with
          | [] => refuse .unclosedToken here
          | u :: rest' =>
            if u.is '-' then
              match comment rest' with
              | .found _ rest'' => readContent type scope expand fuel state rest''
              | scan => stopped scan
            else if u.is '[' then
              match sectionOpening rest' with
              | .found _ rest'' =>
                match sectionText [] rest'' with
                | .ok (content, rest''') =>
                  readContent type scope expand fuel (state.emit (.characters content)) rest'''
                | .error (fault, left) => refuse fault fun _ => left
              | scan => stopped scan
            else refuse .invalidToken fun _ => rest.length
        else if t.is '?' then
          match Instruction.scan rest with
          | .found .other rest' => readContent type scope expand fuel state rest'
          | .found (.declaration _ _) _ => refuse .misplacedDeclaration here
          | scan => stopped scan
        else
          match Tag.scan fuel s with
          | .found tag rest' =>
            match state.openElement type tag with
            | .error stop =>
              refuse stop.fault fun _ => (stop.at_ (.char c :: s)).2
            | .ok opened =>
              if tag.isEmpty then
                if opened.elements.length = 1 then .ok (opened.closeElement, rest')
                else readContent type scope expand fuel opened.closeElement rest'
              else readContent type scope expand fuel opened rest'
          | scan => stopped scan
    else if c = '&' then
      match Reference.scan s with
      | .found (.character none) _ => refuse .invalidCharacterNumber here
      | .found (.character (some d)) rest =>
        readContent type scope expand fuel (state.emit (.characters [d])) rest
      | .found (.entity name) rest =>
        match predefinedEntity? name with
        | some d => readContent type scope expand fuel (state.emit (.characters [d])) rest
        | none =>
          match type.entity? name with
          | none =>
            if type.isComplete then refuse .undefinedEntity here
            else
              let unseen := state.unseen.getD (.unseenEntity name, scope.reference.getD (here ()))
              readContent type scope expand fuel { state with unseen := some unseen } rest
          | some .unparsed => refuse .binaryEntity here
          | some .external =>
            let unseen := state.unseen.getD (.unseenEntity name, scope.reference.getD (here ()))
            readContent type scope expand fuel { state with unseen := some unseen } rest
          | some (.internal _) =>
            match expand name (scope.reference.getD (here ())) state with
            | .ok state' => readContent type scope expand fuel state' rest
            | .error stop => .error stop
      | scan => stopped scan
    else if c = '\r' then
      match s with
      | [] =>
        if scope.reference.isNone then refuse .noElement here
        else readContent type scope expand fuel (state.emit (.characters ['\n'])) s
      | t :: _ =>
        if t.is '\n' then readContent type scope expand fuel state s
        else readContent type scope expand fuel (state.emit (.characters ['\n'])) s
    else if c = ']' ∧ Symbols.nextIs ']' s ∧ Symbols.nextIs '>' s.tail then
      refuse .invalidToken fun _ => s.tail.length
    else readContent type scope expand fuel (state.emit (.characters [c])) s
where
  /-- The rest of the opening of a section of character data. -/
  sectionOpening : Scanner Unit := fun s =>
    if (s.drop 5).isEmpty then .unfinished
    else
      (do
        Scanner.exactly 'C'
        Scanner.exactly 'D'
        Scanner.exactly 'A'
        Scanner.exactly 'T'
        Scanner.exactly 'A'
        Scanner.exactly '[' : Scanner Unit) s

/-- How many symbols a document may be taken to have at most, against which the text that entities
add is compared. -/
def exceedsAmplification (documentSize expanded : Nat) : Bool :=
  amplificationThreshold < documentSize + expanded &&
    100 * documentSize < documentSize + expanded

/-- Reads the text of an entity. Entities may stand within each other up to the given depth. -/
def readEntity (type : DocumentType) (documentSize : Nat) :
    (depth : Nat) → (opened : List Text) → (name : Text) → (left : Nat) → ContentState →
    Except (MarkupFault × Nat) ContentState
  | 0, _, _, left, state => .error (state.fail (.recursiveEntity, left))
  | depth + 1, opened, name, left, state =>
    match type.entity? name with
    | some (.internal content) =>
      let expanded := state.expanded + content.length
      if opened.contains name then .error (state.fail (.recursiveEntity, left))
      else if exceedsAmplification documentSize expanded then
        .error (state.fail (.amplification, left))
      else
        match readContent type ⟨state.elements.length, some left⟩
            (readEntity type documentSize depth (name :: opened)) (content.length + 1)
            { state with expanded := expanded } (Symbols.ofText content) with
        | .ok (state', _) => .ok state'
        | .error stop => .error stop
    | _ => .error (state.fail (.undefinedEntity, left))

/-- Reads the element of a document: its events and what follows it. -/
def readDocumentElement (type : DocumentType) (s : Symbols) :
    Except (MarkupFault × Nat) (ContentState × Symbols) :=
  readContent type ⟨0, none⟩ (readEntity type s.length (type.entities.length + 1) [])
    (s.length + 1) .start s

/-- Reads what follows the element, at most `fuel` tokens: spaces, comments and instructions. -/
def readEpilog : (fuel : Nat) → Symbols → Except (MarkupFault × Nat) Unit
  | 0, s => .error (.unexpectedToken, s.length)
  | _ + 1, [] => .ok ()
  | fuel + 1, t :: s =>
    match PrologToken.scan (t :: s) with
    | .invalid place => .error (.invalidToken, place.length)
    | .unfinished => .error (.unclosedToken, (t :: s).length)
    | .cut => .error (.partialCharacter, (t :: s).length)
    | .found .blank rest => readEpilog fuel rest
    | .found .passedOver rest => readEpilog fuel rest
    | .found _ _ => .error (.junkAfterElement, (t :: s).length)

end ConfigNamespace
