import ConfigNamespace.Markup.DocumentType

/-!
# The prolog

What stands before the element of a document: comments, instructions and the document type. The
prolog is a row of tokens; which token may follow is a matter of a finite automaton with a stack for
the groups in declarations of elements.
-/

namespace ConfigNamespace

/-- A token of the prolog. -/
inductive PrologToken
  /-- Spaces. -/
  | blank
  /-- A comment or an instruction. -/
  | passedOver
  /-- The declaration of the markup. -/
  | declaration
  /-- The beginning of the element. -/
  | element
  /-- The opening of a declaration with its keyword. -/
  | opening (keyword : Text)
  /-- The end of a declaration. -/
  | closing
  /-- The opening or the end of a section that may be left out. -/
  | conditional
  /-- A square bracket that opens the declarations of a document type. -/
  | openBracket
  /-- The square bracket that ends them. -/
  | closeBracket
  /-- A bracket that opens a group. -/
  | openParen
  /-- The end of a group, with the sign of how often it may stand. -/
  | closeParen (sign : Option Char)
  /-- A comma. -/
  | comma
  /-- A bar. -/
  | bar
  /-- A percent sign alone. -/
  | percent
  /-- A reference to a parameter entity. -/
  | parameter
  /-- A name; the flag tells whether it has a prefix. -/
  | name (name : Text) (prefixed : Bool)
  /-- A name with the sign of how often it may stand. -/
  | signedName
  /-- A word that is no name. -/
  | word
  /-- A name after a number sign. -/
  | poundName (name : Text)
  /-- A text between quotation marks, and the input after it from the second mark on. -/
  | literal (value after : Symbols)
  deriving DecidableEq

/-- The kind of a word that has been read so far. -/
inductive WordKind
  /-- A name without a colon. -/
  | plain
  /-- A name with one colon between two names. -/
  | prefixed
  /-- Something else. -/
  | other
  deriving DecidableEq

/-- The token of a word of the given kind. -/
def WordKind.token (kind : WordKind) (reversed : Text) : PrologToken :=
  match kind with
  | .plain => .name reversed.reverse false
  | .prefixed => .name reversed.reverse true
  | .other => .word

/-- Whether a symbol may follow a word. -/
def endsWord (t : Symbol) : Bool :=
  t.isSpace || t.is '>' || t.is ')' || t.is ',' || t.is '|' || t.is '[' || t.is '%'

/-- The rest of a word. A colon makes a name a prefix if a name character follows it. -/
def wordEnd : (kind : WordKind) → (before : Text) → Symbols → Scan PrologToken
  | kind, before, [] => .found (kind.token before) []
  | _, _, .cut :: _ => .cut
  | kind, before, .char c :: s =>
    if c.isNameChar then wordEnd kind (c :: before) s
    else if c = ':' then
      match kind with
      | .plain =>
        match s with
        | [] => .unfinished
        | .cut :: _ => .cut
        | t :: _ => wordEnd (if t.isNameChar then .prefixed else .other) (c :: before) s
      | _ => wordEnd .other (c :: before) s
    else if endsWord (.char c) then .found (kind.token before) (.char c :: s)
    else if c = '+' ∨ c = '*' ∨ c = '?' then
      if kind = .other then .invalid (.char c :: s) else .found .signedName s
    else .invalid (.char c :: s)
  | _, _, s => .invalid s

/-- The rest of a literal. -/
def literalEnd (mark : CodePoint) (before : Symbols) : Symbols → Scan PrologToken
  | [] => .unfinished
  | .malformed :: s => .invalid (.malformed :: s)
  | .cut :: _ => .cut
  | .char c :: s =>
    if c = mark then
      match s with
      | [] => .found (.literal before.reverse [.char c]) []
      | t :: _ =>
        if t.isSpace || t.is '>' || t.is '%' || t.is '[' then
          .found (.literal before.reverse (.char c :: s)) s
        else .invalid s
    else literalEnd mark (.char c :: before) s

/-- The letters of a keyword at the front, and what follows them. -/
def keywordRun : Symbols → Text × Symbols
  | .char c :: s =>
    if c.isAsciiLetter || c = '_' then (c :: (keywordRun s).1, (keywordRun s).2)
    else ([], .char c :: s)
  | s => ([], s)

/-- The opening of a declaration after `<!`. -/
def openingScan : Scanner PrologToken
  | [] => .unfinished
  | t :: s =>
    if t.is '-' then
      match comment s with
      | .found _ rest => .found .passedOver rest
      | .invalid place => .invalid place
      | .unfinished => .unfinished
      | .cut => .cut
    else if t.is '[' then .found .conditional s
    else
      match keywordRun (t :: s) with
      | ([], _) => .invalid (t :: s)
      | (_, []) => .unfinished
      | (keyword, u :: rest) =>
        if u.is '%' then
          match rest with
          | [] => .unfinished
          | v :: _ =>
            if v.isSpace || v.is '%' then .invalid (u :: rest)
            else .found (.opening keyword) (u :: rest)
        else if u.isSpace then .found (.opening keyword) (u :: rest)
        else .invalid (u :: rest)

/-- Whether a symbol is a character beyond ASCII. -/
def Symbol.isBeyondAscii : Symbol → Bool
  | .char c => 0x80 ≤ c.val
  | _ => false

/-- The token after `<`, for the input from that sign on. -/
def angleScan (whole : Symbols) : Scanner PrologToken
  | [] => .unfinished
  | t :: s =>
    if t.is '!' then openingScan s
    else if t.is '?' then
      match Instruction.scan s with
      | .found .other rest => .found .passedOver rest
      | .found (.declaration _ _) rest => .found .declaration rest
      | .invalid place => .invalid place
      | .unfinished => .unfinished
      | .cut => .cut
    else if t.isNameStart || t = .cut || t.isBeyondAscii then .found .element whole
    else .invalid (t :: s)

/-- The token after a closing bracket of a group. -/
def closeParenScan : Scanner PrologToken
  | [] => .found (.closeParen none) []
  | t :: s =>
    if t.is '*' then .found (.closeParen (some '*')) s
    else if t.is '?' then .found (.closeParen (some '?')) s
    else if t.is '+' then .found (.closeParen (some '+')) s
    else if t.isSpace || t.is '>' || t.is ',' || t.is '|' || t.is ')' then
      .found (.closeParen none) (t :: s)
    else .invalid (t :: s)

/-- The token after a closing square bracket. -/
def closeBracketScan : Scanner PrologToken
  | [] => .found .closeBracket []
  | t :: s =>
    if t.is ']' then
      match s with
      | [] => .unfinished
      | u :: rest => if u.is '>' then .found .conditional rest else .found .closeBracket (t :: s)
    else .found .closeBracket (t :: s)

/-- The name after a number sign. -/
def poundScan : Scanner PrologToken
  | s =>
    match Scanner.nameStart s with
    | .found c rest =>
      match Symbols.nameRun rest with
      | (name, []) => .found (.poundName (c :: name)) []
      | (name, t :: rest) =>
        if t = .cut then .cut
        else if t.isSpace || t.is ')' || t.is '>' || t.is '%' || t.is '|' then
          .found (.poundName (c :: name)) (t :: rest)
        else .invalid (t :: rest)
    | .invalid place => .invalid place
    | .unfinished => .unfinished
    | .cut => .cut

/-- The next token of the prolog, for an input that has not ended. -/
def PrologToken.scan : Scanner PrologToken
  | [] => .unfinished
  | .cut :: _ => .cut
  | .malformed :: s => .invalid (.malformed :: s)
  | .char c :: s =>
    if c = .doubleQuote ∨ c = .singleQuote then literalEnd c [] s
    else if c = '<' then angleScan (.char c :: s) s
    else if c.isMarkupSpace then .found .blank (Symbols.dropSpaces s)
    else if c = '%' then
      match parameterReference s with
      | .found true rest => .found .parameter rest
      | .found false rest => .found .percent rest
      | .invalid place => .invalid place
      | .unfinished => .unfinished
      | .cut => .cut
    else if c = ',' then .found .comma s
    else if c = '[' then .found .openBracket s
    else if c = ']' then closeBracketScan s
    else if c = '(' then .found .openParen s
    else if c = ')' then closeParenScan s
    else if c = '|' then .found .bar s
    else if c = '>' then .found .closing s
    else if c = '#' then poundScan s
    else if c.isNameStart then wordEnd .plain [c] s
    else if c.isNameChar || c = ':' then wordEnd .other [c] s
    else .invalid (.char c :: s)

/-- How the members of a group are joined. -/
inductive Joint
  /-- One after the other. -/
  | sequence
  /-- One of them. -/
  | choice
  deriving DecidableEq

/-- What is expected next in the prolog. -/
inductive PrologState
  /-- Anything that may begin a document. -/
  | start
  /-- Anything but the declaration of the markup. -/
  | beforeType
  /-- Anything but declarations. -/
  | afterType
  /-- The name of the document type. -/
  | typeName
  /-- What the document type has beside its name. -/
  | typeIdentifier
  /-- Its public identifier. -/
  | typePublic
  /-- Its system identifier. -/
  | typeSystem
  /-- Its declarations, or its end. -/
  | typeSubset
  /-- Its end. -/
  | typeEnd
  /-- A declaration. -/
  | declarations
  /-- The name of an entity, or a percent sign. -/
  | entityName
  /-- The name of a parameter entity. -/
  | parameterName
  /-- The text or the identifiers of an entity; the flag marks a parameter entity. -/
  | entityValue (parameter : Bool)
  /-- The public identifier of an entity. -/
  | entityPublic (parameter : Bool)
  /-- The system identifier of an entity. -/
  | entitySystem (parameter : Bool)
  /-- The end of an external entity, or the word that makes it unparsed. -/
  | entityEnd (parameter : Bool)
  /-- The notation of an unparsed entity. -/
  | entityNotation
  /-- The name of a notation. -/
  | notationName
  /-- The identifiers of a notation. -/
  | notationIdentifier
  /-- The public identifier of a notation. -/
  | notationPublic
  /-- The system identifier of a notation. -/
  | notationSystem
  /-- The system identifier of a notation, or its end. -/
  | notationEnd
  /-- The element whose attributes are declared. -/
  | attributesElement
  /-- The name of an attribute, or the end of the declaration. -/
  | attributeName
  /-- The type of an attribute. -/
  | attributeType
  /-- A value of an enumeration. -/
  | enumerationValue
  /-- What follows a value of an enumeration. -/
  | enumerationNext
  /-- The group of notations of an attribute. -/
  | notationGroup
  /-- A notation of an attribute. -/
  | notationValue
  /-- What follows a notation of an attribute. -/
  | notationNext
  /-- The default of an attribute. -/
  | attributeDefault
  /-- The fixed value of an attribute. -/
  | fixedValue
  /-- The name of an element. -/
  | elementName
  /-- The content of an element. -/
  | elementContent
  /-- The first member of the outermost group. -/
  | groupFirst
  /-- What follows the word for text in a group. -/
  | mixedFirst
  /-- The name of a member of a group with text. -/
  | mixedName
  /-- What follows such a name. -/
  | mixedNext
  /-- A member of the innermost of the open groups. -/
  | groupMember (joints : List (Option Joint))
  /-- What follows a member. -/
  | groupNext (joints : List (Option Joint))
  /-- The end of a declaration. -/
  | declarationEnd
  deriving DecidableEq

/-- The words for types of attributes. -/
def attributeTypes : List Text :=
  [text "CDATA", text "ID", text "IDREF", text "IDREFS", text "ENTITY", text "ENTITIES",
    text "NMTOKEN", text "NMTOKENS"]

/-- What is expected after the innermost group has ended. -/
def afterGroup : List (Option Joint) → PrologState
  | [] => .declarationEnd
  | [_] => .declarationEnd
  | _ :: joints => .groupNext joints

/-- What is expected after a joint, if it fits those used in the group before. -/
def afterJoint (joint : Joint) : List (Option Joint) → Option PrologState
  | [] => none
  | used :: joints =>
    if used = none ∨ used = some joint then some (.groupMember (some joint :: joints)) else none

/-- What is expected after a keyword opens a declaration. -/
def afterKeyword (keyword : Text) : Option PrologState :=
  if keyword = text "ENTITY" then some .entityName
  else if keyword = text "ATTLIST" then some .attributesElement
  else if keyword = text "ELEMENT" then some .elementName
  else if keyword = text "NOTATION" then some .notationName
  else none

/-- What is expected after one of the two words for identifiers. -/
def afterIdentifierWord (word : Text) (publicState systemState : PrologState) :
    Option PrologState :=
  if word = text "SYSTEM" then some systemState
  else if word = text "PUBLIC" then some publicState
  else none

/-- What is expected after a token, or nothing if the token may not stand there. The beginning of
the element is not treated here. -/
def PrologState.next : PrologState → PrologToken → Option PrologState
  | .start, .declaration => some .beforeType
  | .start, .blank | .start, .passedOver => some .beforeType
  | .start, .opening keyword | .beforeType, .opening keyword =>
    if keyword = text "DOCTYPE" then some .typeName else none
  | state, .blank => some state
  | .beforeType, .passedOver => some .beforeType
  | .afterType, .passedOver => some .afterType
  | .typeName, .name _ _ => some .typeIdentifier
  | .typeIdentifier, .openBracket => some .declarations
  | .typeIdentifier, .closing => some .afterType
  | .typeIdentifier, .name word false => afterIdentifierWord word .typePublic .typeSystem
  | .typePublic, .literal _ _ => some .typeSystem
  | .typeSystem, .literal _ _ => some .typeSubset
  | .typeSubset, .openBracket => some .declarations
  | .typeSubset, .closing => some .afterType
  | .typeEnd, .closing => some .afterType
  | .declarations, .opening keyword => afterKeyword keyword
  | .declarations, .passedOver => some .declarations
  | .declarations, .parameter => some .declarations
  | .declarations, .closeBracket => some .typeEnd
  | .entityName, .percent => some .parameterName
  | .entityName, .name _ false => some (.entityValue false)
  | .parameterName, .name _ false => some (.entityValue true)
  | .entityValue parameter, .name word false =>
    afterIdentifierWord word (.entityPublic parameter) (.entitySystem parameter)
  | .entityValue _, .literal _ _ => some .declarationEnd
  | .entityPublic parameter, .literal _ _ => some (.entitySystem parameter)
  | .entitySystem parameter, .literal _ _ => some (.entityEnd parameter)
  | .entityEnd _, .closing => some .declarations
  | .entityEnd false, .name word false =>
    if word = text "NDATA" then some .entityNotation else none
  | .entityNotation, .name _ false => some .declarationEnd
  | .notationName, .name _ false => some .notationIdentifier
  | .notationIdentifier, .name word false =>
    afterIdentifierWord word .notationPublic .notationSystem
  | .notationPublic, .literal _ _ => some .notationEnd
  | .notationSystem, .literal _ _ => some .declarationEnd
  | .notationEnd, .literal _ _ => some .declarationEnd
  | .notationEnd, .closing => some .declarations
  | .attributesElement, .name _ _ => some .attributeName
  | .attributeName, .name _ _ => some .attributeType
  | .attributeName, .closing => some .declarations
  | .attributeType, .name word false =>
    if attributeTypes.contains word then some .attributeDefault
    else if word = text "NOTATION" then some .notationGroup
    else none
  | .attributeType, .openParen => some .enumerationValue
  | .enumerationValue, .name _ _ | .enumerationValue, .word => some .enumerationNext
  | .enumerationNext, .closeParen none => some .attributeDefault
  | .enumerationNext, .bar => some .enumerationValue
  | .notationGroup, .openParen => some .notationValue
  | .notationValue, .name _ false => some .notationNext
  | .notationNext, .closeParen none => some .attributeDefault
  | .notationNext, .bar => some .notationValue
  | .attributeDefault, .poundName word =>
    if word = text "IMPLIED" ∨ word = text "REQUIRED" then some .attributeName
    else if word = text "FIXED" then some .fixedValue
    else none
  | .attributeDefault, .literal _ _ => some .attributeName
  | .fixedValue, .literal _ _ => some .attributeName
  | .elementName, .name _ _ => some .elementContent
  | .elementContent, .name word false =>
    if word = text "EMPTY" ∨ word = text "ANY" then some .declarationEnd else none
  | .elementContent, .openParen => some .groupFirst
  | .groupFirst, .poundName word => if word = text "PCDATA" then some .mixedFirst else none
  | .groupFirst, .openParen => some (.groupMember [none, none])
  | .groupFirst, .name _ _ | .groupFirst, .signedName => some (.groupNext [none])
  | .mixedFirst, .closeParen none | .mixedFirst, .closeParen (some '*') => some .declarationEnd
  | .mixedFirst, .bar => some .mixedName
  | .mixedName, .name _ _ => some .mixedNext
  | .mixedNext, .closeParen (some '*') => some .declarationEnd
  | .mixedNext, .bar => some .mixedName
  | .groupMember joints, .openParen => some (.groupMember (none :: joints))
  | .groupMember joints, .name _ _ | .groupMember joints, .signedName => some (.groupNext joints)
  | .groupNext joints, .closeParen _ => some (afterGroup joints)
  | .groupNext joints, .comma => afterJoint .sequence joints
  | .groupNext joints, .bar => afterJoint .choice joints
  | .declarationEnd, .closing => some .declarations
  | _, _ => none

/-- The declarations read so far, and the one being read. -/
structure PrologContext where
  /-- The declarations. -/
  type : DocumentType
  /-- Whether declarations still count. -/
  keeps : Bool
  /-- The entity being declared, if its declaration counts. -/
  entity : Option Text
  /-- The element whose attributes are being declared. -/
  element : Text
  /-- The attribute being declared. -/
  attributeName : Text
  /-- Whether its type is that of character data. -/
  isCharacterData : Bool
  /-- Whether its type is that of identifiers. -/
  isIdentifier : Bool

namespace PrologContext

/-- The context at the start of a document. -/
def start (standalone : Bool) : PrologContext :=
  ⟨.empty standalone, true, none, [], [], false, false⟩

/-- Declares the current entity, or changes its declaration. -/
def setEntity (context : PrologContext) (content : EntityContent) : PrologContext :=
  match context.entity with
  | none => context
  | some name =>
    let others := context.type.entities.filter fun entry => entry.1 ≠ name
    { context with type := { context.type with entities := others ++ [(name, content)] } }

/-- Declares the current attribute. A default does not count if the attribute has been declared
before, nor does the declaration of an identifier. -/
def declareAttribute (context : PrologContext) (default : Option Text) : PrologContext :=
  let known := (context.type.attributesOf context.element).any fun declaration =>
    declaration.name = context.attributeName
  if (default.isSome || context.isIdentifier) && known then context
  else
    { context with
      type := { context.type with
        attributes := context.type.attributes ++
          [⟨context.element, context.attributeName, context.isCharacterData, default⟩] } }

/-- Declares the current attribute with a default. -/
def declareDefault (context : PrologContext) (value after : Symbols) :
    Except Stop PrologContext :=
  if context.keeps then
    match attributeValue context.type context.isCharacterData value after with
    | .ok default => .ok (context.declareAttribute (some default))
    | .error stop => .error stop
  else .ok context

/-- The context once there are declarations elsewhere, which are not read. -/
def withUnseen (context : PrologContext) : PrologContext :=
  { context with type := { context.type with hasUnseen := true } }

/-- What a token in a given state does to the declarations. -/
def accept (context : PrologContext) : PrologState → PrologToken → Except Stop PrologContext
  | .typePublic, .literal value after =>
    (checkPublicId after.length value).map fun _ => context.withUnseen
  | .entityPublic _, .literal value after | .notationPublic, .literal value after =>
    (checkPublicId after.length value).map fun _ => context
  | .typeSystem, .literal _ _ => .ok context.withUnseen
  | .declarations, .parameter =>
    .ok { context.withUnseen with keeps := context.type.standalone }
  | .entityName, .name name _ =>
    let counts := context.keeps && (predefinedEntity? name).isNone &&
      (context.type.entity? name).isNone
    .ok { context with entity := if counts then some name else none }
  | .parameterName, .name _ _ => .ok { context with entity := none }
  | .entityValue _, .literal value after =>
    if context.keeps then
      (entityText after.length false [] value).map fun content =>
        context.setEntity (.internal content)
    else .ok context
  | .entitySystem _, .literal _ _ =>
    .ok (if context.keeps then context.setEntity .external else context)
  | .entityNotation, .name _ _ =>
    .ok (if context.keeps then context.setEntity .unparsed else context)
  | .attributesElement, .name name _ => .ok { context with element := name }
  | .attributeName, .name name _ =>
    .ok { context with attributeName := name, isCharacterData := false, isIdentifier := false }
  | .attributeType, .name word _ =>
    .ok { context with
      isCharacterData := word = text "CDATA"
      isIdentifier := word = text "ID" }
  | .attributeDefault, .poundName word =>
    .ok (if context.keeps ∧ word ≠ text "FIXED" then context.declareAttribute none else context)
  | .attributeDefault, .literal value after | .fixedValue, .literal value after =>
    context.declareDefault value after
  | _, _ => .ok context

end PrologContext

/-- The fault of a token that may not stand where it does. -/
def misplacedFault : PrologToken → MarkupFault
  | .parameter => .parameterReference
  | .declaration => .misplacedDeclaration
  | _ => .unexpectedToken

/-- Whether the element of the document may begin in a state. -/
def PrologState.mayBegin : PrologState → Bool
  | .start | .beforeType | .afterType => true
  | _ => false

/-- The place of a stop in a token that begins at `s`. -/
def Stop.at_ (stop : Stop) (s : Symbols) : MarkupFault × Nat :=
  (stop.fault,
    match stop.place with
    | .left count => count
    | _ => s.length)

/-- Reads the prolog up to the element: the document type and the input from the element on. At
most `fuel` tokens are read. -/
def readProlog : (fuel : Nat) → PrologState → PrologContext → Symbols →
    Except (MarkupFault × Nat) (DocumentType × Symbols)
  | 0, _, _, s => .error (.unexpectedToken, s.length)
  | _ + 1, _, _, [] => .error (.noElement, 0)
  | fuel + 1, state, context, t :: s =>
    match PrologToken.scan (t :: s) with
    | .invalid place => .error (.invalidToken, place.length)
    | .unfinished => .error (.unclosedToken, (t :: s).length)
    | .cut => .error (.partialCharacter, (t :: s).length)
    | .found .element rest =>
      if state.mayBegin then .ok (context.type, rest)
      else .error (.unexpectedToken, (t :: s).length)
    | .found token rest =>
      match state.next token with
      | none => .error (misplacedFault token, (t :: s).length)
      | some state' =>
        match context.accept state token with
        | .error stop => .error (stop.at_ (t :: s))
        | .ok context' => readProlog fuel state' context' rest

end ConfigNamespace
