import ConfigNamespace.Markup.Error

/-!
# Tokens of markup

A token is found at the front of the input. If there is none, the scan tells whether a symbol is
out of place, and which, or whether the input ends too early.
-/

namespace ConfigNamespace

/-- What a scan finds at the front of the input. -/
inductive Scan (α : Type)
  /-- A token and what follows it. -/
  | found (a : α) (rest : Symbols)
  /-- A symbol out of place, at the front of the given rest. -/
  | invalid (place : Symbols)
  /-- The input ends within the token. -/
  | unfinished
  /-- The input ends within a character of the token. -/
  | cut

/-- A scan for a token. -/
def Scanner (α : Type) := Symbols → Scan α

namespace Scanner

/-- The scan that finds a given token without looking at the input. -/
def pure {α : Type} (a : α) : Scanner α := fun s => .found a s

/-- Two scans one after the other, the second chosen by what the first finds. -/
def bind {α β : Type} (first : Scanner α) (second : α → Scanner β) : Scanner β := fun s =>
  match first s with
  | .found a rest => second a rest
  | .invalid place => .invalid place
  | .unfinished => .unfinished
  | .cut => .cut

instance : Monad Scanner where
  pure := pure
  bind := bind

/-- The scan that finds nothing out of place but the next symbol. -/
def refuse {α : Type} : Scanner α
  | [] => .unfinished
  | s => .invalid s

/-- The next symbol, without taking it. -/
def next : Scanner Symbol
  | [] => .unfinished
  | s :: rest => .found s (s :: rest)

/-- Takes the next symbol. -/
def skip : Scanner Unit
  | [] => .unfinished
  | _ :: rest => .found () rest

/-- Takes the next symbol, which has to be the given character. -/
def exactly (c : Char) : Scanner Unit
  | [] => .unfinished
  | s :: rest => if s.is c then .found () rest else .invalid (s :: rest)

/-- The input here. -/
def here : Scanner Symbols := fun s => .found s s

/-- Passes over spaces. -/
def spaces : Scanner Unit := fun s => .found () s.dropSpaces

/-- Refuses an input that ends here or within a character. -/
def continues : Scanner Unit
  | [] => .unfinished
  | .cut :: _ => .cut
  | s => .found () s

/-- A character that begins a name. -/
def nameStart : Scanner CodePoint
  | [] => .unfinished
  | .cut :: _ => .cut
  | .malformed :: s => .invalid (.malformed :: s)
  | .char c :: s => if c.isNameStart then .found c s else .invalid (.char c :: s)

/-- The name characters here, if the input goes on after them. -/
def nameEnd : Scanner Text := fun s =>
  match continues s.nameRun.2 with
  | .found _ rest => .found s.nameRun.1 rest
  | .invalid place => .invalid place
  | .unfinished => .unfinished
  | .cut => .cut

/-- A name without a colon. -/
def name : Scanner Text := do
  let c ← nameStart
  return c :: (← nameEnd)

/-- A name with at most one colon, which stands between two names. -/
def qualifiedName : Scanner Text := do
  let first ← name
  if (← next).is ':' then
    skip
    let second ← name
    if (← next).is ':' then refuse
    return first ++ CodePoint.ofChar ':' :: second
  else return first

end Scanner

/-- What an ampersand begins. -/
inductive Reference
  /-- A character by its number, if there is a character with that number. -/
  | character (c : Option CodePoint)
  /-- An entity by its name. -/
  | entity (name : Text)
  deriving DecidableEq

/-- The value of a hexadecimal digit of markup. -/
def markupDigit? (hexadecimal : Bool) (c : CodePoint) : Option Nat :=
  if hexadecimal then c.hexDigit? else
    if c.isAsciiDigit then some (c.val - 0x30) else none

/-- The number that digits and a semicolon spell, after digits that spell `n`. -/
def numberEnd (hexadecimal : Bool) : (n : Nat) → Symbols → Scan Nat
  | _, [] => .unfinished
  | n, .char c :: s =>
    if c = ';' then .found n s
    else
      match markupDigit? hexadecimal c with
      | some d => numberEnd hexadecimal ((if hexadecimal then 16 else 10) * n + d) s
      | none => .invalid (.char c :: s)
  | _, s => .invalid s

/-- The number that at least one digit and a semicolon spell. -/
def characterNumber (hexadecimal : Bool) : Scanner Nat
  | [] => .unfinished
  | .char c :: s =>
    match markupDigit? hexadecimal c with
    | some d => numberEnd hexadecimal d s
    | none => .invalid (.char c :: s)
  | s => .invalid s

/-- What follows an ampersand, up to the semicolon. -/
def Reference.scan : Scanner Reference := do
  if (← Scanner.next).is '#' then
    Scanner.skip
    let hexadecimal := (← Scanner.next).is 'x'
    if hexadecimal then Scanner.skip
    let n ← characterNumber hexadecimal
    return .character (if isMarkupChar n then some (CodePoint.ofNat n) else none)
  else
    let name ← Scanner.name
    Scanner.exactly ';'
    return .entity name

/-- The rest of a comment after its opening. -/
def commentEnd : Symbols → Scan Unit
  | [] => .unfinished
  | .malformed :: s => .invalid (.malformed :: s)
  | .cut :: _ => .cut
  | .char c :: s =>
    if c = '-' ∧ Symbols.nextIs '-' s then
      match s with
      | _ :: t :: rest => if t.is '>' then .found () rest else .invalid (t :: rest)
      | _ => .unfinished
    else commentEnd s

/-- A comment after `<!-`. -/
def comment : Scanner Unit := do
  Scanner.exactly '-'
  commentEnd

/-- The rest of a processing instruction after its target: what comes before its closing, and the
input from the closing on. -/
def instructionEnd (before : Symbols) : Symbols → Scan (Symbols × Symbols)
  | [] => .unfinished
  | .malformed :: s => .invalid (.malformed :: s)
  | .cut :: _ => .cut
  | .char c :: s =>
    if c = '?' then
      match s with
      | [] => .unfinished
      | t :: rest =>
        if t.is '>' then .found (before.reverse, .char c :: t :: rest) rest
        else instructionEnd (.char c :: before) s
    else instructionEnd (.char c :: before) s

/-- A processing instruction, or the declaration of the markup, which looks like one. -/
inductive Instruction
  /-- An instruction that is passed over. -/
  | other
  /-- The declaration, with what stands in it and the input from its closing on. -/
  | declaration (body closing : Symbols)

/-- The kind of an instruction by its target; the name of the declaration in another case is
refused. -/
def instructionKind? (target : Text) : Option Bool :=
  if target = text "xml" then some true
  else if target.map (fun c => if c.isAsciiLetter then c.val % 0x20 else 0) =
      [0x18, 0x0D, 0x0C] then none
  else some false

/-- A processing instruction after `<?`. -/
def Instruction.scan : Scanner Instruction := do
  let target ← Scanner.name
  let next ← Scanner.next
  match instructionKind? target with
  | none => Scanner.refuse
  | some isDeclaration =>
    if next.isSpace then
      let (body, closing) ← instructionEnd []
      return if isDeclaration then .declaration body closing else .other
    else if next.is '?' then
      let place ← Scanner.here
      Scanner.skip
      Scanner.exactly '>'
      return if isDeclaration then .declaration [] place else .other
    else Scanner.refuse

/-- An attribute as it is written. -/
structure RawAttribute where
  /-- The name. -/
  name : Text
  /-- The input from the name on. -/
  place : Symbols
  /-- What stands between the quotation marks. -/
  value : Symbols
  /-- The input from the closing quotation mark on. -/
  after : Symbols

/-- A start tag as it is written. -/
structure Tag where
  /-- The name. -/
  name : Text
  /-- The attributes. -/
  attributes : List RawAttribute
  /-- Whether the element ends with the tag. -/
  isEmpty : Bool

/-- The value of an attribute up to the quotation mark. References have to be whole. -/
def attributeEnd (mark : CodePoint) (before : Symbols) : Symbols → Scan (Symbols × Symbols)
  | [] => .unfinished
  | .malformed :: s => .invalid (.malformed :: s)
  | .cut :: _ => .cut
  | .char c :: s =>
    if c = mark then .found (before.reverse, .char c :: s) s
    else if c = '<' then .invalid (.char c :: s)
    else if c = '&' then
      match Reference.scan s with
      | .found _ _ => attributeEnd mark (.char c :: before) s
      | .invalid place => .invalid place
      | .unfinished => .unfinished
      | .cut => .cut
    else attributeEnd mark (.char c :: before) s

/-- One attribute. -/
def RawAttribute.scan : Scanner RawAttribute := do
  let place ← Scanner.here
  let name ← Scanner.qualifiedName
  Scanner.spaces
  Scanner.exactly '='
  Scanner.spaces
  let mark ← Scanner.next
  if mark = .char .doubleQuote || mark = .char .singleQuote then
    Scanner.skip
    let (value, after) ← attributeEnd
      (if mark = .char .doubleQuote then .doubleQuote else .singleQuote) []
    return ⟨name, place, value, after⟩
  else Scanner.refuse

/-- The end of a start tag after the slash or at the angle. -/
def tagEnd (next : Symbol) : Scanner Bool := do
  Scanner.skip
  if next.is '/' then
    Scanner.exactly '>'
    return true
  else return false

/-- The attributes of a tag and whether the element ends with it. Spaces stand between attributes.
At most `fuel` attributes are read. -/
def tagAttributes : (fuel : Nat) → Scanner (List RawAttribute × Bool)
  | 0 => Scanner.refuse
  | fuel + 1 => do
    let first ← RawAttribute.scan
    let next ← Scanner.next
    if next.is '>' || next.is '/' then return ([first], ← tagEnd next)
    else if next.isSpace then
      Scanner.spaces
      let next ← Scanner.next
      if next.is '>' || next.is '/' then return ([first], ← tagEnd next)
      else
        let (others, isEmpty) ← tagAttributes fuel
        return (first :: others, isEmpty)
    else Scanner.refuse

/-- A start tag after `<`, with at most `fuel` attributes. -/
def Tag.scan (fuel : Nat) : Scanner Tag := do
  let name ← Scanner.qualifiedName
  let next ← Scanner.next
  if next.is '>' || next.is '/' then return ⟨name, [], ← tagEnd next⟩
  else if next.isSpace then
    Scanner.spaces
    let next ← Scanner.next
    if next.is '>' || next.is '/' then return ⟨name, [], ← tagEnd next⟩
    else
      let (attributes, isEmpty) ← tagAttributes fuel
      return ⟨name, attributes, isEmpty⟩
  else Scanner.refuse

/-- The name characters and colons here. -/
def endTagRun : Symbols → Text × Symbols
  | .char c :: s =>
    if c.isNameChar || c = ':' then (c :: (endTagRun s).1, (endTagRun s).2) else ([], .char c :: s)
  | s => ([], s)

/-- The name of an end tag after `</`. -/
def endTag : Scanner Text := do
  let c ← Scanner.nameStart
  let run := endTagRun (← Scanner.here)
  (fun _ => Scan.found () run.2)
  Scanner.continues
  Scanner.spaces
  Scanner.exactly '>'
  return c :: run.1

/-- The text of a section of character data, and what follows the section. Carriage returns become
line feeds. -/
def sectionText (before : Text) : Symbols → Except (MarkupFault × Nat) (Text × Symbols)
  | [] => .error (.unclosedSection, 0)
  | .malformed :: s => .error (.invalidToken, s.length + 1)
  | .cut :: s => .error (.partialCharacter, s.length + 1)
  | .char c :: s =>
    if c = ']' then
      match s with
      | [] => .error (.unclosedSection, 1)
      | t :: s' =>
        if t.is ']' then
          match s' with
          | [] => .error (.unclosedSection, 2)
          | u :: rest => if u.is '>' then .ok (before.reverse, rest) else sectionText (c :: before) s
        else sectionText (c :: before) s
    else if c = '\r' then
      match s with
      | [] => .error (.unclosedSection, 1)
      | t :: _ => sectionText (if t.is '\n' then before else '\n' :: before) s
    else sectionText (c :: before) s

end ConfigNamespace
