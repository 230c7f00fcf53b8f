import ConfigNamespace.Markup.Token

/-!
# The declaration of the markup

A document may begin with a declaration of its version, its encoding and whether it stands alone,
in this order. Only the version has to be there.
-/

namespace ConfigNamespace

/-- A name with a value, as it stands in a declaration. -/
structure PseudoAttribute where
  /-- The name. -/
  name : Text
  /-- The declaration from the name on. -/
  namePlace : Symbols
  /-- The value. -/
  value : Text
  /-- The declaration from the value on. -/
  valuePlace : Symbols
  /-- What follows. -/
  rest : Symbols

namespace PseudoAttribute

/-- The name at the front, up to an equals sign or a space. -/
def readName : Symbols → Except Symbols (Text × Symbols)
  | .char c :: s =>
    if 0x80 ≤ c.val then .error (.char c :: s)
    else if c = '=' ∨ c.isMarkupSpace then .ok ([], .char c :: s)
    else
      match readName s with
      | .ok (name, rest) => .ok (c :: name, rest)
      | .error place => .error place
  | s => .error s

/-- The value at the front, up to the quotation mark. -/
def readValue (mark : CodePoint) : Symbols → Except Symbols (Text × Symbols)
  | .char c :: s =>
    if c = mark then .ok ([], s)
    else if c.isAsciiLetter || c.isAsciiDigit || c = '.' || c = '-' || c = '_' then
      match readValue mark s with
      | .ok (value, rest) => .ok (c :: value, rest)
      | .error place => .error place
    else .error (.char c :: s)
  | s => .error s

/-- Reads a name with a value after at least one space. At the end of the declaration there is none;
otherwise the result of a failure is the place of the fault. -/
def read (s : Symbols) : Except Symbols (Option PseudoAttribute) :=
  match s with
  | [] => .ok none
  | first :: _ =>
    if !first.isSpace then .error s
    else
      match s.dropSpaces with
      | [] => .ok none
      | namePlace => do
        let (name, rest) ← readName namePlace
        let rest := Symbols.dropSpaces rest
        if !rest.nextIs '=' || name = [] then .error rest
        else
          match Symbols.dropSpaces rest.tail with
          | .char mark :: valuePlace =>
            if mark = .doubleQuote ∨ mark = .singleQuote then
              let (value, rest) ← readValue mark valuePlace
              return some ⟨name, namePlace, value, valuePlace, rest⟩
            else .error (.char mark :: valuePlace)
          | place => .error place

end PseudoAttribute

/-- What the declaration of a document says. -/
structure MarkupDeclaration where
  /-- The name of the encoding, and the declaration from that name on. -/
  encoding : Option (Text × Symbols)
  /-- Whether the document stands alone. -/
  standalone : Bool

/-- Reads whether a document stands alone, at the end of its declaration. -/
def MarkupDeclaration.readStandalone (encoding : Option (Text × Symbols)) :
    Option PseudoAttribute → Except Symbols MarkupDeclaration
  | none => .ok ⟨encoding, false⟩
  | some attr =>
    if attr.name ≠ text "standalone" then .error attr.namePlace
    else if attr.value ≠ text "yes" ∧ attr.value ≠ text "no" then .error attr.valuePlace
    else
      match attr.rest.dropSpaces with
      | [] => .ok ⟨encoding, attr.value = text "yes"⟩
      | place => .error place

/-- Reads the body of a declaration. -/
def MarkupDeclaration.read (body : Symbols) : Except Symbols MarkupDeclaration := do
  match ← PseudoAttribute.read body with
  | none => .error body
  | some version =>
    if version.name ≠ text "version" then .error version.namePlace
    else
      let next ← PseudoAttribute.read version.rest
      match next with
      | none => return ⟨none, false⟩
      | some attr =>
        if attr.name = text "encoding" then
          if (attr.value.head?.map CodePoint.isAsciiLetter).getD false then
            let last ← PseudoAttribute.read attr.rest
            readStandalone (some (attr.value, attr.valuePlace)) last
          else .error attr.valuePlace
        else readStandalone none next

end ConfigNamespace
