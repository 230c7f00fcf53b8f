import ConfigNamespace.Markup.Declaration
import ConfigNamespace.Markup.Element
import ConfigNamespace.Markup.Input

/-!
# Reading a document in markup

The bytes of a document become symbols, the declaration at its start may change their encoding, and
then the prolog, the element and what follows it are read in turn.
-/

namespace ConfigNamespace

/-- A document as symbols: all of them, those after the declaration, and what the declaration
says. -/
structure MarkupInput where
  /-- All symbols of the document. -/
  whole : Symbols
  /-- The symbols that have not been read. -/
  rest : Symbols
  /-- Whether the document has a declaration. -/
  isDeclared : Bool
  /-- Whether it says that it stands alone. -/
  standalone : Bool
  /-- Whether half a unit is left at the end of the document. -/
  hasHalfUnit : Bool

/-- A fault with the given number of symbols left. -/
def MarkupError.at_ (whole : Symbols) (fault : MarkupFault × Nat) : MarkupError :=
  .fault fault.1 (TextPosition.after ⟨1, 0⟩ (whole.take (whole.length - fault.2)))

/-- Reads the declaration whose body is given, and decodes what follows it anew. `front` holds the
bytes up to the end of the declaration and `bytes` those after it. Places count in symbols of the
declared encoding, in front of the declaration too. -/
def MarkupInput.declared (encoding : MarkupEncoding) (whole body closing : Symbols)
    (front bytes : List UInt8) (rest : Symbols) : Except MarkupError MarkupInput :=
  match MarkupDeclaration.read body with
  | .error place => .error (.at_ whole (.malformedDeclaration, place.length + closing.length))
  | .ok declaration =>
    match declaration.encoding with
    | none =>
      .ok ⟨whole, rest, true, declaration.standalone, encoding.unit = 2 && bytes.length % 2 = 1⟩
    | some (name, place) =>
      match encoding.redeclare name with
      | .refused fault => .error (.at_ whole (fault, place.length + closing.length))
      | .failed error => .error error
      | .known encoding' =>
        let rest := encoding'.symbols bytes
        .ok ⟨encoding'.symbols front ++ rest, rest, true, declaration.standalone,
          encoding'.unit = 2 && bytes.length % 2 = 1⟩

/-- The symbols of a document. A mark of the byte order counts as one of them. -/
def MarkupInput.ofBytes (bytes : List UInt8) : Except MarkupError MarkupInput :=
  match MarkupEncoding.detect? bytes with
  | none => .error (.fault .unclosedToken ⟨1, 0⟩)
  | some (encoding, markSize) =>
    let mark : Symbols := if markSize = 0 then [] else [.char (CodePoint.ofNat 0xFEFF)]
    let content := bytes.drop markSize
    let symbols := encoding.symbols content
    let whole := mark ++ symbols
    let plain : MarkupInput :=
      ⟨whole, symbols, false, false, encoding.unit = 2 && content.length % 2 = 1⟩
    match Symbols.dropWord? (text "<?xml") symbols with
    | none => .ok plain
    | some _ =>
      match Instruction.scan (symbols.drop 2) with
      | .found (.declaration body closing) rest =>
        let size := markSize + (symbols.length - rest.length) * encoding.unit
        MarkupInput.declared encoding whole body closing (bytes.take size) (bytes.drop size) rest
      | _ => .ok plain

/-- Reads a document: the tree of its elements. -/
def readMarkup (bytes : List UInt8) : Except MarkupError Element :=
  match MarkupInput.ofBytes bytes with
  | .error error => .error error
  | .ok input =>
    let atEnd (fault : MarkupFault × Nat) : MarkupError :=
      MarkupError.at_ input.whole
        (if input.hasHalfUnit ∧ fault = (.noElement, 0) then (.unclosedToken, 0) else fault)
    match readProlog (input.rest.length + 1) (if input.isDeclared then .beforeType else .start)
        (.start input.standalone) input.rest with
    | .error fault => .error (atEnd fault)
    | .ok (type, rest) =>
      match readDocumentElement type rest with
      | .error fault => .error (atEnd fault)
      | .ok (state, rest) =>
        match state.unseen, readEpilog (rest.length + 1) rest with
        | some fault, _ => .error (MarkupError.at_ input.whole fault)
        | none, .error fault => .error (MarkupError.at_ input.whole fault)
        | none, .ok () =>
          if input.hasHalfUnit then .error (MarkupError.at_ input.whole (.unclosedToken, 0))
          else
            match Element.ofEvents? state.events.reverse with
            | some root => .ok root
            | none => .error (MarkupError.at_ input.whole (.noElement, 0))

end ConfigNamespace
