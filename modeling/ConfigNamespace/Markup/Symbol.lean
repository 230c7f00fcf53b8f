import ConfigNamespace.Markup.NameTable

/-!
# Symbols of markup

Markup is read as a row of symbols. A symbol is a character that markup may hold, or marks a place
where there is none: bytes that are no character, or a character that markup may not hold. The
last symbol may be a character that the input breaks off.
-/

namespace ConfigNamespace

/-- One symbol of the input. -/
inductive Symbol
  /-- A character that markup may hold. -/
  | char (c : CodePoint)
  /-- Something that markup may not hold. -/
  | malformed
  /-- The beginning of a character at the end of the input. -/
  | cut
  deriving DecidableEq

/-- A row of symbols. -/
abbrev Symbols := List Symbol

/-- Whether a number is that of a character that markup may hold. -/
def isMarkupChar (n : Nat) : Bool :=
  n == 0x09 || n == 0x0A || n == 0x0D || (0x20 ≤ n && n < 0xD800) ||
  (0xE000 ≤ n && n < 0xFFFE) || (0x10000 ≤ n && n < 0x110000)

/-- The symbol of the character with the given number. -/
def Symbol.ofNat (n : Nat) : Symbol :=
  if isMarkupChar n then .char (CodePoint.ofNat n) else .malformed

/-- The symbols of a text that holds only characters that markup may hold. -/
def Symbols.ofText (s : Text) : Symbols := s.map Symbol.char

/-- Whether a character separates words in markup. -/
def CodePoint.isMarkupSpace (c : CodePoint) : Bool :=
  c.val == 0x20 || c.val == 0x09 || c.val == 0x0A || c.val == 0x0D

/-- Whether a symbol is the given character. -/
def Symbol.is (s : Symbol) (c : Char) : Bool :=
  match s with
  | .char d => d = c
  | _ => false

/-- Whether a symbol separates words. -/
def Symbol.isSpace : Symbol → Bool
  | .char c => c.isMarkupSpace
  | _ => false

/-- Whether a symbol may begin a name. -/
def Symbol.isNameStart : Symbol → Bool
  | .char c => c.isNameStart
  | _ => false

/-- Whether a symbol may stand in a name. -/
def Symbol.isNameChar : Symbol → Bool
  | .char c => c.isNameChar
  | _ => false

namespace Symbols

/-- Whether the next symbol is the given character. -/
def nextIs (c : Char) : Symbols → Bool
  | s :: _ => s.is c
  | [] => false

/-- The rest after a keyword, if the symbols begin with it. -/
def dropWord? : Text → Symbols → Option Symbols
  | [], s => some s
  | c :: word, .char d :: s => if c = d then dropWord? word s else none
  | _, _ => none

/-- The name characters at the front, and what follows them. -/
def nameRun : Symbols → Text × Symbols
  | .char c :: s =>
    if c.isNameChar then (c :: (nameRun s).1, (nameRun s).2) else ([], .char c :: s)
  | s => ([], s)

/-- The symbols after the spaces at the front. -/
def dropSpaces (s : Symbols) : Symbols := s.dropWhile Symbol.isSpace

end Symbols

/-- A place in a text: line and column. Lines count from one and columns from zero. -/
structure TextPosition where
  /-- The line. -/
  line : Nat
  /-- The column. -/
  column : Nat
  deriving DecidableEq, Repr

/-- The place after the given symbols. A carriage return, a line feed, and the two together end a
line. -/
def TextPosition.after : TextPosition → Symbols → TextPosition
  | p, [] => p
  | p, s :: rest =>
    if s.is '\n' then after ⟨p.line + 1, 0⟩ rest
    else if s.is '\r' then
      match rest with
      | t :: rest' => if t.is '\n' then after ⟨p.line + 1, 0⟩ rest'
        else after ⟨p.line + 1, 0⟩ (t :: rest')
      | [] => ⟨p.line + 1, 0⟩
    else after ⟨p.line, p.column + 1⟩ rest

/-- The place in `whole` at which its tail `rest` begins. -/
def Symbols.position (whole rest : Symbols) : TextPosition :=
  TextPosition.after ⟨1, 0⟩ (whole.take (whole.length - rest.length))

end ConfigNamespace
