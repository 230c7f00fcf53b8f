import ConfigNamespace.Document.Basic
import ConfigNamespace.Text.Blank

/-!
# Flat documents

A flat document has one declaration a line: a key, a separator and a value. A backslash escapes
what follows it, and at the end of a line it joins the next line to it.
-/

namespace ConfigNamespace.Properties

/-- A line with the number it has in its document. -/
abbrev NumberedLine := Nat × Text

/-- How many backslashes end a line. -/
def trailingBackslashes (line : Text) : Nat :=
  (line.reverse.takeWhile fun c => c = .backslash).length

/-- Whether a line goes on in the next one. -/
def isContinued (line : Text) : Bool := trailingBackslashes line % 2 = 1

/-- Whether a line holds nothing or a comment. -/
def isPassedOver : Text → Bool
  | [] => true
  | c :: _ => c = '#' || c = '!'

/-- Joins the lines of a document. `pending` is the number of the first of the lines that go on
here, with what they have come to. An end of a document closes a line that goes on, unless nothing
has come of it. Lines that hold nothing of their own are passed over where no line goes on. -/
def logicalLines : (number : Nat) → (pending : Option NumberedLine) → List Text →
    List NumberedLine
  | _, none, [] => []
  | _, some pending, [] => [pending]
  | number, none, raw :: rest =>
    let line := raw.trim
    if isPassedOver line then logicalLines (number + 1) none rest
    else if isContinued line then
      logicalLines (number + 1) (continued number line.dropLast) rest
    else (number, line) :: logicalLines (number + 1) none rest
  | number, some (start, before), raw :: rest =>
    let line := raw.trimStart.trimEnd
    if isContinued line then
      logicalLines (number + 1) (continued start (before ++ line.dropLast)) rest
    else (start, before ++ line) :: logicalLines (number + 1) none rest
where
  /-- What goes on in the next line; nothing does if nothing has come of it. -/
  continued (start : Nat) (before : Text) : Option NumberedLine :=
    if before = [] then none else some (start, before)

/-- Whether a character may separate a key from its value. -/
def isSeparator (c : CodePoint) : Bool := c = '=' || c = ':' || c.isBlank

/-- Splits a line at the first separator without a backslash before it: what comes before, the
separator, and what follows. -/
def breakAtSeparator? : (escaped : Bool) → Text → Option (Text × CodePoint × Text)
  | _, [] => none
  | escaped, c :: s =>
    if !escaped && isSeparator c then some ([], c, s)
    else
      match breakAtSeparator? (c = .backslash) s with
      | some (before, separator, after) => some (c :: before, separator, after)
      | none => none

/-- The key and the value of a line. Blanks before an equals sign or a colon belong to the
separator. -/
def splitLine (line : Text) : Text × Text :=
  match breakAtSeparator? false line with
  | none => (line, [])
  | some (key, separator, after) =>
    let rest := Text.trimStart after
    if separator.isBlank then
      match rest with
      | c :: rest' => if c = '=' ∨ c = ':' then (key, Text.trimStart rest') else (key, rest)
      | [] => (key, [])
    else (key, rest)

/-- The character that a letter stands for after a backslash. -/
def escaped (c : CodePoint) : CodePoint :=
  if c = 't' then '\t' else if c = 'n' then '\n' else if c = 'r' then '\r'
  else if c = 'f' then CodePoint.ofNat 0x0C else c

/-- The value of four hexadecimal digits. -/
def fourDigits? (a b c d : CodePoint) : Option Nat :=
  match a.hexDigit?, b.hexDigit?, c.hexDigit?, d.hexDigit? with
  | some a, some b, some c, some d => some (((a * 16 + b) * 16 + c) * 16 + d)
  | _, _, _, _ => none

/-- A key or a value without its escapes. A backslash at the end stands for itself. -/
def unescape? : Text → Option Text
  | [] => some []
  | c :: s =>
    if c = .backslash then
      match s with
      | [] => some [c]
      | e :: rest =>
        if e = 'u' then
          match rest with
          | h₁ :: h₂ :: h₃ :: h₄ :: rest' =>
            match fourDigits? h₁ h₂ h₃ h₄, unescape? rest' with
            | some n, some out => some (CodePoint.ofNat n :: out)
            | _, _ => none
          | _ => none
        else (unescape? rest).map (escaped e :: ·)
    else (unescape? s).map (c :: ·)

/-- The declaration of a line. -/
def declaration (line : NumberedLine) : Except Failure (Text × Text) :=
  let parts := splitLine line.2
  if parts.1 = [] then .error (.line line.1 (.missingKey line.2))
  else
    match unescape? parts.1, unescape? parts.2 with
    | none, _ => .error (.line line.1 (.malformedEscape parts.1))
    | _, none => .error (.line line.1 (.malformedEscape parts.2))
    | some key, some value => .ok (key, value)

/-- The declarations of all lines, or the failure of the first line that has none. -/
def declarationsOf : List NumberedLine → Except Failure (List (Text × Text))
  | [] => .ok []
  | line :: lines =>
    match declaration line with
    | .error failure => .error failure
    | .ok first =>
      match declarationsOf lines with
      | .error failure => .error failure
      | .ok others => .ok (first :: others)

/-- The declarations of a flat document. -/
def declarations (content : Text) : Except Failure (List (Text × Text)) :=
  declarationsOf (logicalLines 1 none content.lines)

end ConfigNamespace.Properties
