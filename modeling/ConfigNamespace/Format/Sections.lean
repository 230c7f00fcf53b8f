import ConfigNamespace.Document.Basic
import ConfigNamespace.Text.Blank

/-!
# Documents with sections

A header in square brackets begins a section, and the name of the section stands before the keys
that follow. Each other line declares a value under a key.
-/

namespace ConfigNamespace.Sections

/-- What a line of a document is. -/
inductive Line
  /-- A line that holds nothing or a comment. -/
  | passedOver
  /-- The header of a section. -/
  | header (name : Text)
  /-- A declaration. -/
  | entry (key value : Text)
  /-- A line that cannot be read. -/
  | faulty (fault : LineFault)
  deriving DecidableEq

/-- The name of a section by the rest of its header after the opening bracket. -/
def headerName? (rest : Text) : Option Text :=
  match rest.reverse with
  | c :: inner =>
    if c = ']' then
      let name := Text.trim inner.reverse
      if name = [] then none else some name
    else none
  | [] => none

/-- Splits a line at the first equals sign, or else at the first colon. -/
def splitEntry? (line : Text) : Option (Text × Text) :=
  match Text.breakAt? '=' line with
  | some parts => some parts
  | none => Text.breakAt? ':' line

/-- Reads a line that has been trimmed. -/
def readLine : Text → Line
  | [] => .passedOver
  | c :: s =>
    if c = ';' ∨ c = '#' then .passedOver
    else if c = '[' then
      match headerName? s with
      | some name => .header name
      | none => .faulty (.malformedSection (c :: s))
    else
      match splitEntry? (c :: s) with
      | none => .faulty (.notAssignment (c :: s))
      | some (key, value) =>
        if key.trim = [] then .faulty (.notAssignment (c :: s))
        else .entry key.trim value.trim

/-- The key of an entry within a section; the section without a name adds nothing. -/
def sectionKey (delimiter name key : Text) : Text :=
  if name = [] then key else name ++ delimiter ++ key

/-- The declarations of lines within a section. -/
def declarationsFrom (delimiter : Text) : (number : Nat) → (name : Text) → List Text →
    Except Failure (List (Text × Text))
  | _, _, [] => .ok []
  | number, name, raw :: rest =>
    match readLine raw.trim with
    | .passedOver => declarationsFrom delimiter (number + 1) name rest
    | .header name' => declarationsFrom delimiter (number + 1) name' rest
    | .faulty fault => .error (.line number fault)
    | .entry key value =>
      match declarationsFrom delimiter (number + 1) name rest with
      | .ok others => .ok ((sectionKey delimiter name key, value) :: others)
      | .error failure => .error failure

/-- The declarations of a document with sections. -/
def declarations (delimiter content : Text) : Except Failure (List (Text × Text)) :=
  declarationsFrom delimiter 1 [] content.lines

end ConfigNamespace.Sections
