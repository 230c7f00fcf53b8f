import ConfigNamespace.Text.CodePoint

/-!
# Searching and splitting texts

Splitting takes the leftmost occurrences of a separator that do not overlap. All functions run
down the text once, so statements about them go by induction on the text.
-/

namespace ConfigNamespace.Text

/-- What follows `start` in a text that begins with it. -/
def dropStart? : (start : Text) → Text → Option Text
  | [], s => some s
  | _ :: _, [] => none
  | a :: start, b :: s => if a = b then dropStart? start s else none

/-- Whether a text begins with `start`. -/
def startsWith (s start : Text) : Bool := (dropStart? start s).isSome

/-- Whether a text ends with `final`. -/
def endsWith (s final : Text) : Bool := startsWith s.reverse final.reverse

/-- Whether a text holds `part` somewhere. -/
def contains (part : Text) : Text → Bool
  | [] => startsWith [] part
  | c :: s => startsWith (c :: s) part || contains part s

/-- The text before the first occurrence of `part`, and the text after it. -/
def breakOn? (part : Text) : Text → Option (Text × Text)
  | [] => (dropStart? part []).map fun rest => ([], rest)
  | c :: s =>
    match dropStart? part (c :: s) with
    | some rest => some ([], rest)
    | none => (breakOn? part s).map fun (before, after) => (c :: before, after)

/-- The text before the first character equal to `c`, and the text after it. -/
def breakAt? (c : CodePoint) : Text → Option (Text × Text)
  | [] => none
  | a :: s => if a = c then some ([], s) else (breakAt? c s).map fun (b, r) => (a :: b, r)

/-- Puts a character in front of the first of several pieces. -/
def consFirst (c : CodePoint) : List Text → List Text
  | [] => [[c]]
  | piece :: pieces => (c :: piece) :: pieces

/-- The pieces of a text after `skip` of its characters, cut at every occurrence of the separator.
The skipped characters are the rest of a separator found before. -/
def piecesFrom (separator : Text) : (skip : Nat) → Text → List Text
  | _, [] => [[]]
  | skip + 1, _ :: s => piecesFrom separator skip s
  | 0, c :: s =>
    if startsWith (c :: s) separator then [] :: piecesFrom separator (separator.length - 1) s
    else consFirst c (piecesFrom separator 0 s)

/-- The pieces of a text between the leftmost occurrences of a non-empty separator. -/
def pieces (separator s : Text) : List Text := piecesFrom separator 0 s

/-- The pieces with the separator between each two. -/
def joinWith (separator : Text) : List Text → Text
  | [] => []
  | [piece] => piece
  | piece :: pieces => piece ++ separator ++ joinWith separator pieces

/-- What follows the last occurrence of `part`, counting from the end. -/
def afterLast? (part : Text) : Text → Option Text
  | [] => none
  | c :: s =>
    match afterLast? part s with
    | some rest => some rest
    | none => dropStart? part (c :: s)

/-- The text with every `c` replaced by `by_`. -/
def replaceChar (c : CodePoint) (replacement : Text) (s : Text) : Text :=
  s.flatMap fun a => if a = c then replacement else [a]

/-- The text without the characters `c` at its end. -/
def trimEndChar (c : CodePoint) (s : Text) : Text := (s.reverse.dropWhile (· = c)).reverse

/-- The text without the characters `c` at its start. -/
def trimStartChar (c : CodePoint) (s : Text) : Text := s.dropWhile (· = c)

end ConfigNamespace.Text
