import ConfigNamespace.Failure
import ConfigNamespace.Text.Case
import ConfigNamespace.Text.Search

/-!
# Keys

A key names a path: its segments stand between delimiters, and empty segments do not count. An
older notation puts a scheme with a colon in front; it is the same path with the scheme as its
first segment.
-/

namespace ConfigNamespace

/-- The segments of a key, for a delimiter that is not empty. -/
def keySegments (delimiter key : Text) : List Text :=
  (Text.pieces delimiter key).filter fun segment => segment ≠ []

/-- The segments of a key; an empty delimiter cuts nothing. -/
def splitKey (delimiter key : Text) : Except Failure (List Text) :=
  if delimiter = [] then .error .emptyDelimiter else .ok (keySegments delimiter key)

/-- The key that consists of the given segments. -/
def joinKey (delimiter : Text) (segments : List Text) : Text := Text.joinWith delimiter segments

/-- Whether a character may stand in a scheme after its first letter. -/
def isSchemeChar (c : CodePoint) : Bool :=
  c.isAsciiLetter || c.isAsciiDigit || c = '_' || c = '+' || c = '-'

/-- Whether a text is the name of a scheme: a letter, then letters, digits and a few signs. -/
def isScheme : Text → Bool
  | [] => false
  | c :: s => c.isAsciiLetter && s.all isSchemeChar

/-- The scheme at the front of a key and what follows its colon. -/
def splitScheme? (key : Text) : Option (Text × Text) :=
  match Text.breakAt? ':' key with
  | some (scheme, rest) => if isScheme scheme then some (scheme, rest) else none
  | none => none

/-- A key without the scheme notation. Only a colon at the end, before a slash or before the
delimiter belongs to that notation. -/
def normalizeKey (delimiter key : Text) : Text :=
  match splitScheme? key with
  | none => key
  | some (scheme, []) => scheme
  | some (scheme, c :: rest) =>
    if c = '/' then
      match Text.trimStartChar '/' rest with
      | [] => scheme
      | path => scheme ++ delimiter ++ Text.replaceChar '/' delimiter path
    else if Text.startsWith (c :: rest) delimiter then scheme ++ c :: rest
    else key

/-- The words that mark a name as one of a secret. -/
def secretWords : List Text :=
  [text "secret", text "password", text "token", text "passwd", text "api_key", text "credential"]

/-- Whether the value under a name is kept out of the log. -/
def isSecretName (name : Text) : Bool := secretWords.any fun word => Text.contains word name.toLower

end ConfigNamespace
