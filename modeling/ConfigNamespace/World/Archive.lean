import ConfigNamespace.Text.Search
import ConfigNamespace.Text.CodePoint

/-!
# Archives

An archive is a list of named contents. A name that ends in a slash is a directory, and so is every
beginning of a name before a slash. Names are compared as they are written.
-/

namespace ConfigNamespace

/-- The names of an archive with their contents. -/
structure Archive where
  /-- The names with their contents, in order. -/
  entries : List (Text × List UInt8)

namespace Archive

/-- A name as an archive keeps it: what stands before a null character. -/
def storedName (name : Text) : Text := name.takeWhile fun c => c.val ≠ 0

/-- The archive of the given entries. -/
def ofEntries (entries : List (Text × List UInt8)) : Archive :=
  ⟨entries.map fun entry => (storedName entry.1, entry.2)⟩

/-- What stands before the last slash of a name without slashes at its end; nothing if there is no
slash or only slashes stand there. -/
def parent? (name : Text) : Option Text :=
  match Text.breakAt? '/' (Text.trimEndChar '/' name).reverse with
  | none => none
  | some (_, rest) =>
    match Text.trimEndChar '/' rest.reverse with
    | [] => none
    | path => some path

/-- The names of the directories above a name, the nearest first, at most `fuel` of them. -/
def parents : (fuel : Nat) → Text → List Text
  | 0, _ => []
  | fuel + 1, name =>
    match parent? name with
    | some path => path :: parents fuel path
    | none => []

/-- Whether a name stands in an archive, by itself or as a directory above another name. -/
def has (a : Archive) (name : Text) : Bool :=
  a.entries.any fun entry =>
    entry.1 = name || (parents entry.1.length entry.1).any fun path => path ++ text "/" = name

/-- The name by which a path is found: the path itself, or the directory of that name. -/
def resolve? (a : Archive) (path : Text) : Option Text :=
  if a.has path then some path
  else if a.has (path ++ text "/") then some (path ++ text "/")
  else none

/-- The content of a name that is no directory; of several entries, that of the last. -/
def content? (a : Archive) (name : Text) : Option (List UInt8) :=
  if Text.endsWith name (text "/") then none
  else (a.entries.reverse.find? fun entry => entry.1 = name).map (·.2)

end Archive

end ConfigNamespace
