import ConfigNamespace.Text.Search
import ConfigNamespace.Text.Case

/-!
# Resource handles

A handle says where a resource lives: under which protocol and at which location. Segments of a
key that could leave the place where they are looked up are not plain.
-/

namespace ConfigNamespace

/-- The ways of reaching resources. -/
inductive Protocol
  /-- Files below a directory. -/
  | localPath
  /-- Files in the directories and archives of a search path. -/
  | bundled
  /-- Pages of a server. -/
  | remote
  deriving DecidableEq, Repr

/-- The name of a protocol in messages. -/
def Protocol.name : Protocol → String
  | .localPath => "LOCAL_PATH"
  | .bundled => "BUNDLED"
  | .remote => "REMOTE"

/-- The scheme that stands for a protocol in the text of a handle. -/
def Protocol.scheme : Protocol → String
  | .localPath => "file"
  | .bundled => "classpath"
  | .remote => "http"

/-- The protocol of the given name. -/
def Protocol.ofName? (name : String) : Option Protocol :=
  [localPath, bundled, remote].find? (·.name == name)

/-- What a segment turns out to be beneath a base. -/
inductive Location
  /-- Something that holds further resources. -/
  | container
  /-- A document. -/
  | leaf
  /-- Nothing. -/
  | absent
  deriving DecidableEq, Repr

/-- The name of a kind of location in messages. -/
def Location.name : Location → String
  | .container => "CONTAINER"
  | .leaf => "LEAF"
  | .absent => "ABSENT"

/-- The word that stands for a kind of location. -/
def Location.word : Location → String
  | .container => "container"
  | .leaf => "leaf"
  | .absent => "absent"

/-- Where a resource lives. -/
structure ResourceHandle where
  /-- How the resource is reached. -/
  protocol : Protocol
  /-- The place under that protocol. -/
  location : Text
  deriving DecidableEq

namespace ResourceHandle

/-- The last name of the location. Backslashes separate names as slashes do, but only slashes at
the end are passed over. -/
def name (h : ResourceHandle) : Text :=
  let path := Text.replaceChar .backslash ['/'] (Text.trimEndChar '/' h.location)
  (Text.afterLast? ['/'] path).getD path

/-- The lower case of the last dot of the name and what follows it. A dot that begins the name
begins no extension. -/
def extension (h : ResourceHandle) : Text :=
  match Text.afterLast? ['.'] h.name with
  | some after =>
    if after.length + 1 < h.name.length then Text.toLower ('.' :: after) else []
  | none => []

/-- The text of a handle: scheme and location. -/
def render (h : ResourceHandle) : Text := text h.protocol.scheme ++ text ":" ++ h.location

end ResourceHandle

/-- Whether a segment names one entry directly beneath its parent. -/
def isPlainSegment (segment : Text) : Bool :=
  segment ≠ [] && segment ≠ text "." && segment ≠ text ".." &&
  !segment.any fun c => c = '/' || c = .backslash

end ConfigNamespace
