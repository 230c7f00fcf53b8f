import ConfigNamespace.Lookup.Session
import ConfigNamespace.Text.Percent

/-!
# Backends

A backend reaches resources under one protocol: files of the working directory, files of a search
path of directories and archives, or pages of a server. It joins a base and a name to a handle, says
whether a resource exists, and reads its content.
-/

namespace ConfigNamespace

/-- A way of reaching resources. -/
inductive Backend
  /-- Files of the working directory. -/
  | localPath
  /-- Files of a search path, or of that of the process. -/
  | bundled (searchPath : Option (List Text))
  /-- Pages of servers. -/
  | remote (timeout : Quantity)
  /-- No way at all. -/
  | unprovided

namespace Backend

/-- The search path of a backend. -/
def searchPath (w : World) : Backend → List Text
  | bundled (some entries) => entries
  | _ => w.searchPath

/-- Something on a search path. -/
inductive SearchRoot
  /-- A directory. -/
  | directory (path : ResourcePath)
  /-- An open archive. -/
  | archive (archive : Archive)

/-- Where a resource of a search path was found. -/
inductive Target
  /-- A file or directory. -/
  | tree (t : FileTree)
  /-- A name of an archive. -/
  | entry (archive : Archive) (name : Text)

/-- What stands at a path; a failure if the path is too long. -/
def lookAt (w : World) (path : ResourcePath) : Except Failure (Option FileTree) :=
  match w.look path with
  | .missing => .ok none
  | .found t => .ok (some t)
  | .tooLong => .error (.pathTooLong path.render)

/-- The archive at a path: one that is open already stays as it was when it was opened. -/
def openArchive (path : Text) (entries : List (Text × List UInt8)) : Operation Session Archive := do
  match (← get).archives.get? path with
  | some archive => pure archive
  | none =>
    let archive := Archive.ofEntries entries
    modify fun s => { s with archives := Keyed.put path archive s.archives }
    pure archive

/-- The root that an entry of a search path stands for, if it stands for one. -/
def searchRoot? (w : World) (entry : Text) : Operation Session (Option SearchRoot) := do
  let path := ResourcePath.ofText entry
  match ← Operation.ofExcept (lookAt w path) with
  | some (.directory _) => pure (some (.directory path))
  | some (.file (.archive entries)) => do
    let archive ← openArchive path.render entries
    pure (some (.archive archive))
  | _ => pure none

/-- The place beneath a root that names lead to. -/
def targetIn? (w : World) (names : List Text) : SearchRoot → Except Failure (Option Target)
  | .directory path =>
    (lookAt w (path.append ⟨0, names.filter (· ≠ text ".")⟩)).map fun found => found.map Target.tree
  | .archive archive =>
    .ok ((archive.resolve? (Text.joinWith ['/'] names)).map fun name => .entry archive name)

/-- The first place on a search path that names lead to. -/
def search? (w : World) (names : List Text) : List Text → Operation Session (Option Target)
  | [] => pure none
  | entry :: entries => do
    match ← searchRoot? w entry with
    | none => search? w names entries
    | some root =>
      match ← Operation.ofExcept (targetIn? w names root) with
      | some target => pure (some target)
      | none => search? w names entries

/-- The first place on a search path for the location of a handle. -/
def find? (w : World) (entries : List Text) (location : Text) : Operation Session (Option Target) :=
  match (Text.pieces ['/'] location).filter (· ≠ []) with
  | [] => pure none
  | names => search? w names entries

/-- Asks the session of the world for a request. A status is an answer, whatever it is. -/
def request (w : World) (timeout : Quantity) (method : RequestMethod) (url : Text) :
    Operation Session Nat := do
  modify fun s => { s with requests := s.requests ++ [⟨method, url, timeout⟩] }
  match w.timeoutFault? timeout with
  | some reason => throw (.unusableTimeout reason)
  | none =>
    let page := w.page url
    match (match method with | .head => page.head | .get => page.get) with
    | .status code => pure code
    | .timeout => do
      Session.note .error .locator (text method.name ++ text " " ++ url ++
        text " timed out after " ++ timeout.render ++ text "s")
      throw (.timeout method.name url timeout.render)
    | .refused => throw (.unreachable url (url ++ text " refused"))

/-- The handle of a name beneath a base. In a URL there is no place for half of a surrogate pair. -/
def child (base name : Text) : Backend → Except Failure ResourceHandle
  | localPath =>
    .ok ⟨.localPath, if base = [] then name
      else ((ResourcePath.ofText base).append (.ofText name)).render⟩
  | bundled _ => .ok ⟨.bundled, if base = [] then name else base ++ text "/" ++ name⟩
  | remote _ =>
    if name.any CodePoint.isSurrogate then .error (.unencodable name)
    else .ok ⟨.remote, Text.trimEndChar '/' base ++ text "/" ++ percentEncode name⟩
  | unprovided => .error .notProvided

/-- Whether a resource exists. A server that does not answer a request for the head of a page is
asked for the page. -/
def isPresent (w : World) (h : ResourceHandle) : Backend → Operation Session Bool
  | localPath => do
    pure (← Operation.ofExcept (lookAt w (.ofText h.location))).isSome
  | b@(bundled _) => do pure (← find? w (b.searchPath w) h.location).isSome
  | remote timeout => do
    let asked ← request w timeout .head h.location
    let code ← if asked = 405 then request w timeout .get h.location else pure asked
    Session.note .debug .locator (text "HEAD " ++ h.location ++ text " -> " ++ Text.ofNat code)
    pure (code < 400)
  | unprovided => throw .notProvided

/-- The content of a found place. -/
def Target.read (location : Text) : Target → Except Failure (List UInt8)
  | tree (.file content) => .ok content.toBytes
  | tree (.directory _) => .error (.cannotOpen location)
  | entry archive name =>
    match archive.content? name with
    | some bytes => .ok bytes
    | none => .error (.cannotOpen location)

/-- The content of a resource. -/
def read (w : World) (h : ResourceHandle) : Backend → Operation Session (List UInt8)
  | localPath =>
    if h.location.elem (CodePoint.ofNat 0) then throw .nullInPath
    else
      match w.look (.ofText h.location) with
      | .found (.file content) => pure content.toBytes
      | _ => throw (.cannotOpen h.location)
  | b@(bundled _) => do
    match ← find? w (b.searchPath w) h.location with
    | none => throw (.notOnSearchPath h.location)
    | some target => Operation.ofExcept (target.read h.location)
  | remote timeout => do
    let code ← request w timeout .get h.location
    if code < 400 then pure (w.page h.location).body
    else throw (.refusedStatus h.location code)
  | unprovided => throw .notProvided

/-- Closes the archives that are open. -/
def closeArchives : Operation Session Unit := do
  let count := (← get).archives.length
  modify fun s => { s with archives := [] }
  if count ≠ 0 then
    Session.note .debug .locator (text "Closed " ++ Text.ofNat count ++ text " bundled archives")

end Backend

end ConfigNamespace
