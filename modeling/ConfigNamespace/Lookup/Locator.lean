import ConfigNamespace.Environment
import ConfigNamespace.Lookup.Backend

/-!
# Locators

A locator classifies the segments of a key. Beneath a base, a segment names a container, a document
with one of the registered extensions, or nothing; a container goes first. Where a backend cannot
tell containers, whatever does not read as a document counts as one.
-/

namespace ConfigNamespace

/-- A view of the world through a backend, with the parsers for what is found. -/
structure Locator where
  /-- The way of reaching resources. -/
  backend : Backend
  /-- The parsers of documents. -/
  parsers : ParserRegistry
  /-- The world that is looked at. -/
  world : World

namespace Locator

/-- The backend of a protocol in an environment. -/
def backendFor (e : Environment) : Protocol → Backend
  | .localPath => .localPath
  | .bundled => .bundled e.searchPath
  | .remote => .remote e.timeout

/-- The handle of a name beneath a base. -/
def child (l : Locator) (base name : Text) : Operation Session ResourceHandle :=
  Operation.ofExcept (l.backend.child base name)

/-- Whether a resource exists. -/
def isPresent (l : Locator) (h : ResourceHandle) : Operation Session Bool := do
  Session.visit .existence h
  l.backend.isPresent l.world h

/-- The content of a resource. -/
def read (l : Locator) (h : ResourceHandle) : Operation Session (List UInt8) := do
  Session.visit .content h
  l.backend.read l.world h

/-- Reads and parses the document at a handle. -/
def readDocument (l : Locator) (h : ResourceHandle) (delimiter : Text) :
    Operation Session Document := do
  let content ← l.read h
  let raw ← Operation.ofExcept (l.parsers.parse h.name delimiter content)
  Operation.ofExcept (Document.ofRaw h raw)

/-- The document at a handle. It is read once and then served from the cache; what cannot be read is
tried again. -/
def load (l : Locator) (h : ResourceHandle) (delimiter : Text) : Operation Session Document := do
  match (← get).cache.get? ⟨h, delimiter⟩ with
  | some d => pure d
  | none =>
    let d ← l.readDocument h delimiter
    modify fun s => s.withCache (s.cache.add ⟨h, delimiter⟩ d)
    Session.note .debug .documents (text "Parsed " ++ h.location ++ text " keys=" ++
      Text.ofNat d.entries.length)
    pure d

/-- The first existing document of a name, trying extensions in turn. -/
def firstDocument (l : Locator) (base name : Text) :
    (extensions : List Text) → Operation Session (Option ResourceHandle)
  | [] => pure none
  | extension :: extensions => do
    let h ← l.child base (name ++ extension)
    if ← l.isPresent h then pure (some h) else firstDocument l base name extensions

/-- The document of a name beneath a base. -/
def locateDocument (l : Locator) (base name : Text) : Operation Session (Option ResourceHandle) :=
  l.firstDocument base name l.parsers.order

/-- Whether a resource that was read as a document is a listing of resources: it has no entries, or
only keys that begin as markup does. -/
def isListing (d : Document) : Bool :=
  d.entries.all fun entry => Text.startsWith entry.1 (text "<")

/-- Whether a resource is a container, as far as reading it as a document tells. A timeout tells
nothing. -/
def seemsContainer (l : Locator) (h : ResourceHandle) (delimiter : Text) :
    Operation Session Bool := do
  match ← (l.load h delimiter).attempt with
  | .ok d =>
    if d.entries = [] then do
      Session.note .debug .locator (h.render ++ text " parsed empty; assuming container")
      pure true
    else if isListing d then do
      Session.note .warning .locator
        (h.render ++ text " parsed as markup listing only; assuming container")
      pure true
    else pure false
  | .error failure =>
    if failure.kind ≠ .resolutionTimeout && (failure.isNaming || failure.kind = .system) then do
      Session.note .debug .locator (h.render ++ text " not readable as a document (" ++
        failure.message ++ text "); assuming container")
      pure true
    else throw failure

/-- Whether a resource is a container. -/
def isContainer (l : Locator) (h : ResourceHandle) (delimiter : Text) : Operation Session Bool := do
  Session.visit .kind h
  match l.backend with
  | .localPath => do
    match ← Operation.ofExcept (Backend.lookAt l.world (.ofText h.location)) with
    | some t => pure t.isDirectory
    | none => pure false
  | .unprovided => throw .notProvided
  | _ => l.seemsContainer h delimiter

/-- What a segment names beneath a base. -/
def probe (l : Locator) (base segment delimiter : Text) :
    Operation Session (Location × Option ResourceHandle) := do
  if !isPlainSegment segment then
    Session.note .warning .locator (text "Segment " ++ segment.quoted ++
      text " cannot name a resource beneath " ++ base.quoted ++ text "; treated as absent")
    pure (.absent, none)
  else
    let bare ← l.child base segment
    let container ← do
      if ← l.isPresent bare then l.isContainer bare delimiter else pure false
    if container then pure (.container, some bare)
    else
      match ← l.locateDocument base segment with
      | some h => pure (.leaf, some h)
      | none => pure (.absent, none)

/-- The handle of what a segment names beneath a base. -/
def locate (l : Locator) (base segment delimiter : Text) :
    Operation Session (Option ResourceHandle) :=
  return (← l.probe base segment delimiter).2

end Locator

end ConfigNamespace
