import ConfigNamespace.Document.Cache
import ConfigNamespace.Format.Parser
import ConfigNamespace.Log
import ConfigNamespace.Value.Quantity
import ConfigNamespace.World.Archive
import ConfigNamespace.World.Basic

/-!
# Sessions

A session is what lookups leave behind and may use again: parsed documents, open archives, the
requests that were made, the resources that were looked at, and the log.
-/

namespace ConfigNamespace

/-- The methods of requests. -/
inductive RequestMethod
  /-- Asks whether there is a page. -/
  | head
  /-- Asks for a page. -/
  | get
  deriving DecidableEq, Repr

/-- The name of a method. -/
def RequestMethod.name : RequestMethod → String
  | .head => "HEAD"
  | .get => "GET"

/-- A request that a session was asked for. -/
structure Request where
  /-- The method. -/
  method : RequestMethod
  /-- The address. -/
  url : Text
  /-- The seconds that it may take. -/
  timeout : Quantity

/-- What can be asked of a resource. -/
inductive Inquiry
  /-- Whether it exists. -/
  | existence
  /-- Whether it is a container. -/
  | kind
  /-- What it holds. -/
  | content
  deriving DecidableEq, Repr

/-- A look at a resource. -/
structure Visit where
  /-- What was asked of it. -/
  inquiry : Inquiry
  /-- Where it lives. -/
  handle : ResourceHandle
  deriving DecidableEq

/-- What lookups leave behind. -/
structure Session where
  /-- The parsed documents. -/
  cache : DocumentCache
  /-- The archives that are open, by their paths. -/
  archives : Keyed Archive
  /-- The requests that were made. -/
  requests : List Request
  /-- The resources that were looked at. -/
  visits : List Visit
  /-- The log. -/
  log : Log

namespace Session

/-- The session before the first lookup. -/
def empty : Session := ⟨.empty, [], [], [], []⟩

/-- An operation on the log. -/
def onLog {α : Type} (op : Operation Log α) : Operation Session α :=
  op.onPart Session.log fun s log => { s with log }

/-- Writes a record. -/
def note (level : LogLevel) (source : LogSource) (message : Text) : Operation Session Unit :=
  onLog (ConfigNamespace.note level source message)

/-- Keeps that a resource is looked at. -/
def visit (inquiry : Inquiry) (handle : ResourceHandle) : Operation Session Unit :=
  modify fun s => { s with visits := s.visits ++ [⟨inquiry, handle⟩] }

/-- The session with another cache of documents. -/
def withCache (s : Session) (cache : DocumentCache) : Session := { s with cache }

end Session

end ConfigNamespace
