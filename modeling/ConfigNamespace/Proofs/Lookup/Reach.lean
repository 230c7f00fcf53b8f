import ConfigNamespace.Lookup.Backend
import ConfigNamespace.Proofs.Operation

/-!
# What backends do to a session

A backend opens archives, makes requests and writes to the log. It has no part in anything else that
a session holds, so whatever allows these three things to happen is followed by all that backends
do.
-/

namespace ConfigNamespace

open Operation

/-- Whether an evolution of sessions allows what backends do. -/
structure Session.Permits (E : Evolution Session) : Prop where
  /-- Archives may be opened. -/
  archives : ∀ s archives, E.Allows s { s with archives }
  /-- Requests may be made. -/
  requests : ∀ s requests, E.Allows s { s with requests }
  /-- Records may be written. -/
  log : ∀ s log, E.Allows s { s with log }

/-- Opening archives, making requests and writing records leave the cache as it is. -/
theorem Session.permits_fixing_cache : Permits (.fixing Session.cache) :=
  ⟨fun _ _ => rfl, fun _ _ => rfl, fun _ _ => rfl⟩

namespace Backend

variable {E : Evolution Session} (w : World)

/-- A record is an allowed step. -/
theorem note_follows (hE : Session.Permits E) (level : LogLevel) (source : LogSource)
    (message : Text) : (Session.note level source message).Follows E := fun s => hE.log s _

/-- Opening an archive makes allowed steps. -/
theorem openArchive_follows (hE : Session.Permits E) (path : Text)
    (entries : List (Text × List UInt8)) : (openArchive path entries).Follows E := by
  refine .bind .get fun s _ => ?_
  split
  · exact .pure _
  · exact .bind (.modify fun s => hE.archives s _) fun _ _ => .pure _

/-- Taking an entry of a search path for a root makes allowed steps. -/
theorem searchRoot?_follows (hE : Session.Permits E) (entry : Text) :
    (searchRoot? w entry).Follows E := by
  refine .bind (.ofExcept _) fun found _ => ?_
  split
  · exact .pure _
  · exact .bind (openArchive_follows hE _ _) fun _ _ => .pure _
  · exact .pure _

/-- Searching along a path makes allowed steps. -/
theorem search?_follows (hE : Session.Permits E) (names entries : List Text) :
    (search? w names entries).Follows E := by
  induction entries with
  | nil => exact .pure _
  | cons entry entries ih =>
    refine .bind (searchRoot?_follows w hE entry) fun root _ => ?_
    cases root with
    | none => exact ih
    | some root =>
      refine .bind (.ofExcept _) fun target _ => ?_
      cases target with
      | none => exact ih
      | some target => exact .pure _

/-- Finding a location makes allowed steps. -/
theorem find?_follows (hE : Session.Permits E) (entries : List Text) (location : Text) :
    (find? w entries location).Follows E := by
  unfold find?
  split
  · exact .pure _
  · exact search?_follows w hE _ _

/-- A request makes allowed steps. -/
theorem request_follows (hE : Session.Permits E) (timeout : Quantity) (method : RequestMethod)
    (url : Text) : (request w timeout method url).Follows E := by
  refine .bind (.modify fun s => hE.requests s _) fun _ _ => ?_
  split
  · exact .throw _
  dsimp only
  split
  · exact .pure _
  · exact .bind (note_follows hE _ _ _) fun _ _ => .throw _
  · exact .throw _

/-- Asking whether a resource exists does what backends do. -/
theorem isPresent_follows (hE : Session.Permits E) (h : ResourceHandle) (backend : Backend) :
    (backend.isPresent w h).Follows E := by
  cases backend with
  | localPath => exact .bind (.ofExcept _) fun _ _ => .pure _
  | bundled searchPath => exact .bind (find?_follows w hE _ _) fun _ _ => .pure _
  | remote timeout =>
    refine .bind (request_follows w hE _ _ _) fun asked _ => .ite (fun _ => ?_) fun _ => ?_
    · refine .bind (request_follows w hE _ _ _) fun _ _ => ?_
      exact .bind (note_follows hE _ _ _) fun _ _ => .pure _
    · exact .bind (.pure _) fun _ _ => .bind (note_follows hE _ _ _) fun _ _ => .pure _
  | unprovided => exact .throw _

/-- Reading a resource does what backends do. -/
theorem read_follows (hE : Session.Permits E) (h : ResourceHandle) (backend : Backend) :
    (backend.read w h).Follows E := by
  cases backend with
  | localPath =>
    refine .ite (fun _ => .throw _) fun _ => ?_
    split
    · exact .pure _
    · exact .throw _
  | bundled searchPath =>
    refine .bind (find?_follows w hE _ _) fun target _ => ?_
    cases target with
    | none => exact .throw _
    | some target => exact .ofExcept _
  | remote timeout =>
    refine .bind (request_follows w hE _ _ _) fun _ _ => ?_
    exact .ite (fun _ => .pure _) fun _ => .throw _
  | unprovided => exact .throw _

end Backend

end ConfigNamespace
