import ConfigNamespace.Proofs.Lookup.Faithful
import ConfigNamespace.Proofs.Lookup.Handles
import ConfigNamespace.Proofs.Lookup.Reach
import ConfigNamespace.Proofs.Resource.Path

/-!
# Locators are transparent

Searching, reading, loading and walking are transparent: while the world stays as it is, what was
loaded or opened before changes no answer. Only two operations touch what a session holds, opening
an archive and loading a document, and both give what the world gives.
-/

namespace ConfigNamespace

open Operation

namespace Backend

variable {b : Backing}

/-- Opening an archive that stands at its path gives the archive of its entries. -/
theorem isTransparent_openArchive {path : Text} {entries : List (Text × List UInt8)}
    (hpath : b.world.look (.ofText path) = .found (.file (.archive entries))) :
    (openArchive path entries).IsTransparent b := by
  refine ⟨[], fun s hs => ?_⟩
  have hanswer : (openArchive path entries).answer = .ok (.ofEntries entries) := rfl
  unfold openArchive at hanswer ⊢
  rw [outcome_bind_ok (outcome_get s), hanswer]
  cases hopen : s.archives.get? path with
  | some archive =>
    obtain ⟨entries', hlook, rfl⟩ := hs.archives path archive hopen
    rw [hpath] at hlook
    cases hlook
    exact ⟨rfl, hs, rfl⟩
  | none =>
    refine ⟨rfl, ⟨?_, hs.documents⟩, rfl⟩
    intro path' archive hpath'
    change (Keyed.put path _ s.archives).get? path' = some archive at hpath'
    rw [Keyed.get?_put] at hpath'
    split at hpath'
    · next heq =>
      rw [heq]
      exact ⟨entries, hpath, (Option.some.inj hpath').symm⟩
    · exact hs.archives path' archive hpath'

/-- Taking an entry of a search path for a root is transparent. -/
theorem isTransparent_searchRoot? (entry : Text) :
    (searchRoot? b.world entry).IsTransparent b := by
  unfold searchRoot?
  refine .bind (.ofExcept _) fun found hfound => ?_
  rcases found with _ | (_ | entries) | _
  · exact .pure _
  · exact .pure _
  · refine .bind (isTransparent_openArchive ?_) fun _ _ => .pure _
    rw [ResourcePath.ofText_render_ofText]
    rw [answer_ofExcept, lookAt] at hfound
    split at hfound <;> simp_all
  · exact .pure _

/-- Searching along a path is transparent. -/
theorem isTransparent_search? (names entries : List Text) :
    (search? b.world names entries).IsTransparent b := by
  induction entries with
  | nil => exact .pure _
  | cons entry entries ih =>
    refine .bind (isTransparent_searchRoot? entry) fun root _ => ?_
    cases root with
    | none => exact ih
    | some root =>
      refine .bind (.ofExcept _) fun target _ => ?_
      cases target with
      | none => exact ih
      | some target => exact .pure _

/-- Finding a location is transparent. -/
theorem isTransparent_find? (entries : List Text) (location : Text) :
    (find? b.world entries location).IsTransparent b := by
  unfold find?
  split
  · exact .pure _
  · exact isTransparent_search? _ _

/-- A request is transparent. -/
theorem isTransparent_request (timeout : Quantity) (method : RequestMethod) (url : Text) :
    (request b.world timeout method url).IsTransparent b := by
  unfold request
  refine .bind (.of_outcome (.ok ()) fun _ => ⟨rfl, rfl, rfl⟩) fun _ _ => ?_
  split
  · exact .throw _
  dsimp only
  split
  · exact .pure _
  · exact .bind (.note _ _ _) fun _ _ => .throw _
  · exact .throw _

/-- Asking a backend whether a resource exists is transparent. -/
theorem isTransparent_isPresent (h : ResourceHandle) (backend : Backend) :
    (backend.isPresent b.world h).IsTransparent b := by
  cases backend with
  | localPath => exact .bind (.ofExcept _) fun _ _ => .pure _
  | bundled searchPath => exact .bind (isTransparent_find? _ _) fun _ _ => .pure _
  | remote timeout =>
    refine .bind (isTransparent_request _ _ _) fun asked _ => ?_
    refine .ite (fun _ => ?_) fun _ => ?_
    · refine .bind (isTransparent_request _ _ _) fun code _ => ?_
      exact .bind (.note _ _ _) fun _ _ => .pure _
    · exact .bind (.pure _) fun code _ => .bind (.note _ _ _) fun _ _ => .pure _
  | unprovided => exact .throw _

/-- Reading a resource by a backend is transparent. -/
theorem isTransparent_read (h : ResourceHandle) (backend : Backend) :
    (backend.read b.world h).IsTransparent b := by
  cases backend with
  | localPath =>
    refine .ite (fun _ => .throw _) fun _ => ?_
    split
    · exact .pure _
    · exact .throw _
  | bundled searchPath =>
    refine .bind (isTransparent_find? _ _) fun target _ => ?_
    cases target with
    | none => exact .throw _
    | some target => exact .ofExcept _
  | remote timeout =>
    exact .bind (isTransparent_request _ _ _) fun _ _ => .ite (fun _ => .pure _) fun _ => .throw _
  | unprovided => exact .throw _

end Backend

namespace Locator

variable {b : Backing} {p : Protocol}

/-- Looking for the handle of a name is transparent. -/
theorem isTransparent_child (l : Locator) (base name : Text) :
    (l.child base name).IsTransparent b := .ofExcept _

/-- Asking whether a resource exists is transparent. -/
theorem isTransparent_isPresent (h : ResourceHandle) :
    ((b.locator p).isPresent h).IsTransparent b :=
  .bind (.visit _ _) fun _ _ => Backend.isTransparent_isPresent _ _

/-- Reading a document is transparent. -/
theorem isTransparent_readDocument (h : ResourceHandle) (delimiter : Text) :
    ((b.locator p).readDocument h delimiter).IsTransparent b := by
  refine .bind (.bind (.visit _ _) fun _ _ => Backend.isTransparent_read _ _) fun content _ => ?_
  exact .bind (.ofExcept _) fun _ _ => .ofExcept _

/-- What is loaded at the start is what is read. -/
theorem answer_load (l : Locator) (h : ResourceHandle) (delimiter : Text) :
    (l.load h delimiter).answer = (l.readDocument h delimiter).answer := by
  unfold load answer
  rw [outcome_bind_ok (outcome_get _)]
  change ((l.readDocument h delimiter >>= _).outcome Session.empty).1 = _
  rcases hread : (l.readDocument h delimiter).outcome Session.empty with ⟨failure | d, s⟩
  · rw [outcome_bind_error hread]
  · rw [outcome_bind_ok hread]
    rfl

/-- Reading a document leaves the documents that are held alone. -/
theorem readDocument_follows_fixing_cache (l : Locator) (h : ResourceHandle) (delimiter : Text) :
    (l.readDocument h delimiter).Follows (.fixing Session.cache) := by
  refine .bind ?_ fun content _ => .bind (.ofExcept _) fun _ _ => .ofExcept _
  exact .bind (.modify fun _ => rfl) fun _ _ =>
    Backend.read_follows _ Session.permits_fixing_cache _ _

/-- What the cache learns when a document is loaded. -/
def learned (l : Locator) (h : ResourceHandle) (delimiter : Text) : List (CacheKey × Document) :=
  match (l.readDocument h delimiter).answer with
  | .ok d => [(⟨h, delimiter⟩, d)]
  | .error _ => []

/-- Loading a document is transparent: what the cache holds is what is read. -/
theorem isTransparent_load (h : ResourceHandle) (delimiter : Text) :
    ((b.locator h.protocol).load h delimiter).IsTransparent b := by
  have hread := isTransparent_readDocument (b := b) (p := h.protocol) h delimiter
  refine ⟨(b.locator h.protocol).learned h delimiter, fun s hs => ?_⟩
  unfold learned
  have hanswer := answer_load (b.locator h.protocol) h delimiter
  cases hcached : s.cache.get? ⟨h, delimiter⟩ with
  | some d =>
    have hd := hs.documents _ d hcached
    have hout : ((b.locator h.protocol).load h delimiter).outcome s = (.ok d, s) := by
      unfold load
      rw [outcome_bind_ok (outcome_get s), hcached]
      rfl
    rw [hout, hanswer, hd]
    refine ⟨rfl, hs, (DocumentCache.learn_eq_self fun key hkey => ?_).symm⟩
    obtain rfl : key = ⟨h, delimiter⟩ := by simpa using hkey
    rw [hcached]
    rfl
  | none =>
    have hresult := hread.outcome_eq hs
    have hfaithful := hread.faithful hs
    have hcache : _ = s.cache :=
      (b.locator h.protocol).readDocument_follows_fixing_cache h delimiter s
    rcases hout : ((b.locator h.protocol).readDocument h delimiter).outcome s with ⟨failure | d, t⟩
    all_goals rw [hout] at hresult hfaithful hcache
    · have hload : ((b.locator h.protocol).load h delimiter).outcome s = (.error failure, t) := by
        unfold load
        rw [outcome_bind_ok (outcome_get s), hcached]
        exact outcome_bind_error hout
      rw [hload, hanswer, ← hresult]
      exact ⟨rfl, hfaithful, hcache⟩
    · have hload : ∃ u, ((b.locator h.protocol).load h delimiter).outcome s = (.ok d, u) ∧
          u.cache = t.cache.add ⟨h, delimiter⟩ d ∧ u.archives = t.archives := by
        unfold load
        rw [outcome_bind_ok (outcome_get s), hcached]
        exact ⟨_, outcome_bind_ok hout, rfl, rfl⟩
      obtain ⟨u, hload, hucache, huarchives⟩ := hload
      rw [hload, hanswer, ← hresult]
      refine ⟨rfl, ⟨by rw [huarchives]; exact hfaithful.archives, ?_⟩, ?_⟩
      · intro key d' hkey
        rw [hucache, DocumentCache.get?_add] at hkey
        split at hkey
        · next heq =>
          rw [heq, ← hresult]
          exact congrArg _ (Option.some.inj hkey)
        · exact hfaithful.documents key d' hkey
      · rw [hucache, hcache, DocumentCache.learn, hcached]
        rfl

/-- Trying extensions is transparent. -/
theorem isTransparent_firstDocument (base name : Text) (extensions : List Text) :
    ((b.locator p).firstDocument base name extensions).IsTransparent b := by
  induction extensions with
  | nil => exact .pure _
  | cons extension extensions ih =>
    refine .bind (isTransparent_child _ _ _) fun h _ => ?_
    exact .bind (isTransparent_isPresent h) fun _ _ => .ite (fun _ => .pure _) fun _ => ih

/-- Locating a document is transparent. -/
theorem isTransparent_locateDocument (base name : Text) :
    ((b.locator p).locateDocument base name).IsTransparent b :=
  isTransparent_firstDocument _ _ _

/-- Telling a container by what it holds is transparent. -/
theorem isTransparent_seemsContainer (h : ResourceHandle) (delimiter : Text) :
    ((b.locator h.protocol).seemsContainer h delimiter).IsTransparent b := by
  refine .bind (isTransparent_load h delimiter).attempt fun result _ => ?_
  cases result with
  | ok d =>
    refine .ite (fun _ => .bind (.note _ _ _) fun _ _ => .pure _) fun _ => ?_
    exact .ite (fun _ => .bind (.note _ _ _) fun _ _ => .pure _) fun _ => .pure _
  | error failure =>
    exact .ite (fun _ => .bind (.note _ _ _) fun _ _ => .pure _) fun _ => .throw _

/-- Asking whether a resource is a container is transparent. -/
theorem isTransparent_isContainer (h : ResourceHandle) (delimiter : Text) :
    ((b.locator h.protocol).isContainer h delimiter).IsTransparent b := by
  refine .bind (.visit _ _) fun _ _ => ?_
  split
  · refine .bind (.ofExcept _) fun found _ => ?_
    cases found with
    | none => exact .pure _
    | some t => exact .pure _
  · exact .throw _
  · exact isTransparent_seemsContainer h delimiter

/-- Classifying a segment is transparent. -/
theorem isTransparent_classified (bare : ResourceHandle) (base segment : Text)
    (container : Bool) : ((b.locator p).classified bare base segment container).IsTransparent b := by
  refine .ite (fun _ => .pure _) fun _ => ?_
  refine .bind (isTransparent_locateDocument _ _) fun found _ => ?_
  cases found <;> exact .pure _

/-- Probing is transparent. -/
theorem isTransparent_probe (base segment delimiter : Text) :
    ((b.locator p).probe base segment delimiter).IsTransparent b := by
  refine .ite (fun _ => .bind (.note _ _ _) fun _ _ => .pure _) fun _ => ?_
  refine .bind (isTransparent_child _ _ _) fun bare hbare => ?_
  obtain rfl := protocol_of_child hbare
  refine .bind (isTransparent_isPresent bare) fun present _ => ?_
  have hclassified := isTransparent_classified (b := b) (p := bare.protocol) bare base segment
  refine .ite (fun _ => ?_) fun _ => .bind (.pure _) fun container _ => hclassified container
  exact .bind (isTransparent_isContainer bare delimiter) fun container _ => hclassified container

/-- Falling back is transparent. -/
theorem isTransparent_fallBack (path : Text) (remainder : List Text) :
    ((b.locator p).fallBack path remainder).IsTransparent b := by
  refine .bind (isTransparent_locateDocument _ _) fun found _ => ?_
  cases found with
  | none => exact .pure _
  | some h => exact .bind (.note _ _ _) fun _ _ => .pure _

/-- Walks are transparent. -/
theorem isTransparent_walk (delimiter path : Text) (segments : List Text) :
    ((b.locator p).walk delimiter path segments).IsTransparent b := by
  induction segments generalizing path with
  | nil => exact isTransparent_fallBack _ _
  | cons segment segments ih =>
    refine .bind (isTransparent_probe _ _ _) fun found _ => ?_
    split
    · exact ih _
    · exact .bind (.note _ _ _) fun _ _ => .pure _
    · exact isTransparent_fallBack _ _

end Locator

end ConfigNamespace
