import ConfigNamespace.Proofs.Lookup.Transparent
import ConfigNamespace.Proofs.World.Merged

/-!
# What a cache of documents remembers

A cache of documents goes through loads, invalidations and clears, while the world around it
changes. What it holds is a matter of its history alone: under each key the document of the latest
parse since the key was last dropped, whatever the world holds by now. A parse is seen from outside,
as a load that opened its resource and gave a document.
-/

namespace ConfigNamespace

open Operation

/-- Opening archives, making requests and writing records leave the looks as they are. -/
theorem Session.permits_fixing_visits : Permits (.fixing Session.visits) :=
  ⟨fun _ _ => rfl, fun _ _ => rfl, fun _ _ => rfl⟩

namespace Locator

variable (l : Locator) (h : ResourceHandle) (delimiter : Text) (s : Session)

/-- What opening and parsing a resource comes to: it is opened, its content is parsed, and the
values have to be texts. -/
def parsed : Except Failure Document :=
  ((l.read h).outcome s).1.bind fun content =>
    (l.parsers.parse h.name delimiter content).bind (Document.ofRaw h)

/-- What reading a document gives is what is parsed. -/
theorem outcome_readDocument_fst :
    ((l.readDocument h delimiter).outcome s).1 = l.parsed h delimiter s := by
  unfold readDocument parsed
  rw [outcome_bind]
  rcases (l.read h).outcome s with ⟨failure | content, t⟩
  · rfl
  · dsimp only
    cases hraw : l.parsers.parse h.name delimiter content with
    | error failure =>
      rw [outcome_bind_error (outcome_ofExcept _ t)]
      simp [Except.bind, hraw]
    | ok raw =>
      rw [outcome_bind_ok (outcome_ofExcept _ t)]
      simp [Except.bind, hraw]

/-- Reading a document opens its resource once. -/
theorem visits_readDocument :
    ((l.readDocument h delimiter).outcome s).2.visits = s.visits ++ [⟨.content, h⟩] := by
  have hread : ((l.read h).outcome s).2.visits = s.visits ++ [⟨.content, h⟩] :=
    Backend.read_follows l.world Session.permits_fixing_visits h l.backend _
  have hrest (content : List UInt8) : (do
      let raw ← Operation.ofExcept (l.parsers.parse h.name delimiter content)
      Operation.ofExcept (Document.ofRaw h raw) : Operation Session Document).Follows
        (.fixing Session.visits) := .bind (.ofExcept _) fun _ _ => .ofExcept _
  rw [← hread]
  unfold readDocument
  rw [outcome_bind]
  rcases (l.read h).outcome s with ⟨failure | content, t⟩
  · rfl
  · exact hrest content t

variable {h delimiter s}

/-- A document that is there is given, and nothing else happens. -/
theorem outcome_load_of_cached {d : Document} (hcached : s.cache.get? ⟨h, delimiter⟩ = some d) :
    (l.load h delimiter).outcome s = (.ok d, s) := by
  unfold load
  rw [outcome_bind_ok (outcome_get s), hcached]
  rfl

/-- A document that is not there is opened and parsed. It is added to the cache if that succeeds. -/
theorem load_of_missing (hmissing : s.cache.get? ⟨h, delimiter⟩ = none) :
    ((l.load h delimiter).outcome s).1 = l.parsed h delimiter s ∧
      ((l.load h delimiter).outcome s).2.visits = s.visits ++ [⟨.content, h⟩] ∧
      ((l.load h delimiter).outcome s).2.cache =
        match l.parsed h delimiter s with
        | .ok d => s.cache.add ⟨h, delimiter⟩ d
        | .error _ => s.cache := by
  have hresult := l.outcome_readDocument_fst h delimiter s
  have hvisits := l.visits_readDocument h delimiter s
  have hcache : _ = s.cache := l.readDocument_follows_fixing_cache h delimiter s
  unfold load
  rw [outcome_bind_ok (outcome_get s), hmissing]
  dsimp only
  rcases hread : (l.readDocument h delimiter).outcome s with ⟨failure | d, t⟩
  all_goals rw [hread] at hresult hvisits hcache
  · rw [outcome_bind_error hread, ← hresult]
    exact ⟨rfl, hvisits, hcache⟩
  · rw [outcome_bind_ok hread, ← hresult, ← hcache]
    exact ⟨rfl, hvisits, rfl⟩

end Locator

/-- What may happen to a cache of documents and around it. -/
inductive CacheEvent
  /-- A document is loaded. -/
  | load (backend : Backend) (handle : ResourceHandle) (delimiter : Text)
  /-- The documents of a handle are dropped. -/
  | invalidate (handle : ResourceHandle)
  /-- All documents are dropped. -/
  | clear
  /-- The world becomes another one, and so does all of a session but its documents. -/
  | change (w : World) (rest : Session)

/-- What is remembered of an event. -/
inductive CacheRecord
  /-- A document was opened and parsed. -/
  | parsed (key : CacheKey) (d : Document)
  /-- The documents of a handle were dropped. -/
  | invalidated (handle : ResourceHandle)
  /-- All documents were dropped. -/
  | cleared
  /-- No document was parsed, and none was dropped. -/
  | idle

namespace CacheRecord

/-- The document of the latest parse for a key since the key was last dropped. Records begin with
the newest one. -/
def latest (key : CacheKey) : List CacheRecord → Option Document
  | [] => none
  | .parsed k d :: past => if key = k then some d else latest key past
  | .invalidated handle :: past => if key.handle = handle then none else latest key past
  | .cleared :: _ => none
  | .idle :: past => latest key past

/-- How many documents were parsed. -/
def parses : List CacheRecord → Nat
  | [] => 0
  | .parsed _ _ :: past => parses past + 1
  | _ :: past => parses past

end CacheRecord

/-- A session in a world. -/
structure Situation where
  /-- The world. -/
  world : World
  /-- The session. -/
  session : Session

namespace Situation

variable (parsers : ParserRegistry)

/-- The locator of a backend in the world as it is. -/
def locator (s : Situation) (backend : Backend) : Locator := ⟨backend, parsers, s.world⟩

/-- What loading a document comes to. -/
def load (s : Situation) (backend : Backend) (handle : ResourceHandle) (delimiter : Text) :
    Except Failure Document × Session :=
  ((s.locator parsers backend).load handle delimiter).outcome s.session

/-- The situation after an event. -/
def after (s : Situation) : CacheEvent → Situation
  | .load backend handle delimiter =>
    { s with session := (s.load parsers backend handle delimiter).2 }
  | .invalidate handle =>
    { s with session := s.session.withCache (s.session.cache.invalidate handle) }
  | .clear => { s with session := s.session.withCache s.session.cache.clear }
  | .change w rest => ⟨w, rest.withCache s.session.cache⟩

/-- What is remembered of an event. A load parsed a document if it gave one and looked at some
resource for it. -/
def record (s : Situation) : CacheEvent → CacheRecord
  | .load backend handle delimiter =>
    match s.load parsers backend handle delimiter with
    | (.ok d, t) => if t.visits = s.session.visits then .idle else .parsed ⟨handle, delimiter⟩ d
    | (.error _, _) => .idle
  | .invalidate handle => .invalidated handle
  | .clear => .cleared
  | .change _ _ => .idle

section Loading

variable (s : Situation) (backend : Backend) {handle : ResourceHandle} {delimiter : Text}

/-- A document that is there is given, and nothing else happens. -/
theorem load_of_cached {d : Document}
    (hcached : s.session.cache.get? ⟨handle, delimiter⟩ = some d) :
    s.load parsers backend handle delimiter = (.ok d, s.session) :=
  (s.locator parsers backend).outcome_load_of_cached hcached

/-- A document that is not there is opened and parsed. It is added to the cache if that succeeds. -/
theorem load_of_missing (hmissing : s.session.cache.get? ⟨handle, delimiter⟩ = none) :
    (s.load parsers backend handle delimiter).1 =
        (s.locator parsers backend).parsed handle delimiter s.session ∧
      (s.load parsers backend handle delimiter).2.visits =
        s.session.visits ++ [⟨.content, handle⟩] ∧
      (s.load parsers backend handle delimiter).2.cache =
        match (s.locator parsers backend).parsed handle delimiter s.session with
        | .ok d => s.session.cache.add ⟨handle, delimiter⟩ d
        | .error _ => s.session.cache :=
  (s.locator parsers backend).load_of_missing hmissing

/-- Loading a document that is held is recorded as idle. -/
theorem record_of_cached {d : Document}
    (hcached : s.session.cache.get? ⟨handle, delimiter⟩ = some d) :
    s.record parsers (.load backend handle delimiter) = .idle := by
  simp only [record, s.load_of_cached parsers backend hcached, if_pos]

/-- Loading a document that is not held is recorded as what is parsed. -/
theorem record_of_missing (hmissing : s.session.cache.get? ⟨handle, delimiter⟩ = none) :
    s.record parsers (.load backend handle delimiter) =
      match (s.locator parsers backend).parsed handle delimiter s.session with
      | .ok d => .parsed ⟨handle, delimiter⟩ d
      | .error _ => .idle := by
  obtain ⟨hresult, hvisits, -⟩ := s.load_of_missing parsers backend hmissing
  rw [← hresult, record]
  rcases hload : s.load parsers backend handle delimiter with ⟨failure | d, t⟩
  · rfl
  · rw [hload] at hvisits
    have hlooked : ¬t.visits = s.session.visits := by simp [show t.visits = _ from hvisits]
    exact if_neg hlooked

end Loading

end Situation

/-- Whether a situation comes about from one without documents by events that are remembered, the
newest one first. -/
inductive CacheHistory (parsers : ParserRegistry) : List CacheRecord → Situation → Prop
  /-- Nothing has happened yet. -/
  | start {s : Situation} (h : s.session.cache = .empty) : CacheHistory parsers [] s
  /-- One more event happens. -/
  | next {past : List CacheRecord} {s : Situation} (h : CacheHistory parsers past s)
    (event : CacheEvent) :
    CacheHistory parsers (s.record parsers event :: past) (s.after parsers event)

open CacheRecord

/-- Whether a cache is what its history says. -/
structure DocumentCache.Recalls (c : DocumentCache) (past : List CacheRecord) : Prop where
  /-- Under each key it has the document of the latest parse. -/
  get?_eq : ∀ key, c.get? key = latest key past
  /-- It counts the parses. -/
  parseCount_eq : c.parseCount = parses past
  /-- Each key is there once. -/
  nodup : c.keys.Nodup

namespace DocumentCache.Recalls

variable {parsers : ParserRegistry} {past : List CacheRecord} {c : DocumentCache}

/-- The empty cache recalls nothing. -/
theorem empty : DocumentCache.empty.Recalls [] := ⟨fun _ => rfl, rfl, List.nodup_nil⟩

/-- A cache recalls as before when nothing happens. -/
theorem idle (h : c.Recalls past) : c.Recalls (.idle :: past) :=
  ⟨h.get?_eq, h.parseCount_eq, h.nodup⟩

/-- A cache recalls a document that is added to it. -/
theorem add (h : c.Recalls past) (key : CacheKey) (d : Document) :
    (c.add key d).Recalls (.parsed key d :: past) := by
  refine ⟨fun key' => ?_, congrArg (· + 1) h.parseCount_eq, nodup_keys_add h.nodup key d⟩
  rw [get?_add, latest, h.get?_eq]

/-- A cache recalls that a resource was invalidated. -/
theorem invalidate (h : c.Recalls past) (handle : ResourceHandle) :
    (c.invalidate handle).Recalls (.invalidated handle :: past) := by
  refine ⟨fun key => ?_, h.parseCount_eq, nodup_keys_invalidate h.nodup handle⟩
  rw [get?_invalidate, latest, h.get?_eq]

/-- A cache recalls that it was cleared. -/
theorem clear (h : c.Recalls past) : c.clear.Recalls (.cleared :: past) :=
  ⟨get?_clear c, h.parseCount_eq, List.nodup_nil⟩

/-- A load leaves the cache with what is remembered of it. -/
theorem load {s : Situation} (h : s.session.cache.Recalls past) (backend : Backend)
    (handle : ResourceHandle) (delimiter : Text) :
    (s.load parsers backend handle delimiter).2.cache.Recalls
      (s.record parsers (.load backend handle delimiter) :: past) := by
  cases hfound : s.session.cache.get? ⟨handle, delimiter⟩ with
  | some d =>
    rw [s.record_of_cached parsers backend hfound, s.load_of_cached parsers backend hfound]
    exact h.idle
  | none =>
    rw [s.record_of_missing parsers backend hfound, (s.load_of_missing parsers backend hfound).2.2]
    cases (s.locator parsers backend).parsed handle delimiter s.session with
    | error failure => exact h.idle
    | ok d => exact h.add _ d

end DocumentCache.Recalls

namespace CacheHistory

variable {parsers : ParserRegistry} {past : List CacheRecord} {s : Situation}

/-- Whatever happened, a cache is what its history says. -/
theorem recalls (h : CacheHistory parsers past s) : s.session.cache.Recalls past := by
  induction h with
  | start h =>
    rw [h]
    exact .empty
  | next _ event ih =>
    cases event with
    | load backend handle delimiter => exact ih.load backend handle delimiter
    | invalidate handle => exact ih.invalidate handle
    | clear => exact ih.clear
    | change w rest => exact ih.idle

/-- A cache holds what its history says. A load gives the document of the latest parse since the key
was last dropped, if there is one, and looks at nothing for it. Otherwise it opens the resource and
parses what the world holds now: a document that results is kept and counted, and a failure changes
nothing, so that the next load tries again. Invalidating a handle drops its documents for all
delimiters and no others; a handle has documents if one of them is there; the size counts keys. -/
theorem cache_holds_latest (h : CacheHistory parsers past s) :
    (∀ key, s.session.cache.get? key = latest key past) ∧
    (∀ backend handle delimiter d, latest ⟨handle, delimiter⟩ past = some d →
      s.load parsers backend handle delimiter = (.ok d, s.session)) ∧
    (∀ backend handle delimiter, latest ⟨handle, delimiter⟩ past = none →
      let loaded := s.load parsers backend handle delimiter
      loaded.1 = (s.locator parsers backend).parsed handle delimiter s.session ∧
      loaded.2.visits = s.session.visits ++ [⟨.content, handle⟩] ∧
      (∀ d, loaded.1 = .ok d → loaded.2.cache.parseCount = s.session.cache.parseCount + 1 ∧
        ∀ key, loaded.2.cache.get? key =
          if key = ⟨handle, delimiter⟩ then some d else s.session.cache.get? key) ∧
      ∀ failure, loaded.1 = .error failure → loaded.2.cache = s.session.cache) ∧
    s.session.cache.parseCount = parses past ∧
    (∀ handle,
      let dropped := (s.after parsers (.invalidate handle)).session.cache
      dropped.parseCount = s.session.cache.parseCount ∧
      ∀ key, dropped.get? key = if key.handle = handle then none else s.session.cache.get? key) ∧
    (∀ handle, s.session.cache.has handle = true ↔
      ∃ delimiter, (latest ⟨handle, delimiter⟩ past).isSome) ∧
    ∃ keys : List CacheKey, keys.Nodup ∧ (∀ key, key ∈ keys ↔ (latest key past).isSome) ∧
      s.session.cache.size = keys.length := by
  have hcache := h.recalls
  refine ⟨hcache.get?_eq, ?_, ?_, hcache.parseCount_eq, ?_, ?_, ?_⟩
  · intro backend handle delimiter d hlatest
    exact s.load_of_cached parsers backend (by rw [hcache.get?_eq, hlatest])
  · intro backend handle delimiter hlatest loaded
    obtain ⟨hresult, hvisits, hkept⟩ :=
      s.load_of_missing parsers backend ((hcache.get?_eq _).trans hlatest)
    rw [← hresult] at hkept
    refine ⟨hresult, hvisits, ?_, ?_⟩
    · intro d hd
      rw [hd] at hkept
      rw [hkept]
      exact ⟨rfl, fun key => DocumentCache.get?_add _ _ _ _⟩
    · intro failure hfailure
      rw [hfailure] at hkept
      exact hkept
  · intro handle
    exact ⟨rfl, DocumentCache.get?_invalidate _ handle⟩
  · intro handle
    simp only [DocumentCache.has_iff, hcache.get?_eq]
  · refine ⟨s.session.cache.keys, hcache.nodup, fun key => ?_, DocumentCache.size_eq_length_keys _⟩
    rw [DocumentCache.mem_keys_iff, hcache.get?_eq]

/-- In the twofold world, where a document was loaded and its file is gone since. It is given once
more; when it was invalidated, loading fails. -/
theorem cache_holds_latest_twofold :
    let handle : ResourceHandle := ⟨.localPath, text "M/app.ini"⟩
    let d : Document := ⟨handle, [(text "k", .single (text "1"))]⟩
    let parsed : Situation :=
      Situation.after .default ⟨.twofold, .empty⟩ (.load .localPath handle (text "."))
    let gone := parsed.after .default (.change (World.twofold.deleteFile (text "M/app.ini")) .empty)
    let dropped := gone.after .default (.invalidate handle)
    gone.load .default .localPath handle (text ".") = (.ok d, gone.session) ∧
      gone.session.cache.parseCount = 1 ∧
      (dropped.load .default .localPath handle (text ".")).1 =
        .error (.cannotOpen (text "M/app.ini")) ∧
      (dropped.load .default .localPath handle (text ".")).2.cache = dropped.session.cache := by
  intro handle d parsed gone dropped
  have hstart : CacheHistory .default [] ⟨.twofold, .empty⟩ := .start rfl
  have hparsed : CacheHistory .default [.parsed ⟨handle, text "."⟩ d] parsed :=
    hstart.next (.load .localPath handle (text "."))
  have hgone : CacheHistory .default [.idle, .parsed ⟨handle, text "."⟩ d] gone :=
    hparsed.next (.change (World.twofold.deleteFile (text "M/app.ini")) .empty)
  have hdropped : CacheHistory .default [.invalidated handle, .idle, .parsed ⟨handle, text "."⟩ d]
      dropped := hgone.next (.invalidate handle)
  obtain ⟨-, hserved, -, hcount, -⟩ := cache_holds_latest hgone
  obtain ⟨-, -, hmissing, -⟩ := cache_holds_latest hdropped
  obtain ⟨hfailure, -, -, hkept⟩ := hmissing .localPath handle (text ".") rfl
  exact ⟨hserved _ _ _ d rfl, hcount, hfailure, hkept _ hfailure⟩

end CacheHistory

end ConfigNamespace
