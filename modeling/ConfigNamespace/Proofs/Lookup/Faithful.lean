import ConfigNamespace.Lookup.Locator
import ConfigNamespace.Proofs.Keyed
import ConfigNamespace.Proofs.Operation

/-!
# Faithful sessions

While the world stays as it is, a session holds nothing that could not be had from the world again:
every open archive is the one that stands at its path, and every document is the one that is read at
its handle. An operation is transparent if its answer is the same from every faithful session, and
so is the one that it gives at the start, from the session that holds nothing. The calculus of
transparent operations computes these answers step by step, without any session.
-/

namespace ConfigNamespace

/-- What the namespaces of a family share while the world stays as it is. -/
structure Backing where
  /-- The environment. -/
  environment : Environment
  /-- The parsers of documents. -/
  parsers : ParserRegistry
  /-- The world. -/
  world : World

/-- The locator of a protocol. -/
def Backing.locator (b : Backing) (p : Protocol) : Locator :=
  ⟨Locator.backendFor b.environment p, b.parsers, b.world⟩

namespace DocumentCache

/-- The cache with further documents. A key that has a document already keeps it. -/
def learn (c : DocumentCache) : List (CacheKey × Document) → DocumentCache
  | [] => c
  | (key, d) :: rest => (if (c.get? key).isSome then c else c.add key d).learn rest

/-- Documents are learned one after another. -/
theorem learn_append (c : DocumentCache) (loaded more : List (CacheKey × Document)) :
    c.learn (loaded ++ more) = (c.learn loaded).learn more := by
  induction loaded generalizing c with
  | nil => rfl
  | cons entry loaded ih => exact ih _

/-- A key that has a document keeps having one. -/
theorem isSome_get?_learn {c : DocumentCache} {key : CacheKey} (h : (c.get? key).isSome)
    (loaded : List (CacheKey × Document)) : ((c.learn loaded).get? key).isSome := by
  induction loaded generalizing c with
  | nil => exact h
  | cons entry loaded ih =>
    apply ih
    by_cases hentry : (c.get? entry.1).isSome
    · rwa [if_pos hentry]
    · rw [if_neg hentry, get?_add]
      split
      · rfl
      · exact h

/-- All documents that were learned are there. -/
theorem isSome_get?_learn_of_mem {loaded : List (CacheKey × Document)} {key : CacheKey}
    (h : key ∈ loaded.map (·.1)) (c : DocumentCache) : ((c.learn loaded).get? key).isSome := by
  induction loaded generalizing c with
  | nil => simp at h
  | cons entry loaded ih =>
    obtain ⟨k, d⟩ := entry
    rw [learn]
    rcases List.mem_cons.mp h with rfl | h
    · apply isSome_get?_learn
      by_cases hentry : (c.get? key).isSome
      · rwa [if_pos hentry]
      · rw [if_neg hentry, get?_add, if_pos rfl]
        rfl
    · exact ih h _

/-- Documents that are all there already are not learned again. -/
theorem learn_eq_self {c : DocumentCache} {loaded : List (CacheKey × Document)}
    (h : ∀ key ∈ loaded.map (·.1), (c.get? key).isSome) : c.learn loaded = c := by
  induction loaded with
  | nil => rfl
  | cons entry loaded ih =>
    have hentry : (c.get? entry.1).isSome := h _ (by simp)
    have hlearn : c.learn (entry :: loaded) = c.learn loaded := by
      rw [learn, if_pos hentry]
    rw [hlearn]
    exact ih fun key hkey => h key (by simp [hkey])

/-- Learning the same documents once more changes nothing. -/
theorem learn_learn (c : DocumentCache) (loaded : List (CacheKey × Document)) :
    (c.learn loaded).learn loaded = c.learn loaded :=
  learn_eq_self fun _ hkey => isSome_get?_learn_of_mem hkey c

end DocumentCache

namespace Operation

variable {α β : Type}

/-- What an operation answers at the start, from the session that holds nothing. -/
def answer (op : Operation Session α) : Except Failure α := (op.outcome Session.empty).1

end Operation

/-- Whether a session holds nothing but what the world gives. -/
structure Session.Faithful (b : Backing) (s : Session) : Prop where
  /-- Every open archive is the one that stands at its path. -/
  archives : ∀ path archive, s.archives.get? path = some archive →
    ∃ entries, b.world.look (.ofText path) = .found (.file (.archive entries)) ∧
      archive = .ofEntries entries
  /-- Every document is the one that is read at its handle. -/
  documents : ∀ key d, s.cache.get? key = some d →
    ((b.locator key.handle.protocol).readDocument key.handle key.delimiter).answer = .ok d

namespace Session

/-- The session that holds nothing is faithful. -/
theorem faithful_empty (b : Backing) : Session.empty.Faithful b :=
  ⟨fun _ _ h => by simp [Session.empty] at h, fun _ _ h => by simp [Session.empty] at h⟩

/-- What else a session holds does not matter. -/
theorem Faithful.of_eq {b : Backing} {s t : Session} (h : s.Faithful b)
    (hcache : t.cache = s.cache) (harchives : t.archives = s.archives) : t.Faithful b :=
  ⟨by rw [harchives]; exact h.archives, by rw [hcache]; exact h.documents⟩

/-- A session may lose its archives. -/
theorem Faithful.withoutArchives {b : Backing} {s t : Session} (h : s.Faithful b)
    (hcache : t.cache = s.cache) (harchives : t.archives = []) : t.Faithful b :=
  ⟨fun _ _ hpath => by simp [harchives] at hpath, by rw [hcache]; exact h.documents⟩

/-- A session may lose its documents. -/
theorem Faithful.withoutDocuments {b : Backing} {s : Session} (h : s.Faithful b) :
    (s.withCache .empty).Faithful b :=
  ⟨h.archives, fun _ _ hkey => by simp [withCache] at hkey⟩

end Session

namespace Operation

variable {α β : Type} {b : Backing}

/-- Whether the answer of an operation does not depend on what a faithful session holds. The
session stays faithful, and its cache learns documents that do not depend on it either. -/
def IsTransparent (b : Backing) (op : Operation Session α) : Prop :=
  ∃ loaded, ∀ s : Session, s.Faithful b → (op.outcome s).1 = op.answer ∧
    (op.outcome s).2.Faithful b ∧ (op.outcome s).2.cache = s.cache.learn loaded

/-- A result is its own answer. -/
@[simp] theorem answer_ofExcept (result : Except Failure α) :
    (ofExcept result : Operation Session α).answer = result := rfl

/-- An attempt is answered with the answer, whether it is a failure or not. -/
@[simp] theorem answer_attempt (op : Operation Session α) : op.attempt.answer = .ok op.answer := rfl

/-- The answer of an operation is one that it may give. -/
theorem mayGive_of_answer {op : Operation Session α} {a : α} (h : op.answer = .ok a) :
    op.MayGive a := ⟨_, h⟩

namespace IsTransparent

/-- The answer from a faithful session. -/
theorem outcome_eq {op : Operation Session α} (h : op.IsTransparent b) {s : Session}
    (hs : s.Faithful b) : (op.outcome s).1 = op.answer := by
  obtain ⟨_, h⟩ := h
  exact (h s hs).1

/-- A transparent operation leaves a faithful session faithful. -/
theorem faithful {op : Operation Session α} (h : op.IsTransparent b) {s : Session}
    (hs : s.Faithful b) : (op.outcome s).2.Faithful b := by
  obtain ⟨_, h⟩ := h
  exact (h s hs).2.1

/-- A transparent operation leaves the documents alone when it is carried out again. -/
theorem cache_eq_of_repeated {op : Operation Session α} (h : op.IsTransparent b) {s t : Session}
    (hs : s.Faithful b) (ht : t.Faithful b) (hcache : t.cache = (op.outcome s).2.cache) :
    (op.outcome t).2.cache = t.cache := by
  obtain ⟨loaded, h⟩ := h
  rw [(h t ht).2.2, hcache, (h s hs).2.2, DocumentCache.learn_learn]

/-- An operation is transparent if it always gives the same result and leaves documents and
archives alone. -/
theorem of_outcome {op : Operation Session α} (result : Except Failure α)
    (h : ∀ s, (op.outcome s).1 = result ∧ (op.outcome s).2.cache = s.cache ∧
      (op.outcome s).2.archives = s.archives) : op.IsTransparent b := by
  refine ⟨[], fun s hs => ⟨?_, hs.of_eq (h s).2.1 (h s).2.2, (h s).2.1⟩⟩
  rw [(h s).1, answer, (h _).1]

/-- Giving a value is transparent. -/
theorem pure (a : α) : (Pure.pure a : Operation Session α).IsTransparent b :=
  of_outcome (.ok a) fun _ => ⟨rfl, rfl, rfl⟩

/-- Failing is transparent. -/
theorem throw (failure : Failure) :
    (MonadExcept.throw failure : Operation Session α).IsTransparent b :=
  of_outcome (.error failure) fun _ => ⟨rfl, rfl, rfl⟩

/-- Giving a result is transparent. -/
theorem ofExcept (result : Except Failure α) :
    (ofExcept result : Operation Session α).IsTransparent b :=
  of_outcome result fun _ => ⟨rfl, rfl, rfl⟩

/-- Writing a record is transparent. -/
theorem note (level : LogLevel) (source : LogSource) (message : Text) :
    (Session.note level source message).IsTransparent b :=
  of_outcome (.ok ()) fun _ => ⟨rfl, rfl, rfl⟩

/-- A look that is kept is transparent. -/
theorem visit (inquiry : Inquiry) (h : ResourceHandle) :
    (Session.visit inquiry h).IsTransparent b :=
  of_outcome (.ok ()) fun _ => ⟨rfl, rfl, rfl⟩

/-- What is transparent is so when it is attempted. -/
theorem attempt {op : Operation Session α} (h : op.IsTransparent b) :
    op.attempt.IsTransparent b := by
  obtain ⟨loaded, h⟩ := h
  refine ⟨loaded, fun s hs => ⟨?_, (h s hs).2⟩⟩
  rw [outcome_attempt, answer_attempt, (h s hs).1]

/-- The answer of one operation after another, from any faithful session. -/
private theorem outcome_bind_eq {op : Operation Session α} {next : α → Operation Session β}
    (h : op.IsTransparent b) (hnext : ∀ a, op.answer = .ok a → (next a).IsTransparent b)
    {s : Session} (hs : s.Faithful b) :
    ((op >>= next).outcome s).1 = op.answer.bind fun a => (next a).answer := by
  have hanswer := h.outcome_eq hs
  have hfaithful := h.faithful hs
  rcases hop : op.outcome s with ⟨failure | a, t⟩ <;> rw [hop] at hanswer hfaithful
  · rw [outcome_bind_error hop, ← hanswer]
    rfl
  · rw [outcome_bind_ok hop, (hnext a hanswer.symm).outcome_eq hfaithful, ← hanswer]
    rfl

/-- One operation after another is transparent if the second is for the answer of the first. -/
theorem bind {op : Operation Session α} {next : α → Operation Session β} (h : op.IsTransparent b)
    (hnext : ∀ a, op.answer = .ok a → (next a).IsTransparent b) :
    (op >>= next).IsTransparent b := by
  have hanswer {s : Session} (hs : s.Faithful b) :
      ((op >>= next).outcome s).1 = (op >>= next).answer := by
    exact (outcome_bind_eq h hnext hs).trans
      (outcome_bind_eq h hnext (Session.faithful_empty b)).symm
  have hop := h
  obtain ⟨loaded, h⟩ := h
  cases hresult : op.answer with
  | error failure =>
    refine ⟨loaded, fun s hs => ⟨hanswer hs, ?_⟩⟩
    have hfirst : op.outcome s = (.error failure, (op.outcome s).2) :=
      Prod.ext ((hop.outcome_eq hs).trans hresult) rfl
    rw [outcome_bind_error hfirst]
    exact (h s hs).2
  | ok a =>
    obtain ⟨more, hmore⟩ := hnext a hresult
    refine ⟨loaded ++ more, fun s hs => ⟨hanswer hs, ?_⟩⟩
    have hfirst : op.outcome s = (.ok a, (op.outcome s).2) :=
      Prod.ext ((hop.outcome_eq hs).trans hresult) rfl
    have hsecond := (hmore _ (hop.faithful hs)).2
    rw [outcome_bind_ok hfirst, DocumentCache.learn_append, ← (h s hs).2.2]
    exact hsecond

/-- A choice is transparent if both ways are. -/
theorem ite {c : Prop} [Decidable c] {op op' : Operation Session α}
    (h : c → op.IsTransparent b) (h' : ¬c → op'.IsTransparent b) :
    (if c then op else op').IsTransparent b := by
  by_cases hc : c
  · rw [if_pos hc]; exact h hc
  · rw [if_neg hc]; exact h' hc

end IsTransparent

/-- The answer of one transparent operation after another. -/
theorem answer_bind {op : Operation Session α} {next : α → Operation Session β}
    (h : op.IsTransparent b) (hnext : ∀ a, op.answer = .ok a → (next a).IsTransparent b) :
    (op >>= next).answer = op.answer.bind fun a => (next a).answer := by
  have hstart := Session.faithful_empty b
  exact IsTransparent.outcome_bind_eq h hnext hstart

/-- Whether an operation is transparent and has a certain answer. -/
structure Tells (b : Backing) (op : Operation Session α) (result : Except Failure α) : Prop where
  /-- It is transparent. -/
  isTransparent : op.IsTransparent b
  /-- It has this answer. -/
  answer_eq : op.answer = result

namespace Tells

/-- Giving a value tells that value. -/
theorem pure (a : α) : (Pure.pure a : Operation Session α).Tells b (.ok a) := ⟨.pure a, rfl⟩

/-- Failing tells that failure. -/
theorem throw (failure : Failure) :
    (MonadExcept.throw failure : Operation Session α).Tells b (.error failure) :=
  ⟨.throw failure, rfl⟩

/-- A result tells itself. -/
theorem ofExcept {result result' : Except Failure α} (h : result = result') :
    (ofExcept result : Operation Session α).Tells b result' := ⟨.ofExcept result, h⟩

/-- Writing a record tells that it was done. -/
theorem note (level : LogLevel) (source : LogSource) (message : Text) :
    (Session.note level source message).Tells b (.ok ()) := ⟨.note level source message, rfl⟩

/-- Keeping a look tells that it was done. -/
theorem visit (inquiry : Inquiry) (h : ResourceHandle) :
    (Session.visit inquiry h).Tells b (.ok ()) := ⟨.visit inquiry h, rfl⟩

/-- An attempt tells what the operation tells, whether it is a failure or not. -/
theorem attempt {op : Operation Session α} {result : Except Failure α} (h : op.Tells b result) :
    op.attempt.Tells b (.ok result) :=
  ⟨h.isTransparent.attempt, congrArg Except.ok h.answer_eq⟩

/-- What follows an answer tells the answer of both. -/
theorem bind {op : Operation Session α} {next : α → Operation Session β} {a : α}
    {result : Except Failure β} (h : op.Tells b (.ok a)) (hnext : (next a).Tells b result) :
    (op >>= next).Tells b result := by
  have htransparent (a' : α) (ha' : op.answer = .ok a') : (next a').IsTransparent b := by
    rw [h.answer_eq] at ha'
    cases ha'
    exact hnext.isTransparent
  refine ⟨h.isTransparent.bind htransparent, ?_⟩
  rw [answer_bind h.isTransparent htransparent, h.answer_eq]
  exact hnext.answer_eq

/-- Nothing follows a failure. -/
theorem bind_error {op : Operation Session α} {next : α → Operation Session β} {failure : Failure}
    (h : op.Tells b (.error failure)) : (op >>= next).Tells b (.error failure) := by
  have htransparent (a' : α) (ha' : op.answer = .ok a') : (next a').IsTransparent b := by
    rw [h.answer_eq] at ha'
    cases ha'
  refine ⟨h.isTransparent.bind htransparent, ?_⟩
  rw [answer_bind h.isTransparent htransparent, h.answer_eq]
  rfl

/-- What is told may be changed. -/
theorem map {op : Operation Session α} {result : Except Failure α} (h : op.Tells b result)
    (change : α → β) :
    (do return change (← op) : Operation Session β).Tells b (result.map change) := by
  cases result with
  | error failure => exact h.bind_error
  | ok a => exact h.bind (.pure _)

end Tells

end Operation

end ConfigNamespace
