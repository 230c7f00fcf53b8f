import ConfigNamespace.Proofs.Lookup.CacheHistory
import ConfigNamespace.Proofs.Lookup.Remote

/-!
# Timeouts leave nothing behind

What was loaded before a timeout is what the servers hold, and they hold it still once slow pages
answer. So a lookup that finds it in the cache comes out as it does where it is read then.
-/

namespace ConfigNamespace

open Operation

/-! ## What servers hold -/

/-- The content of a page, if it is given. -/
def World.content (w : World) (timeout : Quantity) (url : Text) : Except Failure (List UInt8) :=
  (w.reply ⟨.get, url, timeout⟩).bind fun code =>
    if code < 400 then .ok (w.page url).body else .error (.refusedStatus url code)

/-- The document that a server gives. -/
def Backing.fetched (b : Backing) (key : CacheKey) : Except Failure Document :=
  (b.world.content b.environment.timeout key.handle.location).bind fun content =>
    (b.parsers.parse key.handle.name key.delimiter content).bind (Document.ofRaw key.handle)

/-- Reading a page gives its content, whatever the session holds. -/
theorem Locator.outcome_read_remote (b : Backing) (h : ResourceHandle) (s : Session) :
    (((b.locator .remote).read h).outcome s).1 =
      b.world.content b.environment.timeout h.location := by
  change ((Session.visit .content h >>= fun _ =>
    (Backend.remote b.environment.timeout).read b.world h).outcome s).1 = _
  unfold Session.visit
  rw [outcome_bind_ok (outcome_modify _ s)]
  unfold Backend.read World.content
  obtain ⟨hresult, -, -⟩ := Backend.outcome_request b.world b.environment.timeout .get h.location
    { s with visits := s.visits ++ [⟨.content, h⟩] }
  rcases hout : (Backend.request b.world b.environment.timeout .get h.location).outcome
    { s with visits := s.visits ++ [⟨.content, h⟩] } with ⟨failure | code, t⟩
  all_goals
    rw [hout] at hresult
    rw [← show _ = b.world.reply _ from hresult]
  · rw [outcome_bind_error hout]
    rfl
  · rw [outcome_bind_ok hout]
    by_cases hcode : code < 400 <;> simp [hcode, Except.bind]

/-- What is parsed is the document that the server gives, whatever the session holds. -/
theorem Locator.parsed_remote (b : Backing) (h : ResourceHandle) (delimiter : Text) (s : Session) :
    (b.locator .remote).parsed h delimiter s = b.fetched ⟨h, delimiter⟩ := by
  rw [parsed, outcome_read_remote]
  rfl

/-- Whether all that was answered in a world is answered in the same way in another one, where the
same timeouts are of use. -/
structure World.RecoversTo (w w' : World) : Prop where
  /-- A request for the head of a page was not answered in time, or is answered as before. -/
  head : ∀ url, (w.page url).head = .timeout ∨ (w'.page url).head = (w.page url).head
  /-- A request for a page was not answered in time, or is answered as before. -/
  get : ∀ url, (w.page url).get = .timeout ∨
    (w'.page url).get = (w.page url).get ∧ (w'.page url).body = (w.page url).body
  /-- The same is wrong with timeouts. -/
  timeoutFault?_eq : w'.timeoutFault? = w.timeoutFault?

/-- A world recovers when a page answers that did not. -/
theorem World.recoversTo_putPage {w : World} {url : Text} {page : Page}
    (hhead : (w.page url).head = .timeout ∨ page.head = (w.page url).head)
    (hget : (w.page url).get = .timeout ∨
      page.get = (w.page url).get ∧ page.body = (w.page url).body) :
    w.RecoversTo (w.putPage url page) := by
  have hpage (url' : Text) :
      (w.putPage url page).page url' = if url' = url then page else w.page url' := by
    simp only [World.page, putPage, Keyed.get?_put]
    split <;> rfl
  refine ⟨fun url' => ?_, fun url' => ?_, rfl⟩
  all_goals
    rw [hpage]
    by_cases heq : url' = url
  · rw [if_pos heq, heq]
    exact hhead
  · rw [if_neg heq]
    exact .inr rfl
  · rw [if_pos heq, heq]
    exact hget
  · rw [if_neg heq]
    exact .inr ⟨rfl, rfl⟩

/-- Once slow pages answer, the documents that were given before are given still. -/
theorem Backing.fetched_of_recoversTo {b : Backing} {w' : World} (h : b.world.RecoversTo w')
    {key : CacheKey} {d : Document} (hd : b.fetched key = .ok d) :
    fetched { b with world := w' } key = .ok d := by
  have hfault := h.timeoutFault?_eq
  rcases h.get key.handle.location with hlate | ⟨hget, hbody⟩
  · unfold fetched World.content World.reply World.answer at hd
    dsimp only at hd
    rw [hlate] at hd
    cases hunusable : b.world.timeoutFault? b.environment.timeout <;>
      simp [hunusable, Except.bind] at hd
  · rw [← hd]
    simp only [fetched, World.content, World.reply, World.answer, hget, hbody, hfault]

/-! ## What is remembered makes no difference -/

/-- A cache may come to hold documents that servers give. -/
def learning (b : Backing) : Evolution Session where
  Allows s t := ∀ key, t.cache.get? key = s.cache.get? key ∨
    s.cache.get? key = none ∧ ∃ d, t.cache.get? key = some d ∧ b.fetched key = .ok d
  refl _ _ := .inl rfl
  trans := by
    intro s t u hst htu key
    rcases htu key with hu | ⟨ht, d, hu, hd⟩
    · rw [hu]
      exact hst key
    · rcases hst key with hs | ⟨-, d', ht', -⟩
      · exact .inr ⟨hs ▸ ht, d, hu, hd⟩
      · rw [ht] at ht'
        cases ht'

/-- Where the cache stays, nothing is learned. -/
theorem learning_of_cache_eq {b : Backing} {s t : Session} (h : t.cache = s.cache) :
    (learning b).Allows s t := fun key => .inl (by rw [h])

/-- What servers gave in time is there to be learned. -/
theorem Locator.load_learning {b : Backing} {w' : World} (hrecovers : b.world.RecoversTo w')
    (h : ResourceHandle) (delimiter : Text) :
    ((b.locator .remote).load h delimiter).Follows (learning { b with world := w' }) := by
  intro s
  cases hcached : s.cache.get? ⟨h, delimiter⟩ with
  | some d =>
    rw [outcome_load_of_cached _ hcached]
    exact (learning _).refl s
  | none =>
    obtain ⟨-, -, hcache⟩ := (b.locator .remote).load_of_missing hcached
    rw [parsed_remote] at hcache
    cases hfetched : b.fetched ⟨h, delimiter⟩ with
    | error failure =>
      rw [hfetched] at hcache
      exact learning_of_cache_eq hcache
    | ok d =>
      rw [hfetched] at hcache
      intro key
      rw [hcache, DocumentCache.get?_add]
      by_cases hkey : key = ⟨h, delimiter⟩
      · rw [if_pos hkey, hkey]
        exact .inr ⟨hcached, d, rfl, Backing.fetched_of_recoversTo hrecovers hfetched⟩
      · rw [if_neg hkey]
        exact .inl rfl

/-- Looking at servers teaches a cache nothing that they do not give once slow pages answer. -/
theorem Backing.Looks.learning {b : Backing} {w' : World} (hrecovers : b.world.RecoversTo w')
    {α : Type} {op : Operation Session α} (h : b.Looks op) :
    op.Follows (learning { b with world := w' }) := by
  induction h with
  | pure a => exact .pure a
  | throw failure => exact .throw failure
  | onLog h => exact fun s => learning_of_cache_eq rfl
  | visit inquiry h => exact .modify fun s => learning_of_cache_eq rfl
  | request method url =>
    intro s
    exact learning_of_cache_eq (Backend.outcome_request _ _ method url s).2.2
  | load h delimiter => exact Locator.load_learning hrecovers h delimiter
  | bind h hnext ih ihnext => exact .bind ih fun a _ => ihnext a
  | attempt h hnext htimeout ih ihnext => exact .bind ih.attempt fun result _ => ihnext result

/-- Whether an operation comes out the same from a session and from one that has learned more. -/
def Operation.Indifferent (b : Backing) {α : Type} (op : Operation Session α) : Prop :=
  ∀ s t, (learning b).Allows s t → (op.outcome t).1 = (op.outcome s).1 ∧
    (learning b).Allows (op.outcome s).2 (op.outcome t).2

namespace Operation.Indifferent

variable {b : Backing} {α β : Type}

/-- An operation is indifferent if it always gives the same result and leaves documents alone. -/
theorem of_cache_eq {op : Operation Session α}
    (hresult : ∀ s t, (op.outcome t).1 = (op.outcome s).1)
    (hcache : ∀ s, (op.outcome s).2.cache = s.cache) : op.Indifferent b := by
  intro s t hst
  refine ⟨hresult s t, fun key => ?_⟩
  rw [hcache s, hcache t]
  exact hst key

/-- One operation after another is indifferent if both are. -/
theorem bind {op : Operation Session α} {next : α → Operation Session β} (h : op.Indifferent b)
    (hnext : ∀ a, (next a).Indifferent b) : (op >>= next).Indifferent b := by
  intro s t hst
  obtain ⟨hresult, hlearned⟩ := h s t hst
  rcases hs : op.outcome s with ⟨result, s'⟩
  rcases ht : op.outcome t with ⟨result', t'⟩
  rw [hs, ht] at hresult hlearned
  obtain rfl : result' = result := hresult
  cases result' with
  | error failure =>
    rw [outcome_bind_error hs, outcome_bind_error ht]
    exact ⟨rfl, hlearned⟩
  | ok a =>
    rw [outcome_bind_ok hs, outcome_bind_ok ht]
    exact hnext a s' t' hlearned

/-- What is indifferent is so when it is attempted. -/
theorem attempt {op : Operation Session α} (h : op.Indifferent b) : op.attempt.Indifferent b := by
  intro s t hst
  obtain ⟨hresult, hlearned⟩ := h s t hst
  exact ⟨congrArg Except.ok hresult, hlearned⟩

/-- A document that was learned is the one that is read where it was not. -/
theorem load (h : ResourceHandle) (delimiter : Text) :
    ((b.locator .remote).load h delimiter).Indifferent b := by
  intro s t hst
  cases hs : s.cache.get? ⟨h, delimiter⟩ with
  | some d =>
    have ht : t.cache.get? ⟨h, delimiter⟩ = some d := by
      rcases hst ⟨h, delimiter⟩ with heq | ⟨hnone, -⟩
      · rw [heq, hs]
      · rw [hs] at hnone
        cases hnone
    rw [Locator.outcome_load_of_cached _ hs, Locator.outcome_load_of_cached _ ht]
    exact ⟨rfl, hst⟩
  | none =>
    obtain ⟨hresult, -, hcache⟩ := (b.locator .remote).load_of_missing hs
    rw [Locator.parsed_remote] at hresult hcache
    cases ht : t.cache.get? ⟨h, delimiter⟩ with
    | some d =>
      -- only the second session has the document, so that it was learned, and is what is read now
      have hfetched : b.fetched ⟨h, delimiter⟩ = .ok d := by
        rcases hst ⟨h, delimiter⟩ with heq | ⟨-, d', hd', hfetched⟩
        · rw [heq, hs] at ht
          cases ht
        · rw [ht] at hd'
          cases hd'
          exact hfetched
      rw [hfetched] at hresult hcache
      rw [Locator.outcome_load_of_cached _ ht]
      refine ⟨hresult.symm, fun key => ?_⟩
      rw [hcache, DocumentCache.get?_add]
      by_cases hkey : key = ⟨h, delimiter⟩
      · rw [if_pos hkey, hkey]
        exact .inl ht
      · rw [if_neg hkey]
        exact hst key
    | none =>
      obtain ⟨hresult', -, hcache'⟩ := (b.locator .remote).load_of_missing ht
      rw [Locator.parsed_remote] at hresult' hcache'
      refine ⟨hresult'.trans hresult.symm, fun key => ?_⟩
      rw [hcache, hcache']
      cases b.fetched ⟨h, delimiter⟩ with
      | error failure => exact hst key
      | ok d =>
        dsimp only
        rw [DocumentCache.get?_add, DocumentCache.get?_add]
        by_cases hkey : key = ⟨h, delimiter⟩
        · rw [if_pos hkey, if_pos hkey]
          exact .inl rfl
        · rw [if_neg hkey, if_neg hkey]
          exact hst key

end Operation.Indifferent

/-- Whatever looks at servers comes out the same when it was learned what they give. -/
theorem Backing.Looks.indifferent {b : Backing} {α : Type} {op : Operation Session α}
    (h : b.Looks op) : op.Indifferent b := by
  induction h with
  | pure a => exact .of_cache_eq (fun _ _ => rfl) fun _ => rfl
  | throw failure => exact .of_cache_eq (fun _ _ => rfl) fun _ => rfl
  | onLog h => exact .of_cache_eq (fun s t => h t.log s.log) fun _ => rfl
  | visit inquiry h => exact .of_cache_eq (fun _ _ => rfl) fun _ => rfl
  | request method url =>
    refine .of_cache_eq (fun s t => ?_) fun s => (Backend.outcome_request _ _ method url s).2.2
    have hs := (Backend.outcome_request b.world b.environment.timeout method url s).1
    exact (Backend.outcome_request _ _ method url t).1.trans hs.symm
  | load h delimiter => exact .load h delimiter
  | bind h hnext ih ihnext => exact ih.bind ihnext
  | attempt h hnext htimeout ih ihnext => exact ih.attempt.bind ihnext

end ConfigNamespace
