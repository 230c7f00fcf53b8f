import ConfigNamespace.Proofs.Lookup.Recovery

/-!
# Servers that refuse requests for heads

Whether a page is there is asked with a request for its head, and with one for the page where the
server does not allow the first. Where pages answer both requests alike, it makes no difference which
of them refuse to be asked for their heads: the same pages are there, the same ones are slow or out of
reach, and documents are read with requests for pages anyway. Only the wording of failures tells
which request was made last.
-/

namespace ConfigNamespace

open Operation

namespace World

/-- Whether every page answers a request for its head as it answers one for itself. -/
def AnswersAlike (w : World) : Prop := ∀ url, (w.page url).head = (w.page url).get

/-- Whether a world has the pages of another one, of which some do not allow requests for their
heads. The same timeouts are of use in both. -/
structure RefusesHeads (w w' : World) : Prop where
  /-- A request for the head of a page is refused, or answered as before. -/
  head : ∀ url, (w'.page url).head = .status 405 ∨ (w'.page url).head = (w.page url).head
  /-- A request for a page is answered as before. -/
  get : ∀ url, (w'.page url).get = (w.page url).get
  /-- The content is the same. -/
  body : ∀ url, (w'.page url).body = (w.page url).body
  /-- The same is wrong with timeouts. -/
  timeoutFault?_eq : w'.timeoutFault? = w.timeoutFault?

/-- Whether a page is there, by the answers to requests for its head and for itself. -/
def presence (w : World) (timeout : Quantity) (url : Text) : Except Failure Bool :=
  (w.reply ⟨.head, url, timeout⟩).bind fun asked =>
    if asked = 405 then (w.reply ⟨.get, url, timeout⟩).bind fun code => .ok (decide (code < 400))
    else .ok (decide (asked < 400))

/-- The world in which no page allows a request for its head. -/
def refusingHeads (w : World) : World :=
  { w with pages := w.pages.map fun entry => (entry.1, { entry.2 with head := .status 405 }) }

variable {w w' : World}

/-- No page need allow a request for its head. -/
theorem refusesHeads_refusingHeads (w : World) : w.RefusesHeads w.refusingHeads := by
  have hrows : Keyed.Alike (fun page page' => page' = { page with head := .status 405 }) w.pages
      w.refusingHeads.pages :=
    List.forall₂_map_right_iff.mpr (List.forall₂_same.mpr fun _ _ => ⟨rfl, rfl⟩)
  have hpage (url : Text) : w.refusingHeads.page url = { w.page url with head := .status 405 } ∨
      w.refusingHeads.page url = w.page url := by
    have hrel := hrows.get? url
    unfold page
    generalize w.pages.get? url = found at hrel
    generalize w.refusingHeads.pages.get? url = found' at hrel
    cases hrel with
    | none => exact .inr rfl
    | some heq => exact .inl heq
  refine ⟨fun url => ?_, fun url => ?_, fun url => ?_, rfl⟩
  all_goals rcases hpage url with heq | heq
  all_goals rw [heq]
  · exact .inl rfl
  · exact .inr rfl

/-- Pages answer alike if all those do that are there. -/
theorem answersAlike_of_forall (h : ∀ entry ∈ w.pages, entry.2.head = entry.2.get) :
    w.AnswersAlike := by
  intro url
  unfold page
  cases hfound : w.pages.get? url with
  | none => rfl
  | some page => exact h _ (Keyed.mem_of_get? hfound)

/-- Where pages answer alike, requests for the head of a page and for the page come to the same. -/
theorem reply_agree (halike : w.AnswersAlike) (timeout : Quantity) (url : Text) :
    Agree (· = ·) (w.reply ⟨.head, url, timeout⟩) (w.reply ⟨.get, url, timeout⟩) := by
  simp only [reply, answer, halike url]
  cases w.timeoutFault? timeout with
  | some reason => exact .error rfl
  | none =>
    cases (w.page url).get with
    | status code => exact .ok rfl
    | timeout => exact .error rfl
    | refused => exact .error rfl

/-- Where pages answer alike, a page is there if a request for its head says so. -/
theorem presence_eq_of_answersAlike (halike : w.AnswersAlike) (timeout : Quantity) (url : Text) :
    w.presence timeout url =
      (w.reply ⟨.head, url, timeout⟩).map fun code => decide (code < 400) := by
  simp only [presence, reply, answer, halike url]
  cases w.timeoutFault? timeout with
  | some reason => rfl
  | none =>
    cases (w.page url).get with
    | status code => by_cases hcode : code = 405 <;> simp [Except.bind, Except.map, hcode]
    | timeout => rfl
    | refused => rfl

/-- A page that refuses requests for its head is there if a request for the page says so. -/
theorem presence_eq_of_refused {url : Text} (hhead : (w.page url).head = .status 405)
    (timeout : Quantity) : w.presence timeout url =
      (w.reply ⟨.get, url, timeout⟩).map fun code => decide (code < 400) := by
  simp only [presence, reply, answer, hhead]
  cases w.timeoutFault? timeout with
  | some reason => rfl
  | none => cases (w.page url).get <;> rfl

/-- Where pages answer alike, those that refuse requests for their heads are there all the same. -/
theorem presence_agree (halike : w.AnswersAlike) (hrefuses : w.RefusesHeads w') (timeout : Quantity)
    (url : Text) : Agree (· = ·) (w.presence timeout url) (w'.presence timeout url) := by
  have hget : w'.reply ⟨.get, url, timeout⟩ = w.reply ⟨.get, url, timeout⟩ := by
    simp only [reply, answer, hrefuses.get url, hrefuses.timeoutFault?_eq]
  rcases hrefuses.head url with hhead | hhead
  · rw [presence_eq_of_answersAlike halike, presence_eq_of_refused hhead, hget]
    exact (reply_agree halike timeout url).map _
  · have hsame : w'.presence timeout url = w.presence timeout url := by
      simp only [presence, reply, answer, hhead, hrefuses.get url, hrefuses.timeoutFault?_eq]
    rw [hsame]
    exact .refl _

end World

/-! ## Operations with one result -/

/-- Whether an operation comes to the same result from every session, and leaves the documents
alone. -/
def Operation.Yields {α : Type} (op : Operation Session α) (result : Except Failure α) : Prop :=
  ∀ s, (op.outcome s).1 = result ∧ (op.outcome s).2.cache = s.cache

/-- Whether two sessions hold the same documents. -/
def Session.SameDocuments (s s' : Session) : Prop := s'.cache = s.cache

namespace Operation.Yields

variable {α β : Type}

/-- Giving a value comes to that value. -/
theorem pure (a : α) : (Pure.pure a : Operation Session α).Yields (.ok a) := fun _ => ⟨rfl, rfl⟩

/-- Failing comes to that failure. -/
theorem throw (failure : Failure) :
    (MonadExcept.throw failure : Operation Session α).Yields (.error failure) := fun _ => ⟨rfl, rfl⟩

/-- A result comes to itself. -/
theorem ofExcept (result : Except Failure α) :
    (Operation.ofExcept result : Operation Session α).Yields result := fun _ => ⟨rfl, rfl⟩

/-- Writing a record comes to having done so. -/
theorem note (level : LogLevel) (source : LogSource) (message : Text) :
    (Session.note level source message).Yields (.ok ()) := fun _ => ⟨rfl, rfl⟩

/-- Keeping a look comes to having done so. -/
theorem visit (inquiry : Inquiry) (h : ResourceHandle) : (Session.visit inquiry h).Yields (.ok ()) :=
  fun _ => ⟨rfl, rfl⟩

/-- A request comes to its reply. -/
theorem request (w : World) (timeout : Quantity) (method : RequestMethod) (url : Text) :
    (Backend.request w timeout method url).Yields (w.reply ⟨method, url, timeout⟩) := fun s =>
  ⟨(Backend.outcome_request w timeout method url s).1,
    (Backend.outcome_request w timeout method url s).2.2⟩

/-- One operation after another comes to what both come to. -/
theorem bind {op : Operation Session α} {next : α → Operation Session β} {result : Except Failure α}
    {more : α → Except Failure β} (h : op.Yields result) (hnext : ∀ a, (next a).Yields (more a)) :
    (op >>= next).Yields (result.bind more) := by
  intro s
  obtain ⟨hresult, hcache⟩ := h s
  rcases hop : op.outcome s with ⟨failure | a, t⟩
  all_goals
    rw [hop] at hresult hcache
    cases hresult
  · rw [outcome_bind_error hop]
    exact ⟨rfl, hcache⟩
  · rw [outcome_bind_ok hop]
    exact ⟨(hnext a t).1, (hnext a t).2.trans hcache⟩

/-- What comes after a result is what follows. -/
theorem after {op : Operation Session α} {next : α → Operation Session β} {a : α}
    {result : Except Failure β} (h : op.Yields (.ok a)) (hnext : (next a).Yields result) :
    (op >>= next).Yields result := by
  intro s
  obtain ⟨hresult, hcache⟩ := h s
  have hop : op.outcome s = (.ok a, (op.outcome s).2) := Prod.ext hresult rfl
  rw [outcome_bind_ok hop]
  exact ⟨(hnext _).1, (hnext _).2.trans hcache⟩

/-- What an operation comes to may be changed. -/
theorem map {op : Operation Session α} {result : Except Failure α} (h : op.Yields result)
    (change : α → β) :
    (do return change (← op) : Operation Session β).Yields (result.map change) := by
  cases result with
  | error failure => exact .bind h fun _ => .pure _
  | ok a => exact .after h (.pure _)

/-- Records are written that nothing depends on. -/
theorem onLog {op : Operation Log α} {result : Except Failure α}
    (h : ∀ log, (op.outcome log).1 = result) : (Session.onLog op).Yields result :=
  fun s => ⟨h s.log, rfl⟩

/-- A record is written, and a result given. -/
theorem noted (level : LogLevel) (source : LogSource) (message : Text) (a : α) :
    (do Session.note level source message; Pure.pure a : Operation Session α).Yields (.ok a) :=
  .after (.note level source message) (.pure a)

/-- Operations whose results agree run in accord. -/
theorem inAccord {Q : α → β → Prop} {op : Operation Session α} {op' : Operation Session β}
    {result : Except Failure α} {result' : Except Failure β} (h : op.Yields result)
    (h' : op'.Yields result') (hagree : Agree Q result result') :
    InAccord Session.SameDocuments Q op op' := by
  intro s s' hs
  rw [(h s).1, (h' s').1]
  exact ⟨hagree, (h' s').2.trans (hs.trans (h s).2.symm)⟩

/-- An operation with one result runs in accord with itself. -/
theorem inAccord_self {op : Operation Session α} {result : Except Failure α}
    (h : op.Yields result) : InAccord Session.SameDocuments (· = ·) op op :=
  h.inAccord h (.refl result)

end Operation.Yields

/-! ## Locators -/

namespace Locator

/-- A locator of servers tells which pages are there by their answers. -/
theorem isPresent_yields (b : Backing) (h : ResourceHandle) :
    ((b.locator .remote).isPresent h).Yields
      (b.world.presence b.environment.timeout h.location) := by
  refine .after (.visit _ _) (.bind (.request _ _ _ _) fun asked => ?_)
  by_cases hasked : asked = 405
  · simp only [if_pos hasked]
    exact .bind (.request _ _ _ _) fun code => .noted _ _ _ _
  · simp only [if_neg hasked]
    exact .after (.pure _) (.noted _ _ _ _)

section

variable {b : Backing} {w' : World}

/-- Documents are read with requests for pages. -/
theorem fetched_eq (hrefuses : b.world.RefusesHeads w') (key : CacheKey) :
    Backing.fetched { b with world := w' } key = b.fetched key := by
  simp only [Backing.fetched, World.content, World.reply, World.answer, hrefuses.get, hrefuses.body,
    hrefuses.timeoutFault?_eq]

/-- Documents are loaded in step. -/
theorem load_inStep (hrefuses : b.world.RefusesHeads w') (h : ResourceHandle) (delimiter : Text) :
    InStep Session.SameDocuments (· = ·) ((b.locator .remote).load h delimiter)
      ((({ b with world := w' } : Backing).locator .remote).load h delimiter) := by
  intro s s' hs
  have hsame : s'.cache.get? ⟨h, delimiter⟩ = s.cache.get? ⟨h, delimiter⟩ := by
    rw [show s'.cache = s.cache from hs]
  cases hcached : s.cache.get? ⟨h, delimiter⟩ with
  | some d =>
    rw [outcome_load_of_cached _ hcached, outcome_load_of_cached _ (hsame.trans hcached)]
    exact ⟨.ok rfl, hs⟩
  | none =>
    obtain ⟨hresult, -, hcache⟩ := (b.locator .remote).load_of_missing hcached
    obtain ⟨hresult', -, hcache'⟩ := (({ b with world := w' } : Backing).locator .remote).load_of_missing
      (hsame.trans hcached)
    rw [parsed_remote] at hresult hcache
    rw [parsed_remote, fetched_eq hrefuses] at hresult' hcache'
    rw [hresult, hresult']
    refine ⟨.refl _, ?_⟩
    rw [Session.SameDocuments, hcache, hcache', show s'.cache = s.cache from hs]

variable (halike : b.world.AnswersAlike) (hrefuses : b.world.RefusesHeads w')
include halike hrefuses

/-- Asking whether a page is there runs in accord. -/
theorem isPresent_inAccord (h : ResourceHandle) :
    InAccord Session.SameDocuments (· = ·) ((b.locator .remote).isPresent h)
      ((({ b with world := w' } : Backing).locator .remote).isPresent h) :=
  (isPresent_yields b h).inAccord (isPresent_yields { b with world := w' } h)
    (World.presence_agree halike hrefuses _ _)

/-- Trying extensions runs in accord. -/
theorem firstDocument_inAccord (base name : Text) (extensions : List Text) :
    InAccord Session.SameDocuments (· = ·) ((b.locator .remote).firstDocument base name extensions)
      ((({ b with world := w' } : Backing).locator .remote).firstDocument base name extensions) := by
  induction extensions with
  | nil => exact (Yields.pure _).inAccord_self
  | cons extension extensions ih =>
    refine .bind (Yields.ofExcept _).inAccord_self ?_
    rintro h _ rfl
    refine .bind (isPresent_inAccord halike hrefuses h) ?_
    rintro present _ rfl
    exact .ite (Yields.pure _).inAccord_self ih

omit halike in
/-- What is loaded tells the same of containers. -/
theorem seemsContainer_inAccord (h : ResourceHandle) (delimiter : Text) :
    InAccord Session.SameDocuments (· = ·) ((b.locator .remote).seemsContainer h delimiter)
      ((({ b with world := w' } : Backing).locator .remote).seemsContainer h delimiter) := by
  refine .bind (.of_inStep (load_inStep hrefuses h delimiter).attempt) fun result result' hpaired => ?_
  obtain rfl := hpaired.eq
  cases result with
  | ok d =>
    refine .ite ?_ (.ite ?_ (Yields.pure _).inAccord_self)
    · exact (Yields.noted _ _ _ _).inAccord_self
    · exact (Yields.noted _ _ _ _).inAccord_self
  | error failure =>
    refine .ite ?_ (Yields.throw _).inAccord_self
    exact (Yields.noted _ _ _ _).inAccord_self

/-- Classifying a segment runs in accord. -/
theorem classified_inAccord (bare : ResourceHandle) (base segment : Text) (container : Bool) :
    InAccord Session.SameDocuments (· = ·)
      ((b.locator .remote).classified bare base segment container)
      ((({ b with world := w' } : Backing).locator .remote).classified bare base segment
        container) := by
  refine .ite (Yields.pure _).inAccord_self (.bind (firstDocument_inAccord halike hrefuses _ _ _) ?_)
  rintro found _ rfl
  cases found with
  | none => exact (Yields.pure _).inAccord_self
  | some h => exact (Yields.pure _).inAccord_self

/-- Probing runs in accord. -/
theorem probe_inAccord (base segment delimiter : Text) :
    InAccord Session.SameDocuments (· = ·) ((b.locator .remote).probe base segment delimiter)
      ((({ b with world := w' } : Backing).locator .remote).probe base segment delimiter) := by
  refine .ite (Yields.noted _ _ _ _).inAccord_self ?_
  refine .bind (Yields.ofExcept _).inAccord_self ?_
  rintro bare _ rfl
  have hclassified (container container' : Bool) (heq : container = container') :
      InAccord Session.SameDocuments (· = ·)
        ((b.locator .remote).classified bare base segment container)
        ((({ b with world := w' } : Backing).locator .remote).classified bare base segment
          container') :=
    heq ▸ classified_inAccord halike hrefuses bare base segment container
  refine .bind (isPresent_inAccord halike hrefuses bare) ?_
  rintro present _ rfl
  refine .ite ?_ (.bind (Yields.pure _).inAccord_self hclassified)
  refine .bind (Q := (· = ·)) (.bind (Yields.visit _ _).inAccord_self fun _ _ _ => ?_) hclassified
  exact seemsContainer_inAccord hrefuses bare delimiter

/-- Falling back runs in accord. -/
theorem fallBack_inAccord (path : Text) (remainder : List Text) :
    InAccord Session.SameDocuments (· = ·) ((b.locator .remote).fallBack path remainder)
      ((({ b with world := w' } : Backing).locator .remote).fallBack path remainder) := by
  refine .bind (firstDocument_inAccord halike hrefuses _ _ _) ?_
  rintro found _ rfl
  cases found with
  | none => exact (Yields.pure _).inAccord_self
  | some h => exact (Yields.noted _ _ _ _).inAccord_self

/-- Walks run in accord. -/
theorem walk_inAccord (delimiter path : Text) (segments : List Text) :
    InAccord Session.SameDocuments (· = ·) ((b.locator .remote).walk delimiter path segments)
      ((({ b with world := w' } : Backing).locator .remote).walk delimiter path segments) := by
  induction segments generalizing path with
  | nil => exact fallBack_inAccord halike hrefuses _ _
  | cons segment segments ih =>
    refine .bind (probe_inAccord halike hrefuses _ _ _) ?_
    rintro ⟨place, found⟩ _ rfl
    cases place with
    | container =>
      cases found with
      | none => exact fallBack_inAccord halike hrefuses _ _
      | some found => exact ih _
    | leaf =>
      cases found with
      | none => exact fallBack_inAccord halike hrefuses _ _
      | some found => exact (Yields.noted _ _ _ _).inAccord_self
    | absent => exact fallBack_inAccord halike hrefuses _ _

end

end Locator

end ConfigNamespace
