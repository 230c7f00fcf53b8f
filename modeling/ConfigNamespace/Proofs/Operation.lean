import ConfigNamespace.Operation

/-!
# Laws of operations

The outcome of an operation is computed step by step. What an operation may do to its state is
described by an evolution: a relation between states that allows nothing to happen, and one thing
after another. An invariant, a part of the state that stays as it is and a list that only grows are
all of this form, so that what single steps do carries over to whole operations in one way.
-/

namespace ConfigNamespace

/-- What may happen to a state. -/
structure Evolution (σ : Type) where
  /-- Whether the second state may come of the first one. -/
  Allows : σ → σ → Prop
  /-- Nothing may happen. -/
  refl : ∀ s, Allows s s
  /-- One thing may happen after another. -/
  trans : ∀ {s t u}, Allows s t → Allows t u → Allows s u

namespace Evolution

variable {σ : Type}

/-- A part of states stays as it is. -/
def fixing {τ : Type} (part : σ → τ) : Evolution σ :=
  ⟨fun s t => part t = part s, fun _ => rfl, fun h h' => h'.trans h⟩

/-- A property of states is kept. -/
def keeping (P : σ → Prop) : Evolution σ := ⟨fun s t => P s → P t, fun _ => id, fun h h' hs => h' (h hs)⟩

/-- A list in states grows at its end, by elements that have a property. -/
def growing {τ : Type} (part : σ → List τ) (P : τ → Prop) : Evolution σ where
  Allows s t := ∃ new, part t = part s ++ new ∧ ∀ a ∈ new, P a
  refl s := ⟨[], by simp, by simp⟩
  trans := by
    rintro s t u ⟨new, hnew, hP⟩ ⟨more, hmore, hP'⟩
    refine ⟨new ++ more, by rw [hmore, hnew, List.append_assoc], ?_⟩
    intro a ha
    rcases List.mem_append.mp ha with ha | ha
    · exact hP a ha
    · exact hP' a ha

end Evolution

/-- Whether two outcomes agree: their results are related, or both are failures of the same kind,
whatever the wording. -/
inductive Agree {α β : Type} (R : α → β → Prop) : Except Failure α → Except Failure β → Prop
  /-- Results that are related. -/
  | ok {a : α} {b : β} (h : R a b) : Agree R (.ok a) (.ok b)
  /-- Failures of the same kind. -/
  | error {failure failure' : Failure} (h : failure.kind = failure'.kind) :
    Agree R (.error failure) (.error failure')

/-- Every result agrees with itself. -/
theorem Agree.refl {α : Type} (result : Except Failure α) : Agree (· = ·) result result := by
  cases result with
  | error failure => exact .error rfl
  | ok a => exact .ok rfl

/-- Results that agree still do when both are changed alike. -/
theorem Agree.map {α β : Type} {result result' : Except Failure α} (h : Agree (· = ·) result result')
    (change : α → β) : Agree (· = ·) (result.map change) (result'.map change) := by
  cases h with
  | error h => exact .error h
  | ok h => exact .ok (congrArg change h)

namespace Operation

variable {σ τ α β : Type}

/-- What becomes of a result changes no failure. -/
theorem eq_error_of_map {result : Except Failure α} {change : α → β} {failure : Failure}
    (h : result.map change = .error failure) : result = .error failure := by
  cases result with
  | ok a => cases h
  | error raised =>
    cases h
    rfl

/-- A given value is the outcome, and the state stays. -/
@[simp] theorem outcome_pure (a : α) (s : σ) : (pure a : Operation σ α).outcome s = (.ok a, s) :=
  rfl

/-- A thrown failure is the outcome, and the state stays. -/
@[simp] theorem outcome_throw (failure : Failure) (s : σ) :
    (throw failure : Operation σ α).outcome s = (.error failure, s) := rfl

/-- Asking for the state gives the state. -/
@[simp] theorem outcome_get (s : σ) : (get : Operation σ σ).outcome s = (.ok s, s) := rfl

/-- A change of the state gives no more than the changed state. -/
@[simp] theorem outcome_modify (change : σ → σ) (s : σ) :
    (modify change : Operation σ Unit).outcome s = (.ok (), change s) := rfl

/-- An operation that is made of its outcomes has these outcomes. -/
@[simp] theorem outcome_ofOutcome (step : σ → Except Failure α × σ) (s : σ) :
    (ofOutcome step).outcome s = step s := rfl

/-- A result is its own outcome, and the state stays. -/
@[simp] theorem outcome_ofExcept (result : Except Failure α) (s : σ) :
    (ofExcept result).outcome s = (result, s) := rfl

/-- An attempt gives the result, whether it is a failure or not. -/
@[simp] theorem outcome_attempt (op : Operation σ α) (s : σ) :
    op.attempt.outcome s = (.ok (op.outcome s).1, (op.outcome s).2) := rfl

/-- An operation on a part of the state leaves the rest to what puts the part back. -/
@[simp] theorem outcome_onPart (part : σ → τ) (replace : σ → τ → σ) (op : Operation τ α) (s : σ) :
    (op.onPart part replace).outcome s =
      ((op.outcome (part s)).1, replace s (op.outcome (part s)).2) := rfl

/-- What follows an operation takes over its result and its state; a failure ends both. -/
theorem outcome_bind (op : Operation σ α) (next : α → Operation σ β) (s : σ) :
    (op >>= next).outcome s =
      match op.outcome s with
      | (.ok a, t) => (next a).outcome t
      | (.error failure, t) => (.error failure, t) := by
  change ExceptT.bindCont next (op.outcome s).1 (op.outcome s).2 = _
  rcases op.outcome s with ⟨_ | _, t⟩ <;> rfl

/-- After a success comes what follows. -/
theorem outcome_bind_ok {op : Operation σ α} {next : α → Operation σ β} {s t : σ} {a : α}
    (h : op.outcome s = (.ok a, t)) : (op >>= next).outcome s = (next a).outcome t := by
  rw [outcome_bind, h]

/-- After a failure nothing follows. -/
theorem outcome_bind_error {op : Operation σ α} {next : α → Operation σ β} {s t : σ}
    {failure : Failure} (h : op.outcome s = (.error failure, t)) :
    (op >>= next).outcome s = (.error failure, t) := by
  rw [outcome_bind, h]

/-- Two operations are the same if they have the same outcomes. -/
theorem ext {op op' : Operation σ α} (h : ∀ s, op.outcome s = op'.outcome s) : op = op' :=
  funext h

/-- Whether an operation gives a result from some state. -/
def MayGive (op : Operation σ α) (a : α) : Prop := ∃ s, (op.outcome s).1 = .ok a

/-- A result of one operation after another is one of the second, for a result of the first. -/
theorem MayGive.of_bind {op : Operation σ α} {next : α → Operation σ β} {b : β}
    (h : (op >>= next).MayGive b) : ∃ a, op.MayGive a ∧ (next a).MayGive b := by
  obtain ⟨s, hs⟩ := h
  rw [outcome_bind] at hs
  rcases hop : op.outcome s with ⟨_ | a, t⟩
  · simp [hop] at hs
  · rw [hop] at hs
    exact ⟨a, ⟨s, by rw [hop]⟩, t, hs⟩

/-- An operation that gives a value may give nothing else. -/
theorem eq_of_mayGive_pure {a b : α} (h : (pure a : Operation σ α).MayGive b) : a = b := by
  obtain ⟨s, hs⟩ := h
  simpa using hs

/-- An operation that is a result gives a value only if that is the result. -/
theorem eq_ok_of_mayGive_ofExcept {result : Except Failure α} {a : α}
    (h : (ofExcept result : Operation σ α).MayGive a) : result = .ok a := by
  obtain ⟨s, hs⟩ := h
  exact hs

/-- What follows a result gives what it gives on its own. -/
theorem mayGive_ofExcept_bind {result : Except Failure α} {next : α → Operation σ β} {a : α} {b : β}
    (h : result = .ok a) (hnext : (next a).MayGive b) :
    (ofExcept result >>= next : Operation σ β).MayGive b := by
  obtain ⟨s, hs⟩ := hnext
  exact ⟨s, by rw [h]; exact hs⟩

/-- Whether an operation does nothing to its state but what an evolution allows. -/
def Follows (op : Operation σ α) (E : Evolution σ) : Prop := ∀ s, E.Allows s (op.outcome s).2

/-- What one operation after another does is allowed from a state on if what the first does is, and
the second follows the evolution for each result of the first. -/
theorem allows_bind {E : Evolution σ} {op : Operation σ α} {next : α → Operation σ β} {s u : σ}
    (h : E.Allows u (op.outcome s).2) (hnext : ∀ a, op.MayGive a → (next a).Follows E) :
    E.Allows u ((op >>= next).outcome s).2 := by
  rcases hop : op.outcome s with ⟨_ | a, t⟩
  · rw [outcome_bind_error hop]
    rwa [hop] at h
  · rw [outcome_bind_ok hop]
    rw [hop] at h
    exact E.trans h (hnext a ⟨s, by rw [hop]⟩ t)

namespace Follows

variable {E : Evolution σ}

/-- Giving a value makes no step. -/
theorem pure (a : α) : (Pure.pure a : Operation σ α).Follows E := E.refl

/-- Failing makes no step. -/
theorem throw (failure : Failure) : (MonadExcept.throw failure : Operation σ α).Follows E := E.refl

/-- Asking for the state makes no step. -/
theorem get : (MonadState.get : Operation σ σ).Follows E := E.refl

/-- Giving a result makes no step. -/
theorem ofExcept (result : Except Failure α) : (ofExcept result : Operation σ α).Follows E :=
  E.refl

/-- A change is a step if it is allowed from every state. -/
theorem modify {change : σ → σ} (h : ∀ s, E.Allows s (change s)) :
    (modify change : Operation σ Unit).Follows E := h

/-- What is attempted makes the steps that it makes on its own. -/
theorem attempt {op : Operation σ α} (h : op.Follows E) : op.attempt.Follows E := h

/-- One operation after another follows an evolution if the second does for each result of the
first. -/
theorem bind {op : Operation σ α} {next : α → Operation σ β} (h : op.Follows E)
    (hnext : ∀ a, op.MayGive a → (next a).Follows E) : (op >>= next).Follows E :=
  fun s => allows_bind (h s) hnext

/-- A choice between two operations makes the steps that the chosen one makes. -/
theorem ite {c : Prop} [Decidable c] {op op' : Operation σ α} (h : c → op.Follows E)
    (h' : ¬c → op'.Follows E) : (if c then op else op').Follows E := by
  by_cases hc : c
  · rw [if_pos hc]; exact h hc
  · rw [if_neg hc]; exact h' hc

/-- An operation on a part of the state follows an evolution if what it does to the part amounts to
something allowed. -/
theorem onPart {part : σ → τ} {replace : σ → τ → σ} {op : Operation τ α} {E' : Evolution τ}
    (h : op.Follows E') (hE : ∀ s t, E'.Allows (part s) t → E.Allows s (replace s t)) :
    (op.onPart part replace).Follows E := fun s => hE s _ (h (part s))

end Follows

/-- Whether an operation fails only in ways that have a property. -/
def FailsOnly (op : Operation σ α) (P : Failure → Prop) : Prop :=
  ∀ s failure, (op.outcome s).1 = .error failure → P failure

namespace FailsOnly

variable {P : Failure → Prop}

/-- Giving a value does not fail. -/
theorem pure (a : α) : (Pure.pure a : Operation σ α).FailsOnly P := nofun

/-- Asking for the state does not fail. -/
theorem get : (MonadState.get : Operation σ σ).FailsOnly P := nofun

/-- Changing the state does not fail. -/
theorem modify (change : σ → σ) : (modify change : Operation σ Unit).FailsOnly P := nofun

/-- An attempt does not fail. -/
theorem attempt (op : Operation σ α) : op.attempt.FailsOnly P := nofun

/-- Failing fails with the given failure. -/
theorem throw {failure : Failure} (h : P failure) :
    (MonadExcept.throw failure : Operation σ α).FailsOnly P := by
  intro s raised hraised
  cases hraised
  exact h

/-- Giving a result fails with the failure that the result is. -/
theorem ofExcept {result : Except Failure α} (h : ∀ failure, result = .error failure → P failure) :
    (ofExcept result : Operation σ α).FailsOnly P := fun _ => h

/-- One operation after another fails as the first does, or as the second does for a result of the
first. -/
theorem bind {op : Operation σ α} {next : α → Operation σ β} (h : op.FailsOnly P)
    (hnext : ∀ a, op.MayGive a → (next a).FailsOnly P) : (op >>= next).FailsOnly P := by
  intro s failure hfailure
  rcases hop : op.outcome s with ⟨raised | a, t⟩
  · rw [outcome_bind_error hop] at hfailure
    cases hfailure
    exact h s failure (by rw [hop])
  · rw [outcome_bind_ok hop] at hfailure
    exact hnext a ⟨s, by rw [hop]⟩ t failure hfailure

/-- A choice fails as the chosen operation does. -/
theorem ite {c : Prop} [Decidable c] {op op' : Operation σ α} (h : c → op.FailsOnly P)
    (h' : ¬c → op'.FailsOnly P) : (if c then op else op').FailsOnly P := by
  by_cases hc : c
  · rw [if_pos hc]; exact h hc
  · rw [if_neg hc]; exact h' hc

/-- An operation on a part of the state fails as it does on the part. -/
theorem onPart {part : σ → τ} {replace : σ → τ → σ} {op : Operation τ α} (h : op.FailsOnly P) :
    (op.onPart part replace).FailsOnly P := fun s => h (part s)

/-- The failures of an operation may be described by less. -/
theorem mono {P' : Failure → Prop} {op : Operation σ α} (h : op.FailsOnly P)
    (hP : ∀ failure, P failure → P' failure) : op.FailsOnly P' :=
  fun s failure hfailure => hP failure (h s failure hfailure)

end FailsOnly

/-- Whether an operation gives only results that have a property, and fails only in ways that have
one. -/
structure Ends (op : Operation σ α) (Q : α → Prop) (P : Failure → Prop) : Prop where
  /-- What it gives. -/
  gives : ∀ a, op.MayGive a → Q a
  /-- How it fails. -/
  fails : op.FailsOnly P

namespace Ends

variable {P : Failure → Prop} {Q : α → Prop}

/-- Giving a value ends with that value. -/
theorem pure {a : α} (h : Q a) : (Pure.pure a : Operation σ α).Ends Q P :=
  ⟨fun _ hgives => eq_of_mayGive_pure hgives ▸ h, .pure a⟩

/-- Giving a result ends with the result. -/
theorem ofExcept {result : Except Failure α} (h : ∀ a, result = .ok a → Q a)
    (h' : ∀ failure, result = .error failure → P failure) :
    (ofExcept result : Operation σ α).Ends Q P :=
  ⟨fun a hgives => h a (eq_ok_of_mayGive_ofExcept hgives), .ofExcept h'⟩

/-- One operation after another ends as the second does for a result of the first, or fails as the
first does. -/
theorem bind {op : Operation σ α} {next : α → Operation σ β} {Q' : β → Prop} (h : op.Ends Q P)
    (hnext : ∀ a, Q a → (next a).Ends Q' P) : (op >>= next).Ends Q' P := by
  refine ⟨fun b hgives => ?_, .bind h.fails fun a ha => (hnext a (h.gives a ha)).fails⟩
  obtain ⟨a, ha, hb⟩ := hgives.of_bind
  exact (hnext a (h.gives a ha)).gives b hb

/-- What follows an operation that cannot fail counts alone. -/
theorem after {op : Operation σ α} {next : α → Operation σ β} {Q' : β → Prop}
    (h : op.FailsOnly fun _ => False) (hnext : ∀ a, (next a).Ends Q' P) :
    (op >>= next).Ends Q' P :=
  bind ⟨fun _ _ => trivial, h.mono fun _ => False.elim⟩ fun a _ => hnext a

/-- A choice ends as the chosen operation does. -/
theorem ite {c : Prop} [Decidable c] {op op' : Operation σ α} (h : c → op.Ends Q P)
    (h' : ¬c → op'.Ends Q P) : (if c then op else op').Ends Q P := by
  by_cases hc : c
  · rw [if_pos hc]; exact h hc
  · rw [if_neg hc]; exact h' hc

end Ends

/-- Whether two outcomes are paired: their results are related, or both are the same failure. -/
inductive Paired (Q : α → β → Prop) : Except Failure α → Except Failure β → Prop
  /-- Results that are related. -/
  | ok {a : α} {b : β} (h : Q a b) : Paired Q (.ok a) (.ok b)
  /-- The same failure. -/
  | error (failure : Failure) : Paired Q (.error failure) (.error failure)

/-- Every result is paired with itself. -/
theorem Paired.refl (result : Except Failure α) : Paired (· = ·) result result := by
  cases result with
  | error failure => exact .error failure
  | ok a => exact .ok rfl

/-- What paired results have in common may be described by less. -/
theorem Paired.mono {P Q : α → β → Prop} {result : Except Failure α} {result' : Except Failure β}
    (h : Paired P result result') (hPQ : ∀ a b, P a b → Q a b) : Paired Q result result' := by
  cases h with
  | ok hP => exact .ok (hPQ _ _ hP)
  | error failure => exact .error failure

/-- Outcomes that are paired agree. -/
theorem Paired.agree {Q : α → β → Prop} {result : Except Failure α} {result' : Except Failure β}
    (h : Paired Q result result') : Agree Q result result' := by
  cases h with
  | ok hQ => exact .ok hQ
  | error failure => exact .error rfl

/-- Results that are paired by equality are equal. -/
theorem Paired.eq {result result' : Except Failure α} (h : Paired (· = ·) result result') :
    result = result' := by
  cases h with
  | error failure => rfl
  | ok h => rw [h]

/-- Whether two operations run in step: from related states they come to related states, with paired
outcomes. -/
def InStep (R : σ → σ → Prop) (Q : α → β → Prop) (op : Operation σ α) (op' : Operation σ β) : Prop :=
  ∀ s s', R s s' → Paired Q (op.outcome s).1 (op'.outcome s').1 ∧
    R (op.outcome s).2 (op'.outcome s').2

namespace InStep

variable {γ δ : Type} {R : σ → σ → Prop} {Q : α → β → Prop} {Q' : γ → δ → Prop}

/-- Operations that give related values are in step. -/
theorem pure {a : α} {b : β} (h : Q a b) :
    InStep R Q (Pure.pure a : Operation σ α) (Pure.pure b : Operation σ β) :=
  fun _ _ hs => ⟨.ok h, hs⟩

/-- Operations that fail with the same failure are in step. -/
theorem throw (failure : Failure) : InStep R Q (MonadExcept.throw failure : Operation σ α)
    (MonadExcept.throw failure : Operation σ β) := fun _ _ hs => ⟨.error failure, hs⟩

/-- Asking for related states is in step. -/
theorem get : InStep R R (MonadState.get : Operation σ σ) (MonadState.get : Operation σ σ) :=
  fun _ _ hs => ⟨.ok hs, hs⟩

/-- Giving the same result is in step with itself. -/
theorem ofExcept (result : Except Failure α) : InStep R (fun a b => a = b ∧ result = .ok a)
    (ofExcept result : Operation σ α) (ofExcept result : Operation σ α) := by
  intro s s' hs
  refine ⟨?_, hs⟩
  cases result with
  | error failure => exact .error failure
  | ok a => exact .ok ⟨rfl, rfl⟩

/-- Changes that keep states related are in step. -/
theorem modify {change change' : σ → σ} (h : ∀ s s', R s s' → R (change s) (change' s')) :
    InStep R (· = ·) (modify change : Operation σ Unit) (modify change' : Operation σ Unit) :=
  fun s s' hs => ⟨.ok rfl, h s s' hs⟩

/-- From the same state, an operation comes to the same outcome. -/
theorem refl (op : Operation σ α) : InStep (· = ·) (· = ·) op op := by
  rintro s _ rfl
  exact ⟨.refl _, rfl⟩

/-- Operations in step are so still when they are attempted, with results that are paired. -/
theorem attempt {op : Operation σ α} {op' : Operation σ β} (h : InStep R Q op op') :
    InStep R (Paired Q) op.attempt op'.attempt :=
  fun s s' hs => ⟨.ok (h s s' hs).1, (h s s' hs).2⟩

/-- What follows operations in step runs in step if it does for related results. -/
theorem bind {op : Operation σ α} {op' : Operation σ β} {next : α → Operation σ γ}
    {next' : β → Operation σ δ} (h : InStep R Q op op')
    (hnext : ∀ a b, Q a b → InStep R Q' (next a) (next' b)) :
    InStep R Q' (op >>= next) (op' >>= next') := by
  intro s s' hs
  obtain ⟨hpaired, hstates⟩ := h s s' hs
  rcases hop : op.outcome s with ⟨result, t⟩
  rcases hop' : op'.outcome s' with ⟨result', t'⟩
  rw [hop, hop'] at hpaired hstates
  cases hpaired with
  | error failure =>
    rw [outcome_bind_error hop, outcome_bind_error hop']
    exact ⟨.error failure, hstates⟩
  | ok hQ =>
    rw [outcome_bind_ok hop, outcome_bind_ok hop']
    exact hnext _ _ hQ t t' hstates

/-- Nothing follows a failure. -/
theorem throw_bind (failure : Failure) (next : α → Operation σ γ) (next' : β → Operation σ δ) :
    InStep R Q' (MonadExcept.throw failure >>= next) (MonadExcept.throw failure >>= next') :=
  fun _ _ hs => ⟨.error failure, hs⟩

/-- Choices are in step if they choose alike and both ways are in step. -/
theorem ite {c c' : Prop} [Decidable c] [Decidable c'] {op more : Operation σ α}
    {op' more' : Operation σ β} (hc : c ↔ c') (h : c → InStep R Q op op')
    (h' : ¬c → InStep R Q more more') :
    InStep R Q (if c then op else more) (if c' then op' else more') := by
  by_cases hcond : c
  · rw [if_pos hcond, if_pos (hc.mp hcond)]; exact h hcond
  · rw [if_neg hcond, if_neg (mt hc.mpr hcond)]; exact h' hcond

/-- What operations in step have in common may be described by less. -/
theorem mono {P : α → β → Prop} {op : Operation σ α} {op' : Operation σ β} (h : InStep R P op op')
    (hPQ : ∀ a b, P a b → Q a b) : InStep R Q op op' :=
  fun s s' hs => ⟨(h s s' hs).1.mono hPQ, (h s s' hs).2⟩

end InStep

/-- Whether two operations run in accord: from related states they come to related states, and their
outcomes agree. Their failures may differ in wording, which operations in step do not. -/
def InAccord (R : σ → σ → Prop) (Q : α → β → Prop) (op : Operation σ α) (op' : Operation σ β) :
    Prop :=
  ∀ s s', R s s' → Agree Q (op.outcome s).1 (op'.outcome s').1 ∧
    R (op.outcome s).2 (op'.outcome s').2

namespace InAccord

variable {γ δ : Type} {R : σ → σ → Prop} {Q : α → β → Prop} {Q' : γ → δ → Prop}

/-- Operations in step run in accord. -/
theorem of_inStep {op : Operation σ α} {op' : Operation σ β} (h : InStep R Q op op') :
    InAccord R Q op op' := fun s s' hs => ⟨(h s s' hs).1.agree, (h s s' hs).2⟩

/-- What follows operations in accord runs in accord if it does for related results. -/
theorem bind {op : Operation σ α} {op' : Operation σ β} {next : α → Operation σ γ}
    {next' : β → Operation σ δ} (h : InAccord R Q op op')
    (hnext : ∀ a b, Q a b → InAccord R Q' (next a) (next' b)) :
    InAccord R Q' (op >>= next) (op' >>= next') := by
  intro s s' hs
  obtain ⟨hagree, hstates⟩ := h s s' hs
  rcases hop : op.outcome s with ⟨result, t⟩
  rcases hop' : op'.outcome s' with ⟨result', t'⟩
  rw [hop, hop'] at hagree hstates
  cases hagree with
  | error hkind =>
    rw [outcome_bind_error hop, outcome_bind_error hop']
    exact ⟨.error hkind, hstates⟩
  | ok hQ =>
    rw [outcome_bind_ok hop, outcome_bind_ok hop']
    exact hnext _ _ hQ t t' hstates

/-- What follows the same success on both sides is what has to run in accord. -/
theorem ofExcept_bind {result : Except Failure α} {a : α} {next : α → Operation σ γ}
    {next' : α → Operation σ δ} (h : result = .ok a) (hnext : InAccord R Q' (next a) (next' a)) :
    InAccord R Q' (ofExcept result >>= next) (ofExcept result >>= next') := by
  subst h
  exact hnext

/-- A choice by one condition runs in accord if both ways do. -/
theorem ite {c : Prop} [Decidable c] {op more : Operation σ α} {op' more' : Operation σ β}
    (h : InAccord R Q op op') (h' : InAccord R Q more more') :
    InAccord R Q (if c then op else more) (if c then op' else more') := by
  by_cases hc : c
  · rw [if_pos hc, if_pos hc]; exact h
  · rw [if_neg hc, if_neg hc]; exact h'

end InAccord

/-- Whether two operations do the same but for the wording of their failures. -/
def Rewords (op op' : Operation σ α) : Prop :=
  ∀ s, Agree (· = ·) (op.outcome s).1 (op'.outcome s).1 ∧ (op.outcome s).2 = (op'.outcome s).2

namespace Rewords

/-- Every operation is a rewording of itself. -/
theorem refl (op : Operation σ α) : op.Rewords op := fun _ => ⟨.refl _, rfl⟩

/-- Failures of one kind reword each other. -/
theorem throw {failure failure' : Failure} (h : failure.kind = failure'.kind) :
    (MonadExcept.throw failure : Operation σ α).Rewords (MonadExcept.throw failure') :=
  fun _ => ⟨.error h, rfl⟩

/-- What follows an operation may be reworded. -/
theorem bind (op : Operation σ α) {next next' : α → Operation σ β}
    (h : ∀ a, (next a).Rewords (next' a)) : (op >>= next).Rewords (op >>= next') := by
  intro s
  rcases hop : op.outcome s with ⟨failure | a, t⟩
  · rw [outcome_bind_error hop, outcome_bind_error hop]
    exact ⟨.error rfl, rfl⟩
  · rw [outcome_bind_ok hop, outcome_bind_ok hop]
    exact h a t

/-- Both ways of a choice may be reworded. -/
theorem ite {c : Prop} [Decidable c] {op op' more more' : Operation σ α} (h : op.Rewords op')
    (h' : more.Rewords more') : (if c then op else more).Rewords (if c then op' else more') := by
  by_cases hc : c
  · rw [if_pos hc, if_pos hc]; exact h
  · rw [if_neg hc, if_neg hc]; exact h'

end Rewords

end Operation

end ConfigNamespace
