import ConfigNamespace.Proofs.Key
import ConfigNamespace.Proofs.Namespace.Find
import ConfigNamespace.Proofs.Namespace.Write

/-!
# Families that differ in secrets

Two families are alike if they differ in nothing but the values of entries, and have the same
namespaces as such. The log tells them apart no more than their sessions do. A write under the name of
a secret leaves them alike, whatever the values are, as does everything else that is done to both of
them; and hooks do no harm that ask for the same when they are told of different secrets.
-/

namespace ConfigNamespace

open Operation

section Hooks

variable {ε ρ σ : Type} (Rε : ε → ε → Prop) (Rρ : ρ → ρ → Prop)

/-- Whether two reactions are alike: they fail in the same way, ask for related actions, and register
hooks of the same name that react alike to related events. -/
inductive Reaction.Alike : Reaction ε ρ → Reaction ε ρ → Prop
  /-- Nothing more. -/
  | done : Alike .done .done
  /-- The same failure. -/
  | fail (failure : Failure) : Alike (.fail failure) (.fail failure)
  /-- Hooks are registered that are alike. -/
  | register {name : Text} {react react' : ε → Reaction ε ρ}
    {next next' : Except Failure Unit → Reaction ε ρ}
    (hreact : ∀ event event', Rε event event' → Alike (react event) (react' event'))
    (hnext : ∀ result, Alike (next result) (next' result)) :
    Alike (.register name react next) (.register name react' next')
  /-- Related actions are asked for. -/
  | act {action action' : ρ} {next next' : Except Failure Unit → Reaction ε ρ}
    (haction : Rρ action action') (hnext : ∀ result, Alike (next result) (next' result)) :
    Alike (.act action next) (.act action' next')

/-- Whether two hooks have the same name and react alike to related events. -/
structure Hook.Alike (hook hook' : Hook ε ρ) : Prop where
  /-- They have the same name. -/
  name_eq : hook'.name = hook.name
  /-- They react alike. -/
  react : ∀ event event', Rε event event' →
    (hook.react event).Alike Rε Rρ (hook'.react event')

/-- A reaction is like itself if the hooks are that it registers, and the actions that it may ask
for. -/
theorem Reaction.alike_self {reaction : Reaction ε ρ} (hrefl : ∀ action, Rρ action action)
    (h : reaction.Registers fun hook => hook.Alike Rε Rρ hook) : reaction.Alike Rε Rρ reaction := by
  induction reaction with
  | done => exact .done
  | fail failure => exact .fail failure
  | register name react next _ ihnext =>
    exact .register h.1.react fun result => ihnext result (h.2 result)
  | act action next ihnext => exact .act (hrefl action) fun result => ihnext result (h result)

namespace BusPlace

variable {Rε Rρ} {place : BusPlace σ ε ρ} {R : σ → σ → Prop}
  {register : Hook ε ρ → Operation σ Unit} {perform : ρ → Operation σ Unit} {actionOf : ε → Text}

/-- Whether a bus runs in step from related states: what hooks are told leaves them related, the same
records may be written, hooks that are alike registered and related actions performed, and failing
hooks mean the same. -/
structure RunsInStep (place : BusPlace σ ε ρ) (register : Hook ε ρ → Operation σ Unit)
    (perform : ρ → Operation σ Unit) (actionOf : ε → Text) (Rε : ε → ε → Prop) (Rρ : ρ → ρ → Prop)
    (R : σ → σ → Prop) : Prop where
  /-- Deliveries may differ. -/
  deliver : ∀ delivery delivery' s s', R s s' →
    R (place.deliver delivery s) (place.deliver delivery' s')
  /-- Records may be written. -/
  note : ∀ level source message, InStep R (· = ·)
    (place.onLog (ConfigNamespace.note level source message))
    (place.onLog (ConfigNamespace.note level source message))
  /-- Failing hooks mean the same. -/
  mode_eq : ∀ s s', R s s' → place.mode s' = place.mode s
  /-- Related events are reported in the same way. -/
  actionOf_eq : ∀ event event', Rε event event' → actionOf event' = actionOf event
  /-- Hooks may be registered. -/
  register : ∀ hook hook', hook.Alike Rε Rρ hook' →
    InStep R (· = ·) (register hook) (register hook')
  /-- Actions may be performed. -/
  perform : ∀ action action', Rρ action action' →
    InStep R (· = ·) (perform action) (perform action')

namespace RunsInStep

variable (h : place.RunsInStep register perform actionOf Rε Rρ R)
include h

/-- Reactions that are alike are carried out in step. -/
theorem carryOut_inStep {reaction reaction' : Reaction ε ρ}
    (halike : reaction.Alike Rε Rρ reaction') :
    InStep R (· = ·) (reaction.carryOut register perform) (reaction'.carryOut register perform) := by
  induction halike with
  | done => exact .pure rfl
  | fail failure => exact .throw failure
  | @register name react react' _ _ hreact _ _ ihnext =>
    have hregister := h.register ⟨name, react⟩ ⟨name, react'⟩ ⟨rfl, hreact⟩
    refine .bind hregister.attempt fun result result' hresult => ?_
    rw [← hresult.eq]
    exact ihnext result
  | act haction _ ihnext =>
    refine .bind (h.perform _ _ haction).attempt fun result result' hresult => ?_
    rw [← hresult.eq]
    exact ihnext result

/-- A failing hook is dealt with in step. -/
theorem handleFailure_inStep {hook hook' : Hook ε ρ} (hname : hook'.name = hook.name)
    {event event' : ε} (hevent : Rε event event') (failure : Failure) :
    InStep R (· = ·) (place.handleFailure actionOf hook event failure)
      (place.handleFailure actionOf hook' event' failure) := by
  have hspelled : hook'.spelled = hook.spelled := by rw [Hook.spelled, Hook.spelled, hname]
  unfold handleFailure
  refine .bind .get fun s s' hs => ?_
  rw [h.mode_eq s s' hs, hspelled, h.actionOf_eq event event' hevent]
  cases place.mode s with
  | raise => exact .throw failure
  | log => exact h.note _ _ _
  | ignore => exact h.note _ _ _

/-- Hooks that are alike are told of related events in step. -/
theorem tell_inStep {hook hook' : Hook ε ρ} (hhook : hook.Alike Rε Rρ hook') {event event' : ε}
    (hevent : Rε event event') (room : Nat) :
    InStep R (· = ·) (place.tell actionOf register perform room event hook)
      (place.tell actionOf register perform room event' hook') := by
  refine .bind (.modify fun s s' hs => h.deliver _ _ s s' hs) fun _ _ _ => ?_
  refine .bind (h.carryOut_inStep (hhook.react event event' hevent)).attempt ?_
  intro result result' hresult
  rw [← hresult.eq]
  cases result with
  | ok _ => exact .pure rfl
  | error failure => exact h.handleFailure_inStep hhook.name_eq hevent failure

/-- Hooks that are alike, told in turn of events that are related, are told in step. -/
theorem tellAll_inStep {hooks hooks' : List (Hook ε ρ)}
    (hhooks : List.Forall₂ (Hook.Alike Rε Rρ) hooks hooks') {event event' : ε}
    (hevent : Rε event event') (room : Nat) :
    InStep R (· = ·) (place.tellAll actionOf register perform room event hooks)
      (place.tellAll actionOf register perform room event' hooks') := by
  induction hhooks with
  | nil => exact .pure rfl
  | cons hhook _ ih => exact .bind (h.tell_inStep hhook hevent room) fun _ _ _ => ih

end RunsInStep

end BusPlace

end Hooks

/-- Whether two values look the same to a family: they are the same namespace, or no namespaces. -/
def Value.Similar (v v' : Value) : Prop := ∀ number, v = .view number ↔ v' = .view number

/-- Whether two values may stand for each other under a name: under that of a secret, any two that are
no namespaces may. -/
inductive Concealed (name : Text) : Value → Value → Prop
  /-- The same value. -/
  | same (v : Value) : Concealed name v v
  /-- Two secrets. -/
  | secret {v v' : Value} (hname : IsSecret name) (hv : ∀ number, v ≠ .view number)
    (hv' : ∀ number, v' ≠ .view number) : Concealed name v v'

/-- Values that may stand for each other under a name are similar. -/
theorem Concealed.similar {name : Text} {v v' : Value} (h : Concealed name v v') : v.Similar v' := by
  cases h with
  | same => exact fun _ => Iff.rfl
  | secret _ hv hv' => exact fun number => iff_of_false (hv number) (hv' number)

/-- The log shows neither value under the name of a secret. -/
theorem Concealed.redacted_eq {name : Text} {v v' : Value} (h : Concealed name v v')
    (views : Nat → Text) : redacted views name v' = redacted views name v := by
  cases h with
  | same => rfl
  | secret hname _ _ =>
    have hsecret := isSecretName_iff.mpr hname
    rw [redacted, redacted, if_pos hsecret, if_pos hsecret]

/-- The reserved keys are no names of secrets. -/
theorem Concealed.eq_of_reserved {key : Text} {v v' : Value} (h : Concealed key v v')
    (hreserved : key ∈ reservedKeys) : v = v' := by
  have hpublic : ∀ key ∈ reservedKeys, isSecretName key = false := by decide
  cases h with
  | same => rfl
  | secret hname _ _ =>
    have hsecret := isSecretName_iff.mpr hname
    rw [hpublic key hreserved] at hsecret
    cases hsecret

/-- Whether two writes differ at most in a value that is put under the name of a secret. -/
inductive Write.Alike : Write → Write → Prop
  /-- The same write. -/
  | refl (request : Write) : Alike request request
  /-- Values that may stand for each other are bound. -/
  | bind {name : Text} {v v' : Value} (h : Concealed name v v') :
    Alike (.bind (.str name) v) (.bind (.str name) v')
  /-- Values that may stand for each other are bound, whatever was bound before. -/
  | rebind {name : Text} {v v' : Value} (h : Concealed name v v') :
    Alike (.rebind (.str name) v) (.rebind (.str name) v')

/-- Whether two changes differ at most in a value that was put under the name of a secret. -/
inductive Change.Alike : Change → Change → Prop
  /-- The same change. -/
  | refl (change : Change) : Alike change change
  /-- Values that may stand for each other were bound. -/
  | bind {name : Text} {v v' : Value} (h : Concealed name v v') :
    Alike (.bind name v) (.bind name v')
  /-- Values that may stand for each other were bound, whatever was bound before. -/
  | rebind {name : Text} {v v' : Value} (h : Concealed name v v') :
    Alike (.rebind name v) (.rebind name v')

/-- Changes that are alike are reported in the same way. -/
theorem Change.Alike.shownAction_eq {change change' : Change} (h : change.Alike change') :
    change'.shownAction = change.shownAction := by
  cases h <;> rfl

/-- Whether two namespaces differ in nothing but the values of their entries, and have hooks that are
alike. -/
structure View.Alike (v v' : View) : Prop where
  /-- Lookups start from the same segments. -/
  segments_eq : v'.segments = v.segments
  /-- The entries have the same keys, and the same namespaces under them. -/
  entries : Keyed.Alike Value.Similar v.entries v'.entries
  /-- The settings are the same. -/
  overrides_eq : v'.overrides = v.overrides
  /-- The hooks are alike. -/
  hooks : List.Forall₂ (Hook.Alike Change.Alike Write.Alike) v.hooks v'.hooks
  /-- Failing hooks mean the same. -/
  mode_eq : v'.mode = v.mode
  /-- Both are closed, or none is. -/
  closed_eq : v'.closed = v.closed
  /-- Both opened their families, or none did. -/
  isOwner_eq : v'.isOwner = v.isOwner

/-- Whether two families have namespaces that are alike, and otherwise differ in nothing but what was
delivered to hooks. -/
structure Family.Alike (f f' : Family) : Prop where
  /-- The environment is the same. -/
  environment_eq : f'.environment = f.environment
  /-- The parsers are the same. -/
  parsers_eq : f'.parsers = f.parsers
  /-- The converters are the same. -/
  converter_eq : f'.converter = f.converter
  /-- The session is the same, and the log with it. -/
  session_eq : f'.session = f.session
  /-- There are as many namespaces. -/
  length_eq : f'.views.length = f.views.length
  /-- The namespaces are alike. -/
  view : ∀ number, (f.view number).Alike (f'.view number)

namespace Family

variable {f f' : Family} {number : Nat}

/-- Families that are alike show their namespaces in the same way. -/
theorem Alike.spelledView_eq (h : f.Alike f') : f'.spelledView = f.spelledView := by
  funext number
  have hview := h.view number
  have hlength : (f'.view number).entries.length = (f.view number).entries.length :=
    (List.Forall₂.length_eq hview.entries).symm
  unfold spelledView
  rw [h.environment_eq]
  dsimp only
  rw [hview.segments_eq, hlength, hview.closed_eq]

/-- Families stay alike that change a namespace in ways that are alike. -/
theorem Alike.withView (h : f.Alike f') {v v' : View} (hv : v.Alike v') :
    (f.withView number v).Alike (f'.withView number v') := by
  refine ⟨h.environment_eq, h.parsers_eq, h.converter_eq, h.session_eq, by simpa using h.length_eq,
    fun other => ?_⟩
  by_cases hother : other = number
  · subst hother
    by_cases hlt : other < f.views.length
    · rwa [view_withView_self hlt, view_withView_self (by rwa [h.length_eq])]
    · rw [withView_of_le (Nat.le_of_not_lt hlt),
        withView_of_le (by rw [h.length_eq]; exact Nat.le_of_not_lt hlt)]
      exact h.view other
  · rw [view_withView_of_ne hother, view_withView_of_ne hother]
    exact h.view other

/-- What is done to the session alone is done in step. -/
theorem onSession_inStep {α : Type} (op : Operation Session α) :
    InStep Alike (· = ·) (onSession op) (onSession op) := by
  intro f f' h
  rw [onSession, outcome_onPart, outcome_onPart, h.session_eq]
  exact ⟨.refl _, h.environment_eq, h.parsers_eq, h.converter_eq, rfl, h.length_eq, h.view⟩

/-- Records are written in step. -/
theorem note_inStep (level : LogLevel) (message : Text) :
    InStep Alike (· = ·) (note level message) (note level message) := onSession_inStep _

/-- Namespaces that are changed alike are changed in step. -/
theorem modifyView_inStep (number : Nat) {change change' : View → View}
    (hchange : ∀ v v', v.Alike v' → (change v).Alike (change' v')) :
    InStep Alike (· = ·) (modifyView number change) (modifyView number change') := by
  intro f f' h
  rw [outcome_modifyView, outcome_modifyView]
  exact ⟨.ok rfl, h.withView (hchange _ _ (h.view number))⟩

/-- Namespaces that are alike are added in step. -/
theorem addView_inStep {v v' : View} (hv : v.Alike v') :
    InStep Alike (· = ·) (addView v) (addView v') := by
  intro f f' h
  refine ⟨?_, h.environment_eq, h.parsers_eq, h.converter_eq, h.session_eq, ?_, fun other => ?_⟩
  · change Paired (· = ·) (.ok f.views.length) (.ok f'.views.length)
    exact .ok h.length_eq.symm
  · change (f'.views ++ [v']).length = (f.views ++ [v]).length
    rw [List.length_append, List.length_append, h.length_eq]
    rfl
  · change (Family.view { f with views := f.views ++ [v] } other).Alike
      (Family.view { f' with views := f'.views ++ [v'] } other)
    rw [view_append, view_append, h.length_eq]
    split
    · exact hv
    · exact h.view other

/-- Closed namespaces refuse an operation in step. -/
theorem refuseClosed_inStep (number : Nat) (operation : String) :
    InStep Alike (· = ·) (refuseClosed number operation) (refuseClosed number operation) := by
  refine .bind .get fun f f' h => .ite (by rw [(h.view number).closed_eq]) (fun _ => ?_) fun _ => ?_
  · exact .bind (note_inStep _ _) fun _ _ _ => .throw _
  · exact .pure rfl

/-- Hooks that are alike are registered in step. -/
theorem registerHook_inStep (number : Nat) {hook hook' : Hook Change Write}
    (hhook : hook.Alike Change.Alike Write.Alike hook') :
    InStep Alike (· = ·) (registerHook number (.usable hook))
      (registerHook number (.usable hook')) := by
  refine .bind (refuseClosed_inStep _ _) fun _ _ _ => modifyView_inStep number fun v v' hv => ?_
  exact { hv with hooks := List.rel_append hv.hooks (.cons hhook .nil) }

section Writes

/-- Values that may stand for each other are put under their name in step. -/
theorem putEntry_inStep (number : Nat) {key : Text} {v v' : Value} (hv : Concealed key v v') :
    InStep Alike (· = ·) (putEntry number key v) (putEntry number key v') := by
  unfold putEntry
  refine .ite Iff.rfl (fun hreserved => ?_) fun _ => ?_
  · obtain rfl := hv.eq_of_reserved (List.elem_iff.mp hreserved)
    unfold putReserved
    refine .bind .get fun f f' h => ?_
    rw [h.spelledView_eq]
    refine .bind (.ofExcept _) fun _ _ _ => modifyView_inStep number fun w w' hw => ?_
    exact { hw with overrides_eq := by rw [hw.overrides_eq] }
  · refine modifyView_inStep number fun w w' hw => ?_
    exact { hw with entries := hw.entries.put key hv.similar }

/-- The records of values that may stand for each other are the same. -/
theorem noteValue_inStep (what : String) {key : Text} {v v' : Value} (hv : Concealed key v v') :
    InStep Alike (· = ·) (noteValue what key v) (noteValue what key v') := by
  refine .bind .get fun f f' h => ?_
  rw [h.spelledView_eq, hv.redacted_eq]
  exact note_inStep _ _

/-- Alike families have the same keys bound. -/
theorem Alike.isBound_eq (h : f.Alike f') (number : Nat) (key : Text) :
    isBound (f'.view number) key = isBound (f.view number) key := by
  have hview := h.view number
  rw [isBound, isBound, hview.overrides_eq, hview.entries.has_eq]

/-- A name that may be written is the key. -/
theorem eq_str_of_checkName {key : Value} {action : String} {name : Text}
    (h : checkName key action = .ok name) : key = .str name := by
  rcases checkName_cases key action with ⟨name', rfl, -, hok⟩ | ⟨-, herror⟩
  · rw [hok] at h
    cases h
    rfl
  · rw [herror] at h
    cases h

variable {tell : Change → Operation Family Unit} (htell : ∀ change change',
  Change.Alike change change' → InStep Alike (· = ·) (tell change) (tell change'))
include htell

private theorem bindWith_inStep (number : Nat) {key v v' : Value}
    (hv : ∀ name, key = .str name → Concealed name v v') :
    InStep Alike (· = ·) (bindWith tell number key v) (bindWith tell number key v') := by
  refine .bind (refuseClosed_inStep _ _) fun _ _ _ => .bind (.ofExcept _) ?_
  rintro name _ ⟨rfl, hname⟩
  have hconcealed := hv name (eq_str_of_checkName hname)
  refine .bind .get fun f f' h => .ite (by rw [h.isBound_eq]) (fun _ => .throw_bind _ _ _) fun _ => ?_
  exact .bind (putEntry_inStep number hconcealed) fun _ _ _ =>
    .bind (noteValue_inStep _ hconcealed) fun _ _ _ => htell _ _ (.bind hconcealed)

private theorem rebindWith_inStep (number : Nat) {key v v' : Value}
    (hv : ∀ name, key = .str name → Concealed name v v') :
    InStep Alike (· = ·) (rebindWith tell number key v) (rebindWith tell number key v') := by
  refine .bind (refuseClosed_inStep _ _) fun _ _ _ => .bind (.ofExcept _) ?_
  rintro name _ ⟨rfl, hname⟩
  have hconcealed := hv name (eq_str_of_checkName hname)
  exact .bind (putEntry_inStep number hconcealed) fun _ _ _ =>
    .bind (noteValue_inStep _ hconcealed) fun _ _ _ => htell _ _ (.rebind hconcealed)

private theorem unbindWith_inStep (number : Nat) (key : Value) :
    InStep Alike (· = ·) (unbindWith tell number key) (unbindWith tell number key) := by
  refine .bind (refuseClosed_inStep _ _) fun _ _ _ => .bind (.ofExcept _) ?_
  rintro name _ ⟨rfl, -⟩
  refine .bind .get fun f f' h => ?_
  have hview := h.view number
  refine .ite (by rw [hview.entries.has_eq, hview.overrides_eq]) (fun _ => ?_) fun _ => .pure rfl
  refine .bind (modifyView_inStep number fun v v' hv => ?_) fun _ _ _ =>
    .bind (note_inStep _ _) fun _ _ _ => htell _ _ (.refl _)
  exact { hv with entries := hv.entries.remove name, overrides_eq := by rw [hv.overrides_eq] }

private theorem renameWith_inStep (number : Nat) (old new : Value) :
    InStep Alike (· = ·) (renameWith tell number old new) (renameWith tell number old new) := by
  refine .bind (refuseClosed_inStep _ _) fun _ _ _ => .bind (.ofExcept _) ?_
  rintro old _ ⟨rfl, -⟩
  refine .bind (.ofExcept _) ?_
  rintro new _ ⟨rfl, -⟩
  refine .ite Iff.rfl (fun _ => .throw_bind _ _ _) fun _ => .bind .get fun f f' h => ?_
  have hentries := (h.view number).entries
  refine .ite (by rw [hentries.has_eq]) (fun _ => .throw_bind _ _ _) fun _ => ?_
  have hfound := hentries.get? old
  dsimp only
  generalize (f.view number).entries.get? old = found at hfound
  generalize (f'.view number).entries.get? old = found' at hfound
  -- The value that is moved need not be the same: what is related under the old key is so under the new.
  cases hfound with
  | none => exact .throw _
  | some hvalue =>
    refine .bind (modifyView_inStep number fun v v' hv => ?_) fun _ _ _ =>
      .bind (note_inStep _ _) fun _ _ _ => htell _ _ (.refl _)
    exact { hv with entries := (hv.entries.remove old).put new hvalue }

omit htell in
/-- Namespaces are closed in step. -/
theorem close_inStep (number : Nat) : InStep Alike (· = ·) (close number) (close number) := by
  refine .bind (modifyView_inStep number fun v v' hv => ?_) fun _ _ _ => .bind .get fun f f' h => ?_
  · exact { hv with entries := .nil, overrides_eq := rfl, hooks := .nil, closed_eq := rfl }
  · have hview := h.view number
    dsimp only
    rw [hview.segments_eq]
    refine .ite (by rw [hview.isOwner_eq]) (fun _ => ?_) fun _ => note_inStep _ _
    exact .bind (onSession_inStep _) fun _ _ _ => note_inStep _ _

/-- Writes that are alike are carried out in step if changes are told in step. -/
theorem writeWith_inStep (number : Nat) {request request' : Write} (h : request.Alike request') :
    InStep Alike (· = ·) (writeWith tell number request) (writeWith tell number request') := by
  cases h with
  | refl =>
    cases request with
    | bind key v => exact bindWith_inStep htell number fun _ _ => .same v
    | rebind key v => exact rebindWith_inStep htell number fun _ _ => .same v
    | unbind key => exact unbindWith_inStep htell number key
    | rename old new => exact renameWith_inStep htell number old new
    | close => exact close_inStep number
  | bind hv =>
    refine bindWith_inStep htell number fun name hname => ?_
    cases hname
    exact hv
  | rebind hv =>
    refine rebindWith_inStep htell number fun name hname => ?_
    cases hname
    exact hv

end Writes

/-- Hooks that are alike are told in step of changes that are. -/
theorem tell_inStep (number room : Nat) {change change' : Change} (h : change.Alike change') :
    InStep Alike (· = ·) (tell number room change) (tell number room change') := by
  induction room generalizing change change' with
  | zero =>
    refine .bind .get fun f f' hf => ?_
    have hnone : (f'.view number).hooks.isEmpty = (f.view number).hooks.isEmpty := by
      have hhooks := (hf.view number).hooks
      generalize (f.view number).hooks = hooks at hhooks
      generalize (f'.view number).hooks = hooks' at hhooks
      cases hhooks <;> rfl
    exact .ite (by rw [hnone]) (fun _ => .pure rfl) fun _ => .throw _
  | succ room ih =>
    -- The writes that hooks ask for are told with less room, and are alike as the reactions are.
    have hbus : (busPlace number).RunsInStep (fun hook => registerHook number (.usable hook))
        (writeWith (tell number room) number) Change.shownAction Change.Alike Write.Alike Alike := {
      deliver := fun _ _ _ _ hf => ⟨hf.environment_eq, hf.parsers_eq, hf.converter_eq,
        hf.session_eq, hf.length_eq, hf.view⟩
      note := fun _ _ _ => onSession_inStep _
      mode_eq := fun _ _ hf => (hf.view number).mode_eq
      actionOf_eq := fun _ _ hchange => hchange.shownAction_eq
      register := fun _ _ hhook => registerHook_inStep number hhook
      perform := fun _ _ hwrite => writeWith_inStep (fun _ _ hchange => ih hchange) number hwrite }
    exact .bind .get fun f f' hf => hbus.tellAll_inStep (hf.view number).hooks h room

end Family

end ConfigNamespace
