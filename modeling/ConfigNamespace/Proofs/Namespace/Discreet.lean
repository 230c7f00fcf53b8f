import ConfigNamespace.Proofs.Namespace.Alike
import ConfigNamespace.Proofs.Namespace.Isolation

/-!
# Secrets stay out of the log

What is put under the name of a secret makes no difference to the log. Families that differ in such
values alone stay alike, whatever is called for: a lookup seeks in the same way where entries have the
same keys, and the log of a family that is like another one is the same. So nobody can tell from the
log what the secrets are, even where they were moved to other names.
-/

namespace ConfigNamespace

open Operation

/-- Whether a hook reacts alike to changes that differ in secrets. -/
def Hook.IsDiscreet (hook : Hook Change Write) : Prop := hook.Alike Change.Alike Write.Alike hook

/-- A hook that does not depend on the values of secrets is discreet if the hooks are that it
registers. -/
theorem Hook.IsDiscreet.of_eq {hook : Hook Change Write}
    (hreact : ∀ change change', Change.Alike change change' → hook.react change' = hook.react change)
    (hregisters : ∀ change, (hook.react change).Registers Hook.IsDiscreet) : hook.IsDiscreet := by
  refine ⟨rfl, fun change change' h => ?_⟩
  rw [hreact change change' h]
  exact Reaction.alike_self _ _ .refl (hregisters change)

/-- Every value is similar to itself. -/
theorem Value.Similar.refl (v : Value) : v.Similar v := fun _ => Iff.rfl

/-- Whether what two keys name looks the same: similar values, or the same place. -/
inductive Named.Similar : Named → Named → Prop
  /-- Values that are similar. -/
  | value {v v' : Value} (h : v.Similar v') : Similar (.value v) (.value v')
  /-- The same place. -/
  | place (segments : List Text) : Similar (.place segments) (.place segments)

/-- Namespaces below others that are alike are alike. -/
theorem View.Alike.viewBelow {v v' : View} (h : v.Alike v') (segments : List Text) :
    (Family.viewBelow v segments).Alike (Family.viewBelow v' segments) :=
  ⟨rfl, .nil, h.overrides_eq, .nil, h.mode_eq, rfl, rfl⟩

namespace Family

section Lookups

variable {f f' : Family} {v v' : View}

/-- Alike namespaces have the same delimiter. -/
theorem Alike.delimiterOf_eq (h : f.Alike f') (hv : v.Alike v') :
    f'.delimiterOf v' = f.delimiterOf v := by
  rw [delimiterOf, delimiterOf, h.environment_eq, hv.overrides_eq]

/-- Alike namespaces have the same root. -/
theorem Alike.rootOf_eq (h : f.Alike f') (hv : v.Alike v') : f'.rootOf v' = f.rootOf v := by
  rw [rootOf, rootOf, h.environment_eq, hv.overrides_eq]

/-- A key is sought in the same way beneath the root. -/
theorem Alike.findKey_eq (h : f.Alike f') (hv : v.Alike v') (w : World) (key : Text) :
    f'.findKey w v' key = f.findKey w v key := by
  have hbacking : f'.backing w = f.backing w := by
    rw [backing, backing, h.environment_eq, h.parsers_eq]
  have hnamed : f'.named = f.named := by
    unfold named
    rw [h.environment_eq, h.converter_eq]
  unfold findKey find
  rw [h.delimiterOf_eq hv, h.rootOf_eq hv, hv.segments_eq, hbacking, hnamed]

/-- A key is sought in step. -/
theorem Alike.seek_inStep (h : f.Alike f') (hv : v.Alike v') (w : World) (key : Value) :
    InStep (· = ·) Named.Similar (f.seek w v key) (f'.seek w v' key) := by
  have hsame (named : Named) : Named.Similar named named := by
    cases named with
    | value value => exact .value (.refl value)
    | place segments => exact .place segments
  refine .ite (by rw [hv.closed_eq]) (fun _ => .bind (.refl _) fun _ _ _ => .throw _) fun _ => ?_
  cases key with
  | str key =>
    cases key with
    | nil =>
      dsimp only
      rw [h.delimiterOf_eq hv, hv.segments_eq]
      refine .bind (.ofExcept _) ?_
      rintro segments _ ⟨rfl, -⟩
      exact .pure (.place _)
    | cons c key =>
      have hfound := hv.entries.get? (c :: key)
      dsimp only
      generalize v.entries.get? (c :: key) = found at hfound
      generalize v'.entries.get? (c :: key) = found' at hfound
      cases hfound with
      | some hvalue => exact .bind (.refl _) fun _ _ _ => .pure (.value hvalue)
      | none =>
        -- Beneath the root, the entries make no difference.
        dsimp only
        rw [h.delimiterOf_eq hv, h.rootOf_eq hv, h.findKey_eq hv]
        exact (InStep.refl _).mono fun named _ hnamed => hnamed ▸ hsame named
  | _ => exact .throw _

/-- A key is looked up in step. -/
theorem lookup_inStep (w : World) (number : Nat) (key : Value) :
    InStep Alike Value.Similar (lookup w number key) (lookup w number key) := by
  intro f f' h
  have hview := h.view number
  rw [outcome_lookup, outcome_lookup]
  have hseek := h.seek_inStep hview w key f.session f'.session h.session_eq.symm
  rcases hfound : (f.seek w (f.view number) key).outcome f.session with ⟨result, s⟩
  rcases hfound' : (f'.seek w (f'.view number) key).outcome f'.session with ⟨result', s'⟩
  rw [hfound, hfound'] at hseek
  obtain ⟨hresult, hsession⟩ := hseek
  obtain rfl : s = s' := hsession
  have halike : Alike { f with session := s } { f' with session := s } :=
    ⟨h.environment_eq, h.parsers_eq, h.converter_eq, rfl, h.length_eq, h.view⟩
  cases hresult with
  | error failure => exact ⟨.error failure, halike⟩
  | ok hnamed =>
    cases hnamed with
    | value hvalue => exact ⟨.ok hvalue, halike⟩
    | place segments =>
      refine ⟨?_, (addView_inStep (hview.viewBelow segments) _ _ halike).2⟩
      rw [settle, settle, h.length_eq]
      exact .ok (.refl _)

/-- Whether there is a key is asked in step. -/
theorem has_inStep (w : World) (number : Nat) (key : Value) :
    InStep Alike (· = ·) (has w number key) (has w number key) := by
  unfold has
  split
  · refine .bind (lookup_inStep w number _).attempt fun _ _ hresult => ?_
    cases hresult with
    | ok _ => exact .pure rfl
    | error failure => exact .ite Iff.rfl (fun _ => .pure rfl) fun _ => .throw failure
  · exact .pure rfl

/-- Namespaces are scoped in step. -/
theorem scope_inStep (number : Nat) (path : Value) :
    InStep Alike (· = ·) (scope number path) (scope number path) := by
  refine .bind (refuseClosed_inStep _ _) fun _ _ _ => .bind .get fun f f' h => ?_
  have hview := h.view number
  dsimp only
  rw [h.delimiterOf_eq hview, hview.segments_eq]
  cases path with
  | str path =>
    refine .bind (.ofExcept _) ?_
    rintro segments _ ⟨rfl, -⟩
    exact addView_inStep (hview.viewBelow _)
  | _ => exact .throw _

/-- Entries that are alike are listed in step. -/
theorem ownEntries_inStep (number : Nat) (operation : String) :
    InStep Alike (Keyed.Alike Value.Similar) (ownEntries number operation)
      (ownEntries number operation) :=
  .bind (refuseClosed_inStep _ _) fun _ _ _ => .bind .get fun _ _ h => .pure (h.view number).entries

/-- What cannot be listed in one family cannot be listed in the other one. -/
theorem entriesBelow_inStep (w : World) (number : Nat) (operation : String) (key : Value) :
    InStep Alike (Keyed.Alike Value.Similar) (entriesBelow w number operation key)
      (entriesBelow w number operation key) := by
  unfold entriesBelow
  split
  · exact ownEntries_inStep number operation
  · refine .bind (refuseClosed_inStep _ _) fun _ _ _ => ?_
    refine .bind (lookup_inStep w number key) fun found found' hfound => ?_
    -- Similar values are the same namespace, or both are none, and then the refusals are the same.
    by_cases hview : ∃ below, found = .view below
    · obtain ⟨below, rfl⟩ := hview
      obtain rfl := (hfound below).mp rfl
      exact ownEntries_inStep below operation
    · have hview' : ¬∃ below, found' = .view below :=
        fun ⟨below, h⟩ => hview ⟨below, (hfound below).mpr h⟩
      cases found with
      | view below => exact absurd ⟨below, rfl⟩ hview
      | _ =>
        cases found' with
        | view below => exact absurd ⟨below, rfl⟩ hview'
        | _ => exact .throw _

/-- Environments are shown in step. -/
theorem visibleEnvironment_inStep (number : Nat) :
    InStep Alike (· = ·) (visibleEnvironment number) (visibleEnvironment number) := by
  refine .bind (refuseClosed_inStep _ _) fun _ _ _ => .bind .get fun f f' h => .pure ?_
  rw [h.rootOf_eq (h.view number), h.delimiterOf_eq (h.view number), h.environment_eq]

end Lookups

end Family

/-- Whether two calls are the same, but for a value that is put under the name of a secret. Hooks that
are registered have to be discreet. -/
inductive Call.Alike : Call → Call → Prop
  /-- A key is looked up. -/
  | lookup (key : Value) : Alike (.lookup key) (.lookup key)
  /-- A key is asked for. -/
  | has (key : Value) : Alike (.has key) (.has key)
  /-- A namespace is made for a path. -/
  | scope (path : Value) : Alike (.scope path) (.scope path)
  /-- The names under a key are listed. -/
  | list (key : Value) : Alike (.list key) (.list key)
  /-- The entries under a key are listed. -/
  | listBindings (key : Value) : Alike (.listBindings key) (.listBindings key)
  /-- The environment is shown. -/
  | visibleEnvironment : Alike .visibleEnvironment .visibleEnvironment
  /-- Writes are carried out that are alike. -/
  | write {request request' : Write} (h : request.Alike request') :
    Alike (.write request) (.write request')
  /-- A hook is registered. -/
  | registerHook {hook : Hook Change Write} (h : hook.IsDiscreet) :
    Alike (.registerHook (.usable hook)) (.registerHook (.usable hook))
  /-- Something is registered that is no hook. -/
  | registerOther (v : Value) : Alike (.registerHook (.other v)) (.registerHook (.other v))

namespace Family

/-- Calls that are alike leave families alike. -/
theorem Alike.after {f f' : Family} (hf : f.Alike f') {call call' : Call} (h : call.Alike call')
    (w : World) (room number : Nat) :
    (f.after w room number call).Alike (f'.after w room number call') := by
  cases h with
  | lookup key => exact (lookup_inStep w number key f f' hf).2
  | has key => exact (has_inStep w number key f f' hf).2
  | scope path => exact (scope_inStep number path f f' hf).2
  | list key =>
    have hlist : InStep Alike (fun _ _ => True) (list w number key) (list w number key) :=
      .bind (entriesBelow_inStep w number "list" key) fun _ _ _ => .pure trivial
    exact (hlist f f' hf).2
  | listBindings key => exact (entriesBelow_inStep w number "list_bindings" key f f' hf).2
  | visibleEnvironment => exact (visibleEnvironment_inStep number f f' hf).2
  | write hwrite =>
    exact (writeWith_inStep (fun _ _ hchange => tell_inStep number room hchange) number hwrite
      f f' hf).2
  | registerHook hhook => exact (registerHook_inStep number hhook f f' hf).2
  | registerOther v =>
    have hrefuse : InStep Alike (· = ·) (Family.registerHook number (.other v))
        (Family.registerHook number (.other v)) :=
      .bind (refuseClosed_inStep _ _) fun _ _ _ => .throw _
    exact (hrefuse f f' hf).2

end Family

/-- A turn of a run: a namespace is called, in the world that there is then. -/
structure Turn where
  /-- The world. -/
  world : World
  /-- How often changes may lead to further ones. -/
  room : Nat
  /-- The number of the namespace. -/
  number : Nat
  /-- What it is called for. -/
  call : Call

/-- Whether two turns are the same, but for a value that is put under the name of a secret. -/
inductive Turn.Alike : Turn → Turn → Prop
  /-- The calls are alike. -/
  | mk (w : World) (room number : Nat) {call call' : Call} (h : call.Alike call') :
    Alike ⟨w, room, number, call⟩ ⟨w, room, number, call'⟩

namespace Family

/-- The family after some turns. -/
def afterTurns (f : Family) (turns : List Turn) : Family :=
  turns.foldl (fun g turn => g.after turn.world turn.room turn.number turn.call) f

/-- Families that are alike stay so, however long they are called in ways that are alike. -/
theorem Alike.afterTurns {f f' : Family} (hf : f.Alike f') {turns turns' : List Turn}
    (h : List.Forall₂ Turn.Alike turns turns') :
    (f.afterTurns turns).Alike (f'.afterTurns turns') := by
  induction h generalizing f f' with
  | nil => exact hf
  | cons hturn _ ih =>
    obtain ⟨w, room, number, hcall⟩ := hturn
    exact ih (hf.after hcall w room number)

/-- A family is like itself if its hooks are discreet. -/
theorem alike_self {f : Family} (h : ∀ number, ∀ hook ∈ (f.view number).hooks, hook.IsDiscreet) :
    f.Alike f := by
  refine ⟨rfl, rfl, rfl, rfl, rfl, fun number => ⟨rfl, ?_, rfl, ?_, rfl, rfl, rfl⟩⟩
  · exact List.forall₂_same.mpr fun _ _ => ⟨rfl, .refl _⟩
  · exact List.forall₂_same.mpr (h number)

/-- Secrets do not get into the log. In two runs of calls that differ in nothing but values that are
put under the names of secrets, no matter what they are as long as they are no namespaces, the same
records are written, of all levels and by all parts. This holds when values are moved to other names,
when they cannot be shown, and when hooks fail or ask for more, as long as the hooks react alike to
changes that are. -/
theorem log_discreet {f : Family}
    (hhooks : ∀ number, ∀ hook ∈ (f.view number).hooks, hook.IsDiscreet) {turns turns' : List Turn}
    (h : List.Forall₂ Turn.Alike turns turns') :
    (f.afterTurns turns').session.log = (f.afterTurns turns).session.log := by
  rw [((alike_self hhooks).afterTurns h).session_eq]

/-- A hook that keeps a copy of what is bound under the name of a secret. -/
def hoarding : Hook Change Write where
  name := text "hoarding"
  react
    | .bind _ v => .act (.rebind (.str (text "token")) v) fun _ => .done
    | _ => .done

/-- The hoarding hook is discreet. -/
theorem hoarding_isDiscreet : hoarding.IsDiscreet := by
  refine ⟨rfl, fun change change' h => ?_⟩
  cases h with
  | refl =>
    cases change with
    | bind _ v => exact .act (.refl _) fun _ => .done
    | _ => exact .done
  | bind hv =>
    refine .act (.rebind ?_) fun _ => .done
    cases hv with
    | same => exact .same _
    | secret _ hv hv' => exact .secret (isSecretName_iff.mp (by decide)) hv hv'
  | rebind _ => exact .done

/-- A hook that always fails. -/
def objecting : Hook Change Write := ⟨text "objecting", fun _ => .fail .hookNotCallable⟩

/-- The objecting hook is discreet. -/
theorem objecting_isDiscreet : objecting.IsDiscreet :=
  .of_eq (fun _ _ _ => rfl) fun _ => trivial

/-- A password is bound, hoarded, moved to a name that is none of a secret, and looked up there. It does
not show whether it is a text or cannot be shown. -/
theorem log_discreet_moved :
    let f := opened (.at (some (text "M")) []) .default
    let run (v : Value) : List Turn := ([.registerHook (.usable hoarding),
      .registerHook (.usable objecting), .write (.bind (.str (text "Db.Password")) v),
      .write (.rename (.str (text "Db.Password")) (.str (text "note"))),
      .lookup (.str (text "note")), .write .close] : List Call).map fun call =>
        ⟨.twofold, hookRoom, 0, call⟩
    let objection := text "Hook <hook objecting> failed but ignored: Hook must be callable"
    (f.afterTurns (run .unprintable)).session.log =
        (f.afterTurns (run (.str (text "hunter2")))).session.log ∧
      (f.afterTurns (run .unprintable)).session.log.map LogRecord.message =
        [text "Bound 'Db.Password'=***", text "Rebound 'token'=***", objection, objection,
          text "Renamed 'Db.Password' -> 'note'", objection,
          text "Lookup 'note' served from direct entries", text "Namespace closed prefix=()"] := by
  intro f run objection
  have hhooks : ∀ number, ∀ hook ∈ (f.view number).hooks, hook.IsDiscreet := by
    intro number hook hhook
    have hnone : (f.view number).hooks = [] := by
      rcases number with _ | number
      · rfl
      · rfl
    rw [hnone] at hhook
    cases hhook
  have hvalue : Concealed (text "Db.Password") (.str (text "hunter2")) .unprintable :=
    .secret (isSecretName_iff.mp (by decide)) nofun nofun
  have hruns : List.Forall₂ Turn.Alike (run (.str (text "hunter2"))) (run .unprintable) :=
    .cons (.mk _ _ _ (.registerHook hoarding_isDiscreet)) <|
      .cons (.mk _ _ _ (.registerHook objecting_isDiscreet)) <|
      .cons (.mk _ _ _ (.write (.bind hvalue))) <| .cons (.mk _ _ _ (.write (.refl _))) <|
      .cons (.mk _ _ _ (.lookup _)) <| .cons (.mk _ _ _ (.write (.refl _))) .nil
  exact ⟨log_discreet hhooks hruns, by decide +kernel⟩

end Family

end ConfigNamespace
