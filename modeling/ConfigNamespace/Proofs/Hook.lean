import ConfigNamespace.Hook
import ConfigNamespace.Proofs.Operation

/-!
# What hooks may do

A hook has no way to the state but the requests that it makes. So a bus does nothing to a state but
keep deliveries, write to the log, and what the registering of hooks and the asked actions do. Which
hooks are told may count: then the hooks that they register have to be of the same kind. A bus fails
only because a hook does.
-/

namespace ConfigNamespace

open Operation

variable {ε ρ σ : Type}

/-- Whether all hooks that a reaction registers are of a kind, however its requests turn out. -/
def Reaction.Registers (P : Hook ε ρ → Prop) : Reaction ε ρ → Prop
  | done => True
  | fail _ => True
  | register name react next => P ⟨name, react⟩ ∧ ∀ result, (next result).Registers P
  | act _ next => ∀ result, (next result).Registers P

/-- Every reaction registers some hooks. -/
theorem Reaction.registers_true (reaction : Reaction ε ρ) : reaction.Registers fun _ => True := by
  induction reaction with
  | done => trivial
  | fail failure => trivial
  | register name react next _ ihnext => exact ⟨trivial, ihnext⟩
  | act action next ihnext => exact ihnext

/-- Whether a reaction registers no hook of a name, and none that would, and so on. -/
def Reaction.Spares (name : Text) : Reaction ε ρ → Prop
  | done => True
  | fail _ => True
  | register other react next =>
    (other ≠ name ∧ ∀ event, (react event).Spares name) ∧ ∀ result, (next result).Spares name
  | act _ next => ∀ result, (next result).Spares name

/-- Whether a hook has another name, and registers none of that name either. -/
def Hook.Spares (name : Text) (hook : Hook ε ρ) : Prop :=
  hook.name ≠ name ∧ ∀ event, (hook.react event).Spares name

/-- A reaction that spares a name registers no hook of that name, nor one that would. -/
theorem Reaction.registers_of_spares {name : Text} {reaction : Reaction ε ρ}
    (h : reaction.Spares name) : reaction.Registers (Hook.Spares name) := by
  induction reaction with
  | done => trivial
  | fail failure => trivial
  | register other react next _ ihnext => exact ⟨h.1, fun result => ihnext result (h.2 result)⟩
  | act action next ihnext => exact fun result => ihnext result (h result)

/-- Whether a reaction asks for no actions, and registers only hooks that ask for none either. -/
def Reaction.IsQuiet : Reaction ε ρ → Prop
  | done => True
  | fail _ => True
  | register _ react next => (∀ event, (react event).IsQuiet) ∧ ∀ result, (next result).IsQuiet
  | act _ _ => False

/-- Whether a hook never asks for actions. -/
def Hook.IsQuiet (hook : Hook ε ρ) : Prop := ∀ event, (hook.react event).IsQuiet

/-- A reaction that is quiet registers quiet hooks alone. -/
theorem Reaction.IsQuiet.registers {reaction : Reaction ε ρ} (h : reaction.IsQuiet) :
    reaction.Registers Hook.IsQuiet := by
  induction reaction with
  | done => trivial
  | fail failure => trivial
  | register name react next _ ihnext => exact ⟨h.1, fun result => ihnext result (h.2 result)⟩
  | act action next _ => exact h.elim

/-- How actions are performed makes no difference to a reaction that asks for none. -/
theorem Reaction.IsQuiet.carryOut_eq {reaction : Reaction ε ρ} (h : reaction.IsQuiet)
    (register : Hook ε ρ → Operation σ Unit) (perform perform' : ρ → Operation σ Unit) :
    reaction.carryOut register perform = reaction.carryOut register perform' := by
  induction reaction with
  | done => rfl
  | fail failure => rfl
  | register name react next _ ihnext =>
    exact congrArg _ (funext fun result => ihnext result (h.2 result))
  | act action next _ => exact h.elim

namespace BusPlace

variable {place : BusPlace σ ε ρ} {register : Hook ε ρ → Operation σ Unit}
  {perform : ρ → Operation σ Unit} {room : Nat} {P : Hook ε ρ → Prop} {E : Evolution σ}

/-- Whether an evolution suits a bus that tells hooks of a kind: it allows all that the bus does to a
state on its own and for such hooks, which keep to themselves. -/
structure Suits (place : BusPlace σ ε ρ) (register : Hook ε ρ → Operation σ Unit)
    (perform : ρ → Operation σ Unit) (room : Nat) (P : Hook ε ρ → Prop) (E : Evolution σ) : Prop where
  /-- Records may be written. -/
  note : ∀ level source message, (place.onLog (ConfigNamespace.note level source message)).Follows E
  /-- What hooks ask for may be performed. -/
  perform : ∀ action, (perform action).Follows E
  /-- Hooks of the kind may be told. -/
  deliver : ∀ hook, P hook → ∀ event s, E.Allows s (place.deliver ⟨hook.name, event, room⟩ s)
  /-- Hooks of the kind may be registered. -/
  register : ∀ hook, P hook → (register hook).Follows E
  /-- Hooks of the kind register hooks of the kind. -/
  registers : ∀ hook, P hook → ∀ event, (hook.react event).Registers P

section Suits

variable (h : place.Suits register perform room P E)
include h

/-- A reaction does what its requests do. -/
theorem Suits.carryOut_follows {reaction : Reaction ε ρ} (hreaction : reaction.Registers P) :
    (reaction.carryOut register perform).Follows E := by
  induction reaction with
  | done => exact .pure _
  | fail failure => exact .throw _
  | register name react next _ ihnext =>
    exact .bind (h.register _ hreaction.1).attempt fun result _ => ihnext result (hreaction.2 result)
  | act action next ihnext =>
    exact .bind (h.perform _).attempt fun result _ => ihnext result (hreaction result)

/-- What the failure of a hook leads to is allowed: a record, or the same failure. -/
theorem Suits.handleFailure_follows (actionOf : ε → Text) (hook : Hook ε ρ) (event : ε)
    (failure : Failure) : (place.handleFailure actionOf hook event failure).Follows E := by
  refine .bind .get fun s _ => ?_
  cases place.mode s with
  | raise => exact .throw _
  | log => exact h.note _ _ _
  | ignore => exact h.note _ _ _

/-- What a hook does with an event is allowed from the delivery on, whatever the delivery was. -/
theorem Suits.tell_allows {hook : Hook ε ρ} {event : ε} (hreaction : (hook.react event).Registers P)
    (actionOf : ε → Text) (s : σ) : E.Allows (place.deliver ⟨hook.name, event, room⟩ s)
      ((place.tell actionOf register perform room event hook).outcome s).2 := by
  unfold tell
  rw [outcome_bind_ok (outcome_modify _ s)]
  refine allows_bind ((h.carryOut_follows hreaction).attempt _) fun result _ => ?_
  cases result with
  | ok _ => exact .pure _
  | error failure => exact h.handleFailure_follows _ _ _ _

/-- What hooks do that are told of an event in turn is allowed. -/
theorem Suits.tellAll_follows {hooks : List (Hook ε ρ)} (hhooks : ∀ hook ∈ hooks, P hook)
    (actionOf : ε → Text) (event : ε) :
    (place.tellAll actionOf register perform room event hooks).Follows E := by
  induction hooks with
  | nil => exact .pure _
  | cons hook hooks ih =>
    have hhook : P hook := hhooks hook (List.mem_cons_self ..)
    refine .bind (fun s => ?_) fun _ _ => ih fun other hother => hhooks other (.tail _ hother)
    exact E.trans (h.deliver hook hhook event s) (h.tell_allows (h.registers hook hhook event) _ s)

/-- What is done for a first hook and further ones is allowed from the delivery to the first one on,
which need not be of the kind itself. -/
theorem Suits.tellAll_allows {hook : Hook ε ρ} {hooks : List (Hook ε ρ)} {event : ε}
    (hreaction : (hook.react event).Registers P) (hhooks : ∀ hook ∈ hooks, P hook)
    (actionOf : ε → Text) (s : σ) : E.Allows (place.deliver ⟨hook.name, event, room⟩ s)
      ((place.tellAll actionOf register perform room event (hook :: hooks)).outcome s).2 :=
  allows_bind (h.tell_allows hreaction actionOf s) fun _ _ => h.tellAll_follows hhooks actionOf event

end Suits

/-- What a bus itself does to a state: it keeps deliveries and writes to the log. -/
structure Follows (place : BusPlace σ ε ρ) (E : Evolution σ) : Prop where
  /-- Deliveries may be kept. -/
  deliver : ∀ delivery s, E.Allows s (place.deliver delivery s)
  /-- Records may be written. -/
  note : ∀ level source message, (place.onLog (ConfigNamespace.note level source message)).Follows E

/-- What allows all that a bus does, and all that registering and the asked actions do, suits it. -/
theorem Follows.suits (hplace : place.Follows E) (hregister : ∀ hook, (register hook).Follows E)
    (hperform : ∀ action, (perform action).Follows E) (room : Nat) :
    place.Suits register perform room (fun _ => True) E where
  note := hplace.note
  perform := hperform
  deliver _ _ _ s := hplace.deliver _ s
  register hook _ := hregister hook
  registers hook _ event := (hook.react event).registers_true

/-- A run of a bus does what registering and the asked actions do. -/
theorem run_follows (hplace : place.Follows E) (hregister : ∀ hook, (register hook).Follows E)
    (hperform : ∀ action, (perform action).Follows E) (actionOf : ε → Text) (room : Nat)
    (event : ε) : (place.run actionOf register perform room event).Follows E :=
  .bind .get fun _ _ =>
    (hplace.suits hregister hperform room).tellAll_follows (fun _ _ => trivial) actionOf event

/-- Hooks that ask for no actions are told in the same way, however actions are performed. -/
theorem tellAll_of_isQuiet {hooks : List (Hook ε ρ)} (hhooks : ∀ hook ∈ hooks, hook.IsQuiet)
    (actionOf : ε → Text) (event : ε) (perform' : ρ → Operation σ Unit) :
    place.tellAll actionOf register perform room event hooks =
      place.tellAll actionOf register perform' room event hooks := by
  induction hooks with
  | nil => rfl
  | cons hook hooks ih =>
    have hreaction := hhooks hook (List.mem_cons_self ..) event
    have hrest := ih fun other hother => hhooks other (.tail _ hother)
    rw [tellAll, tellAll, hrest, tell, tell, hreaction.carryOut_eq register perform perform']

/-- Telling hooks that ask for no actions does what the bus itself does and registering does. -/
theorem tellAll_follows_of_isQuiet (hplace : place.Follows E)
    (hregister : ∀ hook, hook.IsQuiet → (register hook).Follows E) {hooks : List (Hook ε ρ)}
    (hhooks : ∀ hook ∈ hooks, hook.IsQuiet) (actionOf : ε → Text) (event : ε) :
    (place.tellAll actionOf register perform room event hooks).Follows E := by
  have hsuits : place.Suits register (fun _ => pure ()) room Hook.IsQuiet E :=
    ⟨hplace.note, fun _ => .pure _, fun _ _ _ s => hplace.deliver _ s, hregister,
      fun hook hquiet event => (hquiet event).registers⟩
  rw [tellAll_of_isQuiet hhooks actionOf event fun _ => pure ()]
  exact hsuits.tellAll_follows hhooks actionOf event

/-- Whether telling hooks in turn, from a state on, comes to a hook that fails, in the mode in which
this counts: the hooks before it were told, and the failure and the state are what it leaves. -/
inductive Raises (place : BusPlace σ ε ρ) (actionOf : ε → Text)
    (register : Hook ε ρ → Operation σ Unit) (perform : ρ → Operation σ Unit) (room : Nat)
    (event : ε) (s : σ) : List (Hook ε ρ) → Failure → σ → Prop
  /-- The hook that fails is told after others. -/
  | intro (before after : List (Hook ε ρ)) {hook : Hook ε ρ} {failure : Failure} {t u : σ}
      (htold : (place.tellAll actionOf register perform room event before).outcome s = (.ok (), t))
      (hfails : ((hook.react event).carryOut register perform).outcome
        (place.deliver ⟨hook.name, event, room⟩ t) = (.error failure, u))
      (hmode : place.mode u = .raise) :
    Raises place actionOf register perform room event s (before ++ hook :: after) failure u

/-- Where records can be written, telling a hook fails only if the hook does, in the mode in which
this counts. -/
theorem eq_error_of_tell (hnote : ∀ level source message s, ∃ t,
      (place.onLog (ConfigNamespace.note level source message)).outcome s = (.ok (), t))
    {actionOf : ε → Text} {event : ε} {hook : Hook ε ρ} {failure : Failure} {s u : σ}
    (h : (place.tell actionOf register perform room event hook).outcome s = (.error failure, u)) :
    ((hook.react event).carryOut register perform).outcome
        (place.deliver ⟨hook.name, event, room⟩ s) = (.error failure, u) ∧
      place.mode u = .raise := by
  unfold tell at h
  rw [outcome_bind_ok (outcome_modify _ s), outcome_bind_ok (outcome_attempt _ _)] at h
  rcases hreaction : ((hook.react event).carryOut register perform).outcome
    (place.deliver ⟨hook.name, event, room⟩ s) with ⟨raised | _, t⟩
  · rw [hreaction] at h
    dsimp only at h
    unfold handleFailure at h
    rw [outcome_bind_ok (outcome_get t)] at h
    cases hmode : place.mode t with
    | raise =>
      rw [hmode] at h
      cases h
      exact ⟨rfl, hmode⟩
    | log =>
      rw [hmode] at h
      obtain ⟨t', hnoted⟩ := hnote _ _ _ t
      rw [hnoted] at h
      cases h
    | ignore =>
      rw [hmode] at h
      obtain ⟨t', hnoted⟩ := hnote _ _ _ t
      rw [hnoted] at h
      cases h
  · rw [hreaction] at h
    cases h

/-- Where records can be written, telling hooks fails only because one of them does. -/
theorem raises_of_tellAll (hnote : ∀ level source message s, ∃ t,
      (place.onLog (ConfigNamespace.note level source message)).outcome s = (.ok (), t))
    {actionOf : ε → Text} {event : ε} {hooks : List (Hook ε ρ)} {failure : Failure} {s u : σ}
    (h : (place.tellAll actionOf register perform room event hooks).outcome s =
      (.error failure, u)) :
    place.Raises actionOf register perform room event s hooks failure u := by
  induction hooks generalizing s with
  | nil => cases h
  | cons hook hooks ih =>
    unfold tellAll at h
    rcases htold : (place.tell actionOf register perform room event hook).outcome s with
      ⟨raised | _, t⟩
    · rw [outcome_bind_error htold] at h
      cases h
      obtain ⟨hfails, hmode⟩ := eq_error_of_tell hnote htold
      exact .intro [] hooks rfl hfails hmode
    · rw [outcome_bind_ok htold] at h
      obtain ⟨before, after, hbefore, hfails, hmode⟩ := ih h
      refine .intro (hook :: before) after ?_ hfails hmode
      rw [tellAll, outcome_bind_ok htold, hbefore]

end BusPlace

/-- What a reaction asks for. -/
inductive HookRequest (ε ρ : Type)
  /-- A hook is to be registered. -/
  | register (hook : Hook ε ρ)
  /-- An action is to be performed. -/
  | act (action : ρ)

/-- Carries a request out, by what registers hooks and what performs actions. -/
def HookRequest.carryOut (register : Hook ε ρ → Operation σ Unit) (perform : ρ → Operation σ Unit) :
    HookRequest ε ρ → Operation σ Unit
  | .register hook => register hook
  | .act action => perform action

/-- The requests that a reaction makes from a state on, in order, each with the state that it is made
in. -/
def Reaction.requests (register : Hook ε ρ → Operation σ Unit) (perform : ρ → Operation σ Unit) :
    Reaction ε ρ → σ → List (HookRequest ε ρ × σ)
  | done, _ => []
  | fail _, _ => []
  | .register name react next, s =>
    let out := (register ⟨name, react⟩).outcome s
    (.register ⟨name, react⟩, s) :: requests register perform (next out.1) out.2
  | act action next, s =>
    let out := (perform action).outcome s
    (.act action, s) :: requests register perform (next out.1) out.2

namespace BusPlace

variable {place : BusPlace σ ε ρ} {register : Hook ε ρ → Operation σ Unit}
  {perform : ρ → Operation σ Unit} {E : Evolution σ}

/-- The requests that hooks make that are told of an event in turn, from a state on. -/
def requests (place : BusPlace σ ε ρ) (actionOf : ε → Text)
    (register : Hook ε ρ → Operation σ Unit) (perform : ρ → Operation σ Unit) (room : Nat)
    (event : ε) : List (Hook ε ρ) → σ → List (HookRequest ε ρ × σ)
  | [], _ => []
  | hook :: hooks, s =>
    (hook.react event).requests register perform (place.deliver ⟨hook.name, event, room⟩ s) ++
      match (place.tell actionOf register perform room event hook).outcome s with
      | (.ok _, t) => requests place actionOf register perform room event hooks t
      | (.error _, _) => []

/-- Whether requests lie on the way from one state to another one: an evolution leads to the state of
the first, from what becomes of each to the state of the next, and from there to the end. -/
def Passes (E : Evolution σ) (register : Hook ε ρ → Operation σ Unit)
    (perform : ρ → Operation σ Unit) : (s : σ) → List (HookRequest ε ρ × σ) → (u : σ) → Prop
  | s, [], u => E.Allows s u
  | s, (request, t) :: made, u =>
    E.Allows s t ∧ Passes E register perform ((request.carryOut register perform).outcome t).2 made u

namespace Passes

variable {s t u : σ} {made more : List (HookRequest ε ρ × σ)}

/-- A way may begin earlier. -/
theorem of_allows (hst : E.Allows s t) (h : Passes E register perform t made u) :
    Passes E register perform s made u := by
  cases made with
  | nil => exact E.trans hst h
  | cons request made => exact ⟨E.trans hst h.1, h.2⟩

/-- Where one way ends, another one may begin. -/
theorem append (h : Passes E register perform s made t) (h' : Passes E register perform t more u) :
    Passes E register perform s (made ++ more) u := by
  induction made generalizing s with
  | nil => exact h'.of_allows h
  | cons request made ih => exact ⟨h.1, ih h.2⟩

/-- A way may end later. -/
theorem trans_allows (h : Passes E register perform s made t) (htu : E.Allows t u) :
    Passes E register perform s made u := by
  induction made generalizing s with
  | nil => exact E.trans h htu
  | cons request made ih => exact ⟨h.1, ih h.2⟩

/-- The evolution leads along the way from its start and to its end. -/
theorem allows (h : Passes E register perform s made u)
    (hregister : ∀ hook, (register hook).Follows E) (hperform : ∀ action, (perform action).Follows E) :
    E.Allows s u ∧ ∀ request ∈ made, E.Allows s request.2 ∧
      E.Allows ((request.1.carryOut register perform).outcome request.2).2 u := by
  induction made generalizing s with
  | nil => exact ⟨h, fun request hrequest => absurd hrequest List.not_mem_nil⟩
  | cons first made ih =>
    obtain ⟨hfirst, hrest⟩ := h
    have hcarried : (first.1.carryOut register perform).Follows E := by
      cases first.1 with
      | register hook => exact hregister hook
      | act action => exact hperform action
    obtain ⟨hend, hall⟩ := ih hrest
    have hthere := E.trans hfirst (hcarried first.2)
    refine ⟨E.trans hthere hend, fun request hrequest => ?_⟩
    rcases List.mem_cons.mp hrequest with rfl | hrequest
    · exact ⟨hfirst, hend⟩
    · exact ⟨E.trans hthere (hall request hrequest).1, (hall request hrequest).2⟩

/-- The evolution leads from what becomes of a request to the state of every later one. -/
theorem pairwise (h : Passes E register perform s made u)
    (hregister : ∀ hook, (register hook).Follows E)
    (hperform : ∀ action, (perform action).Follows E) :
    made.Pairwise fun request later =>
      E.Allows ((request.1.carryOut register perform).outcome request.2).2 later.2 := by
  induction made generalizing s with
  | nil => exact .nil
  | cons first made ih =>
    refine .cons (fun later hlater => ?_) (ih h.2)
    exact ((allows h.2 hregister hperform).2 later hlater).1

end Passes

/-- The requests of a reaction lie on the way that it takes. -/
theorem passes_reaction (E : Evolution σ) (reaction : Reaction ε ρ) (s : σ) :
    Passes E register perform s (reaction.requests register perform s)
      ((reaction.carryOut register perform).outcome s).2 := by
  induction reaction generalizing s with
  | done => exact E.refl s
  | fail failure => exact E.refl s
  | register name react next _ ihnext =>
    unfold Reaction.carryOut
    rw [outcome_bind_ok (outcome_attempt _ s)]
    exact ⟨E.refl s, ihnext _ _⟩
  | act action next ihnext =>
    unfold Reaction.carryOut
    rw [outcome_bind_ok (outcome_attempt _ s)]
    exact ⟨E.refl s, ihnext _ _⟩

/-- The requests of a hook lie on the way that telling it takes. -/
theorem Follows.passes_tell (hplace : place.Follows E)
    (hregister : ∀ hook, (register hook).Follows E)
    (hperform : ∀ action, (perform action).Follows E) (actionOf : ε → Text) (room : Nat)
    (event : ε) (hook : Hook ε ρ) (s : σ) : Passes E register perform s
      ((hook.react event).requests register perform (place.deliver ⟨hook.name, event, room⟩ s))
      ((place.tell actionOf register perform room event hook).outcome s).2 := by
  have hreaction : Passes E register perform _ _ _ :=
    passes_reaction E (hook.react event) (place.deliver ⟨hook.name, event, room⟩ s)
  refine (hreaction.of_allows (hplace.deliver _ s)).trans_allows ?_
  unfold tell
  rw [outcome_bind_ok (outcome_modify _ s), outcome_bind_ok (outcome_attempt _ _)]
  rcases ((hook.react event).carryOut register perform).outcome
    (place.deliver ⟨hook.name, event, room⟩ s) with ⟨failure | _, t⟩
  · exact (hplace.suits hregister hperform room).handleFailure_follows actionOf hook event failure t
  · exact E.refl t

/-- The requests that hooks make lie on the way that telling them takes. -/
theorem Follows.passes_tellAll (hplace : place.Follows E)
    (hregister : ∀ hook, (register hook).Follows E) (hperform : ∀ action, (perform action).Follows E)
    (actionOf : ε → Text) (room : Nat) (event : ε) (hooks : List (Hook ε ρ)) (s : σ) :
    Passes E register perform s (place.requests actionOf register perform room event hooks s)
      ((place.tellAll actionOf register perform room event hooks).outcome s).2 := by
  induction hooks generalizing s with
  | nil => exact E.refl s
  | cons hook hooks ih =>
    have htold := hplace.passes_tell hregister hperform actionOf room event hook s
    unfold requests tellAll
    rcases hout : (place.tell actionOf register perform room event hook).outcome s with ⟨_ | _, t⟩
    · rw [outcome_bind_error hout]
      rw [hout] at htold
      simpa using htold
    · rw [outcome_bind_ok hout]
      rw [hout] at htold
      exact htold.append (ih t)

end BusPlace

end ConfigNamespace
