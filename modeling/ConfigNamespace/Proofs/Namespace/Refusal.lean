import ConfigNamespace.Proofs.Namespace.History

/-!
# Failing writes

A write fails in one of two ways. Either it is refused, and then nothing was changed and no hook was
told, or a hook fails that was told of its change, and then the change was made before any hook was
told. What is left in the second case is up to the hooks: those that ask for no writes leave the
contents as the change made them.
-/

namespace ConfigNamespace

open Operation

/-- A namespace without its hooks. -/
def View.unhooked (v : View) : View := { v with hooks := [] }

/-- Whether the hooks of a namespace never ask for writes. -/
def View.IsQuiet (v : View) : Prop := ∀ hook ∈ v.hooks, hook.IsQuiet

namespace Family

section Refusal

variable {f : Family} {number : Nat} {request : Write} {failure : Failure}

/-- A write that is refused asks for no change that could be made of an open namespace. -/
theorem Refusal.not_asksFor (h : Refusal f number request failure) {change : Change}
    (hasks : request.AsksFor f.spelledView change) (hopen : (f.view number).closed = false)
    (hadmits : (f.view number).contents.Admits change) : False := by
  cases h with
  | closed _ hclosed =>
    rw [hopen] at hclosed
    cases hclosed
  | emptyName hkey hempty =>
    cases hasks with
    | bind hne _ => exact hne (hempty _ (List.mem_singleton.mp hkey))
    | rebind hne _ => exact hne (hempty _ (List.mem_singleton.mp hkey))
    | unbind hne => exact hne (hempty _ (List.mem_singleton.mp hkey))
    | rename hold hnew _ _ =>
      rcases List.mem_cons.mp hkey with rfl | hkey
      · exact hold (hempty _ rfl)
      · exact hnew (hempty _ (List.mem_singleton.mp hkey))
  | boundAlready hbound =>
    cases hasks with
    | bind _ _ =>
      rw [isBound] at hbound
      simp only [Contents.Admits, View.contents, ← List.elem_iff] at hadmits
      rw [hbound] at hadmits
      cases hadmits
  | bindRejected hreserved hrejected =>
    cases hasks with
    | bind _ haccepts =>
      rw [haccepts hreserved] at hrejected
      cases hrejected
  | rebindRejected hreserved hrejected =>
    cases hasks with
    | rebind _ haccepts =>
      rw [haccepts hreserved] at hrejected
      cases hrejected
  | reservedRename hreserved =>
    cases hasks with
    | rename _ _ hold hnew => exact hreserved.elim hold hnew
  | newKeyBound hbound =>
    cases hasks with
    | rename _ _ _ _ =>
      rw [View.contents, Contents.Admits, hbound] at hadmits
      cases hadmits.2
  | notBound hunbound =>
    cases hasks with
    | rename _ _ _ _ =>
      rw [View.contents, Contents.Admits, hunbound] at hadmits
      cases hadmits.1

/-- A write that there is a reason to refuse is refused, for that reason or another one. -/
theorem Refusal.outcome_eq (h : Refusal f number request failure)
    (tell : Change → Operation Family Unit) :
    ∃ first log, Refusal f number request first ∧
      (writeWith tell number request).outcome f = (.error first, f.withLog log) := by
  have hcarried := carried tell number f request
  generalize (writeWith tell number request).outcome f = result at hcarried
  cases hcarried with
  | refused hfirst log => exact ⟨_, log, hfirst, rfl⟩
  | idle hkey hopen _ _ =>
    cases h with
    | closed _ hclosed =>
      rw [hopen] at hclosed
      cases hclosed
    | emptyName hmem hempty => exact absurd (hempty _ (List.mem_singleton.mp hmem)) hkey
  | changed hasks hopen hadmits _ => exact (h.not_asksFor hasks hopen hadmits).elim
  | closed =>
    cases h with
    | closed hrequest _ => exact absurd rfl hrequest
    | emptyName hmem _ => cases hmem

end Refusal

section Raises

variable {number room : Nat} {f g : Family} {change : Change} {failure : Failure}

/-- Whether one of the hooks of a namespace fails when they are told of a change, in the mode in which
this counts. -/
def Raises (number room : Nat) (change : Change) (f : Family) (failure : Failure) (g : Family) :
    Prop :=
  (busPlace number).Raises Change.shownAction (fun hook => registerHook number (.usable hook))
    (writeWith (tell number room) number) room change f (f.view number).hooks failure g

/-- Telling of a change fails only because a hook does. -/
theorem raises_of_tell (h : (tell number (room + 1) change).outcome f = (.error failure, g)) :
    Raises number room change f failure g := by
  unfold tell BusPlace.run at h
  rw [outcome_bind_ok (outcome_get f)] at h
  exact BusPlace.raises_of_tellAll (fun _ _ _ _ => ⟨_, rfl⟩) h

/-- Where a hook fails, there is a namespace that it was registered with. -/
theorem Raises.lt (h : Raises number room change f failure g) : number < f.views.length := by
  refine Nat.lt_of_not_le fun hout => ?_
  have hnone : (f.view number).hooks = [] := by
    rw [view, List.getD_eq_getElem?_getD, List.getElem?_eq_none hout]
    rfl
  unfold Raises at h
  generalize (f.view number).hooks = hooks at h hnone
  cases h
  simp at hnone

/-- The namespaces of a family but for their hooks. -/
def unhooked (f : Family) : List View := f.views.map View.unhooked

/-- A namespace without its hooks stands among those without theirs. -/
theorem unhooked_view (f : Family) (number : Nat) :
    (f.view number).unhooked = f.unhooked.getD number default := by
  rw [unhooked, view, List.getD_eq_getElem?_getD, List.getD_eq_getElem?_getD, List.getElem?_map]
  cases f.views[number]? <;> rfl

/-- Namespaces that only differ in their hooks hold the same. -/
theorem contents_eq_of_unhooked (h : g.unhooked = f.unhooked) (number : Nat) :
    (g.view number).contents = (f.view number).contents := by
  change (g.view number).unhooked.contents = (f.view number).unhooked.contents
  rw [unhooked_view, unhooked_view, h]

/-- Registering a hook changes the hooks alone. -/
theorem registerHook_unhooked (number : Nat) (hook : Supplied (Hook Change Write)) :
    (registerHook number hook).Follows (.fixing unhooked) := by
  intro f
  rcases outcome_registerHook number hook f with ⟨failure, log, -, h⟩ | ⟨usable, -, -, h⟩
  · rw [h]
    rfl
  · rw [h]
    change (f.views.set number _).map View.unhooked = f.views.map View.unhooked
    rw [List.map_set]
    refine List.ext_getElem? fun other => ?_
    rw [List.getElem?_set, List.getElem?_map]
    by_cases hother : number = other
    · subst hother
      by_cases hlt : number < f.views.length
      · simp [hlt, view, View.unhooked]
      · simp [hlt]
    · rw [if_neg hother]

/-- Telling hooks that ask for no writes does what the bus itself does and registering does. -/
theorem tell_allows_of_isQuiet {E : Evolution Family} (hplace : (busPlace number).Follows E)
    (hregister : ∀ hook, hook.IsQuiet → (registerHook number (.usable hook)).Follows E)
    (hquiet : (f.view number).IsQuiet) (room : Nat) (change : Change) :
    E.Allows f ((tell number room change).outcome f).2 := by
  cases room with
  | zero =>
    unfold tell
    rw [outcome_bind_ok (outcome_get f)]
    split <;> exact E.refl f
  | succ room =>
    unfold tell BusPlace.run
    rw [outcome_bind_ok (outcome_get f)]
    exact BusPlace.tellAll_follows_of_isQuiet hplace hregister hquiet _ _ f

/-- Hooks that ask for no writes change no contents. -/
theorem unhooked_tell (hquiet : (f.view number).IsQuiet) (room : Nat)
    (change : Change) : ((tell number room change).outcome f).2.unhooked = f.unhooked :=
  tell_allows_of_isQuiet (E := .fixing unhooked) ⟨fun _ _ => rfl, fun _ _ _ _ => rfl⟩
    (fun _ _ => registerHook_unhooked number _) hquiet room change

end Raises

section Failing

variable {number room : Nat} {f g : Family} {request : Write} {failure : Failure}

/-- Hooks that ask for no writes leave the contents as the change made them that they are told of. -/
theorem contents_of_tell_changed {change : Change} {log : Log} {result : Except Failure Unit}
    (hnumber : number < f.views.length) (hquiet : (f.view number).IsQuiet)
    (h : (tell number room change).outcome (f.changed number change log) = (result, g)) :
    (g.view number).contents = (f.view number).contents.replay change := by
  have hview := view_changed hnumber change log
  have hquiet' : ((f.changed number change log).view number).IsQuiet := by
    rw [hview]
    exact hquiet
  have hkept := unhooked_tell hquiet' room change
  rw [h] at hkept
  rw [contents_eq_of_unhooked hkept, hview, View.contents_withContents]

/-- A write that fails is refused, or a hook fails that is told of its change. -/
theorem refusal_or_raises_of_write
    (h : (writeWith (tell number (room + 1)) number request).outcome f = (.error failure, g)) :
    Refusal f number request failure ∧ g.views = f.views ∧ g.deliveries = f.deliveries ∨
      ∃ change log, request.AsksFor f.spelledView change ∧
        ((f.changed number change log).view number).contents =
          (f.view number).contents.replay change ∧
        Raises number room change (f.changed number change log) failure g ∧
        ((f.view number).IsQuiet →
          (g.view number).contents = (f.view number).contents.replay change) := by
  have hcarried := carried (tell number (room + 1)) number f request
  rw [h] at hcarried
  generalize hresult : ((.error failure, g) : Except Failure Unit × Family) = result at hcarried
  cases hcarried with
  | refused hrefusal log =>
    cases hresult
    exact .inl ⟨hrefusal, rfl, rfl⟩
  | idle _ _ _ _ => cases hresult
  | @changed _ change hasks _ _ log =>
    have hraises := raises_of_tell hresult.symm
    have hlt : number < f.views.length := by simpa using hraises.lt
    refine .inr ⟨change, log, hasks, ?_, hraises, fun hquiet => ?_⟩
    · rw [view_changed hlt, View.contents_withContents]
    · exact contents_of_tell_changed hlt hquiet hresult.symm
  | closed =>
    obtain ⟨session, hclose⟩ := outcome_close number f
    rw [hclose] at hresult
    cases hresult

/-- A hook that is not registered is refused. -/
theorem refusal_of_registerHook {hook : Supplied (Hook Change Write)}
    (h : (registerHook number hook).outcome f = (.error failure, g)) :
    HookRefusal f number hook failure ∧ g.views = f.views ∧ g.deliveries = f.deliveries := by
  rcases outcome_registerHook number hook f with
    ⟨_, log, hrefusal, hrefused⟩ | ⟨_, -, -, hregistered⟩
  · rw [hrefused] at h
    cases h
    exact ⟨hrefusal, rfl, rfl⟩
  · rw [hregistered] at h
    cases h

end Failing

/-- A write that fails changes nothing, unless a hook fails that was told of its change, which was
made then. In the first case there is a reason to refuse the write, all namespaces stay as they are
and no hook is told of anything. In the second case the write asks for a change, the hooks are told of
it in the family that it was made in, and the failure is that of a hook; if no hook asks for writes,
the change is all that happens to the contents. Conversely, a write that there is a reason to refuse
fails in the first way. A hook that is refused changes nothing either. -/
theorem refused_or_raised {room : Nat} (hroom : 0 < room) (f : Family) (number : Nat) :
    (∀ request failure g,
      (writeWith (tell number room) number request).outcome f = (.error failure, g) →
        Refusal f number request failure ∧ g.views = f.views ∧ g.deliveries = f.deliveries ∨
        ∃ change log, request.AsksFor f.spelledView change ∧
          ((f.changed number change log).view number).contents =
            (f.view number).contents.replay change ∧
          Raises number (room - 1) change (f.changed number change log) failure g ∧
          ((f.view number).IsQuiet →
            (g.view number).contents = (f.view number).contents.replay change)) ∧
      (∀ request failure, Refusal f number request failure → ∃ first g,
        (writeWith (tell number room) number request).outcome f = (.error first, g) ∧
          Refusal f number request first ∧ g.views = f.views ∧ g.deliveries = f.deliveries) ∧
      ∀ hook failure g, (registerHook number hook).outcome f = (.error failure, g) →
        HookRefusal f number hook failure ∧ g.views = f.views ∧ g.deliveries = f.deliveries := by
  obtain ⟨room, rfl⟩ := Nat.exists_eq_succ_of_ne_zero (Nat.ne_of_gt hroom)
  refine ⟨fun request failure g h => refusal_or_raises_of_write h, fun request failure h => ?_,
    fun hook failure g h => refusal_of_registerHook h⟩
  obtain ⟨first, log, hfirst, hrefused⟩ := h.outcome_eq (tell number (room + 1))
  exact ⟨first, _, hrefused, hfirst, rfl, rfl⟩

/-- A family with one namespace, whose only hook fails where this counts. -/
def alarmed : Family :=
  let alarm : Hook Change Write := ⟨text "alarm", fun _ => .fail .hookNotCallable⟩
  { opened (.at none []) .default with views := [⟨[], [], .none, [alarm], .raise, false, true⟩] }

/-- A key is bound, which the hook fails at, and cannot be bound again. -/
theorem refused_or_raised_alarmed :
    let request (value : Int) := Write.bind (.str (text "a")) (.int value)
    ∃ g h, (write 0 (request 1)).outcome alarmed = (.error .hookNotCallable, g) ∧
      (∃ log, Raises 0 (hookRoom - 1) (.bind (text "a") (.int 1))
        (alarmed.changed 0 (.bind (text "a") (.int 1)) log) .hookNotCallable g) ∧
      (g.view 0).contents = ⟨[(text "a", .int 1)], .none⟩ ∧
      (write 0 (request 2)).outcome g = (.error (.boundAlready (text "a")), h) ∧
      h.views = g.views ∧ h.deliveries = g.deliveries := by
  intro request
  have hroom : 0 < hookRoom := by decide
  obtain ⟨g, hraised⟩ : ∃ g, (write 0 (request 1)).outcome alarmed =
    (.error .hookNotCallable, g) := ⟨_, rfl⟩
  have hquiet : (alarmed.view 0).IsQuiet := by
    intro hook hmem event
    cases List.mem_singleton.mp hmem
    trivial
  rcases (refused_or_raised hroom alarmed 0).1 _ _ _ hraised with
    ⟨hrefusal, -⟩ | ⟨change, log, hasks, -, hraises, hcontents⟩
  · cases hrefusal with
    | bindRejected hreserved _ => exact absurd hreserved (by decide)
  · cases hasks
    have hheld : (g.view 0).contents = ⟨[(text "a", .int 1)], .none⟩ := hcontents hquiet
    have hbound : isBound (g.view 0) (text "a") = true := by
      have hentries : (g.view 0).entries = [(text "a", .int 1)] := congrArg Contents.entries hheld
      rw [isBound, hentries]
      rfl
    obtain ⟨first, h, hrefused, -, hviews, hdeliveries⟩ :=
      (refused_or_raised hroom g 0).2.1 (request 2) _ (.boundAlready hbound)
    have hfirst : first = .boundAlready (text "a") := by
      cases hraised
      cases hrefused
      rfl
    rw [hfirst] at hrefused
    exact ⟨g, h, hraised, ⟨log, hraises⟩, hheld, hrefused, hviews, hdeliveries⟩

end Family

end ConfigNamespace
