import ConfigNamespace.Proofs.Namespace.Isolation

/-!
# Closed is final

Closing takes everything from a namespace, and no step of the family gives it anything again: hooks
are registered with open namespaces only, and changes are made of open namespaces only. So nothing
that goes on when a namespace is closed from inside a notification can bring it back, be it the rest
of what the hook asks for, the hooks that are still to be told, or the notifications around it. What
is asked of a closed namespace is refused before anything is done for it.
-/

namespace ConfigNamespace

open Operation

/-- Whether a namespace is shut: it is closed, and nothing is left in it. -/
structure View.IsShut (v : View) : Prop where
  /-- It is closed. -/
  closed_eq : v.closed = true
  /-- It has no entries. -/
  entries_eq : v.entries = []
  /-- It has no settings of its own. -/
  overrides_eq : v.overrides = .none
  /-- It has no hooks. -/
  hooks_eq : v.hooks = []

/-- A namespace that was emptied is shut. -/
theorem View.isShut_emptied (v : View) : v.emptied.IsShut := ⟨rfl, rfl, rfl, rfl⟩

/-- There is nothing to take from a namespace that is shut. -/
theorem View.IsShut.emptied_eq {v : View} (h : v.IsShut) : v.emptied = v := by
  obtain ⟨segments, entries, overrides, hooks, mode, closed, isOwner⟩ := v
  obtain ⟨rfl, rfl, rfl, rfl⟩ := h
  rfl

namespace Family

/-- A namespace that is not there is not closed. -/
theorem lt_of_closed {f : Family} {number : Nat} (h : (f.view number).closed = true) :
    number < f.views.length := by
  refine Nat.lt_of_not_le fun hout => ?_
  rw [view, List.getD_eq_getElem?_getD, List.getElem?_eq_none hout] at h
  cases h

/-- Whether a namespace stays as it is if it is shut, and is shut once it is closed if it was so
before. -/
structure Seals (number : Nat) (f g : Family) : Prop where
  /-- No namespace is lost. -/
  length_le : f.views.length ≤ g.views.length
  /-- A namespace that is shut stays as it is. -/
  view_eq : (f.view number).IsShut → g.view number = f.view number
  /-- Nothing is left in a namespace that is closed. -/
  isShut : ((f.view number).closed = true → (f.view number).IsShut) →
    (g.view number).closed = true → (g.view number).IsShut

/-- What seals a namespace. -/
def sealing (number : Nat) : Evolution Family where
  Allows := Seals number
  refl _ := ⟨Nat.le_refl _, fun _ => rfl, id⟩
  trans := by
    rintro f g h ⟨hlength, hview, hshut⟩ ⟨hlength', hview', hshut'⟩
    refine ⟨Nat.le_trans hlength hlength', fun hf => ?_, fun hf => hshut' (hshut hf)⟩
    rw [hview' (by rwa [hview hf]), hview hf]

section Seals

variable {w : World} {number : Nat} {f g : Family}

/-- What leaves a namespace as it is seals it. -/
theorem Seals.of_view_eq (hlength : f.views.length ≤ g.views.length)
    (hview : g.view number = f.view number) : Seals number f g :=
  ⟨hlength, fun _ => hview, fun h => by rwa [hview]⟩

/-- A namespace may come to be another one that is shut if it is closed, as long as it is not shut
already. -/
theorem Seals.withView {other : Nat} {v : View} (hshut : v.closed = true → v.IsShut)
    (hsame : other = number → (f.view number).IsShut → v = f.view number) :
    Seals number f (f.withView other v) := by
  by_cases hother : other = number
  · subst hother
    by_cases hlt : other < f.views.length
    · have hview := view_withView_self hlt v
      exact ⟨by simp, fun hf => by rw [hview, hsame rfl hf], fun _ => by rwa [hview]⟩
    · rw [withView_of_le (Nat.le_of_not_lt hlt)]
      exact (sealing other).refl f
  · exact .of_view_eq (by simp) (view_withView_of_ne (Ne.symm hother) f v)

/-- What changes an open namespace, and leaves it open, seals every namespace. -/
theorem Seals.withView_of_open {other : Nat} {v : View} (hopen : (f.view other).closed = false)
    (hv : v.closed = (f.view other).closed) : Seals number f (f.withView other v) := by
  refine .withView (fun hclosed => ?_) ?_
  · rw [hv, hopen] at hclosed
    cases hclosed
  · rintro rfl hshut
    rw [hshut.closed_eq] at hopen
    cases hopen

/-- Writes change open namespaces, but for closing, which seals. -/
theorem admitsChanges_sealing (number other : Nat) : AdmitsChanges (sealing number) other where
  withLog _ _ := .of_view_eq (Nat.le_refl _) rfl
  changed f _ _ log _ hopen _ :=
    (sealing number).trans (.of_view_eq (Nat.le_refl _) rfl : Seals number f (f.withLog log))
      (.withView_of_open hopen rfl)
  hooked _ _ hopen := .withView_of_open hopen rfl
  close f := by
    obtain ⟨session, hclose⟩ := outcome_close other f
    rw [hclose]
    have hseals : Seals number f (f.withView other (f.view other).emptied) := by
      refine .withView (fun _ => (f.view other).isShut_emptied) ?_
      rintro rfl hshut
      exact hshut.emptied_eq
    exact ⟨hseals.length_le, hseals.view_eq, hseals.isShut⟩
  deliver _ _ := .of_view_eq (Nat.le_refl _) rfl

/-- Browsing leaves the namespaces as they are that are there, and adds open ones. -/
theorem admitsBrowsing_sealing (w : World) (number : Nat) : AdmitsBrowsing w (sealing number) where
  note _ _ _ := .of_view_eq (Nat.le_refl _) rfl
  seek _ _ _ := .of_view_eq (Nat.le_refl _) rfl
  addView f other segments := by
    by_cases hnew : number = f.views.length
    · have hopen : (Family.view { f with views := f.views ++ [viewBelow (f.view other) segments] }
          number).closed = false := by
        rw [view_append, if_pos hnew]
        rfl
      refine ⟨by simp, fun hshut => ?_, fun _ hclosed => ?_⟩
      · exact absurd (lt_of_closed hshut.closed_eq) (Nat.not_lt_of_le (Nat.le_of_eq hnew.symm))
      · rw [hopen] at hclosed
        cases hclosed
    · exact .of_view_eq (by simp) (by rw [view_append, if_neg hnew])

/-- A call on a namespace seals every namespace, with all that hooks add to it. -/
theorem after_seals (w : World) (number room other : Nat) (call : Call) :
    Seals number f (f.after w room other call) := by
  have hwrites := admitsChanges_sealing number other
  rcases after_cases w room other f call with hbrowse | ⟨request, rfl⟩ | ⟨hook, rfl⟩
  · exact (admitsBrowsing_sealing w number).browse_allows hbrowse
  · exact hwrites.writeWith_follows (hwrites.tell_follows room) request f
  · exact hwrites.registerHook_follows hook f

end Seals

/-- Whether one family comes of another one by calls on its namespaces, in the worlds that there are
at the time. -/
def Later : Family → Family → Prop :=
  Relation.ReflTransGen fun f g => ∃ w room number call, g = f.after w room number call

/-- Calls seal every namespace, however many they are. -/
theorem Later.seals {f g : Family} (h : Later f g) (number : Nat) : Seals number f g := by
  induction h with
  | refl => exact (sealing number).refl f
  | tail _ hcall ih =>
    obtain ⟨w, room, other, call, rfl⟩ := hcall
    exact (sealing number).trans ih (after_seals w number room other call)

/-- The family with a record that an operation was refused. -/
def refused (f : Family) (operation : String) : Family :=
  f.withLog (f.session.log ++
    [⟨.error, .resolver, text "Attempted " ++ text operation ++ text " after close."⟩])

/-- Whether a namespace refuses all that may be asked of it but to be closed, before anything is done
for it: only a record is left, whatever the world holds. -/
structure Refuses (f : Family) (number : Nat) : Prop where
  /-- No key is looked up. -/
  lookup : ∀ w key, (lookup w number key).outcome f = (.error .closed, f.refused "lookup")
  /-- No key is asked for, unless it is empty or no text. -/
  has : ∀ w c key, (has w number (.str (c :: key))).outcome f = (.error .closed, f.refused "lookup")
  /-- No namespace is made for a path. -/
  scope : ∀ path, (scope number path).outcome f = (.error .closed, f.refused "scoped")
  /-- No names are listed. -/
  list : ∀ w key, (list w number key).outcome f = (.error .closed, f.refused "list")
  /-- No entries are listed. -/
  listBindings : ∀ w key,
    (listBindings w number key).outcome f = (.error .closed, f.refused "list_bindings")
  /-- The environment is not shown. -/
  visibleEnvironment :
    (visibleEnvironment number).outcome f = (.error .closed, f.refused "environment")
  /-- No write is carried out. -/
  write : ∀ tell request, request ≠ .close →
    (writeWith tell number request).outcome f = (.error .closed, f.refused request.action)
  /-- No hook is registered. -/
  registerHook : ∀ hook,
    (registerHook number hook).outcome f = (.error .closed, f.refused "register_binding_hook")

/-- A closed namespace refuses. -/
theorem refuses_of_closed {f : Family} {number : Nat} (h : (f.view number).closed = true) :
    Refuses f number := by
  have hrefuse (operation : String) :
      (refuseClosed number operation).outcome f = (.error .closed, f.refused operation) :=
    outcome_refuseClosed_of_closed h operation
  have hlookup (w : World) (key : Value) :
      (Family.lookup w number key).outcome f = (.error .closed, f.refused "lookup") :=
    outcome_bind_error (hrefuse _)
  have hbelow (w : World) (operation : String) (key : Value) :
      (entriesBelow w number operation key).outcome f = (.error .closed, f.refused operation) := by
    unfold entriesBelow
    split
    · exact outcome_bind_error (hrefuse _)
    · exact outcome_bind_error (hrefuse _)
  constructor
  case lookup => exact hlookup
  case has => exact fun w c key => has_of_lookup_error (hlookup w _) nofun
  case scope => exact fun path => outcome_bind_error (hrefuse _)
  case list => exact fun w key => outcome_bind_error (hbelow w _ key)
  case listBindings => exact fun w key => hbelow w _ key
  case visibleEnvironment => exact outcome_bind_error (hrefuse _)
  case write =>
    intro tell request hrequest
    cases request with
    | close => exact absurd rfl hrequest
    | _ => exact outcome_bind_error (hrefuse _)
  case registerHook => exact fun hook => outcome_bind_error (hrefuse _)

/-- What the hooks of a namespace ask for when they are told of a change: each request with the family
that it is made in. -/
def asked (number room : Nat) (change : Change) (f : Family) :
    List (HookRequest Change Write × Family) :=
  (busPlace number).requests Change.shownAction (fun hook => registerHook number (.usable hook))
    (writeWith (tell number room) number) room change (f.view number).hooks f

/-- The family after a request of a hook. Changes that come of it are told in turn, as often as there
is room. -/
def answered (number room : Nat) (request : HookRequest Change Write × Family) : Family :=
  ((request.1.carryOut (fun hook => registerHook number (.usable hook))
    (writeWith (tell number room) number)).outcome request.2).2

section Asked

variable {E : Evolution Family} {number : Nat} (hE : AdmitsChanges E number)
include hE

/-- What is allowed leads from the change to every request, from what comes of it to every later one,
and from there to the end of the notification. -/
theorem AdmitsChanges.asked_allows (room : Nat) (change : Change) (f : Family) :
    ((asked number room change f).Pairwise fun request later =>
      E.Allows (answered number room request) later.2) ∧
    ∀ request ∈ asked number room change f, E.Allows f request.2 ∧
      E.Allows (answered number room request) ((tell number (room + 1) change).outcome f).2 := by
  have hregister (hook : Hook Change Write) : (registerHook number (.usable hook)).Follows E :=
    hE.registerHook_follows _
  have hperform (request : Write) : (writeWith (tell number room) number request).Follows E :=
    hE.writeWith_follows (hE.tell_follows room) request
  have hpasses := hE.busPlace_follows.passes_tellAll hregister hperform Change.shownAction room change
    (f.view number).hooks f
  have htold : (tell number (room + 1) change).outcome f = ((busPlace number).tellAll
      Change.shownAction (fun hook => registerHook number (.usable hook))
      (writeWith (tell number room) number) room change (f.view number).hooks).outcome f := by
    unfold tell BusPlace.run
    rw [outcome_bind_ok (outcome_get f)]
    rfl
  rw [htold]
  exact ⟨hpasses.pairwise hregister hperform, (hpasses.allows hregister hperform).2⟩

end Asked

section Final

variable {f : Family} {number : Nat}

/-- A namespace is shut by closing it. -/
theorem isShut_of_close (hnumber : number < f.views.length) :
    ∃ g, (close number).outcome f = (.ok (), g) ∧ (g.view number).IsShut := by
  obtain ⟨session, hclose⟩ := outcome_close number f
  refine ⟨_, hclose, ?_⟩
  have hview := view_withView_self hnumber (f.view number).emptied
  change ((f.withView number (f.view number).emptied).view number).IsShut
  rw [hview]
  exact (f.view number).isShut_emptied

/-- A family is created with open namespaces. -/
theorem isOpen_of_create {w : World} {source : EnvironmentSource} {parsers : ParserRegistry}
    {converter : TypeConverter} {mode : Value}
    (h : (create w source parsers converter mode).MayGive f) : (f.view number).closed = false := by
  obtain ⟨e, -, h⟩ := h.of_bind
  obtain ⟨mode, -, h⟩ := h.of_bind
  obtain ⟨-, -, h⟩ := h.of_bind
  rw [← eq_of_mayGive_pure h]
  rcases number with _ | number <;> rfl

/-- Closing is final. It always succeeds, and leaves a namespace shut. A namespace that is shut stays
as it is, whatever is called for in its family, which includes that it is closed again; and it
refuses everything else. The same holds inside a notification. What a hook asks for after the
namespace was closed, by itself or by another hook, is refused, and the notification ends with the
namespace as closing left it. So nothing is left in a namespace of a family that was created, once it
is closed. -/
theorem closed_for_good (hnumber : number < f.views.length) :
    (∃ g, (close number).outcome f = (.ok (), g) ∧ (g.view number).IsShut) ∧
      ((f.view number).IsShut → ∀ g, Later f g →
        g.view number = f.view number ∧ Refuses g number ∧ ((close number).outcome g).1 = .ok ()) ∧
      (∀ room change, let requests := asked number room change f
        (∀ request ∈ requests, request.1 = .act .close →
          ((answered number room request).view number).IsShut) ∧
        (requests.Pairwise fun request later =>
          ((answered number room request).view number).IsShut →
            later.2.view number = (answered number room request).view number ∧
              Refuses later.2 number) ∧
        ∀ request ∈ requests, ((answered number room request).view number).IsShut →
          ((tell number (room + 1) change).outcome f).2.view number =
            (answered number room request).view number) ∧
      ∀ w source parsers converter mode start,
        (create w source parsers converter mode).MayGive start → Later start f →
          (f.view number).closed = true → (f.view number).IsShut := by
  refine ⟨isShut_of_close hnumber, fun hshut g hg => ?_, fun room change => ?_, ?_⟩
  · have hsame := (hg.seals number).view_eq hshut
    obtain ⟨session, hclose⟩ := outcome_close number g
    exact ⟨hsame, refuses_of_closed (by rw [hsame, hshut.closed_eq]), by rw [hclose]⟩
  · obtain ⟨hpairwise, hall⟩ := (admitsChanges_sealing number number).asked_allows room change f
    refine ⟨fun request hrequest hclose => ?_, hpairwise.imp fun hseals hshut => ?_,
      fun request hrequest hshut => (hall request hrequest).2.view_eq hshut⟩
    · obtain ⟨g, hg, hshut⟩ := isShut_of_close
        (Nat.lt_of_lt_of_le hnumber (hall request hrequest).1.length_le)
      rw [answered, hclose]
      change (((close number).outcome request.2).2.view number).IsShut
      rw [hg]
      exact hshut
    · have hsame := hseals.view_eq hshut
      exact ⟨hsame, refuses_of_closed (by rw [hsame, hshut.closed_eq])⟩
  · intro w source parsers converter mode start hstart hlater
    refine (hlater.seals number).isShut fun hclosed => ?_
    rw [isOpen_of_create hstart] at hclosed
    cases hclosed

/-- A hook that closes the namespace and then binds a key, and one that binds a key and registers a
further hook. -/
theorem closed_for_good_reentrant :
    let closing : Hook Change Write := ⟨text "closing", fun _ =>
      .act .close fun _ => .act (.bind (.str (text "b")) (.int 2)) .settle⟩
    let writing : Hook Change Write := ⟨text "writing", fun _ =>
      .act (.rebind (.str (text "c")) (.int 3)) fun _ =>
        .register (text "late") (fun _ => .done) .settle⟩
    let f : Family := { opened (.at none []) .default with
      views := [⟨[], [(text "a", .int 1)], .none, [closing, writing], .ignore, false, true⟩] }
    let change : Change := .bind (text "a") (.int 1)
    ∃ first rest, asked 0 179 change f = first :: rest ∧ first.1 = .act .close ∧ rest.length = 3 ∧
      (∀ later ∈ rest, (later.2.view 0).IsShut ∧ Refuses later.2 0) ∧
      (((tell 0 hookRoom change).outcome f).2.view 0).IsShut := by
  intro closing writing f change
  obtain ⟨first, rest, hasked, hclose, hlength⟩ : ∃ first rest, asked 0 179 change f = first :: rest ∧
    first.1 = .act .close ∧ rest.length = 3 := ⟨_, _, rfl, rfl, rfl⟩
  have hnumber : 0 < f.views.length := by decide
  obtain ⟨hshut, hlater, hend⟩ := (closed_for_good hnumber).2.2.1 179 change
  rw [hasked] at hshut hlater hend
  have hfirst := hshut first List.mem_cons_self hclose
  refine ⟨first, rest, hasked, hclose, hlength, fun later hmem => ?_, ?_⟩
  · obtain ⟨hsame, hrefuses⟩ := (List.pairwise_cons.mp hlater).1 later hmem hfirst
    rw [hsame]
    exact ⟨hfirst, hrefuses⟩
  · change (((tell 0 (179 + 1) change).outcome f).2.view 0).IsShut
    rw [hend first List.mem_cons_self hfirst]
    exact hfirst

end Final

end Family

end ConfigNamespace
