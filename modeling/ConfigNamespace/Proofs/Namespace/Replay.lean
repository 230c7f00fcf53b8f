import ConfigNamespace.Proofs.Namespace.Isolation

/-!
# Changes are told as they are made

A hook that was registered first, before anything was written, is told of every change of its
namespace, and of nothing else, in the order in which the changes were made. So what it was told
accounts for all that the namespace holds, whatever the hooks after it do: they may fail, register
further hooks, and write to the namespace from inside a notification, as long as notifications inside
notifications do not use up their room. The invariant is kept by each step of a bus: between a change
and the delivery to the first hook one change is pending, and at all other times none is.
-/

namespace ConfigNamespace

open Operation

/-- Whether changes account for contents: from some contents on they can be made one after another,
and this leads there. -/
structure Accounts (start : Contents) (changes : List Change) (c : Contents) : Prop where
  /-- The changes lead to the contents. -/
  replay_eq : changes.foldl Contents.replay start = c
  /-- Each change can be made when its turn comes. -/
  admits : ∀ before change after, changes = before ++ change :: after →
    (before.foldl Contents.replay start).Admits change

namespace Accounts

/-- Where nothing was changed, no changes account for the contents. -/
theorem nil (c : Contents) : Accounts c [] c := by
  refine ⟨rfl, fun before change after h => ?_⟩
  simp at h

/-- A further change accounts for what it makes of the contents. -/
theorem concat {start c : Contents} {changes : List Change} (h : Accounts start changes c)
    {change : Change} (hchange : c.Admits change) :
    Accounts start (changes ++ [change]) (c.replay change) := by
  constructor
  · rw [List.foldl_append, h.replay_eq]
    rfl
  · intro before made after hsplit
    rcases List.eq_nil_or_concat after with rfl | ⟨after, last, rfl⟩
    · obtain ⟨rfl, hmade⟩ := List.append_inj' hsplit rfl
      cases hmade
      rwa [h.replay_eq]
    · rw [List.concat_eq_append, ← List.cons_append, ← List.append_assoc] at hsplit
      exact h.admits before made after (List.append_inj' hsplit rfl).1

end Accounts

/-- Whether a hook that a call registers spares a name. -/
def Call.Spares (name : Text) : Call → Prop
  | .registerHook (.usable hook) => hook.Spares name
  | _ => True

/-- Whether a hook of a name, which registers no other one of that name, comes first, and no further
hook has that name or registers one of it. -/
inductive LedBy (name : Text) : List (Hook Change Write) → Prop
  /-- The hook comes first. -/
  | intro {first : Hook Change Write} {rest : List (Hook Change Write)} (hname : first.name = name)
    (hfirst : ∀ event, (first.react event).Spares name) (hrest : ∀ hook ∈ rest, hook.Spares name) :
    LedBy name (first :: rest)

/-- A further hook comes after the first. -/
theorem LedBy.concat {name : Text} {hooks : List (Hook Change Write)} (h : LedBy name hooks)
    {hook : Hook Change Write} (hhook : hook.Spares name) : LedBy name (hooks ++ [hook]) := by
  obtain ⟨hname, hfirst, hrest⟩ := h
  refine .intro hname hfirst fun other hother => ?_
  rcases List.mem_append.mp hother with hother | hother
  · exact hrest other hother
  · rwa [List.mem_singleton.mp hother]

namespace Family

/-- The changes that the hooks of a name were told of. -/
def told (f : Family) (name : Text) : List Change :=
  (f.deliveries.filter fun delivery => delivery.hook = name).map Delivery.event

/-- Whether a hook of a name was told of a change as deep inside other notifications as there is room
for. A write from there fails after the change that it makes. -/
def Exhausted (f : Family) (name : Text) : Prop :=
  ∃ delivery ∈ f.deliveries, delivery.hook = name ∧ delivery.room = 0

/-- Whether a family has nothing to do with hooks of a name. -/
structure Spares (f : Family) (name : Text) : Prop where
  /-- No hook of the name was told of anything. -/
  deliveries : ∀ delivery ∈ f.deliveries, delivery.hook ≠ name
  /-- No namespace has a hook of the name. -/
  hooks : ∀ number, ∀ hook ∈ (f.view number).hooks, hook.Spares name

/-- Whether the first hook of a namespace, which has a certain name, was told of all changes from some
contents on, but for those that are pending. -/
structure Records (name : Text) (number : Nat) (start : Contents) (pending : List Change)
    (f : Family) : Prop where
  /-- The namespace is there. -/
  lt : number < f.views.length
  /-- The hooks of other namespaces have nothing to do with the name. -/
  others : ∀ other, other ≠ number → ∀ hook ∈ (f.view other).hooks, hook.Spares name
  /-- The namespace has a first hook of that name, unless it is closed. -/
  hooks : (f.view number).closed = true ∧ (f.view number).hooks = [] ∨
    LedBy name (f.view number).hooks
  /-- What the hook was told accounts for the contents of the namespace, as long as it is open and
  there was room. -/
  accounts : (f.view number).closed = false → ¬f.Exhausted name →
    Accounts start (f.told name ++ pending) (f.view number).contents

/-- The change of a namespace as a pending one for the hooks of another namespace. -/
def pendingAt (number other : Nat) (change : Change) : List Change :=
  if other = number then [change] else []

section Records

variable {name : Text} {number : Nat} {start : Contents} {pending : List Change} {f g : Family}

/-- Records depend on the namespaces and the deliveries alone. -/
theorem Records.of_eq (h : Records name number start pending f) (hviews : g.views = f.views)
    (hdeliveries : g.deliveries = f.deliveries) : Records name number start pending g := by
  have hview (other : Nat) : g.view other = f.view other := by rw [view, view, hviews]
  refine ⟨by rw [hviews]; exact h.lt, fun other hother => ?_, ?_, ?_⟩
  · rw [hview]
    exact h.others other hother
  · rw [hview]
    exact h.hooks
  · rw [hview, told, Exhausted, hdeliveries]
    exact h.accounts

/-- Another namespace may change as long as its hooks have nothing to do with the name. -/
theorem Records.withView_of_ne (h : Records name number start pending f) {other : Nat}
    (hother : other ≠ number) {v : View} (hv : ∀ hook ∈ v.hooks, hook.Spares name) :
    Records name number start pending (f.withView other v) := by
  have hsame : (f.withView other v).view number = f.view number :=
    view_withView_of_ne (Ne.symm hother) f v
  refine ⟨by rw [length_views_withView]; exact h.lt, fun third hthird => ?_, ?_, ?_⟩
  · by_cases heq : third = other
    · subst heq
      by_cases hlt : third < f.views.length
      · rwa [view_withView_self hlt]
      · rw [withView_of_le (Nat.le_of_not_lt hlt)]
        exact h.others third hthird
    · rw [view_withView_of_ne heq]
      exact h.others third hthird
  · rw [hsame]
    exact h.hooks
  · rw [hsame]
    exact h.accounts

/-- The namespace itself may change as long as its first hook stays and the pending changes account
for what it holds then. -/
theorem Records.withView_self (h : Records name number start [] f) {v : View}
    (hooks : v.closed = true ∧ v.hooks = [] ∨ LedBy name v.hooks)
    (accounts : v.closed = false → ¬f.Exhausted name →
      Accounts start (f.told name ++ pending) v.contents) :
    Records name number start pending (f.withView number v) := by
  have hself : (f.withView number v).view number = v := view_withView_self h.lt v
  refine ⟨by rw [length_views_withView]; exact h.lt, fun other hother => ?_, ?_, ?_⟩
  · rw [view_withView_of_ne hother]
    exact h.others other hother
  · rwa [hself]
  · rwa [hself]

/-- A change of the namespace is pending after it was made. -/
theorem Records.changed (h : Records name number start [] f) {other : Nat} {change : Change}
    (hopen : (f.view other).closed = false) (hadmits : (f.view other).contents.Admits change) :
    Records name number start (pendingAt number other change) (f.withView other
      ((f.view other).withContents ((f.view other).contents.replay change))) := by
  unfold pendingAt
  by_cases hother : other = number
  · subst hother
    rw [if_pos rfl]
    refine h.withView_self h.hooks fun _ hroom => ?_
    have haccounts := h.accounts hopen hroom
    rw [List.append_nil] at haccounts
    exact haccounts.concat hadmits
  · rw [if_neg hother]
    exact h.withView_of_ne hother (h.others other hother)

/-- Nothing counts as pending once there was no room, or the namespace is closed. -/
theorem Records.of_pending (h : Records name number start pending f)
    (hpast : (f.view number).closed = true ∨ f.Exhausted name) : Records name number start [] f := by
  refine ⟨h.lt, h.others, h.hooks, fun hopen hroom => ?_⟩
  rcases hpast with hclosed | hexhausted
  · rw [hopen] at hclosed
    cases hclosed
  · exact absurd hexhausted hroom

/-- A registered hook that spares the name comes after the first one. -/
theorem Records.registered (h : Records name number start [] f) {other : Nat}
    (hopen : (f.view other).closed = false) {hook : Hook Change Write} (hhook : hook.Spares name) :
    Records name number start [] (f.withView other
      { f.view other with hooks := (f.view other).hooks ++ [hook] }) := by
  by_cases hother : other = number
  · subst hother
    refine h.withView_self (.inr ?_) h.accounts
    rcases h.hooks with ⟨hclosed, -⟩ | hled
    · rw [hopen] at hclosed
      cases hclosed
    · exact hled.concat hhook
  · refine h.withView_of_ne hother fun third hthird => ?_
    rcases List.mem_append.mp hthird with hthird | hthird
    · exact h.others other hother third hthird
    · rwa [List.mem_singleton.mp hthird]

/-- A closed namespace has nothing that would have to be accounted for. -/
theorem Records.closed (h : Records name number start [] f) (other : Nat) (session : Session) :
    Records name number start []
      { f.withView other (f.view other).emptied with session } := by
  have hclosed : Records name number start [] (f.withView other (f.view other).emptied) := by
    by_cases hother : other = number
    · subst hother
      exact h.withView_self (.inl ⟨rfl, rfl⟩) fun hopen => by cases hopen
    · exact h.withView_of_ne hother fun hook hhook => by cases hhook
  exact hclosed.of_eq rfl rfl

/-- What other hooks are told of does not count. -/
theorem Records.delivered_other (h : Records name number start pending f)
    {delivery : Delivery Change} (hother : delivery.hook ≠ name) (place : Nat) :
    Records name number start pending ((busPlace place).deliver delivery f) := by
  refine ⟨h.lt, h.others, h.hooks, fun hopen hroom => ?_⟩
  have htold : Family.told ((busPlace place).deliver delivery f) name = f.told name := by
    simp [told, busPlace, hother]
  rw [htold]
  refine h.accounts hopen fun ⟨found, hfound, hlast⟩ => hroom ⟨found, ?_, hlast⟩
  exact List.mem_append_left _ hfound

/-- The pending change is told. -/
theorem Records.delivered {change : Change} (h : Records name number start [change] f)
    {delivery : Delivery Change} (hname : delivery.hook = name) (hchange : delivery.event = change)
    (place : Nat) : Records name number start [] ((busPlace place).deliver delivery f) := by
  refine ⟨h.lt, h.others, h.hooks, fun hopen hroom => ?_⟩
  have htold : Family.told ((busPlace place).deliver delivery f) name = f.told name ++ [change] := by
    simp [told, busPlace, hname, hchange]
  rw [htold, List.append_nil]
  refine h.accounts hopen fun ⟨found, hfound, hlast⟩ => hroom ⟨found, ?_, hlast⟩
  exact List.mem_append_left _ hfound

end Records

section Telling

variable {name : Text} {number other room : Nat} {start : Contents} {f : Family}

/-- Whether records are complete where notifications of a namespace have some room: if it is the
recording one and there is no room, then this is known. -/
def Complete (name : Text) (number : Nat) (start : Contents) (other room : Nat) (f : Family) : Prop :=
  Records name number start [] f ∧ (other = number → room = 0 → f.Exhausted name)

/-- A write leaves the records complete if telling of its change does. -/
theorem writeWith_complete
    (htell : ∀ change f, Records name number start (pendingAt number other change) f →
      (other = number → room = 0 → f.Exhausted name) →
      Complete name number start other room ((tell other room change).outcome f).2)
    (request : Write) : (writeWith (tell other room) other request).Follows
      (.keeping (Complete name number start other room)) := by
  rintro f ⟨hrecords, hroom⟩
  have hcarried := carried (tell other room) other f request
  generalize (writeWith (tell other room) other request).outcome f = result at hcarried
  cases hcarried with
  | refused _ log => exact ⟨hrecords.of_eq rfl rfl, hroom⟩
  | idle _ _ _ _ => exact ⟨hrecords, hroom⟩
  | changed _ hopen hadmits log =>
    have hlogged : Records name number start [] (f.withLog log) := hrecords.of_eq rfl rfl
    exact htell _ _ (hlogged.changed hopen hadmits) hroom
  | closed =>
    obtain ⟨session, hclose⟩ := outcome_close other f
    rw [hclose]
    exact ⟨hrecords.closed other session, hroom⟩

/-- A hook that spares the name may be registered. -/
theorem registerHook_complete {hook : Hook Change Write} (hhook : hook.Spares name) :
    (registerHook other (.usable hook)).Follows
      (.keeping (Complete name number start other room)) := by
  rintro f ⟨hrecords, hroom⟩
  rcases outcome_registerHook other (.usable hook) f with
    ⟨failure, log, -, h⟩ | ⟨usable, heq, hopen, h⟩
  · rw [h]
    exact ⟨hrecords.of_eq rfl rfl, hroom⟩
  · cases heq
    rw [h]
    exact ⟨hrecords.registered hopen hhook, hroom⟩

/-- The hooks after the first one leave the records complete, whatever they do. -/
theorem suits_complete (hwrite : ∀ request, (writeWith (tell other room) other request).Follows
      (.keeping (Complete name number start other room))) :
    (busPlace other).Suits (fun hook => registerHook other (.usable hook))
      (writeWith (tell other room) other) room (Hook.Spares name)
      (.keeping (Complete name number start other room)) where
  note _ _ _ _ h := ⟨h.1.of_eq rfl rfl, h.2⟩
  perform := hwrite
  deliver _ hhook _ _ h := ⟨h.1.delivered_other hhook.1 other, fun hother hroom =>
    let ⟨found, hfound, hlast⟩ := h.2 hother hroom
    ⟨found, List.mem_append_left _ hfound, hlast⟩⟩
  register _ hhook := registerHook_complete hhook
  registers _ hhook event := Reaction.registers_of_spares (hhook.2 event)

/-- When hooks have been told of a change, and of all that came of it, nothing is pending. The
induction is on the room: hooks write inside a notification with one less of it. -/
theorem tell_complete (change : Change)
    (hrecords : Records name number start (pendingAt number other change) f)
    (hroom : other = number → room = 0 → f.Exhausted name) :
    Complete name number start other room ((tell other room change).outcome f).2 := by
  induction room generalizing change f with
  | zero =>
    have hsame : ((tell other 0 change).outcome f).2 = f := by
      unfold tell
      rw [outcome_bind_ok (outcome_get f)]
      split <;> rfl
    rw [hsame]
    refine ⟨?_, hroom⟩
    by_cases hother : other = number
    · exact hrecords.of_pending (.inr (hroom hother rfl))
    · rwa [pendingAt, if_neg hother] at hrecords
  | succ room ih =>
    have hsuits := suits_complete fun request =>
      writeWith_complete (fun change f hrecords hroom => ih change hrecords hroom) request
    refine ⟨?_, fun _ hzero => by cases hzero⟩
    unfold tell BusPlace.run
    rw [outcome_bind_ok (outcome_get f)]
    change Records name number start [] (Operation.outcome (BusPlace.tellAll _ _ _ _ room change
      (f.view other).hooks) f).2
    by_cases hother : other = number
    · subst hother
      rw [pendingAt, if_pos rfl] at hrecords
      rcases hrecords.hooks with ⟨hclosed, hnone⟩ | hled
      · rw [hnone]
        exact hrecords.of_pending (.inl hclosed)
      · generalize (f.view other).hooks = hooks at hled
        obtain ⟨hname, hfirst, hrest⟩ := hled
        refine (hsuits.tellAll_allows (Reaction.registers_of_spares (hfirst change)) hrest _ f ?_).1
        refine ⟨hrecords.delivered hname rfl other, fun _ hzero => ?_⟩
        exact ⟨_, List.mem_append_right _ (List.mem_singleton_self _), hname, hzero⟩
    · rw [pendingAt, if_neg hother] at hrecords
      have hothers := hrecords.others other hother
      exact (hsuits.tellAll_follows hothers _ _ f ⟨hrecords, fun heq => absurd heq hother⟩).1

end Telling

section Course

variable {w : World} {name : Text} {number : Nat} {start : Contents} {f g : Family}

/-- Browsing adds namespaces without hooks, and so leaves the records as they are. -/
theorem admitsBrowsing_records : AdmitsBrowsing w (.keeping (Records name number start [])) where
  note _ _ _ h := h.of_eq rfl rfl
  seek _ _ _ h := h.of_eq rfl rfl
  addView f place segments h := by
    have hview (other : Nat) (hother : other < f.views.length) :
        Family.view { f with views := f.views ++ [viewBelow (f.view place) segments] } other =
          f.view other := view_eq_of_prefix (List.prefix_append _ _) hother
    refine ⟨by simpa using Nat.lt_succ_of_lt h.lt, fun other hother hook hhook => ?_, ?_, ?_⟩
    · by_cases hlt : other < f.views.length
      · rw [hview other hlt] at hhook
        exact h.others other hother hook hhook
      · have hnone : (Family.view { f with views := f.views ++ [viewBelow (f.view place) segments] }
            other).hooks = [] := by
          rw [view, List.getD_eq_getElem?_getD,
            List.getElem?_append_right (Nat.le_of_not_lt hlt)]
          rcases other - f.views.length with _ | _ <;> rfl
        rw [hnone] at hhook
        cases hhook
    · rw [hview number h.lt]
      exact h.hooks
    · rw [hview number h.lt]
      exact h.accounts

/-- A call with room for notifications leaves nothing pending. -/
theorem Records.after (h : Records name number start [] f) {room other : Nat} (hroom : 0 < room)
    {call : Call} (hcall : call.Spares name) :
    Records name number start [] (f.after w room other call) := by
  have hcomplete : Complete name number start other room f :=
    ⟨h, fun _ hzero => absurd hzero (Nat.ne_of_gt hroom)⟩
  rcases after_cases w room other f call with hbrowse | ⟨request, rfl⟩ | ⟨hook, rfl⟩
  · exact admitsBrowsing_records.browse_allows hbrowse h
  · exact (writeWith_complete (fun change _ hrecords hroom => tell_complete change hrecords hroom)
      request f hcomplete).1
  · cases hook with
    | usable hook => exact (registerHook_complete hcall f hcomplete).1
    | other _ =>
      rcases outcome_registerHook other (.other _) f with
        ⟨failure, log, -, hsame⟩ | ⟨_, heq, -⟩
      · rw [Family.after, hsame]
        exact h.of_eq rfl rfl
      · cases heq

end Course

end Family

end ConfigNamespace
