import ConfigNamespace.Namespace.Write
import ConfigNamespace.Proofs.Hook
import ConfigNamespace.Proofs.Keyed

/-!
# Changes of namespaces

What a change makes of the contents of a namespace is said here by the change alone, so that changes
can be replayed where the namespace itself is out of reach. The steps that writes consist of change a
family accordingly.
-/

namespace ConfigNamespace

open Operation

namespace Keyed

variable {α : Type}

/-- A value under a new key comes at the end. -/
theorem put_of_not_has {key : Text} {entries : Keyed α} (h : has entries key = false) (value : α) :
    put key value entries = entries ++ [(key, value)] := by
  induction entries with
  | nil => rfl
  | cons entry entries ih =>
    obtain ⟨k, v⟩ := entry
    have hkey : key ≠ k := by
      rintro rfl
      simp [has, get?] at h
    have hrest : has entries key = false := by
      have hlookup : get? ((k, v) :: entries) key = get? entries key := by
        rw [get?, List.lookup_cons, beq_eq_false_iff_ne.mpr hkey]
        rfl
      rwa [has, hlookup] at h
    rw [put, if_neg (Ne.symm hkey), ih hrest, List.cons_append]

/-- Nothing is taken away under a key that is not there. -/
theorem remove_of_not_has {key : Text} {entries : Keyed α} (h : has entries key = false) :
    remove entries key = entries := by
  rw [has, get?, Option.isSome_eq_false_iff, Option.isNone_iff_eq_none,
    List.lookup_eq_none_iff] at h
  refine List.filter_eq_self.mpr fun entry hmem => decide_eq_true ?_
  exact Ne.symm (bne_iff_ne.mp (h entry hmem))

/-- A key that has no value has none when another one is taken away. -/
theorem has_remove_of_not_has {key : Text} {entries : Keyed α} (h : has entries key = false)
    (other : Text) : has (remove entries other) key = false := by
  rw [has, remove, get?, Option.isSome_eq_false_iff, Option.isNone_iff_eq_none,
    List.lookup_eq_none_iff] at *
  exact fun entry hmem => h entry (List.mem_filter.mp hmem).1

end Keyed

/-- What a namespace holds of its own. -/
structure Contents where
  /-- The values that were put under keys, in order. -/
  entries : Keyed Value
  /-- The settings. -/
  overrides : Overrides

namespace Contents

/-- The contents with a value under a key. The reserved keys hold the settings. -/
def put (c : Contents) (key : Text) (value : Value) : Contents :=
  if key ∈ reservedKeys then { c with overrides := c.overrides.put key value }
  else { c with entries := Keyed.put key value c.entries }

/-- The contents after a change: a value is put under a key or taken away, or the value of one key
comes to stand under another, at the end. -/
def replay (c : Contents) : Change → Contents
  | .bind key value => c.put key value
  | .rebind key value => c.put key value
  | .unbind key => ⟨c.entries.remove key, c.overrides.remove key⟩
  | .rename key newKey =>
    match c.entries.get? key with
    | some value => { c with entries := c.entries.remove key ++ [(newKey, value)] }
    | none => c

/-- A value that is moved comes last, under its new key. -/
theorem replay_rename_of_some {c : Contents} {key : Text} {value : Value}
    (h : c.entries.get? key = some value) (newKey : Text) :
    c.replay (.rename key newKey) =
      { c with entries := c.entries.remove key ++ [(newKey, value)] } := by
  simp only [replay, h]

/-- Where there is no value to be moved, nothing changes. -/
theorem replay_rename_of_none {c : Contents} {key : Text} (h : c.entries.get? key = none)
    (newKey : Text) : c.replay (.rename key newKey) = c := by
  simp only [replay, h]

/-- Whether a change can be made of the contents: a new key is not there yet, one that is taken away
is there, and a value that is moved is there and leaves nothing to be overwritten. -/
def Admits (c : Contents) : Change → Prop
  | .bind key _ => (if key ∈ reservedKeys then c.overrides.has key else c.entries.has key) = false
  | .rebind _ _ => True
  | .unbind key => c.entries.has key = true ∨ c.overrides.has key = true
  | .rename key newKey => c.entries.has key = true ∧ c.entries.has newKey = false

end Contents

namespace View

/-- What a namespace holds of its own. -/
def contents (v : View) : Contents := ⟨v.entries, v.overrides⟩

/-- The namespace with other contents. -/
def withContents (v : View) (c : Contents) : View :=
  { v with entries := c.entries, overrides := c.overrides }

/-- The namespace as it is left when it is closed. -/
def emptied (v : View) : View :=
  { v with closed := true, entries := [], overrides := .none, hooks := [] }

/-- A namespace with other contents has these contents. -/
@[simp] theorem contents_withContents (v : View) (c : Contents) :
    (v.withContents c).contents = c := rfl

end View

namespace Family

/-- The family with another log. -/
def withLog (f : Family) (log : Log) : Family := { f with session := { f.session with log } }

/-- The family with another namespace of a number. -/
def withView (f : Family) (number : Nat) (v : View) : Family :=
  { f with views := f.views.set number v }

/-- A change of a namespace leaves the number of namespaces. -/
@[simp] theorem length_views_withView (f : Family) (number : Nat) (v : View) :
    (f.withView number v).views.length = f.views.length := List.length_set

/-- A changed namespace is found under its number. -/
theorem view_withView_self {f : Family} {number : Nat} (h : number < f.views.length) (v : View) :
    (f.withView number v).view number = v := by
  simp [view, withView, h]

/-- The namespaces of other numbers are as they were. -/
theorem view_withView_of_ne {number other : Nat} (h : other ≠ number) (f : Family) (v : View) :
    (f.withView number v).view other = f.view other := by
  simp [view, withView, List.getElem?_set_ne (Ne.symm h)]

/-- Where no namespace has the number, nothing changes. -/
theorem withView_of_le {f : Family} {number : Nat} (h : f.views.length ≤ number) (v : View) :
    f.withView number v = f := by
  rw [withView, List.set_eq_of_length_le h]

/-- A family with one more namespace has it under the next number. -/
theorem view_append (f : Family) (v : View) (other : Nat) :
    ({ f with views := f.views ++ [v] } : Family).view other =
      if other = f.views.length then v else f.view other := by
  simp only [view, List.getD_eq_getElem?_getD]
  rcases Nat.lt_trichotomy other f.views.length with hlt | rfl | hgt
  · rw [List.getElem?_append_left hlt, if_neg (Nat.ne_of_lt hlt)]
  · simp
  · have hout : (f.views ++ [v]).length ≤ other := by
      rw [List.length_append]
      exact hgt
    rw [if_neg (Nat.ne_of_gt hgt), List.getElem?_eq_none hout,
      List.getElem?_eq_none (Nat.le_of_lt hgt)]

/-- Changing a namespace puts the changed one in its place. -/
theorem outcome_modifyView (number : Nat) (change : View → View) (f : Family) :
    (modifyView number change).outcome f = (.ok (), f.withView number (change (f.view number))) := by
  have hviews : f.views.modify number change = f.views.set number (change (f.view number)) := by
    refine List.ext_getElem? fun other => ?_
    rw [List.getElem?_modify, List.getElem?_set]
    by_cases hother : number = other
    · subst hother
      by_cases hnumber : number < f.views.length
      · simp [view, hnumber]
      · simp [hnumber]
    · simp [hother]
  simp only [modifyView, outcome_modify, hviews, withView]

/-- A record changes nothing but the log. -/
theorem outcome_note (level : LogLevel) (message : Text) (f : Family) :
    ∃ log, (note level message).outcome f = (.ok (), f.withLog log) := ⟨_, rfl⟩

/-- A record of a value goes to the log. -/
theorem outcome_noteValue (what : String) (key : Text) (value : Value) (f : Family) :
    ∃ log, (noteValue what key value).outcome f = (.ok (), f.withLog log) := ⟨_, rfl⟩

/-- A refusal to work on a closed namespace changes nothing but the log, and an open one is not
refused. -/
theorem outcome_refuseClosed (number : Nat) (operation : String) (f : Family) :
    ((f.view number).closed = true ∧
        ∃ log, (refuseClosed number operation).outcome f = (.error .closed, f.withLog log)) ∨
      (f.view number).closed = false ∧ (refuseClosed number operation).outcome f = (.ok (), f) := by
  unfold refuseClosed
  rw [outcome_bind_ok (outcome_get f)]
  cases hclosed : (f.view number).closed with
  | true => exact .inl ⟨rfl, _, rfl⟩
  | false => exact .inr ⟨rfl, rfl⟩

/-- Whether a value is accepted under a key. Under the reserved keys only some values are. -/
def Accepts (views : Nat → Text) (key : Text) (value : Value) : Prop :=
  key ∈ reservedKeys → checkReserved views key value = .ok ()

/-- Putting a value under a key changes the contents accordingly, unless the value is not accepted
under the key. -/
theorem outcome_putEntry (number : Nat) (key : Text) (value : Value) (f : Family) :
    (∃ failure, key ∈ reservedKeys ∧ checkReserved f.spelledView key value = .error failure ∧
        (putEntry number key value).outcome f = (.error failure, f)) ∨
      Accepts f.spelledView key value ∧ (putEntry number key value).outcome f = (.ok (),
        f.withView number ((f.view number).withContents ((f.view number).contents.put key value))) := by
  unfold putEntry Contents.put
  by_cases hreserved : key ∈ reservedKeys
  · rw [if_pos (List.elem_iff.mpr hreserved), if_pos hreserved, putReserved,
      outcome_bind_ok (outcome_get f)]
    cases hcheck : checkReserved f.spelledView key value with
    | error failure => exact .inl ⟨failure, hreserved, rfl, rfl⟩
    | ok _ =>
      rw [outcome_bind_ok (outcome_ofExcept _ _), outcome_modifyView]
      exact .inr ⟨fun _ => hcheck, rfl⟩
  · rw [if_neg (mt List.elem_iff.mp hreserved), if_neg hreserved, outcome_modifyView]
    exact .inr ⟨fun h => absurd h hreserved, rfl⟩

/-- Why a hook is refused. -/
inductive HookRefusal (f : Family) (number : Nat) : Supplied (Hook Change Write) → Failure → Prop
  /-- The namespace is closed. -/
  | closed {hook : Supplied (Hook Change Write)} (hclosed : (f.view number).closed = true) :
    HookRefusal f number hook .closed
  /-- What is supplied is no hook. -/
  | notCallable (other : Value) : HookRefusal f number (.other other) .hookNotCallable

/-- A hook that is registered with an open namespace comes after the others. Anything else is refused
and changes nothing but the log. -/
theorem outcome_registerHook (number : Nat) (hook : Supplied (Hook Change Write)) (f : Family) :
    (∃ failure log, HookRefusal f number hook failure ∧
        (registerHook number hook).outcome f = (.error failure, f.withLog log)) ∨
      ∃ usable, hook = .usable usable ∧ (f.view number).closed = false ∧
        (registerHook number hook).outcome f = (.ok (), f.withView number
          { f.view number with hooks := (f.view number).hooks ++ [usable] }) := by
  unfold registerHook
  rcases outcome_refuseClosed number "register_binding_hook" f with
    ⟨hclosed, log, hrefused⟩ | ⟨hopen, hpassed⟩
  · exact .inl ⟨_, log, .closed hclosed, outcome_bind_error hrefused⟩
  · rw [outcome_bind_ok hpassed]
    cases hook with
    | usable hook => exact .inr ⟨hook, rfl, hopen, outcome_modifyView _ _ _⟩
    | other other => exact .inl ⟨_, f.session.log, .notCallable other, rfl⟩

/-- Closing the archives never fails. -/
theorem outcome_closeArchives (s : Session) :
    ∃ t, Backend.closeArchives.outcome s = (.ok (), t) := by
  unfold Backend.closeArchives
  rw [outcome_bind_ok (outcome_get s), outcome_bind_ok (outcome_modify _ s)]
  split
  · exact ⟨_, rfl⟩
  · exact ⟨_, rfl⟩

/-- Closing takes everything from a namespace, and does nothing else but to the session. -/
theorem outcome_close (number : Nat) (f : Family) :
    ∃ session, (close number).outcome f =
      (.ok (), { f.withView number (f.view number).emptied with session }) := by
  unfold close
  rw [outcome_bind_ok (outcome_modifyView _ _ _)]
  change ∃ session, Operation.outcome _ (f.withView number (f.view number).emptied) = _
  generalize f.withView number (f.view number).emptied = g
  rw [outcome_bind_ok (outcome_get g)]
  dsimp only
  split
  · obtain ⟨session, hclosed⟩ := outcome_closeArchives g.session
    have honly : (onSession Backend.closeArchives).outcome g = (.ok (), { g with session }) := by
      rw [onSession, outcome_onPart, hclosed]
    rw [outcome_bind_ok honly]
    exact ⟨_, rfl⟩
  · exact ⟨_, rfl⟩

end Family

end ConfigNamespace
