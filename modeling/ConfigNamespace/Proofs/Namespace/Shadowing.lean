import ConfigNamespace.Proofs.Namespace.Isolation
import ConfigNamespace.Proofs.Namespace.Refusal
import ConfigNamespace.Proofs.Namespace.Sound

/-!
# What writes shadow

An entry of a namespace hides what the documents hold under its key, and nothing else: other keys are
answered as before, and so are all keys in other namespaces. What was hidden is there again when the
entry is taken away.
-/

namespace ConfigNamespace

open Operation

namespace Overrides

variable {overrides : Overrides} {key : Text}

/-- A setting that is not there is not taken away. -/
theorem remove_of_not_has (h : overrides.has key = false) : overrides.remove key = overrides := by
  unfold has at h
  unfold remove
  by_cases hroot : key = rootKey
  · rw [if_pos hroot] at h ⊢
    rw [← Option.isNone_iff_eq_none.mp (Option.isSome_eq_false_iff.mp h)]
  · rw [if_neg hroot] at h ⊢
    by_cases hdelimiter : key = delimiterKey
    · rw [decide_eq_true hdelimiter, Bool.true_and] at h
      rw [if_pos hdelimiter, ← Option.isNone_iff_eq_none.mp (Option.isSome_eq_false_iff.mp h)]
    · rw [if_neg hdelimiter]

/-- A setting that was put and taken away leaves nothing. -/
theorem remove_put (hkey : key ∈ reservedKeys) (value : Value) :
    (overrides.put key value).remove key = overrides.remove key := by
  unfold put remove
  by_cases hroot : key = rootKey
  · rw [if_pos hroot, if_pos hroot, if_pos hroot]
  · have hdelimiter : key = delimiterKey := by simpa [reservedKeys, hroot] using hkey
    rw [if_neg hroot, if_neg hroot, if_neg hroot, if_pos hdelimiter, if_pos hdelimiter]

end Overrides

namespace Contents

variable {c : Contents}

/-- Unbinding a key that was bound anew restores the contents. -/
theorem replay_unbind_bind (hc : c.IsSound) {key : Text} {value : Value}
    (hadmits : c.Admits (.bind key value)) :
    (c.replay (.bind key value)).replay (.unbind key) = c := by
  change (if key ∈ reservedKeys then c.overrides.has key else c.entries.has key) = false at hadmits
  change (⟨(c.put key value).entries.remove key, (c.put key value).overrides.remove key⟩ :
    Contents) = c
  unfold put
  by_cases hreserved : key ∈ reservedKeys
  · rw [if_pos hreserved] at hadmits ⊢
    have hunbound : c.entries.has key = false := by
      rw [Keyed.has, hc.get?_eq_none hreserved]
      rfl
    dsimp only
    rw [Keyed.remove_of_not_has hunbound, Overrides.remove_put hreserved,
      Overrides.remove_of_not_has hadmits]
  · rw [if_neg hreserved] at hadmits ⊢
    have hunset : c.overrides.has key = false :=
      Bool.eq_false_iff.mpr fun hset => hreserved (Overrides.mem_reservedKeys_of_has hset)
    have hrestored : Keyed.remove (c.entries ++ [(key, value)]) key = c.entries := by
      have hlast : Keyed.remove [(key, value)] key = [] := by simp [Keyed.remove]
      rw [Keyed.remove, List.filter_append]
      change Keyed.remove c.entries key ++ Keyed.remove [(key, value)] key = c.entries
      rw [Keyed.remove_of_not_has hadmits, hlast, List.append_nil]
    dsimp only
    rw [Keyed.put_of_not_has hadmits, hrestored, Overrides.remove_of_not_has hunset]

end Contents

/-- Whether a write names no reserved key. -/
def Write.IsOrdinary (request : Write) : Prop := ∀ name ∈ reservedKeys, .str name ∉ request.keys

section Change

variable {c : Contents} {views : Nat → Text} {request : Write} {change : Change}

/-- A value under a key that is not reserved goes to the entries. -/
theorem Contents.put_of_not_reserved {key : Text} (hkey : key ∉ reservedKeys) (value : Value) :
    c.put key value = { c with entries := Keyed.put key value c.entries } := if_neg hkey

/-- Where a key is not bound, taking it away changes nothing. -/
theorem Contents.replay_unbind_of_not_has {key : Text} (hentries : c.entries.has key = false)
    (hoverrides : c.overrides.has key = false) : c.replay (.unbind key) = c := by
  rw [replay, Keyed.remove_of_not_has hentries, Overrides.remove_of_not_has hoverrides]

/-- Where no reserved key is named, a change leaves the settings as they are. -/
theorem overrides_replay (hasks : request.AsksFor views change) (hrequest : request.IsOrdinary) :
    (c.replay change).overrides = c.overrides := by
  cases hasks with
  | @bind key _ _ _ =>
    have hkey : key ∉ reservedKeys := fun h => hrequest key h (List.mem_singleton_self _)
    rw [Contents.replay, Contents.put_of_not_reserved hkey]
  | @rebind key _ _ _ =>
    have hkey : key ∉ reservedKeys := fun h => hrequest key h (List.mem_singleton_self _)
    rw [Contents.replay, Contents.put_of_not_reserved hkey]
  | @unbind key _ =>
    refine Overrides.remove_of_not_has (Bool.eq_false_iff.mpr fun hset => ?_)
    exact hrequest key (Overrides.mem_reservedKeys_of_has hset) (List.mem_singleton_self _)
  | @rename old new _ _ _ _ =>
    cases hvalue : c.entries.get? old with
    | none => rw [Contents.replay_rename_of_none hvalue]
    | some value => rw [Contents.replay_rename_of_some hvalue]

/-- Where no reserved key is named, a change leaves the entries under other keys as they are. -/
theorem get?_replay (hasks : request.AsksFor views change) (hrequest : request.IsOrdinary)
    {key : Text} (hkey : .str key ∉ request.keys) :
    (c.replay change).entries.get? key = c.entries.get? key := by
  have hput {k : Text} {value : Value} (hk : k ∉ reservedKeys) (hne : key ≠ k) :
      (c.put k value).entries.get? key = c.entries.get? key := by
    rw [Contents.put_of_not_reserved hk, Keyed.get?_put, if_neg hne]
  have hother {k : Text} (hmem : .str k ∈ request.keys) : key ≠ k ∧ k ∉ reservedKeys :=
    ⟨fun heq => hkey (heq ▸ hmem), fun hreserved => hrequest k hreserved hmem⟩
  cases hasks with
  | bind _ _ =>
    obtain ⟨hne, hk⟩ := hother (List.mem_singleton_self _)
    exact hput hk hne
  | rebind _ _ =>
    obtain ⟨hne, hk⟩ := hother (List.mem_singleton_self _)
    exact hput hk hne
  | unbind _ =>
    rw [Contents.replay, Keyed.get?_remove, if_neg (hother (List.mem_singleton_self _)).1]
  | @rename old new _ _ _ _ =>
    cases hvalue : c.entries.get? old with
    | none => rw [Contents.replay_rename_of_none hvalue]
    | some value =>
      have hold : key ≠ old := (hother (.head _)).1
      have hnew : key ≠ new := (hother (.tail _ (.head _))).1
      rw [Contents.replay_rename_of_some hvalue, Keyed.get?_append, Keyed.get?_remove, if_neg hold,
        Keyed.get?_cons, if_neg hnew, Keyed.get?_nil, Option.or_none]

/-- A value that is moved is there under the new key alone. -/
theorem get?_replay_rename {old new : Text} (hadmits : c.Admits (.rename old new)) :
    (c.replay (.rename old new)).entries.get? old = none ∧ ∃ value,
      c.entries.get? old = some value ∧
        (c.replay (.rename old new)).entries.get? new = some value := by
  obtain ⟨hthere, hfree⟩ := hadmits
  obtain ⟨value, hvalue⟩ := Option.isSome_iff_exists.mp hthere
  replace hfree : c.entries.get? new = none :=
    Option.isNone_iff_eq_none.mp (Option.isSome_eq_false_iff.mp hfree)
  have hne : old ≠ new := by
    rintro rfl
    rw [hvalue] at hfree
    cases hfree
  rw [Contents.replay_rename_of_some hvalue]
  refine ⟨?_, value, hvalue, ?_⟩
  · rw [Keyed.get?_append, Keyed.get?_remove, if_pos rfl, Keyed.get?_cons, if_neg hne]
    rfl
  · rw [Keyed.get?_append, Keyed.get?_remove, if_neg (Ne.symm hne), hfree, Keyed.get?_cons,
      if_pos rfl]
    rfl

end Change

/-- Namespaces that are the same without their hooks differ in their hooks alone. -/
theorem View.eq_of_unhooked {v v' : View} (h : v'.unhooked = v.unhooked) :
    v' = { v with hooks := v'.hooks } := by
  obtain ⟨segments, entries, overrides, hooks, mode, closed, isOwner⟩ := v
  obtain ⟨segments', entries', overrides', hooks', mode', closed', isOwner'⟩ := v'
  simp only [unhooked, mk.injEq] at h
  obtain ⟨rfl, rfl, rfl, -, rfl, rfl, rfl⟩ := h
  rfl

namespace Family

section Written

variable {w : World} {f g : Family} {number : Nat} {request : Write} {result : Except Failure Unit}

/-- Hooks that ask for no writes register only such hooks. -/
theorem isQuiet_tell (hquiet : (f.view number).IsQuiet) (room : Nat)
    (change : Change) : (((tell number room change).outcome f).2.view number).IsQuiet := by
  have hplace : (busPlace number).Follows (.keeping fun f => (f.view number).IsQuiet) :=
    ⟨fun _ _ hf => hf, fun _ _ _ _ hf => hf⟩
  have hregister (hook : Hook Change Write) (hhook : hook.IsQuiet) :
      (registerHook number (.usable hook)).Follows
        (.keeping fun f => (f.view number).IsQuiet) := by
    intro f hf
    rcases outcome_registerHook number (.usable hook) f with
      ⟨_, log, -, h⟩ | ⟨usable, heq, -, h⟩
    · rw [h]
      exact hf
    · cases heq
      rw [h]
      by_cases hlt : number < f.views.length
      · rw [view_withView_self hlt]
        intro other hother
        rcases List.mem_append.mp hother with hother | hother
        · exact hf other hother
        · rwa [List.mem_singleton.mp hother]
      · rwa [withView_of_le (Nat.le_of_not_lt hlt)]
  exact tell_allows_of_isQuiet hplace hregister hquiet room change hquiet

/-- Whether a write made its change of an open namespace and did nothing else to it, apart from hooks
that were registered and ask for no writes. A key that is not there may be taken away. -/
structure Written (f : Family) (number : Nat) (request : Write) (change : Change) (g : Family) :
    Prop where
  /-- The write asks for the change. -/
  asksFor : request.AsksFor f.spelledView change
  /-- The namespace was open. -/
  isOpen : (f.view number).closed = false
  /-- The change could be made. -/
  admits : (f.view number).contents.Admits change ∨ ∃ key, change = .unbind key
  /-- The change was made. -/
  view_eq : g.view number = { (f.view number).withContents ((f.view number).contents.replay change) with
    hooks := (g.view number).hooks }
  /-- The hooks ask for no writes. -/
  isQuiet : (g.view number).IsQuiet
  /-- No namespace was made. -/
  length_eq : g.views.length = f.views.length

/-- After a write, the contents are changed by the change. -/
theorem Written.contents_eq {change : Change} (h : Written f number request change g) :
    (g.view number).contents = (f.view number).contents.replay change := by
  rw [h.view_eq]
  rfl

/-- After a write, the namespace is still open. -/
theorem Written.isOpen' {change : Change} (h : Written f number request change g) :
    (g.view number).closed = false := by
  rw [h.view_eq]
  exact h.isOpen

/-- A write to a namespace whose hooks ask for no writes is refused, or its change is all that happens
to the namespace, apart from further such hooks. -/
theorem written_of_isQuiet (hnumber : number < f.views.length)
    (hquiet : (f.view number).IsQuiet) (h : (write number request).outcome f = (result, g))
    (hrequest : request ≠ .close) :
    (∃ failure, Refusal f number request failure ∧ result = .error failure) ∨
      ∃ change, Written f number request change g := by
  have hcarried := carried (tell number hookRoom) number f request
  rw [Family.write] at h
  rw [h] at hcarried
  generalize hresult : (result, g) = outcome at hcarried
  cases hcarried with
  | refused hrefusal _ =>
    cases hresult
    exact .inl ⟨_, hrefusal, rfl⟩
  | @idle key hkey hopen hentries hoverrides =>
    cases hresult
    refine .inr ⟨.unbind key, .unbind hkey, hopen, .inr ⟨key, rfl⟩, ?_, hquiet, rfl⟩
    rw [Contents.replay_unbind_of_not_has hentries hoverrides]
    rfl
  | @changed _ change hasks hopen hadmits log =>
    have hview := view_changed hnumber change log
    have hquiet' : ((f.changed number change log).view number).IsQuiet := by
      rw [hview]
      exact hquiet
    have hkept := unhooked_tell hquiet' hookRoom change
    have hstill := isQuiet_tell hquiet' hookRoom change
    rw [← hresult] at hkept hstill
    refine .inr ⟨change, hasks, hopen, .inl hadmits, ?_, hstill, ?_⟩
    · rw [← hview]
      refine View.eq_of_unhooked ?_
      rw [unhooked_view, unhooked_view, hkept]
    · have hlength := congrArg List.length hkept
      simpa only [unhooked, List.length_map, length_views_changed] using hlength
  | closed => exact absurd rfl hrequest

/-- A write that succeeds made its change. -/
theorem written_of_ok (hnumber : number < f.views.length) (hquiet : (f.view number).IsQuiet)
    (h : (write number request).outcome f = (.ok (), g)) (hrequest : request ≠ .close) :
    ∃ change, Written f number request change g := by
  obtain ⟨_, -, hrefused⟩ | hwritten := written_of_isQuiet hnumber hquiet h hrequest
  · cases hrefused
  · exact hwritten

end Written

section Shadowing

variable {w : World} {f g : Family} {number : Nat}

/-- What a key is answered with depends on the entries through the one under this key alone. -/
theorem ofNamed_seek_withContents (f : Family) (w : World) (v : View) {c : Contents}
    (hooks : List (Hook Change Write)) {key : Value} (hoverrides : c.overrides = v.overrides)
    (hkey : ∀ name, key = .str name → c.entries.get? name = v.entries.get? name) :
    Reply.ofNamed { v.withContents c with hooks }
        (f.seek w { v.withContents c with hooks } key).answer =
      .ofNamed v (f.seek w v key).answer := by
  obtain ⟨segments, entries, overrides, hooks', mode, closed, isOwner⟩ := v
  obtain ⟨entries', overrides'⟩ := c
  obtain rfl : overrides' = overrides := hoverrides
  have hseek : f.seek w ⟨segments, entries', overrides', hooks, mode, closed, isOwner⟩ key =
      f.seek w ⟨segments, entries, overrides', hooks', mode, closed, isOwner⟩ key := by
    cases key with
    | str name =>
      cases name with
      | nil => rfl
      | cons c name =>
        unfold seek
        dsimp only
        rw [hkey _ rfl]
        rfl
    | _ => rfl
  change Reply.ofNamed _ (f.seek w ⟨segments, entries', overrides', hooks, mode, closed, isOwner⟩
    key).answer = _
  rw [hseek]
  cases (f.seek w ⟨segments, entries, overrides', hooks', mode, closed, isOwner⟩ key).answer with
  | error failure => rfl
  | ok named => cases named <;> rfl

/-- The family without the entries of a namespace: it answers with what the documents alone give. -/
def withoutEntries (f : Family) (number : Nat) : Family :=
  f.withView number { f.view number with entries := [] }

/-- What the keys are answered with that a write names: the value that it put under a key or moved
there, and where a value was taken away, what the documents alone give. -/
def Shadows (w : World) (number : Nat) (f g : Family) : Write → Prop
  | .bind key value | .rebind key value => reply (lookup w number key) g = .gives value
  | .unbind key =>
    reply (lookup w number key) g = reply (lookup w number key) (f.withoutEntries number)
  | .rename old new =>
    reply (lookup w number old) g = reply (lookup w number old) (f.withoutEntries number) ∧
      ∃ value, reply (lookup w number old) f = .gives value ∧
        reply (lookup w number new) g = .gives value
  | .close => True

/-- An entry is answered with its value. -/
theorem reply_entry {key : Text} {value : Value} (hopen : (f.view number).closed = false)
    (hkey : key ≠ []) (hvalue : (f.view number).entries.get? key = some value) :
    reply (lookup w number (.str key)) f = .gives value := by
  have hseek : ((f.seek w (f.view number) (.str key)).outcome f.session).1 =
      .ok (.value value) := by
    rw [seek, if_neg (by simp [hopen]), hvalue]
    · rfl
    · exact hkey
  rw [reply_of_settle (outcome_lookup f w number (.str key)), hseek]
  rfl

section Held

variable {c : Contents} (hf : f.session.Faithful (f.backing w)) (hbacks : Backs w f g)
  (hview : g.view number =
    { (f.view number).withContents c with hooks := (g.view number).hooks })
  (hoverrides : c.overrides = (f.view number).overrides)
include hf hbacks hview hoverrides

/-- Where only the entries of a namespace and its hooks changed, a key is answered as before if the
entry under it is as before. -/
theorem reply_of_get?_eq {key : Value}
    (hkey : ∀ name, key = .str name → c.entries.get? name = (f.view number).entries.get? name) :
    reply (lookup w number key) g = reply (lookup w number key) f := by
  rw [reply_lookup (hbacks.faithful hf), hbacks.seek_eq, hview,
    ofNamed_seek_withContents f w _ _ hoverrides hkey, reply_lookup hf]

/-- Where no entry is left under a key, it is answered with what the documents alone give. -/
theorem reply_of_get?_eq_none (hnumber : number < f.views.length) {key : Text}
    (hkey : c.entries.get? key = none) :
    reply (lookup w number (.str key)) g =
      reply (lookup w number (.str key)) (f.withoutEntries number) := by
  have hself : (f.withoutEntries number).view number = { f.view number with entries := [] } :=
    view_withView_self hnumber _
  have hwithout : Backs w f (f.withoutEntries number) := .of_session rfl rfl rfl id
  rw [reply_lookup (hbacks.faithful hf), hbacks.seek_eq, hview,
    reply_lookup (hwithout.faithful hf), hwithout.seek_eq, hself]
  refine ofNamed_seek_withContents f w { f.view number with entries := [] } _ hoverrides ?_
  rintro name ⟨⟩
  exact hkey

end Held

/-- After a write, the keys that it names are answered accordingly. -/
theorem Written.shadows {request : Write} {change : Change} (hf : f.session.Faithful (f.backing w))
    (hbacks : Backs w f g) (hnumber : number < f.views.length)
    (h : Written f number request change g) (hordinary : request.IsOrdinary) :
    Shadows w number f g request := by
  have hasks := h.asksFor
  have hadmits := h.admits
  have hentries : (g.view number).entries = ((f.view number).contents.replay change).entries :=
    congrArg Contents.entries h.contents_eq
  have hoverrides := overrides_replay (c := (f.view number).contents) hasks hordinary
  have hput {key : Text} {value : Value} (hne : key ≠ []) (hkey : key ∉ reservedKeys)
      (hchange : (f.view number).contents.replay change = (f.view number).contents.put key value) :
      reply (lookup w number (.str key)) g = .gives value := by
    refine reply_entry h.isOpen' hne ?_
    rw [hentries, hchange, Contents.put_of_not_reserved hkey, Keyed.get?_put, if_pos rfl]
  cases hasks with
  | bind hne _ => exact hput hne (fun h => hordinary _ h (List.mem_singleton_self _)) rfl
  | rebind hne _ => exact hput hne (fun h => hordinary _ h (List.mem_singleton_self _)) rfl
  | unbind _ =>
    refine reply_of_get?_eq_none hf hbacks h.view_eq hoverrides hnumber ?_
    rw [Contents.replay, Keyed.get?_remove, if_pos rfl]
  | rename hold hnew _ _ =>
    obtain hadmits | ⟨_, heq⟩ := hadmits
    · obtain ⟨hgone, value, hvalue, hmoved⟩ := get?_replay_rename hadmits
      rw [← hentries] at hmoved
      refine ⟨reply_of_get?_eq_none hf hbacks h.view_eq hoverrides hnumber hgone, value, ?_, ?_⟩
      · exact reply_entry h.isOpen hold hvalue
      · exact reply_entry h.isOpen' hnew hmoved
    · cases heq

/-- Unbinding a key that a write bound restores the contents. -/
theorem contents_of_bind_unbind {h : Family} {key : Value} {value : Value}
    {result : Except Failure Unit} (hsound : f.IsSound) (hnumber : number < f.views.length)
    (hquiet : (f.view number).IsQuiet)
    (hbind : (write number (.bind key value)).outcome f = (.ok (), g))
    (hunbind : (write number (.unbind key)).outcome g = (result, h)) :
    (h.view number).contents = (f.view number).contents := by
  obtain ⟨change, hbound⟩ := written_of_ok hnumber hquiet hbind nofun
  have hasks := hbound.asksFor
  have hadmits := hbound.admits
  rw [← hbound.length_eq] at hnumber
  cases hasks with
  | @bind key _ hne _ =>
    have hadmits : (f.view number).contents.Admits (.bind key value) := by simpa using hadmits
    obtain ⟨_, hrefusal, -⟩ | ⟨change, hunbound⟩ :=
      written_of_isQuiet hnumber hbound.isQuiet hunbind nofun
    · cases hrefusal with
      | closed _ hclosed =>
        rw [hbound.isOpen'] at hclosed
        cases hclosed
      | emptyName hkey hempty => exact absurd (hempty _ (List.mem_singleton.mp hkey)) hne
    · have hasks := hunbound.asksFor
      cases hasks
      rw [hunbound.contents_eq, hbound.contents_eq,
        Contents.replay_unbind_bind (hsound.view number) hadmits]

/-- Writes shadow their keys alone. In a namespace whose hooks ask for no writes, let a write succeed
that names no reserved key. Then all other keys are answered as before, so are all keys in the other
namespaces, and what the write put under a key or moved there is what the key is answered with, while a
key from which the value was taken away is answered with what the documents alone give. And binding a
key, whatever it is, and unbinding it again restores the entries, in their order, and the settings. -/
theorem write_shadows (hf : Reachable w f) (hnumber : number < f.views.length)
    (hquiet : (f.view number).IsQuiet) :
    (∀ request g, request ≠ .close → request.IsOrdinary →
      (write number request).outcome f = (.ok (), g) →
        (∀ key, key ∉ request.keys →
          reply (lookup w number key) g = reply (lookup w number key) f) ∧
        (∀ other < f.views.length, other ≠ number → ∀ key,
          reply (lookup w other key) g = reply (lookup w other key) f) ∧
        Shadows w number f g request) ∧
      ∀ key value g result h, (write number (.bind key value)).outcome f = (.ok (), g) →
        (write number (.unbind key)).outcome g = (result, h) →
          (h.view number).contents = (f.view number).contents := by
  have hfaithful := hf.faithful
  refine ⟨fun request g hrequest hordinary h => ?_, fun key value g result h hbind hunbind => ?_⟩
  · have hbacks : Backs w f g := by
      have hkept := write_follows (w := w) number request f
      rwa [h] at hkept
    obtain ⟨change, hwritten⟩ := written_of_ok hnumber hquiet h hrequest
    have hoverrides :=
      overrides_replay (c := (f.view number).contents) hwritten.asksFor hordinary
    refine ⟨fun key hkey => ?_, fun other hlt hother key => ?_, ?_⟩
    · refine reply_of_get?_eq hfaithful hbacks hwritten.view_eq hoverrides fun name hname => ?_
      rw [hname] at hkey
      exact get?_replay hwritten.asksFor hordinary hkey
    · have hspared := after_spares (w := w) (f := f) hother hookRoom (.write request)
      rw [after, ← write, h] at hspared
      exact reply_lookup_of_spared hfaithful hspared hlt key
    · exact hwritten.shadows hfaithful hbacks hnumber hordinary
  · exact contents_of_bind_unbind hf.isSound hnumber hquiet hbind hunbind

/-- In the twofold world, with a hook whose failures do not count: a value is bound under a key that a
document has, and is taken away again. -/
theorem write_shadows_twofold :
    let alarm : Hook Change Write := ⟨text "alarm", fun _ => .fail .hookNotCallable⟩
    let f := ((registerHook 0 (.usable alarm)).outcome (opened (.at (some (text "M")) []) .default)).2
    let key := Value.str (text "app.k")
    ∃ g h, (write 0 (.bind key (.int 1))).outcome f = (.ok (), g) ∧
      (write 0 (.unbind key)).outcome g = (.ok (), h) ∧
      reply (lookup .twofold 0 key) g = .gives (.int 1) ∧
      (∀ other ≠ key, reply (lookup .twofold 0 other) g = reply (lookup .twofold 0 other) f) ∧
      (h.view 0).contents = (f.view 0).contents := by
  intro alarm f key
  have hf : Reachable .twofold f := (reachable_opened _ _ _).tail (.registerHook 0 (.usable alarm))
  have hquiet : (f.view 0).IsQuiet := by
    intro hook hmem event
    cases List.mem_singleton.mp hmem
    trivial
  obtain ⟨hshadows, hrestores⟩ := write_shadows hf (show 0 < f.views.length by decide) hquiet
  obtain ⟨g, hbind⟩ : ∃ g, (write 0 (.bind key (.int 1))).outcome f = (.ok (), g) := ⟨_, rfl⟩
  obtain ⟨h, hunbind⟩ : ∃ h, (write 0 (.unbind key)).outcome g = (.ok (), h) := by
    cases hbind
    exact ⟨_, rfl⟩
  have hordinary : (Write.bind key (.int 1)).IsOrdinary := by
    intro name hname hmem
    obtain rfl : name = text "app.k" := Value.str.inj (List.mem_singleton.mp hmem)
    exact absurd hname (by decide)
  obtain ⟨hothers, -, hgiven⟩ := hshadows (.bind key (.int 1)) g nofun hordinary hbind
  refine ⟨g, h, hbind, hunbind, hgiven, fun other hother => ?_, hrestores _ _ _ _ _ hbind hunbind⟩
  exact hothers other (mt List.mem_singleton.mp hother)

end Shadowing

end Family

end ConfigNamespace
