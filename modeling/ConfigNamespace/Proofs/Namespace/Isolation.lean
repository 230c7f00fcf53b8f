import ConfigNamespace.Proofs.Namespace.Scope

/-!
# Namespaces of a family are isolated

The namespaces of a family share the session, and a namespace that was made from another one starts
with the settings that it had then. Nothing else passes between them. A call on one of them, with
all that its hooks add to it, leaves the others as they are, and what the others reply to lookups
does not change either: the session is all that they have in common, and it only holds what the
world gives.
-/

namespace ConfigNamespace

open Operation

/-- What a namespace may be called for. -/
inductive Call
  /-- A key is looked up. -/
  | lookup (key : Value)
  /-- A key is asked for. -/
  | has (key : Value)
  /-- A namespace is made for a path. -/
  | scope (path : Value)
  /-- The names under a key are listed. -/
  | list (key : Value)
  /-- The entries under a key are listed. -/
  | listBindings (key : Value)
  /-- The environment is shown. -/
  | visibleEnvironment
  /-- A write is carried out. -/
  | write (request : Write)
  /-- A hook is registered. -/
  | registerHook (hook : Supplied (Hook Change Write))

namespace Family

/-- The family after a call on one of its namespaces. Changes that hooks ask for are told in turn, as
often as there is room. -/
def after (w : World) (room number : Nat) (f : Family) : Call → Family
  | .lookup key => ((lookup w number key).outcome f).2
  | .has key => ((has w number key).outcome f).2
  | .scope path => ((scope number path).outcome f).2
  | .list key => ((list w number key).outcome f).2
  | .listBindings key => ((listBindings w number key).outcome f).2
  | .visibleEnvironment => ((visibleEnvironment number).outcome f).2
  | .write request => ((writeWith (tell number room) number request).outcome f).2
  | .registerHook hook => ((registerHook number hook).outcome f).2

/-- A call browses, writes, or registers a hook. -/
theorem after_cases (w : World) (room number : Nat) (f : Family) (call : Call) :
    Browse w f (f.after w room number call) ∨ (∃ request, call = .write request) ∨
      ∃ hook, call = .registerHook hook := by
  cases call with
  | lookup key => exact .inl (.lookup number key)
  | has key => exact .inl (.has number key)
  | scope path => exact .inl (.scope number path)
  | list key => exact .inl (.list number key)
  | listBindings key => exact .inl (.listBindings number key)
  | visibleEnvironment => exact .inl (.visibleEnvironment number)
  | write request => exact .inr (.inl ⟨request, rfl⟩)
  | registerHook hook => exact .inr (.inr ⟨hook, rfl⟩)

/-- A step of a family is a call on one of its namespaces, with the room that there is. -/
theorem step_iff {w : World} {f g : Family} :
    Step w f g ↔ ∃ number call, g = f.after w hookRoom number call := by
  constructor
  · rintro (h | ⟨number, request⟩ | ⟨number, hook⟩)
    · cases h with
      | lookup number key => exact ⟨number, .lookup key, rfl⟩
      | has number key => exact ⟨number, .has key, rfl⟩
      | scope number path => exact ⟨number, .scope path, rfl⟩
      | list number key => exact ⟨number, .list key, rfl⟩
      | listBindings number key => exact ⟨number, .listBindings key, rfl⟩
      | visibleEnvironment number => exact ⟨number, .visibleEnvironment, rfl⟩
    · exact ⟨number, .write request, rfl⟩
    · exact ⟨number, .registerHook hook, rfl⟩
  · rintro ⟨number, call, rfl⟩
    rcases after_cases w hookRoom number f call with hbrowse | ⟨request, rfl⟩ | ⟨hook, rfl⟩
    · exact .browse hbrowse
    · exact .write number request
    · exact .registerHook number hook

/-- A family stays backed, and one namespace of it stays as it is. -/
def sparing (w : World) (other : Nat) : Evolution Family where
  Allows f g := Backs w f g ∧ f.views.length ≤ g.views.length ∧
    (other < f.views.length → g.view other = f.view other)
  refl f := ⟨(backed w).refl f, Nat.le_refl _, fun _ => rfl⟩
  trans := by
    rintro f g h ⟨hfg, hlength, hview⟩ ⟨hgh, hlength', hview'⟩
    refine ⟨(backed w).trans hfg hgh, Nat.le_trans hlength hlength', fun hother => ?_⟩
    rw [hview' (Nat.lt_of_lt_of_le hother hlength), hview hother]

section Spared

variable {w : World} {number other : Nat} {f g : Family}

/-- Browsing spares all namespaces. -/
theorem sparing_of_browsed (h : (browsed w).Allows f g) : (sparing w other).Allows f g :=
  ⟨h.1, h.2.length_le, view_eq_of_prefix h.2⟩

/-- What is written to one namespace spares every other one. -/
theorem admitsWrites_sparing (h : other ≠ number) : AdmitsWrites (sparing w other) number where
  withLog f log := ⟨(admitsWrites_backed number).withLog f log, Nat.le_refl _, fun _ => rfl⟩
  withView f v := ⟨(admitsWrites_backed number).withView f v, by simp,
    fun _ => view_withView_of_ne h f v⟩
  closeArchives f := sparing_of_browsed (onSession_follows closeArchives_follows f)
  deliver f delivery := ⟨(admitsWrites_backed number).deliver f delivery, Nat.le_refl _, fun _ => rfl⟩

/-- A call on one namespace spares every other one. -/
theorem after_spares (h : other ≠ number) (room : Nat) (call : Call) :
    (sparing w other).Allows f (f.after w room number call) := by
  have hwrites : AdmitsWrites (sparing w other) number := admitsWrites_sparing h
  rcases after_cases w room number f call with hbrowse | ⟨request, rfl⟩ | ⟨hook, rfl⟩
  · exact sparing_of_browsed hbrowse.allows
  · exact hwrites.writeWith_follows (hwrites.tell_follows room) request f
  · exact hwrites.registerHook_follows hook f

end Spared

/-- Whether one family comes of another one by calls on other namespaces than a certain one. -/
def Elsewhere (w : World) (other : Nat) : Family → Family → Prop :=
  Relation.ReflTransGen fun f g =>
    ∃ room number call, number ≠ other ∧ g = f.after w room number call

/-- Calls on other namespaces spare a namespace, however many they are. -/
theorem Elsewhere.spares {w : World} {other : Nat} {f g : Family} (h : Elsewhere w other f g) :
    (sparing w other).Allows f g := by
  induction h with
  | refl => exact (sparing w other).refl f
  | tail _ hcall ih =>
    obtain ⟨room, number, call, hnumber, rfl⟩ := hcall
    exact (sparing w other).trans ih (after_spares (Ne.symm hnumber) room call)

/-- A namespace that was spared replies to lookups as before. -/
theorem reply_lookup_of_spared {w : World} {f g : Family} {other : Nat}
    (hf : f.session.Faithful (f.backing w)) (h : (sparing w other).Allows f g)
    (hother : other < f.views.length) (key : Value) :
    reply (lookup w other key) g = reply (lookup w other key) f := by
  obtain ⟨hbacks, -, hview⟩ := h
  rw [reply_lookup (hbacks.faithful hf), reply_lookup hf, hview hother, hbacks.seek_eq]

/-- Namespaces of a family are isolated. Whatever is done to the others, closing included and in any
order, a namespace stays as it is and replies to every lookup as before. A namespace that is made for
a key begins without entries and hooks and with the settings that the one it is made from has then,
and later changes of settings on either side do not reach the other. -/
theorem isolated {w : World} {f : Family} (hf : Reachable w f) {number : Nat}
    (hnumber : number < f.views.length) :
    (∀ g, Elsewhere w number f g → g.view number = f.view number ∧
      ∀ key, reply (lookup w number key) g = reply (lookup w number key) f) ∧
    ∀ key made g, Makes w f number key g made →
      (g.view made).entries = [] ∧ (g.view made).hooks = [] ∧
      (g.view made).overrides = (f.view number).overrides ∧
      (∀ h, Elsewhere w made g h → (h.view made).overrides = (f.view number).overrides) ∧
      ∀ h, Elsewhere w number g h → (h.view number).overrides = (f.view number).overrides := by
  constructor
  · intro g hg
    exact ⟨hg.spares.2.2 hnumber, reply_lookup_of_spared hf.faithful hg.spares hnumber⟩
  · intro key made g hmade
    obtain ⟨-, hmade', segments, -, hview⟩ := hmade.view_eq
    have hbrowsed : f.views <+: g.views := hmade.browses.allows.2
    have hsettings : (g.view made).overrides = (f.view number).overrides := by rw [hview]; rfl
    refine ⟨by rw [hview]; rfl, by rw [hview]; rfl, hsettings, fun h hh => ?_, fun h hh => ?_⟩
    · rw [hh.spares.2.2 hmade', hsettings]
    · rw [hh.spares.2.2 (Nat.lt_of_lt_of_le hnumber hbrowsed.length_le),
        view_eq_of_prefix hbrowsed hnumber]

/-- In the twofold world, a namespace is made for the document, and the one that it was made from is
closed with the archives. -/
theorem isolated_twofold :
    let f := opened (.at (some (text "M")) []) .default
    let g := ((lookup .twofold 0 (.str (text "app"))).outcome f).2
    let h := g.after .twofold hookRoom 0 (.write .close)
    (h.view 0).closed = true ∧ h.view 1 = g.view 1 ∧
      (∀ key, reply (lookup .twofold 1 key) h = reply (lookup .twofold 1 key) g) ∧
      (g.view 1).overrides = (f.view 0).overrides := by
  intro f g h
  have hf : Reachable .twofold f := reachable_opened _ _ _
  have hg : Reachable .twofold g := hf.tail (.browse (.lookup 0 (.str (text "app"))))
  have hmade : Makes .twofold f 0 (text "app") g 1 := .lookup rfl (by decide) (by decide)
  have hclose : Elsewhere .twofold 1 g h := .single ⟨hookRoom, 0, .write .close, by decide, rfl⟩
  obtain ⟨hview, hreply⟩ := (isolated hg (show 1 < g.views.length by decide)).1 h hclose
  exact ⟨rfl, hview, hreply, ((isolated hf (by decide)).2 _ _ _ hmade).2.2.1⟩

end Family

end ConfigNamespace
