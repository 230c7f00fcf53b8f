import ConfigNamespace.Proofs.Namespace.Failing
import ConfigNamespace.Proofs.Namespace.Isolation
import ConfigNamespace.Proofs.Namespace.Sound

/-!
# What counts as a setting

A setting that was bound in a namespace counts until it is unbound there. One that was neither bound
nor unbound is inherited from the namespace that this one was made from, and behind all of them stands
the environment. So calls on a namespace determine its settings; and since these can always be used,
no lookup fails on account of a delimiter or a root.
-/

namespace ConfigNamespace

open Operation

/-- What calls did to a setting of a namespace. -/
inductive Fate
  /-- It was neither bound nor unbound. -/
  | kept
  /-- It was bound to a value, and not unbound since then. -/
  | bound (value : Value)
  /-- It was unbound, and not bound since then. -/
  | unbound

namespace Fate

/-- The value that is set in the namespace, where one may have been inherited. -/
def setting? (inherited : Option Value) : Fate → Option Value
  | kept => inherited
  | bound value => some value
  | unbound => none

/-- What becomes of a setting by a write that succeeds. -/
def written (fate : Fate) (key : Text) : Write → Fate
  | .bind (.str k) value => if k = key then bound value else fate
  | .rebind (.str k) value => if k = key then bound value else fate
  | .unbind (.str k) => if k = key then unbound else fate
  | _ => fate

end Fate

namespace Overrides

variable {overrides : Overrides} {key k : Text}

/-- A value that is accepted is set under its key, and nothing else changes. -/
theorem setting?_put {views : Nat → Text} {value : Value} (hkey : key ∈ reservedKeys)
    (hk : k ∈ reservedKeys) (haccepts : Family.Accepts views k value) :
    (overrides.put k value).setting? key =
      if k = key then some value else overrides.setting? key := by
  unfold put setting?
  by_cases hroot : k = rootKey
  · subst hroot
    rw [if_pos rfl]
    by_cases hsame : rootKey = key
    · rw [if_pos hsame.symm, if_pos hsame]
      rcases (Family.root_of_checkReserved (haccepts hk)).1 with rfl | ⟨root, rfl⟩ <;> rfl
    · rw [if_neg (Ne.symm hsame), if_neg (Ne.symm hsame), if_neg hsame]
  · obtain ⟨delimiter, rfl, -⟩ := Family.delimiter_of_checkReserved hroot (haccepts hk)
    rw [if_neg hroot]
    by_cases hsame : k = key
    · subst hsame
      rw [if_neg hroot, if_pos rfl]
      rfl
    · have hkeyRoot : key = rootKey := by
        simp only [reservedKeys, List.mem_cons, List.not_mem_nil, or_false] at hkey hk
        rcases hkey with hkey | hkey
        · exact hkey
        · exact absurd ((hk.resolve_left hroot).trans hkey.symm) hsame
      rw [if_pos hkeyRoot, if_pos hkeyRoot, if_neg hsame]

/-- Nothing is set under a key that was taken away, and nothing else changes. -/
theorem setting?_remove (hkey : key ∈ reservedKeys) :
    (overrides.remove k).setting? key =
      if k = key then Option.none else overrides.setting? key := by
  unfold remove setting?
  simp only [reservedKeys, List.mem_cons, List.not_mem_nil, or_false] at hkey
  by_cases hroot : k = rootKey
  · subst hroot
    rw [if_pos rfl]
    by_cases hsame : rootKey = key
    · rw [if_pos hsame.symm, if_pos hsame]
      rfl
    · rw [if_neg (Ne.symm hsame), if_neg (Ne.symm hsame), if_neg hsame]
  · rw [if_neg hroot]
    by_cases hdelimiter : k = delimiterKey
    · rw [if_pos hdelimiter]
      rcases hkey with rfl | rfl
      · rw [if_pos rfl, if_pos rfl, if_neg hroot]
      · rw [if_neg (by decide), if_pos hdelimiter]
        rfl
    · have hother : k ≠ key := by
        rintro rfl
        exact hkey.elim hroot hdelimiter
      rw [if_neg hdelimiter, if_neg hother]

/-- Nothing is set under a key that has nothing. -/
theorem setting?_eq_none (hkey : key ∈ reservedKeys) (h : overrides.has key = false) :
    overrides.setting? key = Option.none := by
  simp only [reservedKeys, List.mem_cons, List.not_mem_nil, or_false] at hkey
  unfold has at h
  unfold setting?
  by_cases hroot : key = rootKey
  · rw [if_pos hroot] at h ⊢
    rw [Option.isNone_iff_eq_none.mp (Option.isSome_eq_false_iff.mp h)]
    rfl
  · rw [if_neg hroot] at h ⊢
    rw [decide_eq_true (hkey.resolve_left hroot), Bool.true_and] at h
    rw [Option.isNone_iff_eq_none.mp (Option.isSome_eq_false_iff.mp h)]
    rfl

end Overrides

/-- A change that is asked for does to a setting what the write does that asks for it. -/
theorem Contents.setting?_replay {c : Contents} {views : Nat → Text} {request : Write}
    {change : Change} {key : Text} {fate : Fate} {inherited : Option Value}
    (hkey : key ∈ reservedKeys) (hasks : request.AsksFor views change)
    (h : c.overrides.setting? key = fate.setting? inherited) :
    (c.replay change).overrides.setting? key = (fate.written key request).setting? inherited := by
  have hput {k : Text} {value : Value} (haccepts : Family.Accepts views k value) :
      (c.put k value).overrides.setting? key =
        (if k = key then Fate.bound value else fate).setting? inherited := by
    unfold Contents.put
    by_cases hreserved : k ∈ reservedKeys
    · rw [if_pos hreserved, Overrides.setting?_put hkey hreserved haccepts, h]
      split <;> rfl
    · have hother : k ≠ key := fun heq => hreserved (heq ▸ hkey)
      rw [if_neg hreserved, if_neg hother]
      exact h
  cases hasks with
  | bind _ haccepts => exact hput haccepts
  | rebind _ haccepts => exact hput haccepts
  | unbind _ =>
    rw [Contents.replay, Overrides.setting?_remove hkey, h, Fate.written]
    split <;> rfl
  | @rename old new _ _ _ _ =>
    cases hvalue : c.entries.get? old with
    | none => rwa [Contents.replay_rename_of_none hvalue]
    | some value => rwa [Contents.replay_rename_of_some hvalue]

namespace Family

/-- What becomes of a setting of a namespace by a call: only writes to this namespace count, and only
those that succeed. -/
def fateAfter (number : Nat) (key : Text) (f : Family) (fate : Fate) (place : Nat) : Call → Fate
  | .write request =>
    if place = number then
      match ((write place request).outcome f).1 with
      | .ok () => fate.written key request
      | .error _ => fate
    else fate
  | _ => fate

/-- The family after calls on its namespaces. -/
def afterAll (w : World) : Family → List (Nat × Call) → Family
  | f, [] => f
  | f, (place, call) :: calls => afterAll w (f.after w hookRoom place call) calls

/-- What becomes of a setting of a namespace by calls. -/
def fateAfterAll (w : World) (number : Nat) (key : Text) : Family → Fate → List (Nat × Call) → Fate
  | _, fate, [] => fate
  | f, fate, (place, call) :: calls =>
    fateAfterAll w number key (f.after w hookRoom place call)
      (f.fateAfter number key fate place call) calls

/-- Whether a setting of a namespace without hooks is what became of it since another family, with the
environment as it was there. -/
structure Tracks (number : Nat) (key : Text) (start f : Family) (fate : Fate) : Prop where
  /-- The namespace is there. -/
  lt : number < f.views.length
  /-- The environment is the same. -/
  environment_eq : f.environment = start.environment
  /-- The namespace has no hooks. -/
  hooks_eq : (f.view number).hooks = []
  /-- The setting is what became of it, as long as the namespace is open. -/
  setting?_eq : (f.view number).closed = false → (f.view number).overrides.setting? key =
    fate.setting? ((start.view number).overrides.setting? key)

section Tracks

variable {w : World} {number : Nat} {key : Text} {start f g : Family} {fate : Fate}

/-- What spares the namespace tracks its setting. -/
theorem Tracks.of_spared (h : Tracks number key start f fate) (hg : (sparing w number).Allows f g) :
    Tracks number key start g fate := by
  obtain ⟨hbacks, hlength, hview⟩ := hg
  refine ⟨Nat.lt_of_lt_of_le h.lt hlength, hbacks.environment_eq.trans h.environment_eq, ?_, ?_⟩
  · rw [hview h.lt]
    exact h.hooks_eq
  · rw [hview h.lt]
    exact h.setting?_eq

/-- A write to the namespace itself does to a setting what it says, if it succeeds. -/
theorem Tracks.write (h : Tracks number key start f fate) (hkey : key ∈ reservedKeys)
    (request : Write) : Tracks number key start ((write number request).outcome f).2
      (f.fateAfter number key fate number (.write request)) := by
  have hcarried := carried (tell number hookRoom) number f request
  rw [fateAfter, if_pos rfl, Family.write]
  generalize (writeWith (tell number hookRoom) number request).outcome f = result at hcarried
  cases hcarried with
  | refused _ log => exact ⟨h.lt, h.environment_eq, h.hooks_eq, h.setting?_eq⟩
  | @idle k _ hopen _ hoverrides =>
    refine ⟨h.lt, h.environment_eq, h.hooks_eq, fun _ => ?_⟩
    dsimp only [Fate.written]
    split
    next hsame =>
      rw [hsame] at hoverrides
      rw [Overrides.setting?_eq_none hkey hoverrides]
      rfl
    · exact h.setting?_eq hopen
  | @changed _ change hasks hopen _ log =>
    have hview := view_changed h.lt change log
    have hhooks : ((f.changed number change log).view number).hooks = [] := by
      rw [hview]
      exact h.hooks_eq
    rw [outcome_tell_of_no_hooks hhooks]
    refine ⟨?_, h.environment_eq, hhooks, fun _ => ?_⟩
    · rw [length_views_changed]
      exact h.lt
    · rw [hview]
      exact Contents.setting?_replay hkey hasks (h.setting?_eq hopen)
  | closed =>
    obtain ⟨session, hclose⟩ := outcome_close number f
    have hview : Family.view { f.withView number (f.view number).emptied with session } number =
        (f.view number).emptied := view_withView_self h.lt _
    rw [hclose]
    refine ⟨?_, h.environment_eq, ?_, fun hopen => ?_⟩
    · rw [length_views_withView]
      exact h.lt
    · rw [hview]
      rfl
    · rw [hview] at hopen
      cases hopen

/-- A call that registers no hook with the namespace tracks its setting. -/
theorem Tracks.after (h : Tracks number key start f fate) (hkey : key ∈ reservedKeys) {place : Nat}
    {call : Call} (hcall : place = number → ∀ hook, call ≠ .registerHook hook) :
    Tracks number key start (f.after w hookRoom place call)
      (f.fateAfter number key fate place call) := by
  have hbrowsed {g : Family} (hg : Browse w f g) : Tracks number key start g fate :=
    h.of_spared (sparing_of_browsed hg.allows)
  cases call with
  | lookup sought => exact hbrowsed (.lookup place sought)
  | has sought => exact hbrowsed (.has place sought)
  | scope path => exact hbrowsed (.scope place path)
  | list sought => exact hbrowsed (.list place sought)
  | listBindings sought => exact hbrowsed (.listBindings place sought)
  | visibleEnvironment => exact hbrowsed (.visibleEnvironment place)
  | write request =>
    by_cases hplace : place = number
    · subst hplace
      exact h.write hkey request
    · rw [fateAfter, if_neg hplace]
      exact h.of_spared (after_spares (Ne.symm hplace) _ _)
  | registerHook hook =>
    exact h.of_spared (after_spares (fun heq => hcall heq.symm hook rfl) _ _)

/-- Calls that register no hooks with the namespace track its setting, however many they are. -/
theorem Tracks.afterAll (h : Tracks number key start f fate) (hkey : key ∈ reservedKeys)
    {calls : List (Nat × Call)}
    (hcalls : ∀ call ∈ calls, call.1 = number → ∀ hook, call.2 ≠ .registerHook hook) :
    Tracks number key start (f.afterAll w calls) (fateAfterAll w number key f fate calls) := by
  induction calls generalizing f fate with
  | nil => exact h
  | cons call calls ih =>
    obtain ⟨place, call⟩ := call
    exact ih (h.after hkey (hcalls _ (.head _))) fun other hother => hcalls other (.tail _ hother)

end Tracks

section Settings

variable {w : World} {f start : Family}

/-- A family that is created has the environment of its source, and the given parsers and
converters. -/
theorem parts_of_create {source : EnvironmentSource} {parsers : ParserRegistry}
    {converter : TypeConverter} {mode : Value}
    (h : (create w source parsers converter mode).MayGive f) :
    (source.read w).MayGive f.environment ∧ f.parsers = parsers ∧ f.converter = converter := by
  obtain ⟨e, hread, h⟩ := h.of_bind
  obtain ⟨mode, -, h⟩ := h.of_bind
  obtain ⟨-, -, h⟩ := h.of_bind
  rw [← eq_of_mayGive_pure h]
  exact ⟨hread, rfl, rfl⟩

/-- Whatever steps were taken, a family is backed as at the start. -/
theorem backs_of_steps (h : Relation.ReflTransGen (Step w) start f) : Backs w start f := by
  induction h with
  | refl => exact (backed w).refl start
  | tail _ hstep ih => exact (backed w).trans ih hstep.allows

/-- Calls are steps, one after another. -/
theorem steps_afterAll (w : World) (f : Family) (calls : List (Nat × Call)) :
    Relation.ReflTransGen (Step w) f (f.afterAll w calls) := by
  induction calls generalizing f with
  | nil => exact .refl
  | cons call calls ih => exact .head (step_iff.mpr ⟨call.1, call.2, rfl⟩) (ih _)

/-- The settings that count in a namespace can be used. -/
theorem isSound_visible {v : View} (he : f.environment.IsSound) (hv : v.contents.IsSound) :
    (f.visible v).IsSound := by
  constructor
  · change f.delimiterOf v ≠ []
    unfold delimiterOf
    cases hset : v.overrides.delimiter with
    | none => exact he.delimiter_ne
    | some delimiter => exact fun heq => hv.delimiter (hset.trans (congrArg some heq))
  · change ∃ parts, readRoot (f.rootOf v) = .ok parts
    unfold rootOf
    cases hset : v.overrides.root with
    | none => exact he.readRoot_ok
    | some root => exact hv.root root hset

/-- None of the ways in which a lookup may fail blames a delimiter or a root. -/
theorem spares_settings_of_isOfLookup {failure : Failure} (h : failure.isOfLookup = true) :
    failure.kind ≠ .unsupportedProtocol ∧ failure ≠ .emptyDelimiter ∧
      failure ≠ .emptySeparator := by
  refine ⟨fun hkind => ?_, ?_, ?_⟩
  · cases failure with
    | markup error => cases error <;> cases hkind
    | raised kind message => cases h
    | _ => first | (cases hkind; done) | cases h
  · rintro rfl
    cases h
  · rintro rfl
    cases h

/-- Settings hold. Let a namespace be opened for an environment that was made from settings, with
parsers and converters that come with the library, and let anything be done to the family. Then no
entry of a namespace stands under the empty key or a reserved one, only reserved keys are set, and
what is set can be used. An open namespace answers a reserved key with the value that the environment
has that it shows. This is the value that was bound there last and not unbound since then, else what
the namespace began with, else what the environment of the family has. And no lookup fails on account
of a root or a delimiter that cannot be used. -/
theorem settings_hold {source : EnvironmentSource} {parsers : ParserRegistry} {mode : Value}
    {log : Log} (hsource : source.IsMade) (hparsers : parsers.IsBuiltin)
    (hstart : ((create w source parsers .builtin mode).outcome log).1 = .ok start)
    (hf : Relation.ReflTransGen (Step w) start f) :
    (∀ number, (f.view number).contents.IsSound ∧
      ∀ key, (f.view number).overrides.has key = true → key ∈ reservedKeys) ∧
    (∀ number, (f.view number).closed = false → ∀ key ∈ reservedKeys, ∃ value mapping,
      reply (lookup w number (.str key)) f = .gives value ∧
        (visibleEnvironment number).outcome f = (.ok mapping, f) ∧
        Keyed.get? (Value.dict mapping).textEntries key = some value) ∧
    (∀ number < f.views.length, (f.view number).hooks = [] → ∀ calls : List (Nat × Call),
      (∀ call ∈ calls, call.1 = number → ∀ hook, call.2 ≠ .registerHook hook) →
      ((f.afterAll w calls).view number).closed = false → ∀ key ∈ reservedKeys,
        reply (lookup w number (.str key)) (f.afterAll w calls) = .gives
          (((fateAfterAll w number key f .kept calls).setting?
            ((f.view number).overrides.setting? key)).getD (start.environment.setting key))) ∧
    ∀ number key failure, reply (lookup w number key) f = .fails failure →
      failure.kind ≠ .unsupportedProtocol ∧ failure ≠ .emptyDelimiter ∧
        failure ≠ .emptySeparator := by
  obtain ⟨hread, hparsers', hconverter⟩ := parts_of_create ⟨log, hstart⟩
  have hreachable : Reachable w f := ⟨source, parsers, .builtin, mode, log, start, hstart, hf⟩
  have hsound := hreachable.isSound
  have hbacks := backs_of_steps hf
  refine ⟨fun number => ⟨hsound.view number, fun _ => Overrides.mem_reservedKeys_of_has⟩,
    fun number hopen key hkey => ?_, fun number hnumber hhooks calls hcalls hopen key hkey => ?_,
    fun number key failure hfailure => ?_⟩
  · obtain ⟨mapping, hmapping, hvalue⟩ := setting_visibleEnvironment hopen hkey
    exact ⟨_, mapping, reply_reserved w hopen (hsound.view number) hkey, hmapping, hvalue⟩
  · have htracks : Tracks number key f (f.afterAll w calls)
        (fateAfterAll w number key f .kept calls) :=
      Tracks.afterAll ⟨hnumber, rfl, hhooks, fun _ => rfl⟩ hkey hcalls
    have hafter : (f.afterAll w calls).IsSound :=
      (hreachable.trans (steps_afterAll w f calls)).isSound
    rw [reply_reserved w hopen (hafter.view number) hkey, setting_visible,
      htracks.setting?_eq hopen, htracks.environment_eq, hbacks.environment_eq]
  · have hvisible : (f.visible (f.view number)).IsSound := by
      refine isSound_visible ?_ (hsound.view number)
      rw [hbacks.environment_eq]
      exact hsource.isSound hread
    refine spares_settings_of_isOfLookup (isOfLookup_of_reply ?_ ?_ hvisible.delimiter_ne
      hvisible.readRoot_ok hfailure)
    · rwa [hbacks.parsers_eq, hparsers']
    · rw [hbacks.converter_eq, hconverter]

/-- The environment that has nothing but what holds where nothing is given, and no search path, is made
from settings. -/
theorem isMade_at_none : (EnvironmentSource.environment (.at none [])).IsMade := by
  let s : Settings :=
    ⟨.none, .str (text "."), .int 10, .list [], .str (text "composite"), .dict []⟩
  have hproblems : s.problems = [] := by decide +kernel
  exact ⟨s, Environment.mayGive_ofSettings_iff.mpr ⟨hproblems, ⟨_, rfl⟩, rfl⟩⟩

/-- A root is bound, and cannot be bound again to one that cannot be read; the delimiter is unbound. -/
theorem settings_hold_opened :
    let f := opened (.at none []) .default
    let calls : List (Nat × Call) := [
      (0, .write (.bind (.str rootKey) (.str (text "M")))),
      (0, .write (.rebind (.str rootKey) (.str (text "ftp://M")))),
      (0, .lookup (.str (text "app"))), (0, .write (.unbind (.str delimiterKey)))]
    let g := f.afterAll .twofold calls
    reply (lookup .twofold 0 (.str rootKey)) g = .gives (.str (text "M")) ∧
      reply (lookup .twofold 0 (.str delimiterKey)) g = .gives (.str (text ".")) := by
  intro f calls g
  have hcalls : ∀ call ∈ calls, call.1 = 0 → ∀ hook, call.2 ≠ .registerHook hook := by
    intro call hcall _ hook heq
    simp only [calls, List.mem_cons, List.not_mem_nil, or_false] at hcall
    rcases hcall with rfl | rfl | rfl | rfl <;> cases heq
  have hhistory := (@settings_hold .twofold _ _ (.environment (.at none [])) .default
    (.str (text "ignore")) [] isMade_at_none ParserRegistry.isBuiltin_default rfl .refl).2.2.1
    0 (by decide) rfl calls hcalls rfl
  exact ⟨hhistory rootKey (by decide), hhistory delimiterKey (by decide)⟩

end Settings

end Family

end ConfigNamespace
