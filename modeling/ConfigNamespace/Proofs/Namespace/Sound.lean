import ConfigNamespace.Proofs.Environment
import ConfigNamespace.Proofs.Namespace.Reply

/-!
# Settings under reserved keys

Two keys are reserved for settings, and only what is accepted as a setting comes to stand under them.
So whatever was done to a family, the entries of its namespaces stand under other keys, the delimiters
that were set are not empty, and the roots that were set can be read. What a reserved key is answered
with is the setting that counts, and so does the environment that a namespace shows.
-/

namespace ConfigNamespace

open Operation

namespace Family

variable {views : Nat → Text} {key : Text} {value : Value}

/-- What is accepted as a root is a text that can be read, or nothing. -/
theorem root_of_checkReserved (h : checkReserved views rootKey value = .ok ()) :
    (value = .none ∨ ∃ root, value = .str root) ∧ ∃ parts, readRoot value.text? = .ok parts := by
  unfold checkReserved at h
  rw [if_pos rfl] at h
  cases hvalid : Parameter.root.validate views value with
  | error failure =>
    rw [hvalid] at h
    cases h
  | ok _ =>
    rw [hvalid] at h
    refine ⟨Parameter.eq_of_problem?_root (Parameter.problem?_eq_none_of_validate hvalid), ?_⟩
    cases hread : readRoot value.text? with
    | ok parts => exact ⟨parts, rfl⟩
    | error failure =>
      rw [hread] at h
      cases h

/-- What is accepted as a delimiter is a text that is not empty. -/
theorem delimiter_of_checkReserved (hkey : key ≠ rootKey)
    (h : checkReserved views key value = .ok ()) :
    ∃ delimiter, value = .str delimiter ∧ delimiter ≠ [] := by
  unfold checkReserved at h
  rw [if_neg hkey] at h
  exact Parameter.eq_of_problem?_delimiter (Parameter.problem?_eq_none_of_validate h)

end Family

/-- The value that is set under a reserved key. -/
def Overrides.setting? (overrides : Overrides) (key : Text) : Option Value :=
  if key = rootKey then overrides.root.map fun root => (root.map Value.str).getD .none
  else overrides.delimiter.map Value.str

namespace Contents

/-- Whether entries and settings are kept apart, and the settings can be used. -/
structure IsSound (c : Contents) : Prop where
  /-- No entry stands under the empty key or a reserved one. -/
  entries : ∀ entry ∈ c.entries, entry.1 ≠ [] ∧ entry.1 ∉ reservedKeys
  /-- A delimiter that is set is not empty. -/
  delimiter : c.overrides.delimiter ≠ some []
  /-- A root that is set can be read. -/
  root : ∀ root, c.overrides.root = some root → ∃ parts, readRoot root = .ok parts

/-- Where nothing is held, nothing is wrong. -/
theorem isSound_none : IsSound ⟨[], .none⟩ := ⟨nofun, nofun, nofun⟩

variable {c : Contents}

/-- No reserved key is among the entries. -/
theorem IsSound.get?_eq_none (h : c.IsSound) {key : Text} (hkey : key ∈ reservedKeys) :
    c.entries.get? key = none := by
  cases hvalue : c.entries.get? key with
  | none => rfl
  | some value => exact absurd hkey (h.entries _ (Keyed.mem_of_get? hvalue)).2

/-- What is accepted under a key may be put there. -/
theorem IsSound.put (h : c.IsSound) {views : Nat → Text} {key : Text} {value : Value}
    (hkey : key ≠ []) (haccepts : Family.Accepts views key value) : (c.put key value).IsSound := by
  unfold Contents.put
  split
  next hreserved =>
    by_cases hroot : key = rootKey
    · subst hroot
      obtain ⟨-, parts, hread⟩ := Family.root_of_checkReserved (haccepts hreserved)
      refine ⟨h.entries, h.delimiter, fun root hset => ?_⟩
      rw [← Option.some.inj hset]
      exact ⟨parts, hread⟩
    · obtain ⟨delimiter, rfl, hne⟩ := Family.delimiter_of_checkReserved hroot (haccepts hreserved)
      rw [Overrides.put, if_neg hroot]
      exact ⟨h.entries, fun hset => hne (Option.some.inj hset), h.root⟩
  next hreserved =>
    refine ⟨fun entry hentry => ?_, h.delimiter, h.root⟩
    rcases Keyed.mem_of_mem_put hentry with rfl | hmem
    · exact ⟨hkey, hreserved⟩
    · exact h.entries entry hmem

/-- A change that can be asked for may be made. -/
theorem IsSound.replay (h : c.IsSound) {views : Nat → Text} {request : Write} {change : Change}
    (hasks : request.AsksFor views change) : (c.replay change).IsSound := by
  cases hasks with
  | bind hkey haccepts => exact h.put hkey haccepts
  | rebind hkey haccepts => exact h.put hkey haccepts
  | @unbind key hkey =>
    refine ⟨fun entry hentry => h.entries entry (List.mem_filter.mp hentry).1, ?_, fun root => ?_⟩
    · simp only [Contents.replay, Overrides.remove]
      split
      · exact h.delimiter
      · split
        · intro hset
          cases hset
        · exact h.delimiter
    · simp only [Contents.replay, Overrides.remove]
      split
      · intro hset
        cases hset
      · split
        · exact h.root root
        · exact h.root root
  | @rename old new hold hnew hold' hnew' =>
    cases hvalue : c.entries.get? old with
    | none => rwa [replay_rename_of_none hvalue]
    | some value =>
      rw [replay_rename_of_some hvalue]
      refine ⟨fun entry hentry => ?_, h.delimiter, h.root⟩
      rcases List.mem_append.mp hentry with hkept | hmoved
      · exact h.entries entry (List.mem_filter.mp hkept).1
      · rw [List.mem_singleton.mp hmoved]
        exact ⟨hnew, hnew'⟩

end Contents

/-- Only reserved keys are overridden. -/
theorem Overrides.mem_reservedKeys_of_has {overrides : Overrides} {key : Text}
    (h : overrides.has key = true) : key ∈ reservedKeys := by
  unfold has at h
  split at h
  next hroot => rw [hroot]; exact .head _
  · rw [of_decide_eq_true (Bool.and_eq_true_iff.mp h).1]
    exact .tail _ (.head _)

namespace Family

/-- Whether the contents of all namespaces are sound. -/
def IsSound (f : Family) : Prop := ∀ v ∈ f.views, v.contents.IsSound

/-- The namespaces of a sound family are sound. -/
theorem IsSound.view {f : Family} (h : f.IsSound) (number : Nat) :
    (f.view number).contents.IsSound := by
  rw [Family.view, List.getD_eq_getElem?_getD]
  cases hview : f.views[number]? with
  | none => exact Contents.isSound_none
  | some v => exact h v (List.mem_of_getElem? hview)

/-- A sound family stays so with a sound namespace in the place of another. -/
theorem IsSound.withView {f : Family} (h : f.IsSound) {number : Nat} {v : View}
    (hv : v.contents.IsSound) : (f.withView number v).IsSound := by
  intro other hother
  rcases List.mem_or_eq_of_mem_set hother with hmem | rfl
  · exact h other hmem
  · exact hv

/-- Namespaces that are made have the settings of others and no entries. -/
theorem admitsBrowsing_isSound (w : World) : AdmitsBrowsing w (.keeping IsSound) where
  note _ _ _ h := h
  seek _ _ _ h := h
  addView f number segments h v hv := by
    rcases List.mem_append.mp hv with hmem | hnew
    · exact h v hmem
    · rw [List.mem_singleton.mp hnew]
      exact ⟨nofun, (h.view number).delimiter, (h.view number).root⟩

/-- Writes make changes that can be asked for. -/
theorem admitsChanges_isSound (number : Nat) : AdmitsChanges (.keeping IsSound) number where
  withLog _ _ h := h
  changed f _ _ log hasks _ _ h :=
    IsSound.withView (f := f.withLog log) h ((h.view number).replay hasks)
  hooked f _ _ h := h.withView (h.view number)
  close f h := by
    obtain ⟨session, hclose⟩ := outcome_close number f
    rw [hclose]
    exact h.withView Contents.isSound_none
  deliver _ _ h := h

/-- A sound family stays so by each step. -/
theorem IsSound.step {w : World} {f g : Family} (h : f.IsSound) (hstep : Step w f g) :
    g.IsSound := by
  cases hstep with
  | browse hbrowse => exact (admitsBrowsing_isSound w).browse_allows hbrowse h
  | write number request =>
    have hchanges := admitsChanges_isSound number
    exact hchanges.writeWith_follows (hchanges.tell_follows _) request f h
  | registerHook number hook => exact (admitsChanges_isSound number).registerHook_follows hook f h

/-- A family that is created begins with one namespace that holds nothing. -/
theorem isSound_of_create {w : World} {source : EnvironmentSource} {parsers : ParserRegistry}
    {converter : TypeConverter} {mode : Value} {f : Family}
    (h : (create w source parsers converter mode).MayGive f) : f.IsSound := by
  obtain ⟨e, -, h⟩ := h.of_bind
  obtain ⟨mode, -, h⟩ := h.of_bind
  obtain ⟨-, -, h⟩ := h.of_bind
  intro v hv
  rw [← eq_of_mayGive_pure h] at hv
  rw [List.mem_singleton.mp hv]
  exact Contents.isSound_none

/-- Whatever was done to a family, the contents of its namespaces are sound. -/
theorem Reachable.isSound {w : World} {f : Family} (h : Reachable w f) : f.IsSound := by
  obtain ⟨source, parsers, converter, mode, log, start, hstart, hsteps⟩ := h
  induction hsteps with
  | refl => exact isSound_of_create ⟨log, hstart⟩
  | tail _ hstep ih => exact ih.step hstep

/-- The environment that counts in a namespace. -/
def visible (f : Family) (v : View) : Environment :=
  { f.environment with root := f.rootOf v, delimiter := f.delimiterOf v }

/-- The settings of a namespace go before those of the environment. -/
theorem setting_visible (f : Family) (v : View) (key : Text) :
    (f.visible v).setting key = (v.overrides.setting? key).getD (f.environment.setting key) := by
  unfold Environment.setting Overrides.setting?
  by_cases hroot : key = rootKey
  · rw [if_pos hroot, if_pos hroot, if_pos hroot]
    simp only [visible, rootOf]
    cases v.overrides.root <;> rfl
  · rw [if_neg hroot, if_neg hroot, if_neg hroot]
    simp only [visible, delimiterOf]
    cases v.overrides.delimiter <;> rfl

section Reserved

variable {f : Family} {number : Nat} {key : Text}

/-- A reserved key is answered with the setting that counts. -/
theorem reply_reserved (w : World) (hopen : (f.view number).closed = false)
    (hsound : (f.view number).contents.IsSound) (hkey : key ∈ reservedKeys) :
    reply (lookup w number (.str key)) f = .gives ((f.visible (f.view number)).setting key) := by
  have hseek : (f.seek w (f.view number) (.str key)).outcome f.session =
      (.ok (.value ((f.visible (f.view number)).setting key)), f.session) := by
    have hunbound : (f.view number).entries.get? key = none := hsound.get?_eq_none hkey
    have hne : key ≠ [] := by
      rintro rfl
      exact absurd hkey (by decide)
    rw [seek, if_neg (by simp [hopen]), hunbound]
    · unfold Environment.setting
      by_cases hroot : key = rootKey
      · rw [if_pos hroot, if_pos hroot]
        rfl
      · have hdelimiter : key = delimiterKey := by simpa [reservedKeys, hroot] using hkey
        rw [if_neg hroot, if_neg hroot, if_pos hdelimiter]
        rfl
    · exact hne
  rw [reply_of_settle (outcome_lookup f w number (.str key)), hseek]
  rfl

/-- A namespace that is open shows the mapping of the environment that counts for it. -/
theorem outcome_visibleEnvironment (hopen : (f.view number).closed = false) :
    (visibleEnvironment number).outcome f = (.ok (f.visible (f.view number)).toMapping, f) := by
  unfold visibleEnvironment
  rw [outcome_bind_ok (outcome_refuseClosed_of_open hopen _)]
  rfl

/-- The environment that a namespace shows has the settings that count. -/
theorem setting_visibleEnvironment (hopen : (f.view number).closed = false)
    (hkey : key ∈ reservedKeys) : ∃ mapping,
      (visibleEnvironment number).outcome f = (.ok mapping, f) ∧
        Keyed.get? (Value.dict mapping).textEntries key =
          some ((f.visible (f.view number)).setting key) :=
  ⟨_, outcome_visibleEnvironment hopen, Environment.get?_toMapping _ hkey⟩

end Reserved

end Family

end ConfigNamespace
