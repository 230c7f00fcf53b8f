import ConfigNamespace.Namespace.Lifecycle
import ConfigNamespace.Proofs.Keyed
import ConfigNamespace.Proofs.Operation
import Mathlib.Tactic.ByContra

/-!
# Environments that are accepted

Whatever an environment is made from, its settings are judged before. So its delimiter is not empty
and its root can be read.
-/

namespace ConfigNamespace

open Operation

/-- A power of two is positive. -/
theorem powerOfTwo_pos (n : Nat) : 0 < powerOfTwo n := Nat.pow_pos (by decide)

/-- Integers are compared as numbers. -/
theorem Quantity.int_le_int (i j : Int) : (Quantity.int i).le (.int j) = decide (i ≤ j) := by
  have hone : (0 : Int) < (Double.one : Int) := Int.natCast_pos.mpr (powerOfTwo_pos _)
  simp only [le, place?, Int.lt_irrefl, decide_false, Bool.false_or, beq_self_eq_true,
    Bool.true_and]
  exact decide_eq_decide.mpr (Int.mul_le_mul_right hone)

namespace Parameter

variable {p : Parameter} {views : Nat → Text} {value : Value}

/-- There is no problem with a value that is accepted. -/
theorem problem?_eq_none_of_validate (h : p.validate views value = .ok ()) :
    p.problem? value = none := by
  unfold validate at h
  cases hproblem : p.problem? value with
  | none => rfl
  | some problem =>
    rw [hproblem] at h
    cases h

/-- A value without problems has no problem with its type, its bounds or the further condition. -/
theorem problems_eq_none (h : p.problem? value = none) (hvalue : value ≠ .none) :
    p.typeProblem? value = none ∧ p.boundsProblem? value = none ∧ p.validatorProblem? value = none := by
  have hfirst : (p.typeProblem? value <|> p.boundsProblem? value <|> p.validatorProblem? value) =
      none := by
    unfold problem? at h
    split at h
    · exact absurd rfl hvalue
    · exact h
  simpa only [Option.orElse_eq_orElse, Option.orElse_eq_or, Option.or_eq_none_iff] using hfirst

/-- The length of a text or row without problems lies within the bounds, and so does a number that is
no truth value. -/
theorem hold_of_problem?_eq_none {bounds : Bounds} (h : p.problem? value = none)
    (hbounds : p.bounds = some bounds) :
    (∀ length, value.length? = some length → bounds.hold (.int length) = true) ∧
      ∀ q, value.measure? = some q → bounds.hold q = true := by
  by_cases hvalue : value = .none
  · subst hvalue
    exact ⟨nofun, nofun⟩
  obtain ⟨-, hwithin, -⟩ := problems_eq_none h hvalue
  unfold boundsProblem? at hwithin
  rw [hbounds] at hwithin
  dsimp only at hwithin
  constructor
  · intro length hlength
    by_contra hhold
    rw [hlength] at hwithin
    dsimp only at hwithin
    rw [if_neg hhold] at hwithin
    cases hwithin
  · intro q hmeasure
    have hlength : value.length? = none := by
      cases value <;> first | rfl | cases hmeasure
    by_contra hhold
    rw [hlength, hmeasure] at hwithin
    dsimp only at hwithin
    rw [if_neg hhold] at hwithin
    cases hwithin

/-- A root without problems is a text, or there is none. -/
theorem eq_of_problem?_root (h : Parameter.root.problem? value = none) :
    value = .none ∨ ∃ root, value = .str root := by
  cases value with
  | none => exact .inl rfl
  | str root => exact .inr ⟨root, rfl⟩
  | _ => cases h

/-- Where a text of at least one character is expected, a value without problems is one. -/
theorem eq_str_of_problem? {upper : Quantity} (h : p.problem? value = none)
    (htypes : p.types = .anyOf ["str"]) (hbounds : p.bounds = some ⟨.int 1, upper⟩)
    (hnone : p.allowsNone = false) : ∃ s, value = .str s ∧ s ≠ [] := by
  have hvalue : value ≠ .none := by
    rintro rfl
    rw [problem?, hnone] at h
    cases h
  obtain ⟨htype, -, -⟩ := problems_eq_none h hvalue
  rw [typeProblem?, htypes] at htype
  cases value with
  | str s =>
    refine ⟨s, rfl, ?_⟩
    rintro rfl
    have hheld := (hold_of_problem?_eq_none h hbounds).1 0 rfl
    have hlong := (Bool.and_eq_true_iff.mp hheld).1
    rw [Quantity.int_le_int] at hlong
    cases hlong
  | none => exact absurd rfl hvalue
  | _ => cases htype

/-- A delimiter without problems is a text that is not empty. -/
theorem eq_of_problem?_delimiter (h : Parameter.delimiter.problem? value = none) :
    ∃ delimiter, value = .str delimiter ∧ delimiter ≠ [] := eq_str_of_problem? h rfl rfl rfl

end Parameter

namespace Environment

/-- Whether the settings of an environment can be used for lookups. -/
structure IsSound (e : Environment) : Prop where
  /-- The delimiter is not empty. -/
  delimiter_ne : e.delimiter ≠ []
  /-- The root can be read. -/
  readRoot_ok : ∃ parts, readRoot e.root = .ok parts

/-- A parameter has no problem with its setting if the settings have none. -/
theorem problem?_eq_none {s : Settings} (h : s.problems = []) {p : Parameter} {value : Value}
    (hmem : (p, value) ∈ s.judged) : p.problem? value = none := by
  have hnone := List.filterMap_eq_nil_iff.mp h _ hmem
  rwa [Option.map_eq_none_iff] at hnone

/-- An environment is made exactly from settings without problems, with a root that can be read. -/
theorem mayGive_ofSettings_iff {s : Settings} {e : Environment} :
    (ofSettings s).MayGive e ↔
      s.problems = [] ∧ (∃ parts, readRoot s.root.text? = .ok parts) ∧ s.toEnvironment = .ok e := by
  unfold ofSettings
  constructor
  · intro h
    split at h
    · obtain ⟨_, -, h⟩ := h.of_bind
      obtain ⟨_, hthrown, -⟩ := h.of_bind
      obtain ⟨_, hthrown⟩ := hthrown
      cases hthrown
    next hproblems =>
      obtain ⟨parts, hroot, h⟩ := h.of_bind
      exact ⟨Classical.not_not.mp hproblems, ⟨parts, eq_ok_of_mayGive_ofExcept hroot⟩,
        eq_ok_of_mayGive_ofExcept h⟩
  · rintro ⟨hproblems, ⟨parts, hroot⟩, hmade⟩
    rw [if_neg (not_not_intro hproblems)]
    exact mayGive_ofExcept_bind hroot ⟨[], hmade⟩

/-- The fields of an environment are what was given for them, as far as it has the right type. -/
theorem fields_of_toEnvironment {s : Settings} {e : Environment} (h : s.toEnvironment = .ok e) :
    ∃ extras, s.extras = .dict extras ∧ e = {
      root := s.root.text?
      delimiter := s.delimiter.text?.getD []
      timeout := (Quantity.ofValue? s.timeout).getD (.whole 10)
      searchPath := Settings.textsOf s.searchPath
      compositeMarker := s.compositeMarker.text?.getD []
      extras } := by
  unfold Settings.toEnvironment at h
  split at h
  next extras hextras =>
    cases h
    exact ⟨extras, hextras, rfl⟩
  · cases h

/-- An environment that is made from settings is sound, because they are judged. -/
theorem isSound_of_ofSettings {s : Settings} {e : Environment} (h : (ofSettings s).MayGive e) :
    e.IsSound := by
  obtain ⟨hproblems, hroot, hmade⟩ := mayGive_ofSettings_iff.mp h
  have hjudged : (Parameter.delimiter, s.delimiter) ∈ s.judged := .tail _ (.head _)
  obtain ⟨delimiter, hdelimiter, hne⟩ :=
    Parameter.eq_of_problem?_delimiter (problem?_eq_none hproblems hjudged)
  obtain ⟨extras, -, rfl⟩ := fields_of_toEnvironment hmade
  refine ⟨?_, hroot⟩
  rw [hdelimiter]
  exact hne

/-- An environment of fields is made from settings. -/
theorem exists_settings_of_ofFields {fields : List (Text × Value)} {e : Environment}
    (h : (ofFields fields).MayGive e) : ∃ s, (ofSettings s).MayGive e := by
  obtain ⟨s, -, h⟩ := h.of_bind
  exact ⟨s, h⟩

/-- An environment of a mapping is one of the fields that the mapping is split into, and the keys that are
left can be shown in order. -/
theorem split_of_mayGive_ofMapping {mapping : List (Value × Value)} {e : Environment}
    (h : (ofMapping mapping).MayGive e) :
    ∃ fields extras, splitMapping mapping = .ok (fields, extras) ∧
      (∃ shown, orderedKeys (extras.map (·.1)) = .ok shown) ∧
      (ofFields (fields ++ [(text "extras", .dict extras)])).MayGive e := by
  obtain ⟨⟨fields, extras⟩, hsplit, h⟩ := h.of_bind
  refine ⟨fields, extras, eq_ok_of_mayGive_ofExcept hsplit, ?_⟩
  dsimp only at h
  split at h
  · obtain ⟨shown, hshown, h⟩ := h.of_bind
    obtain ⟨_, -, h⟩ := h.of_bind
    exact ⟨⟨shown, eq_ok_of_mayGive_ofExcept hshown⟩, h⟩
  next hnone =>
    obtain rfl := Classical.not_not.mp hnone
    exact ⟨⟨[], rfl⟩, h⟩

/-- An environment of a mapping is made from settings. -/
theorem exists_settings_of_ofMapping {mapping : List (Value × Value)} {e : Environment}
    (h : (ofMapping mapping).MayGive e) : ∃ s, (ofSettings s).MayGive e := by
  obtain ⟨_, _, -, -, h⟩ := split_of_mayGive_ofMapping h
  exact exists_settings_of_ofFields h

/-- The setting under a reserved key. -/
def setting (e : Environment) (key : Text) : Value :=
  if key = rootKey then (e.root.map Value.str).getD .none else .str e.delimiter

/-- A value that is equal to a text is that text. -/
theorem same_str_iff {value : Value} {key : Text} : value.same (.str key) = true ↔ value = .str key := by
  cases value <;> simp [Value.same, Value.numberForm?]

/-- A setting that is put into a mapping stands there among the texts. -/
theorem textEntries_putValue (key : Text) (value : Value) (entries : List (Value × Value)) :
    (Value.dict (putValue (.str key) value entries)).textEntries =
      Keyed.put key value (Value.dict entries).textEntries := by
  induction entries with
  | nil => rfl
  | cons entry entries ih =>
    obtain ⟨k, v⟩ := entry
    unfold Value.textEntries Value.entries at ih ⊢
    unfold putValue
    by_cases hsame : k.same (.str key) = true
    · obtain rfl := same_str_iff.mp hsame
      rw [if_pos hsame, List.filterMap_cons, List.filterMap_cons]
      exact (if_pos rfl).symm
    · rw [if_neg hsame, List.filterMap_cons, List.filterMap_cons, ih]
      cases k with
      | str k => exact (if_neg fun heq => hsame (same_str_iff.mpr (congrArg Value.str heq))).symm
      | _ => rfl

/-- The settings of an environment stand in its mapping. -/
theorem get?_toMapping (e : Environment) {key : Text} (hkey : key ∈ reservedKeys) :
    Keyed.get? (Value.dict e.toMapping).textEntries key = some (e.setting key) := by
  unfold toMapping
  simp only [List.foldl_cons, List.foldl_nil, textEntries_putValue, Keyed.get?_put]
  rcases List.mem_cons.mp hkey with rfl | hkey
  · rw [if_neg (by decide), if_neg (by decide), if_neg (by decide), if_neg (by decide), if_pos rfl]
    rfl
  · obtain rfl := List.mem_singleton.mp hkey
    rw [if_neg (by decide), if_neg (by decide), if_neg (by decide), if_pos rfl]
    rfl

end Environment

namespace EnvironmentSource

/-- Whether an environment that is given as it is was made from settings. -/
def IsMade : EnvironmentSource → Prop
  | environment e => ∃ s, (Environment.ofSettings s).MayGive e
  | _ => True

/-- The environment of a source was made from settings. -/
theorem IsMade.exists_settings {source : EnvironmentSource} (hsource : source.IsMade) {w : World}
    {e : Environment} (h : (source.read w).MayGive e) :
    ∃ s, (Environment.ofSettings s).MayGive e := by
  cases source with
  | processVariables =>
    obtain ⟨fields, -, h⟩ := h.of_bind
    exact Environment.exists_settings_of_ofFields h
  | environment e' =>
    cases eq_of_mayGive_pure h
    exact hsource
  | mapping entries => exact Environment.exists_settings_of_ofMapping h

/-- The environment of a source is sound. -/
theorem IsMade.isSound {source : EnvironmentSource} (hsource : source.IsMade) {w : World}
    {e : Environment} (h : (source.read w).MayGive e) : e.IsSound := by
  obtain ⟨s, hmade⟩ := hsource.exists_settings h
  exact Environment.isSound_of_ofSettings hmade

end EnvironmentSource

end ConfigNamespace
