import ConfigNamespace.Proofs.Environment
import Mathlib.Algebra.Order.Field.Rat
import Mathlib.Algebra.Order.Field.Basic
import Mathlib.Tactic.NormNum

/-!
# Environments are within their limits

Whichever way an environment is made, it is made of settings that were judged, and it keeps them as
they are, but that a list of texts for the search path becomes a row. So what a field holds is within
the limits of its parameter. Bounds are compared as numbers: a timeout that is accepted is a rational
number from a tenth to six hundred, unless it is a truth value, which bounds do not limit.
-/

namespace ConfigNamespace

open Operation

namespace Quantity

/-- The number that a quantity is, if it is a finite one. -/
def value? (q : Quantity) : Option ℚ :=
  q.place?.bind fun place =>
    if place.1 = 0 then some ((place.2 : ℚ) / (Double.one : ℚ)) else none

/-- A quantity is a number exactly if it has a finite place, and the number is the place by
units. -/
theorem value?_eq_some_iff {q : Quantity} {x : ℚ} :
    q.value? = some x ↔ ∃ z : Int, q.place? = some (0, z) ∧ x = z / (Double.one : ℚ) := by
  unfold value?
  constructor
  · intro h
    obtain ⟨⟨side, z⟩, hplace, hx⟩ := Option.bind_eq_some_iff.mp h
    dsimp only at hx
    split at hx
    next hside =>
      obtain rfl : side = 0 := hside
      exact ⟨z, hplace, (Option.some.inj hx).symm⟩
    · cases hx
  · rintro ⟨z, hplace, rfl⟩
    rw [hplace]
    rfl

/-- One is a positive number of units. -/
theorem one_pos : (0 : ℚ) < (Double.one : ℚ) := Nat.cast_pos.mpr (powerOfTwo_pos _)

/-- Quantities are compared as the numbers that they are. -/
theorem le_iff_of_value? {a b : Quantity} {x y : ℚ} (ha : a.value? = some x)
    (hb : b.value? = some y) : a.le b = true ↔ x ≤ y := by
  obtain ⟨m, hm, rfl⟩ := value?_eq_some_iff.mp ha
  obtain ⟨n, hn, rfl⟩ := value?_eq_some_iff.mp hb
  rw [div_le_div_iff_of_pos_right one_pos, Int.cast_le, le, hm, hn]
  simp

/-- A truth value is zero or one. -/
theorem value?_bool (b : Bool) : (bool b).value? = some (b.toNat : ℚ) := by
  refine value?_eq_some_iff.mpr ⟨_, rfl, ?_⟩
  rw [eq_div_iff one_pos.ne']
  push_cast
  rfl

/-- The bound `0.1` in double precision is a little more than a tenth. -/
theorem exists_value?_tenth : ∃ x : ℚ, tenth.value? = some x ∧ 1 / 10 ≤ x := by
  have hchecked : (tenth.place?.any fun place =>
      place.1 = 0 ∧ (Double.one : Int) ≤ place.2 * 10) = true := by decide +kernel
  obtain ⟨⟨side, z⟩, hplace, hfound⟩ := (Option.any_eq_true _ _).mp hchecked
  obtain ⟨rfl, hlarge⟩ : side = 0 ∧ (Double.one : Int) ≤ z * 10 := of_decide_eq_true hfound
  refine ⟨_, value?_eq_some_iff.mpr ⟨z, hplace, rfl⟩, ?_⟩
  rw [div_le_div_iff₀ (by norm_num) one_pos, one_mul]
  exact_mod_cast hlarge

/-- The bound `600` is six hundred. -/
theorem value?_whole_600 : (whole 600).value? = some 600 := by
  have hplace : (whole 600).place? = some (0, 600 * (Double.one : Int)) := by decide +kernel
  refine value?_eq_some_iff.mpr ⟨_, hplace, ?_⟩
  rw [eq_div_iff one_pos.ne']
  push_cast
  rfl

/-- A quantity between finite bounds is a number between them. -/
theorem exists_value?_of_hold {lower upper q : Quantity} {x y : ℚ} (hlower : lower.value? = some x)
    (hupper : upper.value? = some y) (h : Bounds.hold ⟨lower, upper⟩ q = true) :
    ∃ t, q.value? = some t ∧ x ≤ t ∧ t ≤ y := by
  obtain ⟨hleast, hgreatest⟩ := Bool.and_eq_true_iff.mp h
  have hvalue : ∃ t, q.value? = some t := by
    obtain ⟨m, hm, -⟩ := value?_eq_some_iff.mp hlower
    obtain ⟨n, hn, -⟩ := value?_eq_some_iff.mp hupper
    dsimp only at hleast hgreatest
    unfold le at hleast hgreatest
    rw [hm] at hleast
    rw [hn] at hgreatest
    cases hplace : q.place? with
    | none =>
      rw [hplace] at hleast
      cases hleast
    | some place =>
      obtain ⟨side, z⟩ := place
      rw [hplace] at hleast hgreatest
      obtain rfl : side = 0 := by
        simp at hleast hgreatest
        omega
      exact ⟨_, value?_eq_some_iff.mpr ⟨z, hplace, rfl⟩⟩
  obtain ⟨t, ht⟩ := hvalue
  exact ⟨t, ht, (le_iff_of_value? hlower ht).mp hleast, (le_iff_of_value? ht hupper).mp hgreatest⟩

end Quantity

namespace Parameter

variable {value : Value}

/-- A timeout without problems is a number from a tenth to six hundred, or a truth value. -/
theorem eq_of_problem?_timeout (h : Parameter.timeout.problem? value = none) :
    ∃ q : Quantity, value = q.toValue ∧
      ((∃ b, q = .bool b) ∨ ∃ t : ℚ, q.value? = some t ∧ 1 / 10 ≤ t ∧ t ≤ 600) := by
  obtain ⟨x, hx, htenth⟩ := Quantity.exists_value?_tenth
  have hwithin (q : Quantity) (hmeasure : value.measure? = some q) :
      ∃ t : ℚ, q.value? = some t ∧ 1 / 10 ≤ t ∧ t ≤ 600 := by
    have hhold := (hold_of_problem?_eq_none h rfl).2 q hmeasure
    obtain ⟨t, ht, hleast, hgreatest⟩ :=
      Quantity.exists_value?_of_hold hx Quantity.value?_whole_600 hhold
    exact ⟨t, ht, htenth.trans hleast, hgreatest⟩
  cases value with
  | bool b => exact ⟨.bool b, rfl, .inl ⟨b, rfl⟩⟩
  | int i => exact ⟨.int i, rfl, .inr (hwithin _ rfl)⟩
  | double d => exact ⟨.double d, rfl, .inr (hwithin _ rfl)⟩
  | _ => cases h

/-- Parts that are all texts are the texts among them. -/
theorem eq_map_str {vs : List Value} (h : (vs.all fun v => v.text?.isSome) = true) :
    vs = (vs.filterMap Value.text?).map .str := by
  induction vs with
  | nil => rfl
  | cons v vs ih =>
    rw [List.all_cons, Bool.and_eq_true] at h
    obtain ⟨hv, hvs⟩ := h
    cases v with
    | str s => exact congrArg (Value.str s :: ·) (ih hvs)
    | _ => cases hv

/-- A search path without problems is a list or a row of texts, or there is none. -/
theorem eq_of_problem?_searchPath (h : Parameter.searchPath.problem? value = none) :
    value = .none ∨ ∃ entries, value = .ofTexts entries ∨ value = .rowOfTexts entries := by
  have htexts (hvalue : value ≠ .none) : allTexts value = true := by
    obtain ⟨-, -, hvalid⟩ := problems_eq_none h hvalue
    by_contra hnot
    rw [validatorProblem?] at hvalid
    simp [searchPath, hnot] at hvalid
  cases value with
  | none => exact .inl rfl
  | list vs => exact .inr ⟨_, .inl (congrArg Value.list (eq_map_str (htexts nofun)))⟩
  | tuple vs => exact .inr ⟨_, .inr (congrArg Value.tuple (eq_map_str (htexts nofun)))⟩
  | _ => cases h

end Parameter

namespace Settings

/-- The settings with a list for a search path turned into a row. -/
def withRow (s : Settings) : Settings :=
  { s with
    searchPath :=
      match s.searchPath with
      | .list vs => .tuple vs
      | v => v }

/-- Whether settings are within the limits of an environment. -/
structure WithinLimits (s : Settings) : Prop where
  /-- The root is left out, or a text whose scheme, if it has one, is supported. -/
  root : s.root = .none ∨ ∃ root, s.root = .str root ∧ ∀ scheme rest,
    Text.breakOn? (text "://") root = some (scheme, rest) →
      scheme.toLower ∈ schemes.map (·.1)
  /-- The delimiter is a text that is not empty. -/
  delimiter : ∃ delimiter, s.delimiter = .str delimiter ∧ delimiter ≠ []
  /-- The timeout is a number from a tenth to six hundred, or a truth value. -/
  timeout : ∃ q : Quantity, s.timeout = q.toValue ∧
    ((∃ b, q = .bool b) ∨ ∃ t : ℚ, q.value? = some t ∧ 1 / 10 ≤ t ∧ t ≤ 600)
  /-- The search path is left out, or a row of texts. -/
  searchPath : s.searchPath = .none ∨ ∃ entries, s.searchPath = .rowOfTexts entries
  /-- The word that marks composites is a text that is not empty. -/
  compositeMarker : ∃ marker, s.compositeMarker = .str marker ∧ marker ≠ []

end Settings

namespace Environment

/-- Whether an environment can come to be: from fields, from a mapping, from the variables of a process,
or from another environment some of whose fields are replaced. -/
inductive Made : Environment → Prop
  /-- From fields, whatever is given for them. -/
  | fields {fields : List (Text × Value)} {e : Environment} (h : (ofFields fields).MayGive e) : Made e
  /-- From a mapping. -/
  | mapping {entries : List (Value × Value)} {e : Environment} (h : (ofMapping entries).MayGive e) :
    Made e
  /-- From the variables of a process. -/
  | process {given : Keyed Text} {e : Environment} (h : (ofVariables given).MayGive e) : Made e
  /-- From another environment. -/
  | replaced {e e' : Environment} {changes : List (Text × Value)} (he : Made e)
    (h : (e.replace changes).MayGive e') : Made e'

/-- However an environment comes to be, it is made from settings that are judged. -/
theorem Made.exists_settings {e : Environment} (h : e.Made) :
    ∃ s : Settings, (ofSettings s).MayGive e := by
  cases h with
  | fields h => exact exists_settings_of_ofFields h
  | mapping h => exact exists_settings_of_ofMapping h
  | process h =>
    obtain ⟨fields, -, h⟩ := h.of_bind
    exact exists_settings_of_ofFields h
  | replaced _ h =>
    obtain ⟨s, -, h⟩ := h.of_bind
    exact ⟨s, h⟩

/-- A root that can be read has no scheme, or one that is supported. -/
theorem mem_schemes_of_readRoot {root scheme rest : Text} {parts : Protocol × Text}
    (h : readRoot (some root) = .ok parts)
    (hscheme : Text.breakOn? (text "://") root = some (scheme, rest)) :
    scheme.toLower ∈ schemes.map (·.1) := by
  unfold readRoot at h
  dsimp only at h
  rw [hscheme] at h
  dsimp only at h
  split at h
  · cases h
  next protocol hprotocol =>
    exact List.mem_map.mpr ⟨_, Keyed.mem_of_get? hprotocol, rfl⟩

/-- The texts of a row of texts. -/
theorem filterMap_map_str (entries : List Text) :
    (entries.map Value.str).filterMap Value.text? = entries := by
  rw [List.filterMap_map]
  exact List.filterMap_some

/-- What an environment is made from is within the limits, and its fields hold just that. -/
theorem withinLimits_of_ofSettings {s : Settings} {e : Environment} (h : (ofSettings s).MayGive e) :
    e.toSettings = s.withRow ∧ s.withRow.WithinLimits := by
  obtain ⟨hproblems, ⟨parts, hread⟩, hmade⟩ := mayGive_ofSettings_iff.mp h
  obtain ⟨extras, hextras, rfl⟩ := fields_of_toEnvironment hmade
  have hjudged {p : Parameter} {value : Value} (hmem : (p, value) ∈ s.judged) :
      p.problem? value = none := problem?_eq_none hproblems hmem
  have hroot := Parameter.eq_of_problem?_root (hjudged (.head _))
  obtain ⟨delimiter, hdelimiter, hdelimited⟩ :=
    Parameter.eq_of_problem?_delimiter (hjudged (.tail _ (.head _)))
  obtain ⟨q, htimeout, hlimits⟩ :=
    Parameter.eq_of_problem?_timeout (hjudged (.tail _ (.tail _ (.head _))))
  have hpath := Parameter.eq_of_problem?_searchPath (hjudged (.tail _ (.tail _ (.tail _ (.head _)))))
  obtain ⟨marker, hmarker, hmarked⟩ := Parameter.eq_str_of_problem?
    (hjudged (.tail _ (.tail _ (.tail _ (.tail _ (.head _)))))) rfl rfl rfl
  have hrow : ((Settings.textsOf s.searchPath).map Value.rowOfTexts).getD .none =
        s.withRow.searchPath ∧
      (s.withRow.searchPath = .none ∨ ∃ entries, s.withRow.searchPath = .rowOfTexts entries) := by
    unfold Settings.withRow
    rcases hpath with hpath | ⟨entries, hpath | hpath⟩ <;> rw [hpath]
    · exact ⟨rfl, .inl rfl⟩
    · exact ⟨congrArg Value.rowOfTexts (filterMap_map_str entries), .inr ⟨entries, rfl⟩⟩
    · exact ⟨congrArg Value.rowOfTexts (filterMap_map_str entries), .inr ⟨entries, rfl⟩⟩
  have hgiven : (s.root.text?.map Value.str).getD .none = s.root := by
    rcases hroot with hroot | ⟨root, hroot⟩ <;> rw [hroot] <;> rfl
  have htaken : ((Quantity.ofValue? s.timeout).getD (.whole 10)).toValue = s.timeout := by
    rw [htimeout]
    cases q <;> rfl
  refine ⟨?_, ?_, ⟨delimiter, hdelimiter, hdelimited⟩, ⟨q, htimeout, hlimits⟩, hrow.2,
    ⟨marker, hmarker, hmarked⟩⟩
  · change Settings.mk _ _ _ _ _ _ = ⟨s.root, s.delimiter, s.timeout, s.withRow.searchPath,
      s.compositeMarker, s.extras⟩
    dsimp only
    rw [hgiven, htaken, hrow.1, hdelimiter, hmarker, hextras]
    rfl
  · rcases hroot with hroot | ⟨root, hroot⟩
    · exact .inl hroot
    · rw [hroot] at hread
      exact .inr ⟨root, hroot, fun _ _ => mem_schemes_of_readRoot hread⟩

/-- However an environment comes to be, its fields hold what it was made from, within the limits: the
timeout is a number from a tenth to six hundred unless it is a truth value, and the other fields are as
documented. In general, what a parameter with bounds accepts lies within them: the length of a text or
a row, and a number that is no truth value. -/
theorem made_within_limits :
    (∀ {e : Environment}, e.Made → ∃ s : Settings, (ofSettings s).MayGive e ∧
      e.toSettings = s.withRow ∧ e.toSettings.WithinLimits) ∧
    ∀ {p : Parameter} {value : Value} {bounds : Bounds}, p.problem? value = none →
      p.bounds = some bounds →
      (∀ length, value.length? = some length →
        bounds.lower.le (.int length) = true ∧ (Quantity.int length).le bounds.upper = true) ∧
      ∀ q, value.measure? = some q → bounds.lower.le q = true ∧ q.le bounds.upper = true := by
  constructor
  · intro e he
    obtain ⟨s, hmade⟩ := he.exists_settings
    obtain ⟨hfields, hlimits⟩ := withinLimits_of_ofSettings hmade
    exact ⟨s, hmade, hfields, hfields ▸ hlimits⟩
  · intro p value bounds haccepted hbounds
    obtain ⟨hlength, hmeasure⟩ := Parameter.hold_of_problem?_eq_none haccepted hbounds
    exact ⟨fun length h => Bool.and_eq_true_iff.mp (hlength length h),
      fun q h => Bool.and_eq_true_iff.mp (hmeasure q h)⟩

/-- An environment from a mapping with a list for the search path, whose delimiter is then replaced. -/
theorem made_within_limits_replaced :
    let e : Environment :=
      ⟨some (text "http://h"), text "/", .int 30, some [text "a"], text "composite", []⟩
    e.Made ∧ (∃ s : Settings, (ofSettings s).MayGive e ∧ e.toSettings = s.withRow ∧
      e.toSettings.WithinLimits) ∧
    Parameter.timeout.problem? (.int 30) = none ∧
      Parameter.timeout.bounds = some ⟨.tenth, .whole 600⟩ ∧
      Quantity.tenth.le (.int 30) = true ∧ (Quantity.int 30).le (.whole 600) = true := by
  intro e
  let e' : Environment := { e with delimiter := text "." }
  let s : Settings := { e'.toSettings with searchPath := .list [.str (text "a")] }
  have hproblems : s.problems = [] := by decide +kernel
  let fields : List (Text × Value) := [(text "timeout", .int 30),
    (text "root", .str (text "http://h")), (text "search_path", .list [.str (text "a")])]
  let entries : List (Value × Value) := [(.str (text " Timeout "), .int 30),
    (.str (text "config_tree.root"), .str (text "http://h")),
    (.str (text "search_path"), .list [.str (text "a")])]
  have hfields : (ofFields (fields ++ [(text "extras", .dict [])])).MayGive e' :=
    mayGive_ofExcept_bind rfl (mayGive_ofSettings_iff.mpr ⟨hproblems, ⟨_, rfl⟩, rfl⟩)
  have hmapping : (ofMapping entries).MayGive e' := by
    have hsplit : splitMapping entries = .ok (fields, []) := by rfl
    refine mayGive_ofExcept_bind hsplit ?_
    dsimp only
    rw [if_neg (not_not_intro rfl)]
    exact hfields
  have hchanged : { e'.toSettings with delimiter := .str (text "/") }.problems = [] := by
    decide +kernel
  have hreplaced : (e'.replace [(text "delimiter", .str (text "/"))]).MayGive e :=
    mayGive_ofExcept_bind rfl (mayGive_ofSettings_iff.mpr ⟨hchanged, ⟨_, rfl⟩, rfl⟩)
  have hmade : e.Made := .replaced (.mapping hmapping) hreplaced
  have haccepted : Parameter.timeout.problem? (.int 30) = none := by decide +kernel
  exact ⟨hmade, made_within_limits.1 hmade, haccepted, rfl,
    (made_within_limits.2 haccepted rfl).2 (.int 30) rfl⟩

/-- Bounds do not limit truth values, so a timeout may be no number from a tenth on: the one that counts
as zero is accepted. -/
theorem not_made_within_limits : ¬ ∀ e : Environment, e.Made →
    ∃ t : ℚ, e.timeout.value? = some t ∧ 1 / 10 ≤ t ∧ t ≤ 600 := by
  intro hlimits
  let s : Settings := { Settings.default with timeout := .bool false }
  have hproblems : s.problems = [] := by decide +kernel
  have hmade : (ofFields [(text "timeout", .bool false)]).MayGive
      ⟨none, text ".", .bool false, none, text "composite", []⟩ :=
    mayGive_ofExcept_bind rfl (mayGive_ofSettings_iff.mpr ⟨hproblems, ⟨_, rfl⟩, rfl⟩)
  obtain ⟨t, ht, htenth, -⟩ := hlimits _ (.fields hmade)
  obtain rfl : t = 0 := by
    rw [Quantity.value?_bool] at ht
    simpa using (Option.some.inj ht).symm
  norm_num at htenth

end Environment

end ConfigNamespace
