import ConfigNamespace.Proofs.Environment.Limits
import Mathlib.Data.List.Nodup

/-!
# Environments as mappings and back

An environment is exported as a mapping of its extras and its five settings, and an environment is made
from such a mapping again. The settings come back under their keys, and everything else is kept as extras.
So the way there and back gives the same environment as long as no extra stands under a name of a setting,
and the keys of all extras can be read: a text, or a row of bytes. Environments that are themselves made
from mappings have no other extras.
-/

namespace ConfigNamespace

open Operation

namespace Environment

/-- Whether extras can be told from settings: they stand under texts that name no parameter, or under
rows of bytes. -/
def AreApart (extras : List (Value × Value)) : Prop :=
  (∀ entry ∈ extras, ∃ name, entry.1 = .str name ∧
    ParameterRegistry.builtin.resolve? name = none) ∨
  ∀ entry ∈ extras, ∃ bytes, entry.1 = .bytes bytes

section Keys

variable {key value : Value} {extras entries : List (Value × Value)}

/-- Whether a key is that of an extra. -/
def IsExtra (key : Value) : Prop :=
  (∃ name, key = .str name ∧ ParameterRegistry.builtin.resolve? name = none) ∨
    ∃ bytes, key = .bytes bytes

/-- Extras that are apart from the settings are extras. -/
theorem AreApart.isExtra (h : AreApart extras) : ∀ entry ∈ extras, IsExtra entry.1 :=
  fun entry hentry => h.imp (· entry hentry) (· entry hentry)

/-- An extra is no setting. -/
theorem splitMapping_cons_of_isExtra (h : IsExtra key) (value : Value)
    (mapping : List (Value × Value)) :
    splitMapping ((key, value) :: mapping) =
      (splitMapping mapping).map fun parts => (parts.1, (key, value) :: parts.2) := by
  rw [splitMapping]
  rcases h with ⟨name, rfl, hname⟩ | ⟨bytes, rfl⟩
  · simp only [settingName?, bind, Except.bind, Option.bind, hname]
    cases splitMapping mapping <;> rfl
  · cases splitMapping mapping <;> rfl

/-- Extras before other entries are extras before those of the others. -/
theorem splitMapping_append (h : ∀ entry ∈ extras, IsExtra entry.1) (mapping : List (Value × Value)) :
    splitMapping (extras ++ mapping) =
      (splitMapping mapping).map fun parts => (parts.1, extras ++ parts.2) := by
  induction extras with
  | nil =>
    rw [List.nil_append]
    cases splitMapping mapping <;> rfl
  | cons entry extras ih =>
    rw [List.cons_append, splitMapping_cons_of_isExtra (h entry List.mem_cons_self),
      ih fun other hother => h other (List.mem_cons_of_mem _ hother)]
    cases splitMapping mapping <;> rfl

/-- What is left of a mapping are extras. -/
theorem isExtra_of_splitMapping {mapping : List (Value × Value)} {fields : List (Text × Value)}
    (h : splitMapping mapping = .ok (fields, extras)) : ∀ entry ∈ extras, IsExtra entry.1 := by
  induction mapping generalizing fields extras with
  | nil =>
    cases h
    exact fun entry hentry => absurd hentry List.not_mem_nil
  | cons entry mapping ih =>
    obtain ⟨key, value⟩ := entry
    rw [splitMapping] at h
    cases hname : settingName? key with
    | error failure =>
      rw [hname] at h
      cases h
    | ok name =>
      cases hrest : splitMapping mapping with
      | error failure =>
        rw [hname, hrest] at h
        cases h
      | ok parts =>
        rw [hname, hrest] at h
        simp only [bind, Except.bind] at h
        split at h
        next =>
          cases h
          exact ih hrest
        next hnone =>
          cases h
          refine List.forall_mem_cons.mpr ⟨?_, ih hrest⟩
          cases key with
          | str s =>
            cases hname
            exact .inl ⟨s, rfl, hnone⟩
          | bytes bytes => exact .inr ⟨bytes, rfl⟩
          | _ => cases hname

/-- Keys can be shown in order exactly if they are of one type. -/
theorem exists_orderedKeys_iff {first : Value × Value} {rest : List (Value × Value)} :
    (∃ shown, orderedKeys ((first :: rest).map (·.1)) = .ok shown) ↔
      ∀ entry ∈ rest, entry.1.typeName = first.1.typeName := by
  have hall : (∀ entry ∈ rest, entry.1.typeName = first.1.typeName) ↔
      (rest.map (·.1)).find? (fun key => key.typeName ≠ first.1.typeName) = none := by
    simp [List.find?_eq_none]
  rw [hall, List.map_cons, orderedKeys]
  cases (rest.map (·.1)).find? fun key => key.typeName ≠ first.1.typeName with
  | none => simp
  | some other => simp

/-- Extras are those that can be told from settings exactly if their keys are no settings and can be
shown in order. -/
theorem areApart_iff : AreApart extras ↔
    (∀ entry ∈ extras, IsExtra entry.1) ∧ ∃ shown, orderedKeys (extras.map (·.1)) = .ok shown := by
  constructor
  · intro h
    refine ⟨h.isExtra, ?_⟩
    cases extras with
    | nil => exact ⟨[], rfl⟩
    | cons first rest =>
      refine exists_orderedKeys_iff.mpr fun entry hentry => ?_
      rcases h with h | h
      · obtain ⟨⟨name, hname, -⟩, hrest⟩ := List.forall_mem_cons.mp h
        obtain ⟨other, hother, -⟩ := hrest entry hentry
        rw [hname, hother]
        rfl
      · obtain ⟨⟨bytes, hbytes⟩, hrest⟩ := List.forall_mem_cons.mp h
        obtain ⟨other, hother⟩ := hrest entry hentry
        rw [hbytes, hother]
        rfl
  · rintro ⟨hextra, hshown⟩
    cases extras with
    | nil => exact .inl fun entry hentry => absurd hentry List.not_mem_nil
    | cons first rest =>
      have htypes := exists_orderedKeys_iff.mp hshown
      obtain ⟨hfirst, hrest⟩ := List.forall_mem_cons.mp hextra
      rcases hfirst with ⟨name, hname, hfree⟩ | ⟨bytes, hbytes⟩
      · refine .inl (List.forall_mem_cons.mpr ⟨⟨name, hname, hfree⟩, fun entry hentry => ?_⟩)
        refine (hrest entry hentry).resolve_right fun ⟨other, hother⟩ => ?_
        have htype := htypes entry hentry
        rw [hname, hother] at htype
        exact absurd htype (by decide : "bytes" ≠ "str")
      · refine .inr (List.forall_mem_cons.mpr ⟨⟨bytes, hbytes⟩, fun entry hentry => ?_⟩)
        refine (hrest entry hentry).resolve_left fun ⟨other, hother, _⟩ => ?_
        have htype := htypes entry hentry
        rw [hbytes, hother] at htype
        exact absurd htype (by decide : "str" ≠ "bytes")

end Keys

section Export

variable {e : Environment} {key : Text} {value : Value} {extras entries : List (Value × Value)}

/-- A value under a key that is not there comes last. -/
theorem putValue_of_forall_ne (h : ∀ entry ∈ entries, entry.1 ≠ .str key) (value : Value) :
    putValue (.str key) value entries = entries ++ [(.str key, value)] := by
  induction entries with
  | nil => rfl
  | cons entry entries ih =>
    obtain ⟨hentry, hentries⟩ := List.forall_mem_cons.mp h
    rw [putValue, if_neg (mt same_str_iff.mp hentry), ih hentries, List.cons_append]

/-- Values under different keys that are not there come last in their order. -/
theorem foldl_putValue {settings : List (Text × Value)} (hkeys : (settings.map (·.1)).Nodup)
    (hentries : ∀ setting ∈ settings, ∀ entry ∈ entries, entry.1 ≠ .str setting.1) :
    settings.foldl (fun entries setting => putValue (.str setting.1) setting.2 entries) entries =
      entries ++ settings.map fun setting => (.str setting.1, setting.2) := by
  induction settings generalizing entries with
  | nil => simp
  | cons setting settings ih =>
    obtain ⟨hfirst, hothers⟩ := List.forall_mem_cons.mp hentries
    obtain ⟨hnew, hrest⟩ := List.nodup_cons.mp hkeys
    rw [List.foldl_cons, putValue_of_forall_ne hfirst, ih hrest, List.map_cons, List.append_assoc,
      List.singleton_append]
    intro other hother entry hentry
    rcases List.mem_append.mp hentry with hentry | hentry
    · exact hothers other hother entry hentry
    · rw [List.mem_singleton.mp hentry]
      intro heq
      exact hnew (List.mem_map.mpr ⟨other, hother, (Value.str.inj heq).symm⟩)

/-- The settings of an environment under the keys of a mapping. -/
def exportedSettings (e : Environment) : List (Text × Value) := [
  (rootKey, e.toSettings.root), (delimiterKey, e.toSettings.delimiter),
  (text "config_tree.timeout", e.toSettings.timeout),
  (text "config_tree.search_path", e.toSettings.searchPath),
  (text "config_tree.composite_marker", e.toSettings.compositeMarker)]

/-- The settings of an environment by field. -/
def exportedFields (e : Environment) : List (Text × Value) := [
  (text "root", e.toSettings.root), (text "delimiter", e.toSettings.delimiter),
  (text "timeout", e.toSettings.timeout), (text "search_path", e.toSettings.searchPath),
  (text "composite_marker", e.toSettings.compositeMarker)]

/-- The keys of the settings are those of parameters. -/
theorem resolve?_ne_none_of_mem {setting : Text × Value} (h : setting ∈ e.exportedSettings) :
    ParameterRegistry.builtin.resolve? setting.1 ≠ none := by
  have hkeys : ∀ key ∈ [rootKey, delimiterKey, text "config_tree.timeout",
      text "config_tree.search_path", text "config_tree.composite_marker"],
      ParameterRegistry.builtin.resolve? key ≠ none := by decide +kernel
  exact hkeys _ (List.mem_map_of_mem (f := (·.1)) h)

/-- Settings do not replace extras. -/
theorem toMapping_eq (h : ∀ entry ∈ e.extras, IsExtra entry.1) :
    e.toMapping = e.extras ++ e.exportedSettings.map fun setting => (.str setting.1, setting.2) := by
  have hkeys : (e.exportedSettings.map (·.1)).Nodup := by
    change [rootKey, delimiterKey, text "config_tree.timeout", text "config_tree.search_path",
      text "config_tree.composite_marker"].Nodup
    decide +kernel
  refine foldl_putValue hkeys fun setting hsetting entry hentry heq => ?_
  rcases h entry hentry with ⟨name, hname, hfree⟩ | ⟨bytes, hbytes⟩
  · obtain rfl := Value.str.inj (hname.symm.trans heq)
    exact resolve?_ne_none_of_mem hsetting hfree
  · cases hbytes.symm.trans heq

/-- A mapping of an environment is split into its settings and its extras. -/
theorem splitMapping_toMapping (h : ∀ entry ∈ e.extras, IsExtra entry.1) :
    splitMapping e.toMapping = .ok (e.exportedFields, e.extras) := by
  have hsettings : splitMapping (e.exportedSettings.map fun setting => (.str setting.1, setting.2)) =
      .ok (e.exportedFields, []) := by
    rfl
  rw [toMapping_eq h, splitMapping_append h, hsettings]
  exact congrArg (fun extras => Except.ok (e.exportedFields, extras)) (List.append_nil e.extras)

/-- The settings of an environment and its extras are all that it is made from. -/
theorem setAll_exportedFields (e : Environment) :
    Settings.default.setAll (e.exportedFields ++ [(text "extras", .dict e.extras)]) =
      .ok e.toSettings := by
  rfl

/-- An environment is what its settings make. -/
theorem toEnvironment_toSettings (e : Environment) : e.toSettings.toEnvironment = .ok e := by
  obtain ⟨root, delimiter, timeout, searchPath, compositeMarker, extras⟩ := e
  have hroot : ((root.map Value.str).getD .none).text? = root := by cases root <;> rfl
  have htimeout : Quantity.ofValue? timeout.toValue = some timeout := by cases timeout <;> rfl
  have hpath : Settings.textsOf ((searchPath.map Value.rowOfTexts).getD .none) = searchPath := by
    cases searchPath with
    | none => rfl
    | some entries => exact congrArg some (filterMap_map_str entries)
  rw [Settings.toEnvironment]
  simp only [toSettings, hroot, htimeout, hpath]
  rfl

end Export

section Acceptance

variable {e : Environment}

/-- Settings have no problems exactly if none has. -/
theorem problems_eq_nil_iff {s : Settings} :
    s.problems = [] ↔ ∀ judged ∈ s.judged, judged.1.problem? judged.2 = none := by
  rw [Settings.problems, List.filterMap_eq_nil_iff]
  simp only [Option.map_eq_none_iff]

/-- A search path that is accepted as a list is accepted as a row. -/
theorem problem?_tuple {vs : List Value} (h : Parameter.searchPath.problem? (.list vs) = none) :
    Parameter.searchPath.problem? (.tuple vs) = none := h

/-- Settings without problems have none with a row for a search path. -/
theorem problems_withRow {s : Settings} (h : s.problems = []) : s.withRow.problems = [] := by
  rw [problems_eq_nil_iff] at h ⊢
  simp only [Settings.judged, List.forall_mem_cons] at h ⊢
  obtain ⟨hroot, hdelimiter, htimeout, hpath, hrest⟩ := h
  refine ⟨hroot, hdelimiter, htimeout, ?_, hrest⟩
  unfold Settings.withRow
  dsimp only
  split
  next vs hvs => exact problem?_tuple (hvs ▸ hpath)
  next => exact hpath

/-- Whether the settings of an environment are accepted as they are. -/
structure IsAccepted (e : Environment) : Prop where
  /-- No setting has a problem. -/
  problems_eq : e.toSettings.problems = []
  /-- The root can be read. -/
  readRoot_ok : ∃ parts, readRoot e.root = .ok parts

/-- The settings of an environment that was made from settings are accepted. -/
theorem isAccepted_of_ofSettings {s : Settings} (h : (ofSettings s).MayGive e) : e.IsAccepted where
  problems_eq := by
    rw [(withinLimits_of_ofSettings h).1]
    exact problems_withRow (mayGive_ofSettings_iff.mp h).1
  readRoot_ok := (isSound_of_ofSettings h).readRoot_ok

/-- A delimiter that is not empty has no problem. -/
theorem problem?_delimiter {delimiter : Text} (h : delimiter ≠ []) :
    Parameter.delimiter.problem? (.str delimiter) = none := by
  have hlong : (Quantity.int 1).le (.int delimiter.length) = true := by
    rw [Quantity.int_le_int]
    have hpos := List.length_pos_iff.mpr h
    exact decide_eq_true (by omega)
  have hshort : (Quantity.int delimiter.length).le .infinity = true := by
    simp only [Quantity.le, Quantity.place?, Quantity.infinity]
    rfl
  have hhold : Bounds.hold ⟨.int 1, .infinity⟩ (.int delimiter.length) = true :=
    Bool.and_eq_true_iff.mpr ⟨hlong, hshort⟩
  have hbounds : Parameter.delimiter.boundsProblem? (.str delimiter) = none := by
    unfold Parameter.boundsProblem?
    exact if_pos hhold
  have htype : Parameter.delimiter.typeProblem? (.str delimiter) = none := rfl
  have hvalidator : Parameter.delimiter.validatorProblem? (.str delimiter) = none := rfl
  calc Parameter.delimiter.problem? (.str delimiter)
    _ = (Parameter.delimiter.typeProblem? (.str delimiter) <|>
        Parameter.delimiter.boundsProblem? (.str delimiter) <|>
        Parameter.delimiter.validatorProblem? (.str delimiter)) := rfl
    _ = none := by
      rw [htype, hbounds, hvalidator]
      rfl

/-- Another root and another delimiter that can be used are accepted as well. -/
theorem IsAccepted.with_settings (h : e.IsAccepted) {root : Option Text} {delimiter : Text}
    (hsound : IsSound { e with root, delimiter }) : IsAccepted { e with root, delimiter } := by
  refine ⟨?_, hsound.readRoot_ok⟩
  have hjudged := problems_eq_nil_iff.mp h.problems_eq
  rw [problems_eq_nil_iff]
  simp only [Settings.judged, List.forall_mem_cons] at hjudged ⊢
  refine ⟨?_, problem?_delimiter hsound.delimiter_ne, hjudged.2.2⟩
  cases root <;> rfl

/-- The environment of settings that are accepted. -/
theorem outcome_ofSettings (h : e.IsAccepted) (log : Log) :
    (ofSettings e.toSettings).outcome log = (.ok e, log) := by
  obtain ⟨parts, hread⟩ := h.readRoot_ok
  have hroot : e.toSettings.root.text? = e.root := by
    unfold toSettings
    dsimp only
    cases e.root <;> rfl
  rw [ofSettings, if_neg (not_not_intro h.problems_eq), hroot, hread, outcome_bind, outcome_ofExcept]
  dsimp only
  rw [outcome_ofExcept, toEnvironment_toSettings]

/-- An environment that is accepted is made from its own fields again. -/
theorem IsAccepted.outcome_ofFields (h : e.IsAccepted) (log : Log) :
    (ofFields (e.exportedFields ++ [(text "extras", .dict e.extras)])).outcome log = (.ok e, log) := by
  rw [ofFields, outcome_bind, outcome_ofExcept, setAll_exportedFields]
  exact outcome_ofSettings h log

/-- The environments that are accepted are those that can come to be. -/
theorem isAccepted_iff_made : e.IsAccepted ↔ e.Made := by
  constructor
  · intro h
    exact .fields ⟨[], congrArg Prod.fst (h.outcome_ofFields [])⟩
  · intro h
    obtain ⟨s, hs⟩ := h.exists_settings
    exact isAccepted_of_ofSettings hs

/-- An environment that is accepted is made from its own mapping again. -/
theorem IsAccepted.outcome_ofMapping (h : e.IsAccepted) (hextras : AreApart e.extras) (log : Log) :
    ((ofMapping e.toMapping).outcome log).1 = .ok e := by
  obtain ⟨hextra, shown, hshown⟩ := areApart_iff.mp hextras
  rw [ofMapping, outcome_bind, outcome_ofExcept, splitMapping_toMapping hextra]
  dsimp only
  split
  · rw [outcome_bind, outcome_ofExcept, hshown]
    exact congrArg Prod.fst (h.outcome_ofFields _)
  · exact congrArg Prod.fst (h.outcome_ofFields log)

/-- Fields are set one after the other. -/
theorem setAll_append (s : Settings) (fields more : List (Text × Value)) :
    s.setAll (fields ++ more) = (s.setAll fields).bind (·.setAll more) := by
  induction fields generalizing s with
  | nil => rfl
  | cons field fields ih =>
    rw [List.cons_append, Settings.setAll, Settings.setAll]
    cases s.set field.1 field.2 with
    | error failure => rfl
    | ok s => exact ih s

/-- An environment of a mapping has no extras but those that can be told from settings. -/
theorem areApart_of_ofMapping {mapping : List (Value × Value)} (h : (ofMapping mapping).MayGive e) :
    AreApart e.extras := by
  obtain ⟨fields, extras, hsplit, hshown, h⟩ := split_of_mayGive_ofMapping h
  have hkept : e.extras = extras := by
    obtain ⟨s, hset, h⟩ := h.of_bind
    obtain ⟨given, hgiven, rfl⟩ := fields_of_toEnvironment (mayGive_ofSettings_iff.mp h).2.2
    have hset := eq_ok_of_mayGive_ofExcept hset
    rw [setAll_append] at hset
    cases hfields : Settings.default.setAll fields with
    | error failure =>
      rw [hfields] at hset
      cases hset
    | ok before =>
      rw [hfields] at hset
      have hlast : before.setAll [(text "extras", .dict extras)] =
          .ok { before with extras := .dict extras } := rfl
      obtain rfl := Except.ok.inj (hlast.symm.trans hset)
      exact (Value.dict.inj hgiven).symm
  exact hkept ▸ areApart_iff.mpr ⟨isExtra_of_splitMapping hsplit, hshown⟩

end Acceptance

end Environment

end ConfigNamespace
