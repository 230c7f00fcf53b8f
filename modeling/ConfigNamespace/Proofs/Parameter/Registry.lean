import ConfigNamespace.Parameter.Builtin
import ConfigNamespace.Proofs.Keyed
import ConfigNamespace.Proofs.Operation

/-!
# Names that come and stay

A call that registers a parameter is refused where its name, or one of its aliases, was taken by
another of the same sort, and then nothing changes. But names are compared with names only and
aliases with aliases, while a name goes before an alias. So without leave to override, the names that
were known stand for what they stood for exactly if the new name was no alias, and an alias
that is given stands for the new parameter exactly if it is no name.
-/

namespace ConfigNamespace

open Operation

/-- A call that registers a parameter. -/
structure Registration where
  /-- The parameter. -/
  parameter : Parameter
  /-- Further names that are to stand for it. -/
  aliases : List Text
  /-- Whether the call may override. -/
  override : Bool

/-- The name that counts of the parameter of a call. -/
def Registration.key (call : Registration) : Text := ParameterRegistry.canonical call.parameter.name

namespace ParameterRegistry

variable {registry : ParameterRegistry}

/-- What a call does. -/
def registering (registry : ParameterRegistry) (call : Registration) :
    Operation Log ParameterRegistry :=
  registry.register call.parameter call.aliases call.override

/-- Whether a call is refused: it may not override, and its name is registered, or one of its aliases
stands for another parameter. -/
def Refuses (registry : ParameterRegistry) (call : Registration) : Prop :=
  call.override = false ∧
    ((registry.parameter? call.key).isSome ∨
      ∃ name ∈ call.aliases, ∃ other ∈ registry.aliases.get? (canonical name), other ≠ call.key)

instance (call : Registration) : Decidable (registry.Refuses call) :=
  inferInstanceAs (Decidable (_ ∧ (_ ∨ _)))

/-- The registry after a call. A call that fails leaves it as it was. -/
def after (registry : ParameterRegistry) (call : Registration) : ParameterRegistry :=
  match ((registry.registering call).outcome []).1 with
  | .ok changed => changed
  | .error _ => registry

/-- Whether a registry can come to be by calls that register parameters. -/
inductive Reachable : ParameterRegistry → Prop
  /-- No call was made. -/
  | empty : Reachable empty
  /-- One more call was made. -/
  | after {registry : ParameterRegistry} (h : Reachable registry) (call : Registration) :
    Reachable (registry.after call)

/-- Whether every name that is known stands for the same parameter as before. -/
def Keeps (registry changed : ParameterRegistry) : Prop :=
  ∀ name key, registry.resolve? name = some key → changed.resolve? name = some key

/-- There is a conflict exactly if some alias stands for another parameter. -/
theorem conflict?_isSome_iff {key : Text} {aliases : List Text} :
    (registry.conflict? key aliases).isSome ↔
      ∃ name ∈ aliases, ∃ other ∈ registry.aliases.get? (canonical name), other ≠ key := by
  unfold conflict?
  rw [List.findSome?_isSome_iff]
  refine exists_congr fun name => and_congr_right fun _ => ?_
  cases registry.aliases.get? (canonical name) with
  | none => simp
  | some other => by_cases heq : other = key <;> simp [heq]

/-- What a name or alias stands for. -/
theorem resolve?_eq (registry : ParameterRegistry) (name : Text) : registry.resolve? name =
    if (registry.parameter? (canonical name)).isSome then some (canonical name)
    else registry.aliases.get? (canonical name) := rfl

section Outcome

variable {call : Registration}

/-- A refused call fails. -/
theorem outcome_of_refuses (h : registry.Refuses call) (log : Log) :
    ∃ failure, ((registry.registering call).outcome log).1 = .error failure := by
  obtain ⟨p, aliases, override⟩ := call
  obtain ⟨rfl, htaken⟩ : override = false ∧ _ := h
  rw [← conflict?_isSome_iff] at htaken
  unfold Registration.key at htaken
  unfold registering register
  cases hknown : registry.parameter? (canonical p.name) with
  | some known =>
    refine ⟨.duplicateParameter [(p.name, text "Parameter already registered.")], ?_⟩
    simp only [hknown]
    rfl
  | none =>
    rw [hknown] at htaken
    obtain ⟨⟨name, other⟩, hconflict⟩ := Option.isSome_iff_exists.mp (htaken.resolve_left nofun)
    refine ⟨.rejected [(name, text "Alias already used for " ++ other ++ text ".")] none, ?_⟩
    simp only [hknown, hconflict]
    rfl

/-- A call that is not refused adds its parameter and its aliases. -/
theorem outcome_of_not_refuses (h : ¬ registry.Refuses call) (log : Log) :
    ((registry.registering call).outcome log).1 =
      .ok (registry.insert call.parameter call.aliases) := by
  obtain ⟨p, aliases, override⟩ := call
  unfold registering register
  cases override with
  | true => rfl
  | false =>
    obtain ⟨hfresh, hagreed⟩ := not_or.mp fun htaken => h ⟨rfl, htaken⟩
    rw [← conflict?_isSome_iff, Option.not_isSome_iff_eq_none] at hagreed
    rw [Option.not_isSome_iff_eq_none] at hfresh
    unfold Registration.key at hfresh hagreed
    simp only [hfresh, hagreed]
    rfl

/-- A refused call changes nothing. -/
theorem after_of_refuses (h : registry.Refuses call) : registry.after call = registry := by
  obtain ⟨failure, houtcome⟩ := outcome_of_refuses h []
  rw [after, houtcome]

/-- A call that is not refused inserts its parameter. -/
theorem after_of_not_refuses (h : ¬ registry.Refuses call) :
    registry.after call = registry.insert call.parameter call.aliases := by
  rw [after, outcome_of_not_refuses h]

end Outcome

section Insert

variable {p : Parameter} {aliases : List Text}

/-- The inserted parameter is found under its name, and the others under theirs. -/
theorem parameter?_insert (registry : ParameterRegistry) (p : Parameter) (aliases : List Text)
    (key : Text) : (registry.insert p aliases).parameter? key =
      if key = canonical p.name then some p else registry.parameter? key :=
  Keyed.get?_put (canonical p.name) key p registry.parameters

/-- Aliases that are put one after another all stand for the same name. -/
theorem get?_foldl_put (key name : Text) (aliases : List Text) (entries : Keyed Text) :
    (aliases.foldl (fun entries a => Keyed.put (canonical a) key entries) entries).get? name =
      if name ∈ aliases.map canonical then some key else entries.get? name := by
  induction aliases generalizing entries with
  | nil => rfl
  | cons a aliases ih =>
    rw [List.foldl_cons, ih, Keyed.get?_put, List.map_cons]
    by_cases hlater : name ∈ aliases.map canonical
    · rw [if_pos hlater, if_pos (.tail _ hlater)]
    · simp only [hlater, List.mem_cons, or_false, if_false]

/-- The inserted aliases stand for the inserted parameter, and the others for theirs. -/
theorem aliases_insert (registry : ParameterRegistry) (p : Parameter) (aliases : List Text)
    (name : Text) : (registry.insert p aliases).aliases.get? name =
      if name ∈ aliases.map canonical then some (canonical p.name) else registry.aliases.get? name :=
  get?_foldl_put (canonical p.name) name aliases registry.aliases

/-- A parameter that was added is known by its name. -/
theorem resolve?_insert_self {name : Text} (h : canonical name = canonical p.name) :
    (registry.insert p aliases).resolve? name = some (canonical p.name) := by
  simp only [resolve?_eq, parameter?_insert, h, if_true, Option.isSome_some]

/-- Any other name stands for the parameter that was added only as one of its aliases, and only where
it is no name of a parameter. -/
theorem resolve?_insert_of_ne {name : Text} (h : canonical name ≠ canonical p.name) :
    (registry.insert p aliases).resolve? name =
      if (registry.parameter? (canonical name)).isSome then some (canonical name)
      else if canonical name ∈ aliases.map canonical then some (canonical p.name)
      else registry.aliases.get? (canonical name) := by
  simp only [resolve?_eq, parameter?_insert, h, if_false, aliases_insert]

end Insert

/-- Every alias stands for a parameter that is registered, whatever calls were made. -/
theorem Reachable.isSome_of_alias (h : registry.Reachable) {name key : Text}
    (halias : registry.aliases.get? name = some key) : (registry.parameter? key).isSome := by
  induction h generalizing name key with
  | empty => cases halias
  | @after registry _ call ih =>
    by_cases hrefused : registry.Refuses call
    · rw [after_of_refuses hrefused] at halias ⊢
      exact ih halias
    · rw [after_of_not_refuses hrefused] at halias ⊢
      rw [aliases_insert] at halias
      rw [parameter?_insert]
      split at halias
      · cases halias
        rw [if_pos rfl]
        rfl
      · split
        · rfl
        · exact ih halias

/-- What a name stands for is a parameter. -/
theorem Reachable.isSome_of_resolve? (h : registry.Reachable) {name key : Text}
    (hname : registry.resolve? name = some key) : (registry.parameter? key).isSome := by
  rw [resolve?_eq] at hname
  split at hname
  next hknown =>
    cases hname
    exact hknown
  · exact h.isSome_of_alias hname

section Accepted

variable {call : Registration}

/-- The name of a call that is accepted without leave to override was not registered. -/
theorem parameter?_key_of_not_refuses (h : ¬ registry.Refuses call) (hoverride : call.override = false) :
    registry.parameter? call.key = none :=
  Option.not_isSome_iff_eq_none.mp fun hknown => h ⟨hoverride, .inl hknown⟩

/-- The aliases of a call that is accepted without leave to override were no aliases before: they would
stand for the name of the call, which was not registered. -/
theorem aliases_of_not_refuses (hreachable : registry.Reachable) (h : ¬ registry.Refuses call)
    (hoverride : call.override = false) {name : Text} (hname : name ∈ call.aliases.map canonical) :
    registry.aliases.get? name = none := by
  obtain ⟨a, ha, rfl⟩ := List.mem_map.mp hname
  refine Option.eq_none_iff_forall_not_mem.mpr fun other hother => ?_
  have hkey : other = call.key := by
    by_contra hne
    exact h ⟨hoverride, .inr ⟨a, ha, other, hother, hne⟩⟩
  have hsome := hreachable.isSome_of_alias hother
  rw [hkey, parameter?_key_of_not_refuses h hoverride] at hsome
  cases hsome

/-- Without leave to override, only the name of the parameter itself can change its meaning. -/
theorem resolve?_after_of_ne (hreachable : registry.Reachable) (h : ¬ registry.Refuses call)
    (hoverride : call.override = false) {name key : Text} (hname : registry.resolve? name = some key)
    (hne : canonical name ≠ call.key) : (registry.after call).resolve? name = some key := by
  rw [after_of_not_refuses h, resolve?_insert_of_ne hne]
  rw [resolve?_eq] at hname
  split at hname
  next hknown => rw [if_pos hknown, hname]
  next hunknown =>
    rw [if_neg hunknown, if_neg, hname]
    intro hgiven
    rw [aliases_of_not_refuses hreachable h hoverride hgiven] at hname
    cases hname

/-- Without leave to override, everything known keeps its meaning exactly if the new name was no
alias. -/
theorem keeps_after_iff (hreachable : registry.Reachable) (h : ¬ registry.Refuses call)
    (hoverride : call.override = false) :
    registry.Keeps (registry.after call) ↔ registry.aliases.get? call.key = none := by
  have hfresh := parameter?_key_of_not_refuses h hoverride
  have hresolved {name : Text} (hname : canonical name = call.key) :
      registry.resolve? name = registry.aliases.get? call.key := by
    simp only [resolve?_eq, hname, hfresh, Option.isSome_none, Bool.false_eq_true, if_false]
  constructor
  · intro hkeeps
    refine Option.eq_none_iff_forall_not_mem.mpr fun old hold => ?_
    have hkept := hkeeps call.parameter.name old ((hresolved rfl).trans hold)
    rw [after_of_not_refuses h, resolve?_insert_self rfl] at hkept
    -- the alias stood for a registered parameter, and the new name was not registered
    have hsome := hreachable.isSome_of_alias hold
    rw [← Option.some.inj hkept, show registry.parameter? (canonical call.parameter.name) = none
      from hfresh] at hsome
    cases hsome
  · intro hnone name old hold
    refine resolve?_after_of_ne hreachable h hoverride hold fun hname => ?_
    rw [hresolved hname, hnone] at hold
    cases hold

/-- An alias that is given stands for the new parameter exactly if it is no name of another one. -/
theorem resolve?_after_alias_iff (h : ¬ registry.Refuses call) {name : Text}
    (hname : name ∈ call.aliases) : (registry.after call).resolve? name = some call.key ↔
      registry.parameter? (canonical name) = none ∨ canonical name = call.key := by
  rw [after_of_not_refuses h]
  by_cases hself : canonical name = call.key
  · exact iff_of_true (resolve?_insert_self hself) (.inr hself)
  · rw [resolve?_insert_of_ne hself]
    cases registry.parameter? (canonical name) with
    | some known => simp [hself]
    | none =>
      simp only [Option.isSome_none, Bool.false_eq_true, if_false, true_or, iff_true]
      exact if_pos (List.mem_map_of_mem hname)

end Accepted

/-- A call that registers a parameter fails exactly if it is refused, and then every name keeps its
meaning. A call that succeeds makes the parameter known by its name. If it may not override, what was
known keeps its meaning but for the new name itself, so that nothing changes exactly if that name was
no alias; and each alias that is given stands for the new parameter exactly if it is not the name of
another one. -/
theorem register_conservative (hreachable : registry.Reachable) (call : Registration) :
    (∀ log, (∃ failure, ((registry.registering call).outcome log).1 = .error failure) ↔
      registry.Refuses call) ∧
    (registry.Refuses call → ∀ name, (registry.after call).resolve? name = registry.resolve? name) ∧
    (¬ registry.Refuses call →
      (∀ log, ((registry.registering call).outcome log).1 = .ok (registry.after call)) ∧
      (registry.after call).resolve? call.parameter.name = some call.key ∧
      (registry.after call).parameter? call.key = some call.parameter ∧
      (call.override = false →
        (∀ name key, registry.resolve? name = some key → canonical name ≠ call.key →
          (registry.after call).resolve? name = some key) ∧
        (registry.Keeps (registry.after call) ↔ registry.aliases.get? call.key = none) ∧
        ∀ name ∈ call.aliases, (registry.after call).resolve? name = some call.key ↔
          registry.parameter? (canonical name) = none)) := by
  refine ⟨fun log => ?_, fun h name => by rw [after_of_refuses h], fun h => ?_⟩
  · refine ⟨fun hfailed => ?_, fun h => outcome_of_refuses h log⟩
    obtain ⟨failure, hfailed⟩ := hfailed
    by_contra haccepted
    rw [outcome_of_not_refuses haccepted] at hfailed
    cases hfailed
  · refine ⟨fun log => ?_, ?_, ?_, fun hoverride => ⟨?_, ?_, ?_⟩⟩
    · rw [outcome_of_not_refuses h, after_of_not_refuses h]
    · rw [after_of_not_refuses h]
      exact resolve?_insert_self rfl
    · rw [after_of_not_refuses h, parameter?_insert]
      exact if_pos rfl
    · exact fun _ _ hname hne => resolve?_after_of_ne hreachable h hoverride hname hne
    · exact keeps_after_iff hreachable h hoverride
    · intro name hname
      rw [resolve?_after_alias_iff h hname, or_iff_left_of_imp]
      intro hself
      rw [hself]
      exact parameter?_key_of_not_refuses h hoverride

/-- The root with an alias, and then the delimiter with one. -/
theorem register_conservative_delimiter :
    let registry := empty.after ⟨.root, [text "config_tree.root"], false⟩
    let call : Registration := ⟨.delimiter, [text "config_tree.delimiter"], false⟩
    registry.Reachable ∧ ¬ registry.Refuses call ∧ registry.Keeps (registry.after call) ∧
      (registry.after call).resolve? (text " Config_Tree.Delimiter") = some (text "DELIMITER") := by
  intro registry call
  have hreachable : registry.Reachable := .after .empty _
  have haccepted : ¬ registry.Refuses call := by decide +kernel
  obtain ⟨-, -, -, hoverriding⟩ := (register_conservative hreachable call).2.2 haccepted
  obtain ⟨-, hkept, halias⟩ := hoverriding rfl
  exact ⟨hreachable, haccepted, hkept.mpr (by decide +kernel),
    (halias _ (.head _)).mpr (by decide +kernel)⟩

/-- A parameter with the name of an alias takes it over, and an alias that is the name of a parameter
stands for that one: a call that succeeds without leave to override may change what was known, and it
may leave an alias that it was given to another parameter. -/
theorem not_register_conservative :
    (¬ ∀ (registry : ParameterRegistry) (call : Registration), registry.Reachable →
      call.override = false → ¬ registry.Refuses call → registry.Keeps (registry.after call)) ∧
    ¬ ∀ (registry : ParameterRegistry) (call : Registration), registry.Reachable →
      call.override = false → ¬ registry.Refuses call →
      ∀ name ∈ call.aliases, (registry.after call).resolve? name = some call.key := by
  let registry := empty.after ⟨.root, [text "config_tree.root"], false⟩
  have hreachable : registry.Reachable := .after .empty _
  constructor
  · intro hkeeps
    let call : Registration := ⟨{ Parameter.root with name := text "config_tree.root" }, [], false⟩
    have hkept := hkeeps registry call hreachable rfl (by decide +kernel) (text "config_tree.root")
      (text "ROOT") (by decide +kernel)
    exact absurd hkept (by decide +kernel)
  · intro hgiven
    let call : Registration := ⟨.delimiter, [text "root"], false⟩
    have hstands := hgiven registry call hreachable rfl (by decide +kernel) _ (.head _)
    exact absurd hstands (by decide +kernel)

end ParameterRegistry

end ConfigNamespace
