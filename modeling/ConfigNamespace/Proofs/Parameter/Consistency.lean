import ConfigNamespace.Proofs.Parameter.Registry

/-!
# Two tables that agree

A registry keeps its parameters in one table and its aliases in another one. A call that registers a
parameter writes to both entry by entry, but only after all its checks: a call that fails has written
nothing. So whatever calls were made, every alias points to a parameter that is there, and a name is
known exactly if it resolves, and exactly if its parameter is found.
-/

namespace ConfigNamespace

namespace Text

/-- Of two texts, one comes before the other. -/
theorem le_total (s t : Text) : (Text.le s t || Text.le t s) = true := by
  induction s generalizing t with
  | nil => rfl
  | cons a s ih =>
    cases t with
    | nil => rfl
    | cons b t =>
      have hrest : Text.le s t = true ∨ Text.le t s = true := by simpa using ih t
      simp only [Text.le, Bool.or_eq_true, Bool.and_eq_true, decide_eq_true_eq, beq_iff_eq]
      rcases Nat.lt_trichotomy a.val b.val with hlt | heq | hgt
      · exact .inl (.inl hlt)
      · exact hrest.imp (fun h => .inr ⟨heq, h⟩) fun h => .inr ⟨heq.symm, h⟩
      · exact .inr (.inl hgt)

/-- The order of texts is transitive. -/
theorem le_trans (s t u : Text) (hst : Text.le s t = true) (htu : Text.le t u = true) :
    Text.le s u = true := by
  induction s generalizing t u with
  | nil => rfl
  | cons a s ih =>
    match t, u with
    | b :: t, c :: u =>
      simp only [Text.le, Bool.or_eq_true, Bool.and_eq_true, decide_eq_true_eq, beq_iff_eq]
        at hst htu ⊢
      rcases hst with hab | ⟨hab, hst⟩
      · rcases htu with hbc | ⟨hbc, _⟩
        · exact .inl (by omega)
        · exact .inl (by omega)
      · rcases htu with hbc | ⟨hbc, htu⟩
        · exact .inl (by omega)
        · exact .inr ⟨by omega, ih t u hst htu⟩

end Text

open Operation

namespace ParameterRegistry

/-! ### Registering entry by entry -/

/-- Writes to the log that goes with the tables. -/
def noting (level : LogLevel) (message : Text) : Operation (ParameterRegistry × Log) Unit :=
  (note level .params message).onPart Prod.snd fun s log => (s.1, log)

/-- Fails for an alias that stands for another parameter. -/
def refuseAlias (name other : Text) : Operation (ParameterRegistry × Log) Unit := do
  noting .error (text "Alias conflict: " ++ (canonical name).quoted ++ text " already points to " ++
    other.quoted)
  throw (.rejected [(name, text "Alias already used for " ++ other ++ text ".")] none)

/-- Fails if an alias stands for another parameter, unless this may be overridden. -/
def checkAlias (override : Bool) (key name : Text) : Operation (ParameterRegistry × Log) Unit := do
  let (registry, _) ← MonadState.get
  match registry.aliases.get? (canonical name) with
  | some other => if override || other = key then pure () else refuseAlias name other
  | none => pure ()

/-- Checks aliases one after another. -/
def checkAliases (override : Bool) (key : Text) : List Text → Operation (ParameterRegistry × Log) Unit
  | [] => pure ()
  | name :: names => do
    checkAlias override key name
    checkAliases override key names

/-- Writes aliases one after another. -/
def putAliases (key : Text) : List Text → Operation (ParameterRegistry × Log) Unit
  | [] => pure ()
  | name :: names => do
    modify fun s => ({ s.1 with aliases := Keyed.put (canonical name) key s.1.aliases }, s.2)
    putAliases key names

/-- Registers a parameter: checks its name and then each alias, and writes to the tables, first the
parameter and then each alias. -/
def registerInPlace (call : Registration) : Operation (ParameterRegistry × Log) Unit := do
  noting .debug (text "Register called: name=" ++ call.parameter.name.quoted ++ text " canon=" ++
    call.key.quoted ++ text " override=" ++ text (if call.override then "True" else "False") ++
    text " aliases=" ++ roundBrackets (call.aliases.map Text.quoted))
  let (registry, _) ← MonadState.get
  if !call.override && (registry.parameter? call.key).isSome then
    noting .error (text "Register failed: " ++ call.key.quoted ++ text " already registered")
    throw (.duplicateParameter [(call.parameter.name, text "Parameter already registered.")])
  checkAliases call.override call.key call.aliases
  modify fun s =>
    ({ s.1 with parameters := Keyed.put call.key call.parameter s.1.parameters }, s.2)
  putAliases call.key call.aliases

section InPlace

variable (registry : ParameterRegistry) (log : Log)

/-- An alias passes the check unless it stands for another parameter and may not be overridden. -/
theorem outcome_checkAlias (override : Bool) (key name : Text) :
    (checkAlias override key name).outcome (registry, log) =
      match registry.aliases.get? (canonical name) with
      | some other =>
        if override || other = key then (.ok (), registry, log)
        else (refuseAlias name other).outcome (registry, log)
      | none => (.ok (), registry, log) := by
  unfold checkAlias
  rw [outcome_bind_ok (outcome_get _)]
  dsimp only
  cases registry.aliases.get? (canonical name) with
  | none => rfl
  | some other =>
    dsimp only
    split <;> rfl

/-- The checks of aliases end with the first one that stands for another parameter. -/
theorem outcome_checkAliases (override : Bool) (key : Text) (aliases : List Text) :
    (checkAliases override key aliases).outcome (registry, log) =
      match if override then none else registry.conflict? key aliases with
      | some (name, other) => (refuseAlias name other).outcome (registry, log)
      | none => (.ok (), registry, log) := by
  induction aliases with
  | nil => cases override <;> rfl
  | cons name aliases ih =>
    have hfirst := outcome_checkAlias registry log override key name
    unfold conflict? at ih ⊢
    rw [List.findSome?_cons, checkAliases]
    cases hstands : registry.aliases.get? (canonical name) with
    | none =>
      rw [hstands] at hfirst
      rw [outcome_bind_ok hfirst, ih]
    | some other =>
      rw [hstands] at hfirst
      by_cases hfree : override = true ∨ other = key
      · rw [outcome_bind_ok (hfirst.trans (if_pos (by simpa using hfree))), ih]
        rcases hfree with rfl | rfl
        · rfl
        · simp
      · obtain ⟨hoverride, hother⟩ := not_or.mp hfree
        rw [outcome_bind_error (hfirst.trans (if_neg (by simpa using hfree)))]
        dsimp only
        rw [if_neg hoverride, if_neg hother]
        rfl

/-- Aliases are put one after another, and nothing is written to the log. -/
theorem outcome_putAliases (key : Text) (aliases : List Text) :
    (putAliases key aliases).outcome (registry, log) =
      (.ok (), ⟨registry.parameters, aliases.foldl
        (fun entries name => Keyed.put (canonical name) key entries) registry.aliases⟩, log) := by
  induction aliases generalizing registry with
  | nil => rfl
  | cons name aliases ih => exact ih _

/-- Registering entry by entry comes to the same as adding all at once after the checks, and where it
fails, the tables are as they were. -/
theorem outcome_registerInPlace (call : Registration) :
    (registerInPlace call).outcome (registry, log) =
      match (registry.registering call).outcome log with
      | (.ok changed, written) => (.ok (), changed, written)
      | (.error failure, written) => (.error failure, registry, written) := by
  obtain ⟨p, aliases, override⟩ := call
  have hchecked := outcome_checkAliases registry
  unfold registerInPlace registering register Registration.key
  simp only [outcome_bind, noting, note, outcome_onPart, outcome_modify, outcome_get]
  by_cases hdup : (!override && (registry.parameter? (canonical p.name)).isSome) = true
  · simp only [hdup, if_true, outcome_bind]
    rfl
  · simp only [hdup, Bool.false_eq_true, if_false, outcome_bind]
    rw [hchecked]
    cases if override = true then none else registry.conflict? (canonical p.name) aliases with
    | none => exact outcome_putAliases ⟨_, _⟩ _ _ _
    | some conflict => rfl

variable {call : Registration}

/-- A call that is refused fails and leaves both tables as they were. -/
theorem registerInPlace_of_refuses (h : registry.Refuses call) : ∃ failure written,
    (registerInPlace call).outcome (registry, log) = (.error failure, registry, written) := by
  obtain ⟨failure, hfailed⟩ := outcome_of_refuses h log
  rw [outcome_registerInPlace]
  rcases hout : (registry.registering call).outcome log with ⟨result, written⟩
  rw [hout] at hfailed
  cases hfailed
  exact ⟨failure, written, rfl⟩

/-- A call that is not refused leaves the registry with the parameter inserted. -/
theorem registerInPlace_of_not_refuses (h : ¬ registry.Refuses call) : ∃ written,
    (registerInPlace call).outcome (registry, log) =
      (.ok (), registry.insert call.parameter call.aliases, written) := by
  have hadded := outcome_of_not_refuses h log
  rw [outcome_registerInPlace]
  rcases hout : (registry.registering call).outcome log with ⟨result, written⟩
  rw [hout] at hadded
  cases hadded
  exact ⟨written, rfl⟩

/-- Registering entry by entry fails exactly where a call is refused. -/
theorem registerInPlace_fails_iff :
    (∃ failure, ((registerInPlace call).outcome (registry, log)).1 = .error failure) ↔
      registry.Refuses call := by
  by_cases hrefused : registry.Refuses call
  · obtain ⟨failure, _, hout⟩ := registerInPlace_of_refuses registry log hrefused
    exact iff_of_true ⟨failure, by rw [hout]⟩ hrefused
  · obtain ⟨_, hout⟩ := registerInPlace_of_not_refuses registry log hrefused
    exact iff_of_false (by simp [hout]) hrefused

/-- Registering entry by entry leaves the tables of the registry after the call. -/
theorem tables_registerInPlace :
    ((registerInPlace call).outcome (registry, log)).2.1 = registry.after call := by
  by_cases hrefused : registry.Refuses call
  · obtain ⟨_, _, hout⟩ := registerInPlace_of_refuses registry log hrefused
    rw [hout, after_of_refuses hrefused]
  · obtain ⟨_, hout⟩ := registerInPlace_of_not_refuses registry log hrefused
    rw [hout, after_of_not_refuses hrefused]

end InPlace

/-- The tables after calls that register parameters, from empty ones on, with what was logged. -/
def registered (calls : List Registration) : ParameterRegistry × Log :=
  calls.foldl (fun s call => ((registerInPlace call).outcome s).2) (empty, [])

/-- A registry that was registered call by call is reachable. -/
theorem reachable_registered (calls : List Registration) : (registered calls).1.Reachable := by
  induction calls using List.reverseRecOn with
  | nil => exact .empty
  | append_singleton calls call ih =>
    unfold registered at ih ⊢
    rw [List.foldl_append, List.foldl_cons, List.foldl_nil, tables_registerInPlace]
    exact ih.after call

/-! ### What calls keep -/

variable {registry : ParameterRegistry}

/-- What adding a parameter with its aliases keeps holds after any calls. -/
theorem Reachable.of_insert {P : ParameterRegistry → Prop} (h : registry.Reachable)
    (hempty : P ParameterRegistry.empty)
    (hinsert : ∀ registry p aliases, P registry → P (registry.insert p aliases)) : P registry := by
  induction h with
  | empty => exact hempty
  | @after registry _ call ih =>
    by_cases hrefused : registry.Refuses call
    · rwa [after_of_refuses hrefused]
    · rw [after_of_not_refuses hrefused]
      exact hinsert registry call.parameter call.aliases ih

/-- Each name is kept once. -/
theorem Reachable.nodup_keys (h : registry.Reachable) : registry.parameters.keys.Nodup :=
  h.of_insert List.nodup_nil fun _ _ _ ih => Keyed.nodup_keys_put ih _ _

/-- A parameter is kept under the form of its name that counts. -/
theorem Reachable.canonical_name (h : registry.Reachable) {key : Text} {p : Parameter}
    (hkey : registry.parameter? key = some p) : canonical p.name = key := by
  refine h.of_insert (P := fun registry => ∀ key p, registry.parameter? key = some p →
    canonical p.name = key) nofun (fun registry added aliases ih key p hkey => ?_) key p hkey
  rw [parameter?_insert] at hkey
  split at hkey
  next heq =>
    cases hkey
    exact heq.symm
  · exact ih key p hkey

/-- A name or alias that is known is one of the keys of the tables. -/
theorem has_eq (registry : ParameterRegistry) (name : Text) : registry.has name =
    (registry.parameters.has (canonical name) || registry.aliases.has (canonical name)) := by
  unfold has
  rw [resolve?_eq]
  unfold parameter? Keyed.has
  cases registry.parameters.get? (canonical name) <;> rfl

/-- A name resolves exactly if it is known. -/
theorem resolve_succeeds_iff (registry : ParameterRegistry) (name : Text) (log : Log) :
    (∃ key, ((registry.resolve name).outcome log).1 = .ok key) ↔ registry.has name = true := by
  unfold resolve has
  cases registry.resolve? name with
  | none => simp [outcome_bind, note]
  | some key => simp

/-- What is asked for under a name is there if the name is known, and is refused as unknown if not. -/
theorem Reachable.outcome_get (h : registry.Reachable) (name : Text) (log : Log) :
    if registry.has name then ∃ p, ((registry.get name).outcome log).1 = .ok p
    else ((registry.get name).outcome log).1 =
      .error (.rejected [(canonical name, text "Unknown environment parameter.")] none) := by
  unfold has get resolve
  cases hname : registry.resolve? name with
  | none => rfl
  | some key =>
    obtain ⟨p, hp⟩ := Option.isSome_iff_exists.mp (h.isSome_of_resolve? hname)
    refine ⟨p, ?_⟩
    rw [outcome_bind_ok (outcome_pure key log), hp]
    rfl

/-! ### Consistency -/

/-- Whether the tables of a registry agree, so that all ways to ask for a name do. -/
structure IsConsistent (registry : ParameterRegistry) : Prop where
  /-- Every alias points to a parameter that is registered. -/
  alias_known : ∀ name key, registry.aliases.get? name = some key → (registry.parameter? key).isSome
  /-- A name is known if it is in one of the tables. -/
  has_eq : ∀ name, registry.has name =
    (registry.parameters.has (canonical name) || registry.aliases.has (canonical name))
  /-- A name that is known resolves, and no other one. -/
  resolves_iff : ∀ name log,
    (∃ key, ((registry.resolve name).outcome log).1 = .ok key) ↔ registry.has name = true
  /-- The parameter of a name that is known is found, and of no other one. -/
  gets_iff : ∀ name log,
    (∃ p, ((registry.get name).outcome log).1 = .ok p) ↔ registry.has name = true
  /-- A parameter that is not found is reported as unknown, and in no other way. -/
  get_fails : ∀ name log failure, ((registry.get name).outcome log).1 = .error failure →
    failure = .rejected [(canonical name, text "Unknown environment parameter.")] none
  /-- Registering fails for a name that is taken, and for an alias that is, wherever it stands. -/
  register_fails_iff : ∀ call log,
    (∃ failure, ((registerInPlace call).outcome (registry, log)).1 = .error failure) ↔
      registry.Refuses call
  /-- Where registering fails, both tables stay as they were. -/
  register_fails : ∀ call log failure,
    ((registerInPlace call).outcome (registry, log)).1 = .error failure →
      ((registerInPlace call).outcome (registry, log)).2.1 = registry
  /-- The names are listed in order. -/
  names_sorted : registry.names.Pairwise fun name later => Text.le name later = true
  /-- No name is listed twice. -/
  names_nodup : registry.names.Nodup
  /-- What is listed are the names of the parameters that are registered, in the form that counts. -/
  mem_names_iff : ∀ name, name ∈ registry.names ↔
    ∃ p, registry.parameter? name = some p ∧ canonical p.name = name

/-- Whatever calls are made, with any names, aliases and leave to override, and whichever of them fail,
the tables of a registry agree. -/
theorem consistent_registered (calls : List Registration) : (registered calls).1.IsConsistent := by
  have hreachable := reachable_registered calls
  generalize (registered calls).1 = registry at hreachable
  have hnames : registry.names.Perm registry.parameters.keys := List.mergeSort_perm _ _
  exact {
    alias_known _ _ := hreachable.isSome_of_alias
    has_eq := has_eq registry
    resolves_iff := resolve_succeeds_iff registry
    gets_iff name log := by
      have hget := hreachable.outcome_get name log
      split at hget
      next hknown => exact iff_of_true hget hknown
      next hunknown => exact iff_of_false (by simp [hget]) hunknown
    get_fails name log failure hfailed := by
      have hget := hreachable.outcome_get name log
      split at hget
      · obtain ⟨p, hp⟩ := hget
        rw [hp] at hfailed
        cases hfailed
      · rw [hget] at hfailed
        cases hfailed
        rfl
    register_fails_iff _ log := registerInPlace_fails_iff registry log
    register_fails call log failure hfailed := by
      have hrefused := (registerInPlace_fails_iff registry log).mp ⟨failure, hfailed⟩
      rw [tables_registerInPlace, after_of_refuses hrefused]
    names_sorted := List.pairwise_mergeSort Text.le_trans Text.le_total _
    names_nodup := hnames.nodup_iff.mpr hreachable.nodup_keys
    mem_names_iff name := by
      rw [hnames.mem_iff, ← Keyed.isSome_get?_iff, Option.isSome_iff_exists]
      exact exists_congr fun p => ⟨fun hp => ⟨hp, hreachable.canonical_name hp⟩, And.left⟩ }

/-- The second alias of a call stands for another parameter: neither the parameter nor the first alias
comes in. -/
example :
    let calls : List Registration := [⟨.root, [text "config_tree.root"], false⟩,
      ⟨.delimiter, [text "separator", text "Config_Tree.Root "], false⟩]
    (registered calls).1.names = [text "ROOT"] ∧
      (registered calls).1.has (text "separator") = false := by
  decide +kernel

end ParameterRegistry

end ConfigNamespace
