import ConfigNamespace.Proofs.Environment.Exported
import ConfigNamespace.Proofs.Namespace.Settings

/-!
# Environments of namespaces as mappings

A namespace shows the environment that counts for it as a mapping: that of its family, with the root and
the delimiter that are set in the namespace. What is set there was judged like the settings of an
environment, so such a mapping makes an environment again, whatever was done to the family.
-/

namespace ConfigNamespace

open Operation

namespace Family

variable {w : World} {f start : Family}

/-- The environment that counts in a namespace is accepted, whatever was done to the family. -/
theorem isAccepted_visible {source : EnvironmentSource} {parsers : ParserRegistry}
    {converter : TypeConverter} {mode : Value} {log : Log} (hsource : source.IsMade)
    (hstart : ((create w source parsers converter mode).outcome log).1 = .ok start)
    (hf : Relation.ReflTransGen (Step w) start f) (number : Nat) :
    (f.visible (f.view number)).IsAccepted := by
  have hread := (parts_of_create ⟨log, hstart⟩).1
  have hreachable : Reachable w f := ⟨source, parsers, converter, mode, log, start, hstart, hf⟩
  have henvironment : f.environment = start.environment := (backs_of_steps hf).environment_eq
  obtain ⟨s, hmade⟩ := hsource.exists_settings hread
  have haccepted : f.environment.IsAccepted :=
    henvironment ▸ Environment.isAccepted_of_ofSettings hmade
  have hsound : f.environment.IsSound := henvironment ▸ Environment.isSound_of_ofSettings hmade
  exact haccepted.with_settings (isSound_visible hsound (hreachable.isSound.view number))

/-- Environments come back from their mappings. An environment that was made, however, is made again from
the mapping of its extras and settings, with all of them the same, as long as the extras can be told from
settings; and those of an environment that was itself made from a mapping can. Let a namespace be opened
for an environment with such extras, and let anything be done to the family. The mapping that an open
namespace shows then makes the environment of the family, with the root and the delimiter that count in
the namespace. -/
theorem ofMapping_toMapping :
    (∀ {e : Environment}, e.Made → Environment.AreApart e.extras → ∀ log,
      ((Environment.ofMapping e.toMapping).outcome log).1 = .ok e) ∧
    (∀ {mapping : List (Value × Value)} {e : Environment},
      (Environment.ofMapping mapping).MayGive e → Environment.AreApart e.extras) ∧
    ∀ {w : World} {source : EnvironmentSource} {parsers : ParserRegistry} {converter : TypeConverter}
      {mode : Value} {log : Log} {start f : Family}, source.IsMade →
      ((create w source parsers converter mode).outcome log).1 = .ok start →
      Relation.ReflTransGen (Step w) start f → Environment.AreApart start.environment.extras →
      ∀ number, (f.view number).closed = false → ∃ mapping,
        (visibleEnvironment number).outcome f = (.ok mapping, f) ∧
        ∀ log, ((Environment.ofMapping mapping).outcome log).1 = .ok { start.environment with
          root := f.rootOf (f.view number)
          delimiter := f.delimiterOf (f.view number) } := by
  refine ⟨fun hmade => (Environment.isAccepted_iff_made.mpr hmade).outcome_ofMapping,
    Environment.areApart_of_ofMapping, ?_⟩
  · intro w source parsers converter mode log start f hsource hstart hf hextras number hopen
    have henvironment : f.environment = start.environment := (backs_of_steps hf).environment_eq
    have hkept : Environment.AreApart (f.visible (f.view number)).extras := by
      change Environment.AreApart f.environment.extras
      rwa [henvironment]
    refine ⟨_, outcome_visibleEnvironment hopen, fun log => ?_⟩
    rw [(isAccepted_visible hsource hstart hf number).outcome_ofMapping hkept, visible, henvironment]

/-- An environment without a root, with extras. -/
def withExtras (extras : List (Value × Value)) : Environment := { Environment.at none [] with extras }

/-- An environment with extras is accepted. -/
theorem isAccepted_withExtras (extras : List (Value × Value)) : (withExtras extras).IsAccepted := by
  have hproblems : (withExtras []).toSettings.problems = [] := by decide +kernel
  exact ⟨hproblems, _, rfl⟩

/-- A root and a delimiter are bound where there is an extra. -/
theorem ofMapping_toMapping_overridden :
    let e := withExtras [(.str (text "region"), .int 1)]
    let f := (opened e .default).afterAll .twofold [
      (0, .write (.bind (.str rootKey) (.str (text "M")))),
      (0, .write (.bind (.str delimiterKey) (.str (text "/"))))]
    ((Environment.ofMapping e.toMapping).outcome []).1 = .ok e ∧ ∃ mapping,
      (visibleEnvironment 0).outcome f = (.ok mapping, f) ∧
        ((Environment.ofMapping mapping).outcome []).1 =
          .ok { e with root := some (text "M"), delimiter := text "/" } := by
  intro e f
  have haccepted : e.IsAccepted := isAccepted_withExtras _
  have hextras : Environment.AreApart e.extras := by
    refine .inl (List.forall_mem_singleton.mpr ⟨text "region", rfl, ?_⟩)
    decide +kernel
  have hsource : (EnvironmentSource.environment e).IsMade :=
    ⟨e.toSettings, [], congrArg Prod.fst (Environment.outcome_ofSettings haccepted [])⟩
  have hstart : ((create .twofold (.environment e) .default .builtin (.str (text "ignore"))).outcome
      []).1 = .ok (opened e .default) := rfl
  have hsteps : Relation.ReflTransGen (Step .twofold) (opened e .default) f := steps_afterAll _ _ _
  have hview : (f.view 0).closed = false ∧ f.rootOf (f.view 0) = some (text "M") ∧
      f.delimiterOf (f.view 0) = text "/" := by
    dsimp only [f, e]
    decide +kernel
  obtain ⟨mapping, hmapping, hback⟩ := ofMapping_toMapping.2.2 hsource hstart hsteps hextras 0 hview.1
  rw [hview.2.1, hview.2.2] at hback
  exact ⟨ofMapping_toMapping.1 (Environment.isAccepted_iff_made.mp haccepted) hextras [], mapping,
    hmapping, hback []⟩

/-- A number is no key that an environment can be made from, although an extra may stand under it. -/
theorem not_ofMapping_toMapping :
    let e := withExtras [(.int 1, .str (text "x"))]
    e.Made ∧ ((Environment.ofMapping e.toMapping).outcome []).1 = .error (.noMethod "int" "strip") ∧
      ¬∀ e : Environment, e.Made →
        (∀ name value, (.str name, value) ∈ e.extras →
          ParameterRegistry.builtin.resolve? name = none) →
        ((Environment.ofMapping e.toMapping).outcome []).1 = .ok e := by
  intro e
  have hmade : e.Made := Environment.isAccepted_iff_made.mp (isAccepted_withExtras _)
  have hfails : ((Environment.ofMapping e.toMapping).outcome []).1 =
      .error (.noMethod "int" "strip") := rfl
  refine ⟨hmade, hfails, fun h => ?_⟩
  have hread := h e hmade fun name value hmem => ?_
  · rw [hfails] at hread
    cases hread
  · cases List.mem_singleton.mp hmem

end Family

end ConfigNamespace
