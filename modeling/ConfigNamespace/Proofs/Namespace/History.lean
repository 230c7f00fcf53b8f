import ConfigNamespace.Namespace.Lifecycle
import ConfigNamespace.Namespace.Listing
import ConfigNamespace.Proofs.Namespace.Write
import ConfigNamespace.Proofs.Namespace.Find
import Mathlib.Logic.Relation

/-!
# Histories of families

A family starts as it is created and changes by what is asked of its namespaces. Some of this only
browses: lookups, questions and lists add namespaces but leave those alone that are there already.
The rest writes, and may change every namespace. No step of either kind makes a session unfaithful,
as long as the world stays as it is.
-/

namespace ConfigNamespace

open Operation

/-- A session stays faithful, whatever it is faithful to. -/
def Session.keepingFaithful : Evolution Session where
  Allows s t := ∀ b, s.Faithful b → t.Faithful b
  refl _ _ := id
  trans h h' b hs := h' b (h b hs)

namespace Family

/-- Whether a family was not cut off from what it is backed by: its environment, parsers and
converters are the same as before, and a faithful session is still faithful. -/
structure Backs (w : World) (f g : Family) : Prop where
  /-- The environment is the same. -/
  environment_eq : g.environment = f.environment
  /-- The parsers are the same. -/
  parsers_eq : g.parsers = f.parsers
  /-- The converters are the same. -/
  converter_eq : g.converter = f.converter
  /-- The session stays faithful. -/
  faithful : f.session.Faithful (f.backing w) → g.session.Faithful (g.backing w)

/-- Namespaces are backed by the same as before. -/
theorem Backs.backing_eq {w : World} {f g : Family} (h : Backs w f g) :
    g.backing w = f.backing w := by
  simp only [backing, h.environment_eq, h.parsers_eq]

/-- Whatever happens to the namespaces and the deliveries, a family stays backed. -/
theorem Backs.of_session {w : World} {f g : Family} (henvironment : g.environment = f.environment)
    (hparsers : g.parsers = f.parsers) (hconverter : g.converter = f.converter)
    (hsession : f.session.Faithful (f.backing w) → g.session.Faithful (f.backing w)) :
    Backs w f g := by
  refine ⟨henvironment, hparsers, hconverter, ?_⟩
  simpa only [backing, henvironment, hparsers] using hsession

/-- A family stays backed. -/
def backed (w : World) : Evolution Family where
  Allows := Backs w
  refl _ := .of_session rfl rfl rfl id
  trans h h' := ⟨h'.environment_eq.trans h.environment_eq, h'.parsers_eq.trans h.parsers_eq,
    h'.converter_eq.trans h.converter_eq, fun hf => h'.faithful (h.faithful hf)⟩

/-- A family stays backed, and its namespaces stay as they are; further ones may come. -/
def browsed (w : World) : Evolution Family where
  Allows f g := Backs w f g ∧ f.views <+: g.views
  refl _ := ⟨.of_session rfl rfl rfl id, List.prefix_rfl⟩
  trans h h' := ⟨(backed w).trans h.1 h'.1, h.2.trans h'.2⟩

/-- Whether an evolution allows what browsing does: it seeks keys, writes records, and adds namespaces
below others of the family. -/
structure AdmitsBrowsing (w : World) (E : Evolution Family) : Prop where
  /-- Records may be written. -/
  note : ∀ level message, (note level message).Follows E
  /-- Keys may be sought. -/
  seek : ∀ f v key, E.Allows f { f with session := ((f.seek w v key).outcome f.session).2 }
  /-- Namespaces may be added. -/
  addView : ∀ f number segments,
    E.Allows f { f with views := f.views ++ [viewBelow (f.view number) segments] }

namespace AdmitsBrowsing

variable {w : World} {E : Evolution Family} (hE : AdmitsBrowsing w E)
include hE

/-- Refusing a closed namespace makes allowed steps. -/
theorem refuseClosed_follows (number : Nat) (operation : String) :
    (refuseClosed number operation).Follows E :=
  .bind .get fun _ _ => .ite (fun _ => .bind (hE.note _ _) fun _ _ => .throw _) fun _ => .pure _

/-- Scoping a namespace makes allowed steps. -/
theorem scope_follows (number : Nat) (path : Value) : (scope number path).Follows E := by
  intro f
  cases hclosed : (f.view number).closed with
  | true =>
    unfold scope
    rw [outcome_bind_error (outcome_refuseClosed_of_closed hclosed _)]
    exact hE.note _ _ f
  | false =>
    cases path with
    | str path =>
      rw [outcome_scope hclosed]
      cases segmentsOf (f.delimiterOf (f.view number)) path with
      | error failure => exact E.refl f
      | ok segments => exact hE.addView f number _
    | _ =>
      unfold scope
      rw [outcome_bind_ok (outcome_refuseClosed_of_open hclosed _)]
      exact E.refl f

/-- A lookup seeks its key, and then adds at most one namespace. -/
theorem lookup_follows (number : Nat) (key : Value) : (lookup w number key).Follows E := by
  intro f
  have hseek := hE.seek f (f.view number) key
  rw [outcome_lookup]
  rcases hfound : (f.seek w (f.view number) key).outcome f.session with ⟨failure | found, s⟩
  · rwa [hfound] at hseek
  · rw [hfound] at hseek
    cases found with
    | value v => exact hseek
    | place segments => exact E.trans hseek (hE.addView _ number _)

/-- Asking for a key makes allowed steps. -/
theorem has_follows (number : Nat) (key : Value) : (has w number key).Follows E := by
  unfold has
  split
  · refine .bind (hE.lookup_follows _ _).attempt fun result _ => ?_
    cases result with
    | ok _ => exact .pure _
    | error failure => exact .ite (fun _ => .pure _) fun _ => .throw _
  · exact .pure _

/-- Taking the entries of a namespace makes allowed steps. -/
theorem ownEntries_follows (number : Nat) (operation : String) :
    (ownEntries number operation).Follows E :=
  .bind (hE.refuseClosed_follows _ _) fun _ _ => .bind .get fun _ _ => .pure _

/-- Taking the entries below a key makes allowed steps. -/
theorem entriesBelow_follows (number : Nat) (operation : String) (key : Value) :
    (entriesBelow w number operation key).Follows E := by
  unfold entriesBelow
  split
  · exact hE.ownEntries_follows _ _
  · refine .bind (hE.refuseClosed_follows _ _) fun _ _ => ?_
    refine .bind (hE.lookup_follows _ _) fun found _ => ?_
    split
    · exact hE.ownEntries_follows _ _
    · exact .throw _

/-- Listing makes allowed steps. -/
theorem list_follows (number : Nat) (key : Value) : (list w number key).Follows E :=
  .bind (hE.entriesBelow_follows _ _ _) fun _ _ => .pure _

/-- Showing the environment makes allowed steps. -/
theorem visibleEnvironment_follows (number : Nat) : (visibleEnvironment number).Follows E :=
  .bind (hE.refuseClosed_follows _ _) fun _ _ => .bind .get fun _ _ => .pure _

end AdmitsBrowsing

section Browsing

variable {w : World}

/-- What is done to the session alone leaves all namespaces as they are. -/
theorem onSession_follows {α : Type} {op : Operation Session α}
    (h : op.Follows Session.keepingFaithful) : (onSession op).Follows (browsed w) :=
  .onPart h fun _ _ hs => ⟨.of_session rfl rfl rfl (hs _), List.prefix_rfl⟩

/-- Browsing leaves all namespaces as they are, and the session faithful because seeking is
transparent. -/
theorem admitsBrowsing_browsed : AdmitsBrowsing w (browsed w) where
  note _ _ := onSession_follows fun _ _ hs => hs.of_eq rfl rfl
  seek f v key := ⟨.of_session rfl rfl rfl (isTransparent_seek f w v key).faithful, List.prefix_rfl⟩
  addView _ _ _ := ⟨.of_session rfl rfl rfl id, List.prefix_append _ _⟩

/-- A lookup makes steps of browsing. -/
theorem lookup_follows (number : Nat) (key : Value) :
    (lookup w number key).Follows (browsed w) :=
  admitsBrowsing_browsed.lookup_follows number key

end Browsing

section Writing

variable {w : World}

/-- What leaves all namespaces as they are leaves the family backed. -/
theorem backed_of_browsed {α : Type} {op : Operation Family α} (h : op.Follows (browsed w)) :
    op.Follows (backed w) := fun f => (h f).1

/-- Closing the archives leaves the session faithful: it holds fewer of them. -/
theorem closeArchives_follows : Backend.closeArchives.Follows Session.keepingFaithful := by
  refine .bind .get fun s _ => .bind (.modify fun _ _ hs => hs.withoutArchives rfl rfl) fun _ _ => ?_
  exact .ite (fun _ _ _ hs => hs.of_eq rfl rfl) fun _ => .pure _

/-- Whatever is written to a namespace, the family stays backed. -/
theorem admitsWrites_backed (number : Nat) : AdmitsWrites (backed w) number where
  withLog _ _ := .of_session rfl rfl rfl fun hs => hs.of_eq rfl rfl
  withView _ _ := .of_session rfl rfl rfl id
  closeArchives := backed_of_browsed (onSession_follows closeArchives_follows)
  deliver _ _ := .of_session rfl rfl rfl id

/-- A write leaves the family backed, with all that hooks add to it. -/
theorem write_follows (number : Nat) (request : Write) :
    (write number request).Follows (backed w) :=
  (admitsWrites_backed number).writeWith_follows ((admitsWrites_backed number).tell_follows _) _

end Writing

/-- A step that leaves all namespaces as they are. -/
inductive Browse (w : World) (f : Family) : Family → Prop
  /-- A key is looked up. -/
  | lookup (number : Nat) (key : Value) : Browse w f ((lookup w number key).outcome f).2
  /-- A key is asked for. -/
  | has (number : Nat) (key : Value) : Browse w f ((has w number key).outcome f).2
  /-- A namespace is made for a path. -/
  | scope (number : Nat) (path : Value) : Browse w f ((scope number path).outcome f).2
  /-- The names under a key are listed. -/
  | list (number : Nat) (key : Value) : Browse w f ((list w number key).outcome f).2
  /-- The entries under a key are listed. -/
  | listBindings (number : Nat) (key : Value) :
    Browse w f ((listBindings w number key).outcome f).2
  /-- The environment is shown. -/
  | visibleEnvironment (number : Nat) : Browse w f ((visibleEnvironment number).outcome f).2

/-- A step of any kind. -/
inductive Step (w : World) (f : Family) : Family → Prop
  /-- A step that leaves all namespaces as they are. -/
  | browse {g : Family} (h : Browse w f g) : Step w f g
  /-- A write is carried out. -/
  | write (number : Nat) (request : Write) : Step w f ((write number request).outcome f).2
  /-- A hook is registered. -/
  | registerHook (number : Nat) (hook : Supplied (Hook Change Write)) :
    Step w f ((registerHook number hook).outcome f).2

/-- Any number of steps that leave all namespaces as they are. -/
def Browses (w : World) : Family → Family → Prop := Relation.ReflTransGen (Browse w)

/-- Whether steps lead to a family from one that was created. -/
def Reachable (w : World) (f : Family) : Prop :=
  ∃ source parsers converter mode log start,
    ((create w source parsers converter mode).outcome log).1 = .ok start ∧
      Relation.ReflTransGen (Step w) start f

/-- Browsing does what it is allowed to do. -/
theorem AdmitsBrowsing.browse_allows {w : World} {E : Evolution Family} (hE : AdmitsBrowsing w E)
    {f g : Family} (h : Browse w f g) : E.Allows f g := by
  cases h with
  | lookup number key => exact hE.lookup_follows number key f
  | has number key => exact hE.has_follows number key f
  | scope number path => exact hE.scope_follows number path f
  | list number key => exact hE.list_follows number key f
  | listBindings number key => exact hE.entriesBelow_follows _ _ _ f
  | visibleEnvironment number => exact hE.visibleEnvironment_follows number f

/-- Whatever browses makes steps of browsing. -/
theorem Browse.allows {w : World} {f g : Family} (h : Browse w f g) : (browsed w).Allows f g :=
  admitsBrowsing_browsed.browse_allows h

/-- A step leaves a family backed as it was. -/
theorem Step.allows {w : World} {f g : Family} (h : Step w f g) : (backed w).Allows f g := by
  cases h with
  | browse h => exact h.allows.1
  | write number request => exact write_follows number request f
  | registerHook number hook => exact (admitsWrites_backed number).registerHook_follows hook f

/-- Browsing keeps the family backed and all namespaces as they are. -/
theorem Browses.allows {w : World} {f g : Family} (h : Browses w f g) :
    (browsed w).Allows f g := by
  induction h with
  | refl => exact (browsed w).refl f
  | tail _ hstep ih => exact (browsed w).trans ih hstep.allows

/-- Steps lead from a reachable family to another one. -/
theorem Reachable.trans {w : World} {f g : Family} (h : Reachable w f)
    (hsteps' : Relation.ReflTransGen (Step w) f g) : Reachable w g := by
  obtain ⟨source, parsers, converter, mode, log, start, hstart, hsteps⟩ := h
  exact ⟨source, parsers, converter, mode, log, start, hstart, hsteps.trans hsteps'⟩

/-- A step leads from a reachable family to another one. -/
theorem Reachable.tail {w : World} {f g : Family} (h : Reachable w f) (hstep : Step w f g) :
    Reachable w g := h.trans (.single hstep)

/-- A family that is created has the session that holds nothing. -/
theorem session_of_create {w : World} {source : EnvironmentSource} {parsers : ParserRegistry}
    {converter : TypeConverter} {mode : Value} {f : Family}
    (h : (create w source parsers converter mode).MayGive f) : f.session = .empty := by
  obtain ⟨e, -, h⟩ := h.of_bind
  obtain ⟨mode, -, h⟩ := h.of_bind
  obtain ⟨-, -, h⟩ := h.of_bind
  rw [← eq_of_mayGive_pure h]

/-- Whatever was done to a family, its session holds nothing but what the world gives. -/
theorem Reachable.faithful {w : World} {f : Family} (h : Reachable w f) :
    f.session.Faithful (f.backing w) := by
  obtain ⟨source, parsers, converter, mode, log, start, hstart, hsteps⟩ := h
  have hinitial : start.session.Faithful (start.backing w) := by
    rw [session_of_create ⟨log, hstart⟩]
    exact Session.faithful_empty _
  induction hsteps with
  | refl => exact hinitial
  | tail _ hstep ih => exact hstep.allows.faithful ih

/-- The family that is opened for an environment. -/
def opened (e : Environment) (parsers : ParserRegistry) : Family :=
  ⟨e, parsers, .builtin, [⟨[], [], .none, [], .ignore, false, true⟩], .empty, []⟩

/-- A family that was opened is reachable. -/
theorem reachable_opened (w : World) (e : Environment) (parsers : ParserRegistry) :
    Reachable w (opened e parsers) :=
  ⟨.environment e, parsers, .builtin, .str (text "ignore"), [], _, rfl, .refl⟩

end Family

/-- An environment with a root and a search path, whose other settings are those that hold where
nothing is given. -/
def Environment.at (root : Option Text) (searchPath : List Text) : Environment :=
  ⟨root, text ".", .int 10, some searchPath, text "composite", []⟩

end ConfigNamespace
