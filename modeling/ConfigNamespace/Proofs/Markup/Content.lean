import ConfigNamespace.Markup.Reader
import Mathlib.Logic.Relation

/-!
# What reading content does

Content is read token by token. However many tokens there are, and however deep the texts of entities
stand in each other, all that becomes of what has been read comes of a few steps. What every step keeps
is kept by reading: here, that no element opens without a tag.
-/

namespace ConfigNamespace

/-- A result of one computation after another is one of the second, for a result of the first. -/
theorem exists_of_bind_eq_ok {ε α β : Type} {first : Except ε α} {next : α → Except ε β} {b : β}
    (h : first >>= next = .ok b) : ∃ a, first = .ok a ∧ next a = .ok b := by
  cases first with
  | error fault => cases h
  | ok a => exact ⟨a, rfl, h⟩

namespace Scanner

variable {α β : Type}

/-- Whether a scan finds nothing but what has a property. -/
def FindsOnly (P : α → Prop) (scan : Scanner α) : Prop :=
  ∀ s a rest, scan s = .found a rest → P a

namespace FindsOnly

variable {P : α → Prop} {Q : β → Prop}

/-- Giving a value finds that value. -/
theorem pure {a : α} (h : P a) : FindsOnly P (Pure.pure a : Scanner α) := by
  intro s b rest hb
  cases hb
  exact h

/-- A refusal finds nothing. -/
theorem refuse : FindsOnly P (Scanner.refuse : Scanner α) := by
  intro s a rest ha
  cases s <;> cases ha

/-- Whatever a scanner finds is something. -/
theorem any (scan : Scanner α) : FindsOnly (fun _ => True) scan := fun _ _ _ _ => trivial

/-- One scan after another finds what the second one does, for what the first one finds. -/
theorem bind {first : Scanner α} {second : α → Scanner β} (h : FindsOnly P first)
    (hsecond : ∀ a, P a → FindsOnly Q (second a)) : FindsOnly Q (first >>= second) := by
  intro s b rest hb
  change Scanner.bind first second s = _ at hb
  unfold Scanner.bind at hb
  split at hb
  next a rest' hfirst => exact hsecond a (h s a rest' hfirst) rest' b rest hb
  all_goals cases hb

/-- A choice finds what the chosen scanner finds. -/
theorem ite {c : Prop} [Decidable c] {scan scan' : Scanner α} (h : FindsOnly P scan)
    (h' : FindsOnly P scan') : FindsOnly P (if c then scan else scan') := by
  by_cases hc : c
  · rwa [if_pos hc]
  · rwa [if_neg hc]

end FindsOnly

/-- A name is not empty. -/
theorem name_findsOnly : FindsOnly (· ≠ []) name :=
  .bind (.any _) fun c _ => .bind (.any _) fun _ _ => .pure (List.cons_ne_nil c _)

/-- A name with a colon is not empty. -/
theorem qualifiedName_findsOnly : FindsOnly (· ≠ []) qualifiedName := by
  refine .bind name_findsOnly fun first hfirst => .bind (.any _) fun _ _ => .ite ?_ (.pure hfirst)
  refine .bind (.any _) fun _ _ => .bind (.any _) fun second _ => .bind (.any _) fun _ _ => ?_
  have hpair : FindsOnly (· ≠ []) (pure (first ++ CodePoint.ofChar ':' :: second)) :=
    .pure (List.append_ne_nil_of_left_ne_nil hfirst _)
  exact .ite (.bind (.any _) fun _ _ => hpair) hpair

end Scanner

/-- A start tag has a name. -/
theorem Tag.scan_findsOnly (fuel : Nat) :
    Scanner.FindsOnly (fun tag => tag.name ≠ []) (Tag.scan fuel) := by
  refine .bind Scanner.qualifiedName_findsOnly fun name hname => .bind (.any _) fun _ _ => ?_
  have hplain (next : Symbol) : Scanner.FindsOnly (fun tag : Tag => tag.name ≠ [])
      (do return ⟨name, [], ← tagEnd next⟩) := .bind (.any _) fun _ _ => .pure hname
  refine .ite (hplain _) (.ite ?_ .refuse)
  refine .bind (.any _) fun _ _ => .bind (.any _) fun _ _ => .ite (hplain _) ?_
  exact .bind (.any _) fun _ _ => .pure hname

/-- What may become of what has been read. -/
inductive ContentStep (type : DocumentType)
    (expand : Text → Nat → ContentState → Except (MarkupFault × Nat) ContentState) :
    ContentState → ContentState → Prop
  /-- Text is read. -/
  | characters (state : ContentState) (content : Text) :
    ContentStep type expand state (state.emit (.characters content))
  /-- An element opens. -/
  | opened {state state' : ContentState} {tag : Tag} (hname : tag.name ≠ [])
    (h : state.openElement type tag = .ok state') : ContentStep type expand state state'
  /-- The innermost element ends. -/
  | closed (state : ContentState) : ContentStep type expand state state.closeElement
  /-- A reference cannot be followed. -/
  | unseen (state : ContentState) (unseen : Option (MarkupFault × Nat)) :
    ContentStep type expand state { state with unseen }
  /-- The text of an entity is read. -/
  | expanded {state state' : ContentState} {name : Text} {left : Nat}
    (h : expand name left state = .ok state') : ContentStep type expand state state'

/-- Reading content goes by steps. -/
theorem steps_of_readContent {type : DocumentType} {scope : ContentScope}
    {expand : Text → Nat → ContentState → Except (MarkupFault × Nat) ContentState} {fuel : Nat}
    {state state' : ContentState} {s rest : Symbols}
    (h : readContent type scope expand fuel state s = .ok (state', rest)) :
    Relation.ReflTransGen (ContentStep type expand) state state' := by
  induction fuel generalizing state s with
  | zero => cases h
  | succ fuel ih =>
    match s with
    | [] =>
      unfold readContent at h
      repeat' split at h
      all_goals cases h
      exact .refl
    | .malformed :: s => cases h
    | .cut :: s => cases h
    | .char c :: s =>
      unfold readContent at h
      dsimp only at h
      repeat' split at h
      -- Each way through ends in a fault, or reads on after the steps that are named here.
      all_goals first
        | cases h; done
        | exact ih h
        | exact (ih h).head (.characters _ _)
        | exact (ih h).head (.unseen _ _)
        | exact (ih h).head (.closed _)
        | exact (ih h).head (.expanded ‹_›)
        | exact (ih h).head (.opened (Tag.scan_findsOnly _ _ _ _ ‹_›) ‹_›)
        | exact ((ih h).head (.closed _)).head (.opened (Tag.scan_findsOnly _ _ _ _ ‹_›) ‹_›)
        | cases h
      -- The element of the document ends, with its end tag or with the tag that opened it.
      · exact .single (.closed _)
      · exact .head (.opened (Tag.scan_findsOnly _ _ _ _ ‹_›) ‹_›) (.single (.closed _))

/-- Whether no element has opened without a tag. -/
def ContentState.IsTagged (state : ContentState) : Prop :=
  ∀ tag attributes, .opened tag attributes ∈ state.events → tag ≠ []

/-- A name that is not empty is the name of a tag. -/
theorem elementName_ne_nil {bindings : Bindings} {name tag : Text} (hname : name ≠ [])
    (h : elementName bindings name = .ok tag) : tag ≠ [] := by
  unfold elementName at h
  repeat' split at h
  all_goals cases h
  · exact List.cons_ne_nil _ _
  · exact hname
  · exact List.cons_ne_nil _ _
  · exact hname

/-- An element opens with a tag and nothing else happens. -/
theorem ContentState.events_of_openElement {type : DocumentType} {tag : Tag}
    {state state' : ContentState} (hname : tag.name ≠ [])
    (h : state.openElement type tag = .ok state') :
    ∃ name attributes, name ≠ [] ∧ state'.events = .opened name attributes :: state.events := by
  unfold openElement at h
  obtain ⟨found, -, h⟩ := exists_of_bind_eq_ok h
  dsimp only at h
  split at h
  next opened hopened =>
    cases h
    obtain ⟨_, -, hopened⟩ := exists_of_bind_eq_ok hopened
    obtain ⟨attributes, -, hopened⟩ := exists_of_bind_eq_ok hopened
    obtain ⟨name, hresolved, hopened⟩ := exists_of_bind_eq_ok hopened
    cases hopened
    exact ⟨name, attributes, elementName_ne_nil hname hresolved, rfl⟩
  next => cases h

namespace ContentState

variable {type : DocumentType}
  {expand : Text → Nat → ContentState → Except (MarkupFault × Nat) ContentState}
  {state state' : ContentState}

/-- A step opens no element without a tag, if entities do not. -/
theorem IsTagged.step (hstate : state.IsTagged)
    (hexpand : ∀ name left (state state' : ContentState), state.IsTagged →
      expand name left state = .ok state' → state'.IsTagged)
    (h : ContentStep type expand state state') : state'.IsTagged := by
  cases h with
  | characters content =>
    intro tag attributes hmem
    exact hstate tag attributes (List.mem_of_ne_of_mem (by simp) hmem)
  | opened hname hopen =>
    obtain ⟨name, resolved, hne, hevents⟩ := events_of_openElement hname hopen
    intro tag attributes hmem
    rw [hevents] at hmem
    rcases List.mem_cons.mp hmem with heq | hmem
    · cases heq
      exact hne
    · exact hstate tag attributes hmem
  | closed =>
    intro tag attributes hmem
    exact hstate tag attributes (List.mem_of_ne_of_mem (by simp) hmem)
  | unseen unseen => exact hstate
  | expanded hentity => exact hexpand _ _ _ _ hstate hentity

/-- Reading content opens no element without a tag, if entities do not. -/
theorem IsTagged.readContent {scope : ContentScope} {fuel : Nat} {s rest : Symbols}
    (hstate : state.IsTagged)
    (hexpand : ∀ name left (state state' : ContentState), state.IsTagged →
      expand name left state = .ok state' → state'.IsTagged)
    (h : ConfigNamespace.readContent type scope expand fuel state s = .ok (state', rest)) :
    state'.IsTagged := by
  have hsteps := steps_of_readContent h
  clear h
  induction hsteps with
  | refl => exact hstate
  | tail _ hstep ih => exact ih.step hexpand hstep

/-- The text of an entity opens no element without a tag, however deep entities stand in it. -/
theorem IsTagged.readEntity {size depth left : Nat} {opened : List Text} {name : Text}
    (hstate : state.IsTagged)
    (h : ConfigNamespace.readEntity type size depth opened name left state = .ok state') :
    state'.IsTagged := by
  induction depth generalizing opened name left state state' with
  | zero => cases h
  | succ depth ih =>
    unfold ConfigNamespace.readEntity at h
    dsimp only at h
    repeat' split at h
    all_goals first | cases h; done | skip
    next hread =>
      cases h
      refine IsTagged.readContent ?_ (fun _ _ _ _ hs hentity => ih hs hentity) hread
      exact hstate

end ContentState

namespace Element

end Element

end ConfigNamespace
