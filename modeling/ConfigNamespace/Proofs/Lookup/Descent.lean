import ConfigNamespace.Proofs.Lookup.Confinement
import ConfigNamespace.Proofs.Lookup.Transparent
import ConfigNamespace.Proofs.World.Merged

/-!
# Where walks end

While the world stays as it is, a walk is described without any session. It goes down as many segments
as name containers, one beneath the other. Where it arrives, it ends at the first existing document
of the next segment, or else at the first existing default document. It gets there unless one of its
looks at resources fails, or it comes to a name that has no place in a URL.
-/

namespace ConfigNamespace

open Operation

namespace Locator

/-- The resource of a name beneath a base, if it exists. -/
def existing? (l : Locator) (base name : Text) : Option ResourceHandle :=
  match l.backend.child base name with
  | .ok h => if (l.isPresent h).answer.toOption = some true then some h else none
  | .error _ => none

/-- The document of a name beneath a base: the one with the first extension for which one exists. -/
def document? (l : Locator) (base name : Text) : Option ResourceHandle :=
  l.parsers.order.findSome? fun extension => l.existing? base (name ++ extension)

/-- The document of a segment beneath a base. Only a plain segment has one. -/
def segmentDocument? (l : Locator) (base segment : Text) : Option ResourceHandle :=
  if isPlainSegment segment then l.document? base segment else none

/-- Whether a segment names a container beneath a base: it is plain, and what it names exists and is
classified as a container. -/
structure Contains (l : Locator) (delimiter base segment : Text) (c : ResourceHandle) : Prop where
  /-- The segment is plain. -/
  plain : isPlainSegment segment = true
  /-- What it names exists. -/
  existing : l.existing? base segment = some c
  /-- It is a container. -/
  container : (l.isContainer c delimiter).answer = .ok true

/-- Whether segments name containers one beneath the other, from a path down to another one. -/
inductive Descends (l : Locator) (delimiter : Text) : Text → List Text → Text → Prop
  /-- Without segments, the path stays. -/
  | stay (path : Text) : Descends l delimiter path [] path
  /-- The first segment names a container, and the others go on from there. -/
  | down {path segment last : Text} {segments : List Text} {c : ResourceHandle}
    (h : l.Contains delimiter path segment c) (hrest : Descends l delimiter c.location segments last) :
    Descends l delimiter path (segment :: segments) last

/-- How far segments name containers one beneath the other, starting at a base: those passed lead to a
path, no more segments do, and the rest is left. -/
structure Descent (l : Locator) (delimiter base : Text) (segments passed : List Text) (path : Text)
    (rest : List Text) : Prop where
  /-- The segments are those passed and the rest. -/
  segments_eq : segments = passed ++ rest
  /-- Those passed name containers one beneath the other. -/
  descends : l.Descends delimiter base passed path
  /-- No more of the leading segments do. -/
  greatest : ∀ more others last, segments = more ++ others → l.Descends delimiter base more last →
    more.length ≤ passed.length

/-- Where a walk ends that has arrived at a path with some segments left: at the document of a plain
first segment, with the others, or at the default document, with all of them. -/
def walkEnd (l : Locator) (path : Text) : (rest : List Text) → Option ResourceHandle × List Text
  | [] => (l.document? path defaultDocument, [])
  | segment :: remainder =>
    match l.segmentDocument? path segment with
    | some h => (some h, remainder)
    | none => (l.document? path defaultDocument, segment :: remainder)

section Answers

variable {b : Backing} {p : Protocol} {delimiter base path segment : Text} {segments : List Text}

end Answers

section Descents

variable {l : Locator} {delimiter base path segment : Text} {segments passed rest : List Text}

/-- A segment names one container at most. -/
theorem Contains.unique {c c' : ResourceHandle} (h : l.Contains delimiter path segment c)
    (h' : l.Contains delimiter path segment c') : c = c' :=
  Option.some.inj (h.existing.symm.trans h'.existing)

/-- Segments lead down to one path. -/
theorem Descends.unique {last last' : Text} (h : l.Descends delimiter path segments last)
    (h' : l.Descends delimiter path segments last') : last = last' := by
  induction h with
  | stay path =>
    cases h'
    rfl
  | down hc _ ih =>
    cases h' with
    | down hc' hrest' =>
      cases hc.unique hc'
      exact ih hrest'

/-- Where the next segment names no container, no more segments lead down. -/
theorem Descends.greatest {last last' : Text} {more others : List Text}
    (h : l.Descends delimiter path passed last)
    (hstops : ∀ segment remainder, rest = segment :: remainder →
      ∀ c, ¬ l.Contains delimiter last segment c)
    (hsegments : passed ++ rest = more ++ others) (hmore : l.Descends delimiter path more last') :
    more.length ≤ passed.length := by
  induction h generalizing more with
  | stay path =>
    cases hmore with
    | stay => exact Nat.le_refl _
    | down hc hrest => exact absurd hc (hstops _ _ hsegments _)
  | down hc _ ih =>
    cases hmore with
    | stay => exact Nat.zero_le _
    | down hc' hrest' =>
      obtain ⟨rfl, hothers⟩ := List.cons.inj hsegments
      cases hc.unique hc'
      exact Nat.succ_le_succ (ih hstops hothers hrest')

/-- There is one way down as far as it goes. -/
theorem Descent.unique {passed' rest' : List Text} {path' : Text}
    (h : l.Descent delimiter base segments passed path rest)
    (h' : l.Descent delimiter base segments passed' path' rest') :
    passed' = passed ∧ path' = path ∧ rest' = rest := by
  have hlength : passed'.length = passed.length :=
    Nat.le_antisymm (h.greatest _ _ _ h'.segments_eq h'.descends)
      (h'.greatest _ _ _ h.segments_eq h.descends)
  obtain ⟨rfl, rfl⟩ := List.append_inj (h'.segments_eq.symm.trans h.segments_eq) hlength
  exact ⟨rfl, h'.descends.unique h.descends, rfl⟩

end Descents

end Locator

section Failing

variable {α β : Type} {b : Backing} {p : Protocol} {delimiter : Text}

/-- Whether what was asked of a resource can be answered at all. What it holds is asked only to tell its
kind, and how the kind is told from a failure is part of that question. -/
def Visit.IsAnswered (b : Backing) (delimiter : Text) (visit : Visit) : Prop :=
  let l := b.locator visit.handle.protocol
  match visit.inquiry with
  | .existence => ∃ present, (l.isPresent visit.handle).answer = .ok present
  | .kind => ∃ container, (l.isContainer visit.handle delimiter).answer = .ok container
  | .content => True

namespace Operation

/-- The looks at resources that an operation makes from a session on. -/
def looks (op : Operation Session α) (s : Session) : List Visit :=
  (op.outcome s).2.visits.drop s.visits.length

/-- Looks that are added to those of a session are made from there on. -/
theorem looks_eq {op : Operation Session α} {s : Session} {new : List Visit}
    (h : (op.outcome s).2.visits = s.visits ++ new) : op.looks s = new := by
  rw [looks, h, List.drop_left]

/-- Whether an operation is transparent and fails only after a look that cannot be answered or over a
name that the protocol has no place for. -/
structure Blames (b : Backing) (p : Protocol) (delimiter : Text) (op : Operation Session α) :
    Prop where
  /-- It is transparent. -/
  isTransparent : op.IsTransparent b
  /-- It looks at resources. -/
  follows : op.Follows (visiting fun _ => True)
  /-- A failure comes after a look without an answer, or is about a name without a place. -/
  blames : ∀ s failure, s.Faithful b → (op.outcome s).1 = .error failure →
    (∃ visit ∈ op.looks s, ¬ visit.IsAnswered b delimiter) ∨
      ∃ name, ¬p.Admits name ∧ failure = .unencodable name

namespace Blames

/-- An operation that gives a result fails after no look. -/
theorem of_answer {op : Operation Session α} {a : α} (h : op.IsTransparent b)
    (hfollows : op.Follows (visiting fun _ => True)) (hanswer : op.answer = .ok a) :
    op.Blames b p delimiter := by
  refine ⟨h, hfollows, fun s failure hs hfailed => ?_⟩
  rw [h.outcome_eq hs, hanswer] at hfailed
  cases hfailed

/-- Giving a value blames nothing. -/
theorem pure (a : α) : (Pure.pure a : Operation Session α).Blames b p delimiter :=
  of_answer (.pure a) (.pure a) rfl

/-- Writing a record blames nothing. -/
theorem note (level : LogLevel) (source : LogSource) (message : Text) :
    (Session.note level source message).Blames b p delimiter :=
  of_answer (.note level source message) (Backend.note_follows permits_visiting level source message)
    rfl

/-- Where one operation follows another, either is to blame. -/
theorem bind {op : Operation Session α} {next : α → Operation Session β} (h : op.Blames b p delimiter)
    (hnext : ∀ a, op.MayGive a → (next a).Blames b p delimiter) : (op >>= next).Blames b p delimiter := by
  refine ⟨.bind h.isTransparent fun a ha => (hnext a (mayGive_of_answer ha)).isTransparent,
    .bind h.follows fun a ha => (hnext a ha).follows, fun s failure hs hfailed => ?_⟩
  obtain ⟨new, hnew, -⟩ := h.follows s
  rcases hop : op.outcome s with ⟨raised | a, t⟩
  · rw [looks, outcome_bind_error hop]
    rw [outcome_bind_error hop] at hfailed
    cases hfailed
    have hblames := h.blames s failure hs (by rw [hop])
    rwa [looks, hop] at hblames
  · have ht := h.isTransparent.faithful hs
    rw [hop] at hnew ht
    rw [outcome_bind_ok hop] at hfailed
    have hblames := hnext a ⟨s, by rw [hop]⟩
    refine (hblames.blames t failure ht hfailed).imp_left fun ⟨visit, hvisit, hunanswered⟩ => ?_
    obtain ⟨more, hmore, -⟩ := hblames.follows t
    refine ⟨visit, ?_, hunanswered⟩
    rw [looks_eq hmore] at hvisit
    have hboth : ((op >>= next).outcome s).2.visits = s.visits ++ (new ++ more) := by
      rw [outcome_bind_ok hop, hmore, show t.visits = _ from hnew, List.append_assoc]
    rw [looks_eq hboth]
    exact List.mem_append_right new hvisit

/-- A choice blames what the chosen operation blames. -/
theorem ite {c : Prop} [Decidable c] {op op' : Operation Session α} (h : c → op.Blames b p delimiter)
    (h' : ¬c → op'.Blames b p delimiter) : (if c then op else op').Blames b p delimiter := by
  by_cases hc : c
  · rw [if_pos hc]; exact h hc
  · rw [if_neg hc]; exact h' hc

end Blames

end Operation

namespace Locator

/-- What is left of the rest where a walk ends is all of it, or all but the segment of the document. -/
theorem exists_leaf (l : Locator) (path : Text) (rest : List Text) :
    ∃ leaf, leaf.length ≤ 1 ∧ rest = leaf ++ (l.walkEnd path rest).2 := by
  cases rest with
  | nil => exact ⟨[], Nat.zero_le 1, rfl⟩
  | cons segment remainder =>
    unfold walkEnd
    dsimp only
    cases l.segmentDocument? path segment with
    | some h => exact ⟨[segment], Nat.le_refl 1, rfl⟩
    | none => exact ⟨[], Nat.zero_le 1, rfl⟩

end Locator

end Failing

end ConfigNamespace
