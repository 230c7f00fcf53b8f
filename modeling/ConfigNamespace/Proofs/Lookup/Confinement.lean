import ConfigNamespace.Proofs.Lookup.Handles
import ConfigNamespace.Proofs.Lookup.Reach
import ConfigNamespace.Proofs.Resource.Place

/-!
# Walks stay beneath their base

A walk looks at nothing but candidates: the plain segments up to one of them, which may have an
extension or be replaced by the default document. All of these names are plain, so no look goes to a
base itself or to anything that is not beneath it.
-/

namespace ConfigNamespace

open Operation

/-- The names that a walk down segments may look at. -/
inductive Candidate (extensions segments : List Text) : List Text → Prop
  /-- The segments up to one of them. -/
  | bare {passed rest : List Text} {segment : Text} (h : segments = passed ++ segment :: rest) :
    Candidate extensions segments (passed ++ [segment])
  /-- The segments up to one of them, which has an extension. -/
  | document {passed rest : List Text} {segment extension : Text}
    (h : segments = passed ++ segment :: rest) (hextension : extension ∈ extensions) :
    Candidate extensions segments (passed ++ [segment ++ extension])
  /-- The default document behind some of the segments. -/
  | default {passed rest : List Text} {extension : Text} (h : segments = passed ++ rest)
    (hextension : extension ∈ extensions) :
    Candidate extensions segments (passed ++ [defaultDocument ++ extension])

/-- A candidate has a last name. -/
theorem Candidate.exists_append {extensions segments names : List Text}
    (h : Candidate extensions segments names) : ∃ passed last, names = passed ++ [last] := by
  cases h with
  | bare h => exact ⟨_, _, rfl⟩
  | document h hextension => exact ⟨_, _, rfl⟩
  | default h hextension => exact ⟨_, _, rfl⟩

/-- Whether a handle is a candidate beneath a base, all of whose names are plain. -/
def Confined (p : Protocol) (base : Text) (extensions segments : List Text) (h : ResourceHandle) :
    Prop :=
  ∃ names, Candidate extensions segments names ∧ (∀ name ∈ names, isPlainSegment name = true) ∧
    h = ⟨p, p.place base names⟩

/-- Resources are looked at, but only such that have a property. -/
def visiting (P : ResourceHandle → Prop) : Evolution Session :=
  .growing Session.visits fun visit => P visit.handle

section Visiting

variable {P : ResourceHandle → Prop}

/-- Where no look is made, only such resources are looked at. -/
theorem visiting_of_eq {s t : Session} (h : t.visits = s.visits) : (visiting P).Allows s t :=
  ⟨[], by simpa using h, by simp⟩

/-- Opening archives, making requests and writing records looks at no resource. -/
theorem permits_visiting : Session.Permits (visiting P) :=
  ⟨fun _ _ => visiting_of_eq rfl, fun _ _ => visiting_of_eq rfl, fun _ _ => visiting_of_eq rfl⟩

/-- A look at a resource of a kind is a look at such a one. -/
theorem visit_follows {h : ResourceHandle} (hP : P h) (inquiry : Inquiry) :
    (Session.visit inquiry h).Follows (visiting P) :=
  .modify fun _ => ⟨[⟨inquiry, h⟩], rfl, by simpa using hP⟩

/-- Looks at resources of a kind are looks at resources of a wider kind. -/
theorem visiting_mono {α : Type} {Q : ResourceHandle → Prop} (hPQ : ∀ h, P h → Q h)
    {op : Operation Session α} (hop : op.Follows (visiting P)) : op.Follows (visiting Q) := by
  intro s
  obtain ⟨new, hnew, hP⟩ := hop s
  exact ⟨new, hnew, fun visit hmem => hPQ _ (hP visit hmem)⟩

end Visiting

namespace Locator

section Looks

variable {P : ResourceHandle → Prop} {l : Locator} {h : ResourceHandle}

/-- Asking whether a resource exists looks at that resource. -/
theorem isPresent_follows (hP : P h) : (l.isPresent h).Follows (visiting P) :=
  .bind (visit_follows hP _) fun _ _ => Backend.isPresent_follows _ permits_visiting _ _

/-- Loading a document looks at its resource. -/
theorem load_follows (hP : P h) (delimiter : Text) : (l.load h delimiter).Follows (visiting P) := by
  refine .bind .get fun s _ => ?_
  split
  · exact .pure _
  · refine .bind ?_ fun d _ => .bind (.modify fun _ => visiting_of_eq rfl) fun _ _ => ?_
    · refine .bind ?_ fun _ _ => .bind (.ofExcept _) fun _ _ => .ofExcept _
      exact .bind (visit_follows hP _) fun _ _ => Backend.read_follows _ permits_visiting _ _
    · exact .bind (Backend.note_follows permits_visiting _ _ _) fun _ _ => .pure _

/-- Telling a container by what it holds looks at its resource. -/
theorem seemsContainer_follows (hP : P h) (delimiter : Text) :
    (l.seemsContainer h delimiter).Follows (visiting P) := by
  have hnote (message : Text) (level : LogLevel) (result : Bool) :
      (do Session.note level .locator message; pure result : Operation Session Bool).Follows
        (visiting P) :=
    .bind (Backend.note_follows permits_visiting _ _ _) fun _ _ => .pure _
  refine .bind (load_follows hP delimiter).attempt fun result _ => ?_
  cases result with
  | ok d => exact .ite (fun _ => hnote _ _ _) fun _ => .ite (fun _ => hnote _ _ _) fun _ => .pure _
  | error failure => exact .ite (fun _ => hnote _ _ _) fun _ => .throw _

/-- Asking whether a resource is a container looks at that resource. -/
theorem isContainer_follows (hP : P h) (delimiter : Text) :
    (l.isContainer h delimiter).Follows (visiting P) := by
  refine .bind (visit_follows hP _) fun _ _ => ?_
  split
  · refine .bind (.ofExcept _) fun found _ => ?_
    cases found <;> exact .pure _
  · exact .throw _
  · exact seemsContainer_follows hP delimiter

/-- Trying extensions looks at the name with each of them. -/
theorem firstDocument_follows {base name : Text} {extensions : List Text}
    (hP : ∀ extension ∈ extensions, ∀ h, l.backend.child base (name ++ extension) = .ok h → P h) :
    (l.firstDocument base name extensions).Follows (visiting P) := by
  induction extensions with
  | nil => exact .pure _
  | cons extension extensions ih =>
    refine .bind (.ofExcept _) fun h hchild => ?_
    have hhere := hP extension List.mem_cons_self h (eq_ok_of_mayGive_ofExcept hchild)
    refine .bind (isPresent_follows hhere) fun _ _ => .ite (fun _ => .pure _) fun _ => ih ?_
    exact fun extension' hmem => hP extension' (List.mem_cons_of_mem _ hmem)

/-- Classifying a segment looks at its documents. -/
theorem classified_follows (bare : ResourceHandle) {base segment : Text}
    (hP : ∀ extension ∈ l.parsers.order, ∀ h,
      l.backend.child base (segment ++ extension) = .ok h → P h) (container : Bool) :
    (l.classified bare base segment container).Follows (visiting P) := by
  refine .ite (fun _ => .pure _) fun _ => ?_
  refine .bind (firstDocument_follows hP) fun found _ => ?_
  cases found <;> exact .pure _

/-- A probe looks at the segment, if it is plain, and at the segment with each extension. -/
theorem probe_follows {base segment delimiter : Text}
    (hbare : isPlainSegment segment = true → ∀ h, l.backend.child base segment = .ok h → P h)
    (hdocument : isPlainSegment segment = true → ∀ extension ∈ l.parsers.order, ∀ h,
      l.backend.child base (segment ++ extension) = .ok h → P h) :
    (l.probe base segment delimiter).Follows (visiting P) := by
  refine .ite (fun _ => ?_) fun hplain => ?_
  · exact .bind (Backend.note_follows permits_visiting _ _ _) fun _ _ => .pure _
  · replace hplain : isPlainSegment segment = true := by simpa using hplain
    refine .bind (.ofExcept _) fun bare hchild => ?_
    have hhere := hbare hplain bare (eq_ok_of_mayGive_ofExcept hchild)
    have hclassified := classified_follows (P := P) bare (hdocument hplain)
    refine .bind (isPresent_follows hhere) fun present _ => .ite (fun _ => ?_) fun _ => ?_
    · exact .bind (isContainer_follows hhere delimiter) fun container _ => hclassified container
    · exact .bind (.pure _) fun container _ => hclassified container

/-- Falling back looks at default documents. -/
theorem fallBack_follows {path : Text} {remainder : List Text}
    (hP : ∀ extension ∈ l.parsers.order, ∀ h,
      l.backend.child path (defaultDocument ++ extension) = .ok h → P h) :
    (l.fallBack path remainder).Follows (visiting P) := by
  refine .bind (firstDocument_follows hP) fun found _ => ?_
  cases found with
  | none => exact .pure _
  | some h => exact .bind (Backend.note_follows permits_visiting _ _ _) fun _ _ => .pure _

end Looks

section Walks

variable {e : Environment} {parsers : ParserRegistry} {w : World} {p : Protocol} {base : Text}
  {segments passed rest : List Text}

/-- The names of a candidate lead to a confined handle from where a walk stands. -/
private theorem confined_of_child (hpassed : ∀ name ∈ passed, isPlainSegment name = true)
    {name : Text} (hname : isPlainSegment name = true)
    (hcandidate : Candidate parsers.order segments (passed ++ [name])) {h : ResourceHandle}
    (hchild : (backendFor e p).child (p.stand base passed) name = .ok h) :
    Confined p base parsers.order segments h := by
  obtain rfl := eq_of_child_stand (fun name hmem => isPart_of_isPlainSegment (hpassed name hmem))
    (isPart_of_isPlainSegment hname) hchild
  refine ⟨_, hcandidate, List.forall_mem_append.mpr ⟨hpassed, ?_⟩, rfl⟩
  exact fun name' hname' => List.mem_singleton.mp hname' ▸ hname

/-- The default documents behind some of the segments are confined. -/
private theorem confined_of_default
    (hextensions : ∀ extension ∈ parsers.order, ∀ c ∈ extension,
      c ≠ CodePoint.ofChar '/' ∧ c ≠ CodePoint.backslash)
    (hsegments : segments = passed ++ rest) (hpassed : ∀ name ∈ passed, isPlainSegment name = true)
    {extension : Text} (hextension : extension ∈ parsers.order) {h : ResourceHandle}
    (hchild : (backendFor e p).child (p.stand base passed) (defaultDocument ++ extension) = .ok h) :
    Confined p base parsers.order segments h :=
  confined_of_child hpassed
    (isPlainSegment_append (by decide) (hextensions extension hextension))
    (.default hsegments hextension) hchild

/-- A walk that goes on from a container stands at the segment that names it. -/
private theorem location_of_container (hpassed : ∀ name ∈ passed, isPlainSegment name = true)
    {segment delimiter : Text} {found : ResourceHandle}
    (hfound : (probe ⟨backendFor e p, parsers, w⟩ (p.stand base passed) segment delimiter).MayGive
      (.container, some found)) :
    (∀ name ∈ passed ++ [segment], isPlainSegment name = true) ∧
      found.location = p.stand base (passed ++ [segment]) := by
  obtain ⟨hplain, ⟨-, hchild⟩ | ⟨hkind, -⟩⟩ := child_of_probe hfound
  · obtain rfl := eq_of_child_stand
      (fun name hmem => isPart_of_isPlainSegment (hpassed name hmem))
      (isPart_of_isPlainSegment hplain) hchild
    refine ⟨List.forall_mem_append.mpr ⟨hpassed, ?_⟩, by simp [Protocol.stand]⟩
    exact fun name hname => List.mem_singleton.mp hname ▸ hplain
  · cases hkind

variable (hextensions : ∀ extension ∈ parsers.order, ∀ c ∈ extension,
    c ≠ CodePoint.ofChar '/' ∧ c ≠ CodePoint.backslash)
include hextensions

/-- A walk looks at confined resources alone. The induction is on the segments that are left, and
carries that those passed are plain. -/
theorem walk_follows (delimiter : Text) (hsegments : segments = passed ++ rest)
    (hpassed : ∀ name ∈ passed, isPlainSegment name = true) :
    (walk ⟨backendFor e p, parsers, w⟩ delimiter (p.stand base passed) rest).Follows
      (visiting (Confined p base parsers.order segments)) := by
  have hfallBack {passed rest : List Text} (hsegments : segments = passed ++ rest)
      (hpassed : ∀ name ∈ passed, isPlainSegment name = true) :
      (fallBack ⟨backendFor e p, parsers, w⟩ (p.stand base passed) rest).Follows
        (visiting (Confined p base parsers.order segments)) :=
    fallBack_follows fun _ hmem _ hchild =>
      confined_of_default hextensions hsegments hpassed hmem hchild
  induction rest generalizing passed with
  | nil => exact hfallBack hsegments hpassed
  | cons segment rest ih =>
    refine .bind (probe_follows ?_ ?_) fun found hfound => ?_
    · exact fun hplain _ hchild => confined_of_child hpassed hplain (.bare hsegments) hchild
    · exact fun hplain extension hmem _ hchild => confined_of_child hpassed
        (isPlainSegment_append hplain (hextensions extension hmem)) (.document hsegments hmem) hchild
    · split
      · obtain ⟨hpassed', hlocation⟩ := location_of_container hpassed hfound
        rw [hlocation]
        exact ih (by simpa using hsegments) hpassed'
      · exact .bind (Backend.note_follows permits_visiting _ _ _) fun _ _ => .pure _
      · exact hfallBack hsegments hpassed

/-- A walk gives confined resources alone. -/
theorem confined_of_walk {delimiter : Text} (hsegments : segments = passed ++ rest)
    (hpassed : ∀ name ∈ passed, isPlainSegment name = true) {h : ResourceHandle}
    {rest' : List Text}
    (hfound : (walk ⟨backendFor e p, parsers, w⟩ delimiter (p.stand base passed) rest).MayGive
      (some h, rest')) : Confined p base parsers.order segments h := by
  have hfallBack {passed rest : List Text} (hsegments : segments = passed ++ rest)
      (hpassed : ∀ name ∈ passed, isPlainSegment name = true)
      (hfound : (fallBack ⟨backendFor e p, parsers, w⟩ (p.stand base passed) rest).MayGive
        (some h, rest')) : Confined p base parsers.order segments h := by
    obtain ⟨extension, hmem, hchild⟩ := child_of_fallBack hfound
    exact confined_of_default hextensions hsegments hpassed hmem hchild
  induction rest generalizing passed with
  | nil => exact hfallBack hsegments hpassed hfound
  | cons segment rest ih =>
    obtain ⟨found, hprobe, hrest⟩ := hfound.of_bind
    split at hrest
    · obtain ⟨hpassed', hlocation⟩ := location_of_container hpassed hprobe
      rw [hlocation] at hrest
      exact ih (by simpa using hsegments) hpassed' hrest
    · obtain ⟨-, -, hrest⟩ := hrest.of_bind
      cases eq_of_mayGive_pure hrest
      obtain ⟨hplain, ⟨hkind, -⟩ | ⟨-, extension, hmem, hchild⟩⟩ := child_of_probe hprobe
      · cases hkind
      · exact confined_of_child hpassed
          (isPlainSegment_append hplain (hextensions extension hmem)) (.document hsegments hmem) hchild
    · exact hfallBack hsegments hpassed hrest

end Walks

end Locator

end ConfigNamespace
