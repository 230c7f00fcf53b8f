import ConfigNamespace.Namespace.Walk
import ConfigNamespace.Proofs.Operation

/-!
# The handles that locators give

A locator gives no handle that it did not make itself by joining a base and a name. What it gives
for a segment is therefore the segment itself or the segment with a registered extension, and has
the protocol of the locator.
-/

namespace ConfigNamespace

open Operation

namespace Locator

variable {l : Locator}

/-- A document that is located has the name asked for with one of the extensions. -/
theorem child_of_firstDocument {base name : Text} {extensions : List Text} {h : ResourceHandle}
    (hfound : (l.firstDocument base name extensions).MayGive (some h)) :
    ∃ extension ∈ extensions, l.backend.child base (name ++ extension) = .ok h := by
  induction extensions with
  | nil => cases eq_of_mayGive_pure hfound
  | cons extension extensions ih =>
    obtain ⟨handle, hhandle, hrest⟩ := hfound.of_bind
    obtain ⟨present, -, hrest⟩ := hrest.of_bind
    split at hrest
    · cases eq_of_mayGive_pure hrest
      exact ⟨extension, List.mem_cons_self, eq_ok_of_mayGive_ofExcept hhandle⟩
    · obtain ⟨extension', hmem, hchild⟩ := ih hrest
      exact ⟨extension', List.mem_cons_of_mem _ hmem, hchild⟩

/-- How a probe ends once it is known whether there is a container: with the container, or with the
first document of the segment. -/
def classified (l : Locator) (bare : ResourceHandle) (base segment : Text) (container : Bool) :
    Operation Session (Location × Option ResourceHandle) :=
  if container then pure (.container, some bare)
  else do
    match ← l.locateDocument base segment with
    | some h => pure (.leaf, some h)
    | none => pure (.absent, none)

/-- A probe of a plain segment asks whether there is a container, and ends accordingly. -/
theorem probe_of_isPlainSegment {segment : Text} (h : isPlainSegment segment = true)
    (base delimiter : Text) :
    l.probe base segment delimiter =
      l.child base segment >>= fun bare => l.isPresent bare >>= fun present =>
        if present then l.isContainer bare delimiter >>= l.classified bare base segment
        else pure false >>= l.classified bare base segment := by
  unfold probe
  rw [if_neg (by simp [h])]
  rfl

/-- What a classified segment leads to is the bare resource or one of its documents. -/
theorem child_of_classified {base segment : Text} {bare h : ResourceHandle} {kind : Location}
    {container : Bool} (hfound : (l.classified bare base segment container).MayGive (kind, some h)) :
    kind = .container ∧ bare = h ∨ kind = .leaf ∧ ∃ extension ∈ l.parsers.order,
      l.backend.child base (segment ++ extension) = .ok h := by
  unfold classified at hfound
  split at hfound
  · cases eq_of_mayGive_pure hfound
    exact .inl ⟨rfl, rfl⟩
  · obtain ⟨found, hlocated, hfound⟩ := hfound.of_bind
    cases found with
    | none => cases eq_of_mayGive_pure hfound
    | some found =>
      cases eq_of_mayGive_pure hfound
      exact .inr ⟨rfl, child_of_firstDocument hlocated⟩

/-- What a segment turns out to be: with a handle, the segment is plain, and the handle is that of
a container of this very name or of a document that has the name with an extension. -/
theorem child_of_probe {base segment delimiter : Text} {kind : Location} {h : ResourceHandle}
    (hfound : (l.probe base segment delimiter).MayGive (kind, some h)) :
    isPlainSegment segment ∧ (kind = .container ∧ l.backend.child base segment = .ok h ∨
      kind = .leaf ∧ ∃ extension ∈ l.parsers.order,
        l.backend.child base (segment ++ extension) = .ok h) := by
  by_cases hplain : isPlainSegment segment = true
  · refine ⟨hplain, ?_⟩
    rw [probe_of_isPlainSegment hplain] at hfound
    obtain ⟨bare, hbare, hrest⟩ := hfound.of_bind
    obtain ⟨present, -, hrest⟩ := hrest.of_bind
    have hclassified : ∃ container,
        (l.classified bare base segment container).MayGive (kind, some h) := by
      split at hrest
      · obtain ⟨container, -, hrest⟩ := hrest.of_bind
        exact ⟨container, hrest⟩
      · obtain ⟨container, -, hrest⟩ := hrest.of_bind
        exact ⟨container, hrest⟩
    obtain ⟨container, hclassified⟩ := hclassified
    rcases child_of_classified hclassified with ⟨hkind, rfl⟩ | hdocument
    · exact .inl ⟨hkind, eq_ok_of_mayGive_ofExcept hbare⟩
    · exact .inr hdocument
  · unfold probe at hfound
    rw [if_pos (by simpa using hplain)] at hfound
    obtain ⟨-, -, hrest⟩ := hfound.of_bind
    cases eq_of_mayGive_pure hrest

/-- What a walk falls back to is a default document. -/
theorem child_of_fallBack {path : Text} {segments rest : List Text} {h : ResourceHandle}
    (hfound : (l.fallBack path segments).MayGive (some h, rest)) :
    ∃ extension ∈ l.parsers.order, l.backend.child path (defaultDocument ++ extension) = .ok h := by
  obtain ⟨found, hlocated, hrest⟩ := hfound.of_bind
  cases found with
  | none => cases eq_of_mayGive_pure hrest
  | some found =>
    obtain ⟨-, -, hrest⟩ := hrest.of_bind
    cases eq_of_mayGive_pure hrest
    exact child_of_firstDocument hlocated

/-- A walk goes on from a path at each container, ends at a document, or falls back. -/
theorem child_of_walk {delimiter path : Text} {segments rest : List Text} {h : ResourceHandle}
    (hfound : (l.walk delimiter path segments).MayGive (some h, rest)) :
    ∃ base name, l.backend.child base name = .ok h := by
  induction segments generalizing path with
  | nil =>
    obtain ⟨extension, -, hchild⟩ := child_of_fallBack hfound
    exact ⟨_, _, hchild⟩
  | cons segment segments ih =>
    obtain ⟨found, hprobe, hrest⟩ := hfound.of_bind
    split at hrest
    · exact ih hrest
    · obtain ⟨-, -, hrest⟩ := hrest.of_bind
      cases eq_of_mayGive_pure hrest
      obtain ⟨-, ⟨hkind, -⟩ | ⟨-, extension, -, hchild⟩⟩ := child_of_probe hprobe
      · cases hkind
      · exact ⟨_, _, hchild⟩
    · obtain ⟨extension, -, hchild⟩ := child_of_fallBack hrest
      exact ⟨_, _, hchild⟩

/-- The handle of a name has the protocol of the backend. -/
theorem protocol_of_child {e : Environment} {p : Protocol} {base name : Text} {h : ResourceHandle}
    (hchild : (backendFor e p).child base name = .ok h) : h.protocol = p := by
  cases p with
  | localPath =>
    cases hchild
    rfl
  | bundled =>
    cases hchild
    rfl
  | remote =>
    unfold backendFor Backend.child at hchild
    dsimp only at hchild
    split at hchild <;> cases hchild
    rfl

end Locator

end ConfigNamespace
