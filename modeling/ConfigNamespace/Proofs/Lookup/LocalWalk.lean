import ConfigNamespace.Proofs.Lookup.Stored

/-!
# Walks beneath a directory

A walk beneath a directory asks the file system about candidates and reads nothing. So it fails only
where the file system refuses the path of a candidate because it is too long, and otherwise it ends
nowhere or at a document: at one that the last segment it passed names with an extension, or at a
default document.
-/

namespace ConfigNamespace

open Operation

/-- Where a walk down segments from a base may end, with the segments that are left then. -/
inductive Backing.MayEnd (b : Backing) (base : Text) (segments : List Text) :
    ResourceHandle → List Text → Prop
  /-- At a document that is named by a segment behind those that were passed. -/
  | document {passed rest : List Text} {segment extension : Text}
    (hsegments : segments = passed ++ segment :: rest)
    (hplain : ∀ name ∈ passed ++ [segment], isPlainSegment name = true)
    (hextension : extension ∈ b.parsers.order) :
    MayEnd b base segments (fileHandle base passed (segment ++ extension)) rest
  /-- At the default document behind the segments that were passed. -/
  | default {passed rest : List Text} {extension : Text} (hsegments : segments = passed ++ rest)
    (hplain : ∀ name ∈ passed, isPlainSegment name = true)
    (hextension : extension ∈ b.parsers.order) :
    MayEnd b base segments (fileHandle base passed (defaultDocument ++ extension)) rest

/-- How a walk down segments from a base may fail: a candidate beneath plain segments has a path that
is too long for the file system. -/
inductive Backing.Overlong (b : Backing) (base : Text) (segments : List Text) : Failure → Prop
  /-- The path of the candidate is reported. -/
  | refused {passed : List Text} {last : Text}
    (hcandidate : Candidate b.parsers.order segments (passed ++ [last]))
    (hplain : ∀ name ∈ passed, isPlainSegment name = true)
    (hlook : b.world.look (.ofText (fileHandle base passed last).location) = .tooLong) :
    Overlong b base segments
      (.pathTooLong (ResourcePath.ofText (fileHandle base passed last).location).render)

/-- A path is refused for its length alone: a name in it is too long, or the path as a whole. -/
theorem Backing.Overlong.long {b : Backing} {base : Text} {segments : List Text} {failure : Failure}
    (h : b.Overlong base segments failure) : ∃ path : ResourcePath,
      failure = .pathTooLong path.render ∧
        ((∃ name ∈ path.parts, FileTree.maxNameBytes < (Text.utf8 name).length) ∨
          FileTree.maxPathBytes < (Text.utf8 path.render).length) := by
  obtain ⟨-, -, hlook⟩ := h
  refine ⟨_, rfl, ?_⟩
  by_contra hshort
  obtain ⟨hnames, hpath⟩ := not_or.mp hshort
  refine World.look_ne_tooLong (fun name hmem => ?_) (Nat.le_of_not_lt hpath) hlook
  exact Nat.le_of_not_lt fun hlong => hnames ⟨name, hmem, hlong⟩

/-- Whether something stands at a handle. -/
def Backing.Stands (b : Backing) (h : ResourceHandle) : Prop :=
  ∃ t, b.world.look (.ofText h.location) = .found t

namespace Locator

section Looks

variable {b : Backing} {P : Failure → Prop} {h : ResourceHandle}

variable (hP : ∀ failure, Backend.lookAt b.world (.ofText h.location) = .error failure → P failure)
include hP

end Looks

section Walks

variable {b : Backing} {base : Text} {segments passed rest : List Text}

end Walks

end Locator

/-- A walk ends in the directories of files alone. -/
theorem Backing.MayEnd.protocol_eq {b : Backing} {base : Text} {segments rest : List Text}
    {h : ResourceHandle} (hend : b.MayEnd base segments h rest) : h.protocol = .localPath := by
  cases hend <;> rfl

/-- Whether a file stands at a handle that is parsed to a document. -/
def Backing.Holds (b : Backing) (delimiter : Text) (h : ResourceHandle) (d : Document) : Prop :=
  ∃ content, b.world.look (.ofText h.location) = .found (.file content) ∧
    (b.parsers.parse h.name delimiter content.toBytes).bind (Document.ofRaw h) = .ok d

/-- Whether all documents beneath a base are parsed: the files where walks may end. -/
def Backing.AllParse (b : Backing) (base delimiter : Text) : Prop :=
  ∀ segments h rest content, b.MayEnd base segments h rest →
    b.world.look (.ofText h.location) = .found (.file content) → ∃ d, b.Holds delimiter h d

/-- What a walk ended at is loaded, if it is no directory. -/
theorem Backing.AllParse.load {b : Backing} {base delimiter : Text}
    (hparse : b.AllParse base delimiter) {segments rest : List Text} {h : ResourceHandle}
    (hend : b.MayEnd base segments h rest) (hstands : b.Stands h) :
    (∃ d, b.Holds delimiter h d ∧ ((b.locator h.protocol).load h delimiter).answer = .ok d) ∨
      b.world.nodeAt (.ofText h.location) = some .directory ∧
        ∃ failure, ((b.locator h.protocol).load h delimiter).answer = .error failure ∧
          failure.kind = .resourceAccess := by
  obtain ⟨t, hlook⟩ := hstands
  have hnode : b.world.nodeAt (.ofText h.location) = some t.node := by rw [World.nodeAt, hlook]
  have hsees : b.Sees h (some t.node) := by
    rw [← hnode]
    have hlocal : h = ⟨.localPath, h.location⟩ := by rw [← hend.protocol_eq]
    rw [hlocal]
    exact Locator.sees_local (by simp [hlook])
  cases t with
  | file content =>
    obtain ⟨d, hd⟩ := hparse segments h rest content hend hlook
    obtain ⟨content', hlook', hparsed⟩ := hd
    rw [hlook] at hlook'
    cases hlook'
    exact .inl ⟨d, ⟨content, hlook, hparsed⟩, (hsees.answer_load_file delimiter).trans hparsed⟩
  | directory entries => exact .inr ⟨hnode, hsees.answer_load_directory delimiter⟩

end ConfigNamespace
