import ConfigNamespace.Proofs.Lookup.Confinement
import ConfigNamespace.Proofs.Lookup.Sight

/-!
# Walks in a tree

Where a locator sees at all candidates what stands in a tree, and everything that a bare segment
names there is a directory, a walk gives what the tree alone tells. What it finds is then read as a
document, or is a directory that cannot be read.
-/

namespace ConfigNamespace

open Operation

/-- The first of the extensions with which a name leads to something. -/
def firstNamed (node : List Text → Option Node) (passed : List Text) (name : Text)
    (extensions : List Text) : Option (List Text) :=
  (extensions.find? fun extension => (node (passed ++ [name ++ extension])).isSome).map
    fun extension => passed ++ [name ++ extension]

/-- A walk down segments of a key in a tree: the names that lead to a document, and the rest of the
segments. -/
def treeWalk (node : List Text → Option Node) (extensions passed : List Text) :
    (segments : List Text) → Option (List Text) × List Text
  | [] => (firstNamed node passed defaultDocument extensions, [])
  | segment :: segments =>
    if isPlainSegment segment then
      if (node (passed ++ [segment])).isSome then
        treeWalk node extensions (passed ++ [segment]) segments
      else
        match firstNamed node passed segment extensions with
        | some names => (some names, segments)
        | none => (firstNamed node passed defaultDocument extensions, segment :: segments)
    else (firstNamed node passed defaultDocument extensions, segment :: segments)

section Found

variable {node : List Text → Option Node} {extensions segments passed rest names rest' : List Text}

/-- The first name that leads somewhere has one of the extensions. -/
theorem of_firstNamed {name : Text} (h : firstNamed node passed name extensions = some names) :
    ∃ extension ∈ extensions, names = passed ++ [name ++ extension] ∧ (node names).isSome = true := by
  obtain ⟨extension, hfound, rfl⟩ := Option.map_eq_some_iff.mp h
  have hnode := List.find?_some hfound
  exact ⟨extension, List.mem_of_find?_eq_some hfound, rfl, hnode⟩

/-- What a walk in a tree leads to is a candidate, its names lead down, and something stands there.
The induction is on the segments that are left. -/
theorem of_treeWalk (hextensions : ∀ extension ∈ extensions, CodePoint.ofChar '/' ∉ extension)
    (hsegments : segments = passed ++ rest) (hpassed : ∀ name ∈ passed, ResourcePath.IsName name)
    (h : treeWalk node extensions passed rest = (some names, rest')) :
    Candidate extensions segments names ∧ (∀ name ∈ names, ResourcePath.IsName name) ∧
      (node names).isSome = true := by
  have hdocument {passed : List Text} {name : Text}
      (hpassed : ∀ name ∈ passed, ResourcePath.IsName name) (hname : ResourcePath.IsName name)
      (hcandidate : ∀ extension ∈ extensions,
        Candidate extensions segments (passed ++ [name ++ extension]))
      (hfirst : firstNamed node passed name extensions = some names) :
      Candidate extensions segments names ∧ (∀ name ∈ names, ResourcePath.IsName name) ∧
        (node names).isSome = true := by
    obtain ⟨extension, hmem, rfl, hnode⟩ := of_firstNamed hfirst
    refine ⟨hcandidate extension hmem, List.forall_mem_append.mpr ⟨hpassed, ?_⟩, hnode⟩
    exact List.forall_mem_singleton.mpr (hname.append (hextensions extension hmem))
  have hdefault : ResourcePath.IsName defaultDocument := isName_of_isPlainSegment (by decide)
  induction rest generalizing passed with
  | nil =>
    exact hdocument hpassed hdefault (fun _ hmem => .default hsegments hmem) (congrArg Prod.fst h)
  | cons segment rest ih =>
    have hfallBack := hdocument hpassed hdefault fun _ hmem => .default hsegments hmem
    unfold treeWalk at h
    split at h
    · next hplain =>
      have hname := isName_of_isPlainSegment hplain
      split at h
      · refine ih (by simpa using hsegments) (List.forall_mem_append.mpr ⟨hpassed, ?_⟩) h
        exact List.forall_mem_singleton.mpr hname
      · split at h
        · next hfirst =>
          cases h
          exact hdocument hpassed hname (fun _ hmem => .document hsegments hmem) hfirst
        · exact hfallBack (congrArg Prod.fst h)
    · exact hfallBack (congrArg Prod.fst h)

end Found

/-- Whether a locator sees what stands in a tree wherever a walk down segments may look, and bare
segments name nothing but directories there. -/
structure Backing.Oversees (b : Backing) (p : Protocol) (base : Text)
    (node : List Text → Option Node) (segments : List Text) : Prop where
  /-- The locator is not one of pages. -/
  protocol_ne : p ≠ .remote
  /-- No slash is in an extension. -/
  extension : ∀ extension ∈ b.parsers.order, CodePoint.ofChar '/' ∉ extension
  /-- It sees what stands there. -/
  sees : ∀ names, Candidate b.parsers.order segments names →
    (∀ name ∈ names, ResourcePath.IsName name) →
    b.Sees ⟨p, p.place base names⟩ (node names)
  /-- Bare segments name nothing but directories. -/
  directory : ∀ passed segment rest found, segments = passed ++ segment :: rest →
    (∀ name ∈ passed ++ [segment], ResourcePath.IsName name) →
    node (passed ++ [segment]) = some found → found = .directory

namespace Locator

variable {b : Backing} {p : Protocol} {base : Text} {node : List Text → Option Node}
  {segments passed rest : List Text}

/-- The first existing document of a name is the first that the tree has. -/
theorem firstDocument_tells (hp : p ≠ .remote) {passed : List Text} {name : Text}
    {extensions : List Text} (hpassed : ∀ name ∈ passed, ResourcePath.IsPart name)
    (hnames : ∀ extension ∈ extensions, ResourcePath.IsPart (name ++ extension))
    (hsees : ∀ extension ∈ extensions, b.Sees ⟨p, p.place base (passed ++ [name ++ extension])⟩
      (node (passed ++ [name ++ extension]))) :
    ((b.locator p).firstDocument (p.stand base passed) name extensions).Tells b
      (.ok ((firstNamed node passed name extensions).map fun names => ⟨p, p.place base names⟩)) := by
  induction extensions with
  | nil => exact .pure _
  | cons extension extensions ih =>
    have hchild := child_stand b.environment p base hpassed (hnames extension List.mem_cons_self)
      (Protocol.admits_of_ne hp _)
    have hpresent := (hsees extension List.mem_cons_self).isPresent
    have hrest := ih (fun extension' hmem => hnames extension' (List.mem_cons_of_mem _ hmem))
      fun extension' hmem => hsees extension' (List.mem_cons_of_mem _ hmem)
    refine .bind ⟨isTransparent_child _ _ _, hchild⟩ ?_
    refine .bind hpresent ?_
    unfold firstNamed at hrest ⊢
    rw [List.find?_cons]
    cases (node (passed ++ [name ++ extension])).isSome with
    | true => exact .pure _
    | false => exact hrest

variable (hsees : b.Oversees p base node segments)
include hsees

/-- The documents of a name are seen where the walk may look for them. -/
private theorem locateDocument_tells (hpassed : ∀ name ∈ passed, ResourcePath.IsName name)
    {name : Text} (hname : ResourcePath.IsName name)
    (hcandidate : ∀ extension ∈ b.parsers.order,
      Candidate b.parsers.order segments (passed ++ [name ++ extension])) :
    ((b.locator p).locateDocument (p.stand base passed) name).Tells b
      (.ok ((firstNamed node passed name b.parsers.order).map
        fun names => ⟨p, p.place base names⟩)) := by
  refine firstDocument_tells hsees.protocol_ne (fun name hmem => (hpassed name hmem).1) ?_ ?_
  · exact fun extension hmem => (hname.append (hsees.extension extension hmem)).1
  · intro extension hmem
    refine hsees.sees _ (hcandidate extension hmem) (List.forall_mem_append.mpr ⟨hpassed, ?_⟩)
    rw [List.forall_mem_singleton]
    exact hname.append (hsees.extension extension hmem)

/-- A walk falls back to the default document that the tree has. -/
theorem fallBack_tells (hsegments : segments = passed ++ rest)
    (hpassed : ∀ name ∈ passed, ResourcePath.IsName name) (remainder : List Text) :
    ((b.locator p).fallBack (p.stand base passed) remainder).Tells b
      (.ok ((firstNamed node passed defaultDocument b.parsers.order).map
        fun names => ⟨p, p.place base names⟩, remainder)) := by
  have hdefault : ResourcePath.IsName defaultDocument := isName_of_isPlainSegment (by decide)
  refine .bind (locateDocument_tells hsees hpassed hdefault fun extension hmem =>
    .default hsegments hmem) ?_
  cases firstNamed node passed defaultDocument b.parsers.order with
  | none => exact .pure _
  | some names => exact .bind (.note _ _ _) (.pure _)

/-- A plain segment names a directory of the tree or else the first of its documents. -/
theorem probe_tells {segment : Text} (hsegments : segments = passed ++ segment :: rest)
    (hpassed : ∀ name ∈ passed, ResourcePath.IsName name) (hplain : isPlainSegment segment = true)
    (delimiter : Text) :
    ((b.locator p).probe (p.stand base passed) segment delimiter).Tells b (.ok
      (if (node (passed ++ [segment])).isSome then
        (.container, some ⟨p, p.place base (passed ++ [segment])⟩)
      else
        match firstNamed node passed segment b.parsers.order with
        | some names => (.leaf, some ⟨p, p.place base names⟩)
        | none => (.absent, none))) := by
  have hname := isName_of_isPlainSegment hplain
  have hnames : ∀ name ∈ passed ++ [segment], ResourcePath.IsName name :=
    List.forall_mem_append.mpr ⟨hpassed, List.forall_mem_singleton.mpr hname⟩
  have hchild := child_stand b.environment p base (fun name hmem => (hpassed name hmem).1) hname.1
    (Protocol.admits_of_ne hsees.protocol_ne _)
  have hbare := hsees.sees _ (.bare hsegments) hnames
  have hlocated := locateDocument_tells hsees hpassed hname fun extension hmem =>
    .document hsegments hmem
  unfold probe
  rw [if_neg (by simp [hplain])]
  refine .bind ⟨isTransparent_child _ _ _, hchild⟩ ?_
  refine .bind hbare.isPresent ?_
  cases hnode : node (passed ++ [segment]) with
  | some found =>
    obtain rfl := hsees.directory passed segment rest found hsegments hnames hnode
    exact .bind (hbare.isContainer hnode delimiter) (.pure _)
  | none =>
    refine .bind (.pure _) (.bind hlocated ?_)
    cases firstNamed node passed segment b.parsers.order with
    | none => exact .pure _
    | some names => exact .pure _

/-- A walk finds what the tree tells. The induction is on the segments that are left, and carries
that those passed are names. -/
theorem walk_tells (hsegments : segments = passed ++ rest)
    (hpassed : ∀ name ∈ passed, ResourcePath.IsName name) (delimiter : Text) :
    ((b.locator p).walk delimiter (p.stand base passed) rest).Tells b
      (.ok ((treeWalk node b.parsers.order passed rest).map
        (Option.map fun names => ⟨p, p.place base names⟩) id)) := by
  induction rest generalizing passed with
  | nil => exact fallBack_tells hsees hsegments hpassed []
  | cons segment rest ih =>
    unfold walk treeWalk
    by_cases hplain : isPlainSegment segment = true
    · rw [if_pos hplain]
      refine .bind (probe_tells hsees hsegments hpassed hplain delimiter) ?_
      by_cases hnode : (node (passed ++ [segment])).isSome = true
      · rw [if_pos hnode, if_pos hnode]
        have hstand : p.place base (passed ++ [segment]) = p.stand base (passed ++ [segment]) := by
          rw [Protocol.stand, if_neg (by simp)]
        dsimp only
        rw [hstand]
        refine ih (by simpa using hsegments) (List.forall_mem_append.mpr ⟨hpassed, ?_⟩)
        exact List.forall_mem_singleton.mpr (isName_of_isPlainSegment hplain)
      · rw [if_neg hnode, if_neg hnode]
        cases firstNamed node passed segment b.parsers.order with
        | none => exact fallBack_tells hsees hsegments hpassed _
        | some names => exact .bind (.note _ _ _) (.pure _)
    · rw [if_neg hplain]
      have hprobe : ((b.locator p).probe (p.stand base passed) segment delimiter).Tells b
          (.ok (.absent, none)) := by
        unfold probe
        rw [if_pos (by simpa using hplain)]
        exact .bind (.note _ _ _) (.pure _)
      exact .bind hprobe (fallBack_tells hsees hsegments hpassed _)

end Locator

/-- The entries of a document do not depend on its location, which only shows in failures. -/
theorem Document.entriesOfRaw_agree (location location' : Text) (raw : RawMapping) :
    Agree (· = ·) (entriesOfRaw location raw) (entriesOfRaw location' raw) := by
  induction raw with
  | nil => exact .ok rfl
  | cons entry raw ih =>
    obtain ⟨key, value⟩ := entry
    unfold entriesOfRaw
    cases valueOfRaw? value with
    | none => exact .error rfl
    | some value =>
      dsimp only
      generalize entriesOfRaw location raw = entries at ih
      generalize entriesOfRaw location' raw = entries' at ih
      cases ih with
      | error h => exact .error h
      | ok h => exact .ok (congrArg _ h)

/-- A file that is read is parsed under the name of its handle. -/
theorem Backing.Sees.answer_load_file {b : Backing} {h : ResourceHandle} {content : List UInt8}
    (hsees : b.Sees h (some (.file content))) (delimiter : Text) :
    ((b.locator h.protocol).load h delimiter).answer =
      (b.parsers.parse h.name delimiter content).bind (Document.ofRaw h) := by
  have hread := hsees.read content rfl
  rw [Locator.answer_load]
  cases hraw : b.parsers.parse h.name delimiter content with
  | error failure => exact (Tells.bind hread (.bind_error (.ofExcept hraw))).answer_eq
  | ok raw => exact (Tells.bind hread (.bind (.ofExcept hraw) (.ofExcept rfl))).answer_eq

/-- A directory is not accessible as a file. -/
theorem Backing.Sees.answer_load_directory {b : Backing} {h : ResourceHandle}
    (hsees : b.Sees h (some .directory)) (delimiter : Text) :
    ∃ failure, ((b.locator h.protocol).load h delimiter).answer = .error failure ∧
      failure.kind = .resourceAccess := by
  obtain ⟨failure, hread, hkind⟩ := hsees.unreadable rfl
  rw [Locator.answer_load]
  exact ⟨failure, hread.bind_error.answer_eq, hkind⟩

/-- Where two backings see the same, under the same name and with the same parsers, they load the
same entries. -/
theorem Backing.Sees.load_agree {b b' : Backing} {h h' : ResourceHandle} {found : Node}
    (hsees : b.Sees h (some found)) (hsees' : b'.Sees h' (some found))
    (hparsers : b'.parsers = b.parsers) (hname : h'.name = h.name) (delimiter : Text) :
    Agree (fun d d' => d.entries = d'.entries) ((b.locator h.protocol).load h delimiter).answer
      ((b'.locator h'.protocol).load h' delimiter).answer := by
  cases found with
  | directory =>
    obtain ⟨failure, hload, hkind⟩ := hsees.answer_load_directory delimiter
    obtain ⟨failure', hload', hkind'⟩ := hsees'.answer_load_directory delimiter
    rw [hload, hload']
    exact .error (hkind.trans hkind'.symm)
  | file content =>
    rw [hsees.answer_load_file, hsees'.answer_load_file, hparsers, hname]
    cases b.parsers.parse h.name delimiter content with
    | error failure => exact .error rfl
    | ok raw =>
      have hentries := Document.entriesOfRaw_agree h.location h'.location raw
      simp only [Except.bind, Document.ofRaw]
      generalize Document.entriesOfRaw h.location raw = entries at hentries
      generalize Document.entriesOfRaw h'.location raw = entries' at hentries
      cases hentries with
      | error h => exact .error h
      | ok h => exact .ok h

end ConfigNamespace
