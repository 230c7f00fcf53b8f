import ConfigNamespace.Proofs.Lookup.TreeWalk

/-!
# Documents that are stored in directories

A document is stored beneath a base in the directories that some names lead to, under a name with an
extension. A walk passes these directories one by one, because each of them is seen as a container,
and ends at the document if the bare name leads to no directory and no extension that is tried before
leads to anything.
-/

namespace ConfigNamespace

open Operation

/-- The handle of a written name in the directory that names lead to from a base. -/
def fileHandle (base : Text) (names : List Text) (name : Text) : ResourceHandle :=
  let directory := Protocol.stand .localPath base names
  ⟨.localPath, if directory = [] then name
    else ((ResourcePath.ofText directory).append (.ofText name)).render⟩

section Path

variable {base : Text} {names : List Text}

/-- Where a walk stands is the path of the names passed. -/
theorem ofText_stand (hnames : ∀ name ∈ names, ResourcePath.IsPart name) :
    ResourcePath.ofText (Protocol.stand .localPath base names) =
      (ResourcePath.ofText base).append ⟨0, names⟩ := by
  unfold Protocol.stand
  by_cases hempty : names = []
  · rw [if_pos hempty, hempty, ResourcePath.append_nil]
  · rw [if_neg hempty]
    exact ResourcePath.ofText_render ((ResourcePath.wellFormed_ofText base).append hnames)

/-- The location of a handle is written for the path to the name. -/
theorem ofText_location_fileHandle (hnames : ∀ name ∈ names, ResourcePath.IsPart name) {name : Text}
    (hname : (ResourcePath.ofText name).slashes = 0) :
    ResourcePath.ofText (fileHandle base names name).location =
      ((ResourcePath.ofText base).append ⟨0, names⟩).append (.ofText name) := by
  have hwell := ResourcePath.wellFormed_ofText name
  unfold fileHandle
  rw [← ofText_stand hnames]
  dsimp only
  split
  next hhere =>
    rw [hhere]
    generalize ResourcePath.ofText name = path at hname ⊢
    obtain ⟨slashes, parts⟩ := path
    cases hname
    rfl
  · generalize ResourcePath.ofText name = path at hname hwell ⊢
    obtain ⟨slashes, parts⟩ := path
    cases hname
    exact ResourcePath.ofText_render ((ResourcePath.wellFormed_ofText _).append hwell.isPart)

end Path

/-- Whether a document is stored in the directories that names lead to from a base, under a name: each
of the names leads to a directory, the bare name to none, and the document is what the first of the
extensions leads to that leads to anything. -/
structure Backing.Stores (b : Backing) (base : Text) (names : List Text) (name delimiter : Text)
    (d : Document) : Prop where
  /-- All names are plain. -/
  plain : ∀ segment ∈ names ++ [name], isPlainSegment segment = true
  /-- The names lead from directory to directory. -/
  directory : ∀ passed rest, passed ++ rest = names → passed ≠ [] →
    b.world.nodeAt ((ResourcePath.ofText base).append ⟨0, passed⟩) = some .directory
  /-- The bare name leads to no directory. -/
  bare : b.world.nodeAt ((ResourcePath.ofText base).append ⟨0, names ++ [name]⟩) ≠ some .directory
  /-- The document is there, and nothing that is tried before. -/
  document : ∃ earlier extension later content,
    b.parsers.order = earlier ++ extension :: later ∧
    (∀ other ∈ earlier, b.world.look (((ResourcePath.ofText base).append ⟨0, names⟩).append
      (.ofText (name ++ other))) = .missing) ∧
    b.world.look (((ResourcePath.ofText base).append ⟨0, names⟩).append
      (.ofText (name ++ extension))) = .found (.file content) ∧
    (b.parsers.parse (fileHandle base names (name ++ extension)).name delimiter
      content.toBytes).bind (Document.ofRaw (fileHandle base names (name ++ extension))) = .ok d

namespace Locator

variable {b : Backing} {base delimiter : Text} {names : List Text} {name : Text} {d : Document}

/-- A directory is a container. -/
theorem probe_directory (hnames : ∀ segment ∈ names, isPlainSegment segment = true)
    (hname : isPlainSegment name = true)
    (hnode : b.world.nodeAt ((ResourcePath.ofText base).append ⟨0, names ++ [name]⟩) =
      some .directory) :
    ((b.locator .localPath).probe (Protocol.stand .localPath base names) name delimiter).Tells b
      (.ok (.container, some ⟨.localPath, Protocol.stand .localPath base (names ++ [name])⟩)) := by
  have hparts : ∀ segment ∈ names, ResourcePath.IsPart segment :=
    fun segment hmem => isPart_of_isPlainSegment (hnames segment hmem)
  have hpart := isPart_of_isPlainSegment hname
  have hanswers : b.world.look ((ResourcePath.ofText base).append ⟨0, names ++ [name]⟩) ≠
      .tooLong := by
    intro htooLong
    rw [World.nodeAt, htooLong] at hnode
    cases hnode
  have hsees := sees_directory (b := b)
    (List.forall_mem_append.mpr ⟨hparts, List.forall_mem_singleton.mpr hpart⟩) hanswers
  have hchild := child_stand b.environment .localPath base hparts hpart nofun
  have hstand : Protocol.stand .localPath base (names ++ [name]) =
      Protocol.place .localPath base (names ++ [name]) := if_neg (by simp)
  rw [hstand]
  unfold probe
  rw [if_neg (by simp [hname])]
  refine .bind ⟨isTransparent_child _ _ _, hchild⟩ (.bind hsees.isPresent ?_)
  rw [hnode]
  exact .bind (hsees.isContainer hnode delimiter) (.pure _)

/-- Nothing but a directory is a container. -/
theorem isContainer_local {location : Text} {found : Option FileTree}
    (hlook : Backend.lookAt b.world (.ofText location) = .ok found)
    (hnode : found.map FileTree.node ≠ some .directory) :
    ((b.locator .localPath).isContainer ⟨.localPath, location⟩ delimiter).Tells b (.ok false) := by
  refine .bind (.visit _ _) (.bind (.ofExcept hlook) ?_)
  rcases found with _ | (content | entries)
  · exact .pure _
  · exact .pure _
  · exact absurd rfl hnode

/-- The first document of a name is found where no extension before leads to anything. -/
theorem firstDocument_stored {earlier later : List Text} {extension : Text}
    (hearlier : ∀ other ∈ earlier,
      b.world.look (.ofText (fileHandle base names (name ++ other)).location) = .missing)
    {t : FileTree}
    (hfound : b.world.look (.ofText (fileHandle base names (name ++ extension)).location) =
      .found t) :
    ((b.locator .localPath).firstDocument (Protocol.stand .localPath base names) name
        (earlier ++ extension :: later)).Tells b
      (.ok (some (fileHandle base names (name ++ extension)))) := by
  have hchild (other : Text) : ((b.locator .localPath).child (Protocol.stand .localPath base names)
      (name ++ other)).Tells b (.ok (fileHandle base names (name ++ other))) := .ofExcept rfl
  induction earlier with
  | nil =>
    have hanswers : b.world.look (.ofText (fileHandle base names (name ++ extension)).location) ≠
        .tooLong := by simp [hfound]
    have hpresent := (sees_local hanswers).isPresent
    rw [World.nodeAt, hfound] at hpresent
    exact .bind (hchild extension) (.bind hpresent (.pure _))
  | cons other earlier ih =>
    have hmissing := hearlier other List.mem_cons_self
    have hanswers : b.world.look (.ofText (fileHandle base names (name ++ other)).location) ≠
        .tooLong := by simp [hmissing]
    have hpresent := (sees_local hanswers).isPresent
    rw [World.nodeAt, hmissing] at hpresent
    refine .bind (hchild other) (.bind hpresent ?_)
    exact ih fun other hmem => hearlier other (List.mem_cons_of_mem _ hmem)

end Locator

section Stores

variable {b : Backing} {base delimiter : Text} {names : List Text} {name : Text} {d : Document}
  (h : b.Stores base names name delimiter d)
include h

/-- The names of the directories may stand in paths. -/
theorem Backing.Stores.isPart : ∀ segment ∈ names, ResourcePath.IsPart segment := by
  intro segment hmem
  exact isPart_of_isPlainSegment (h.plain segment (List.mem_append_left _ hmem))

/-- The name of the document is a name. -/
theorem Backing.Stores.isName : ResourcePath.IsName name :=
  isName_of_isPlainSegment (h.plain name (List.mem_append_right _ (List.mem_singleton_self _)))

/-- What is looked for with an extension is at the path that the extension leads to. -/
theorem Backing.Stores.ofText_location (extension : Text) :
    ResourcePath.ofText (fileHandle base names (name ++ extension)).location =
      ((ResourcePath.ofText base).append ⟨0, names⟩).append (.ofText (name ++ extension)) := by
  obtain ⟨first, rest, -, hpath⟩ := ResourcePath.exists_ofText_append h.isName.1 extension
  exact ofText_location_fileHandle h.isPart (by rw [hpath])

/-- A stored document is loaded from a handle at which its name is a leaf. -/
theorem Backing.Stores.exists_leaf : ∃ handle : ResourceHandle, handle.protocol = .localPath ∧
    ((b.locator .localPath).probe (Protocol.stand .localPath base names) name delimiter).Tells b
      (.ok (.leaf, some handle)) ∧
    ((b.locator handle.protocol).load handle delimiter).answer = .ok d := by
  obtain ⟨earlier, extension, later, content, horder, hearlier, hfound, hd⟩ := h.document
  have hbare : b.world.look ((ResourcePath.ofText base).append ⟨0, names ++ [name]⟩) ≠ .tooLong := by
    rw [← ResourcePath.append_append]
    exact World.look_ne_tooLong_of_longer h.isName hfound
  have hpath : ResourcePath.ofText (Protocol.place .localPath base (names ++ [name])) =
      (ResourcePath.ofText base).append ⟨0, names ++ [name]⟩ :=
    ResourcePath.ofText_render ((ResourcePath.wellFormed_ofText base).append
      (List.forall_mem_append.mpr ⟨h.isPart, List.forall_mem_singleton.mpr h.isName.1⟩))
  have hsees := Locator.sees_directory (b := b)
    (List.forall_mem_append.mpr ⟨h.isPart, List.forall_mem_singleton.mpr h.isName.1⟩) hbare
  have hchild := Locator.child_stand b.environment .localPath base h.isPart h.isName.1 nofun
  have hlocated : ((b.locator .localPath).locateDocument (Protocol.stand .localPath base names)
      name).Tells b (.ok (some (fileHandle base names (name ++ extension)))) := by
    rw [← h.ofText_location] at hfound
    unfold Locator.locateDocument
    change (Locator.firstDocument _ _ _ b.parsers.order).Tells b _
    rw [horder]
    refine Locator.firstDocument_stored (fun other hmem => ?_) hfound
    rw [h.ofText_location]
    exact hearlier other hmem
  refine ⟨fileHandle base names (name ++ extension), rfl, ?_, ?_⟩
  · have hplain := h.plain name (List.mem_append_right _ (List.mem_singleton_self _))
    unfold Locator.probe
    rw [if_neg (by simp [hplain])]
    refine .bind ⟨Locator.isTransparent_child _ _ _, hchild⟩ (.bind hsees.isPresent ?_)
    obtain ⟨found, hlook, hnode⟩ := Backend.exists_lookAt hbare
    have hnot : found.map FileTree.node ≠ some .directory := by
      rw [hnode]
      exact h.bare
    rw [← hnode, Option.isSome_map]
    rw [← hpath] at hlook
    cases found with
    | none => exact .bind (.pure _) (.bind hlocated (.pure _))
    | some t => exact .bind (Locator.isContainer_local hlook hnot) (.bind hlocated (.pure _))
  · rw [← h.ofText_location] at hfound
    have hanswers : b.world.look (.ofText (fileHandle base names (name ++ extension)).location) ≠
        .tooLong := by simp [hfound]
    have hsees := Locator.sees_local hanswers
    rw [World.nodeAt, hfound] at hsees
    exact (hsees.answer_load_file delimiter).trans hd

/-- A walk leads to a stored document, with the rest of the segments. The induction is on the names
that are left, and each of those that were passed leads to a directory. -/
theorem Backing.Stores.exists_walk (rest : List Text) :
    ∃ handle : ResourceHandle, handle.protocol = .localPath ∧
      ((b.locator .localPath).walk delimiter base (names ++ name :: rest)).Tells b
        (.ok (some handle, rest)) ∧
      ((b.locator handle.protocol).load handle delimiter).answer = .ok d := by
  obtain ⟨handle, hprotocol, hleaf, hload⟩ := h.exists_leaf
  refine ⟨handle, hprotocol, ?_, hload⟩
  have hwalk (passed left : List Text) (hsplit : passed ++ left = names) :
      ((b.locator .localPath).walk delimiter (Protocol.stand .localPath base passed)
        (left ++ name :: rest)).Tells b (.ok (some handle, rest)) := by
    induction left generalizing passed with
    | nil =>
      rw [List.append_nil] at hsplit
      subst hsplit
      exact .bind hleaf (.bind (.note _ _ _) (.pure _))
    | cons segment left ih =>
      have hsplit' : (passed ++ [segment]) ++ left = names := by simpa using hsplit
      have hplain (other : Text) (hmem : other ∈ passed ++ [segment]) :
          isPlainSegment other = true := by
        refine h.plain other (List.mem_append_left _ ?_)
        rw [← hsplit']
        exact List.mem_append_left _ hmem
      have hdirectory := h.directory (passed ++ [segment]) left hsplit' (by simp)
      refine .bind (Locator.probe_directory
        (fun other hmem => hplain other (List.mem_append_left _ hmem))
        (hplain segment (List.mem_append_right _ (List.mem_singleton_self _))) hdirectory) ?_
      exact ih (passed ++ [segment]) hsplit'
  exact hwalk [] names rfl

end Stores

end ConfigNamespace
