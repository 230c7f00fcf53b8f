import ConfigNamespace.Proofs.Lookup.Transparent
import ConfigNamespace.Proofs.Resource.Place
import ConfigNamespace.Proofs.World.Merged

/-!
# What locators see

Beneath a directory and on a search path, a locator sees a tree: it tells whether names lead to
anything, takes a directory for a container, and reads files. The two backends find this out in
different ways, the one by asking the file system and the other by trying to read, but as long as the
file system answers they see what stands in the tree.
-/

namespace ConfigNamespace

open Operation

/-- Whether a locator sees at a handle what stands in a tree. -/
structure Backing.Sees (b : Backing) (h : ResourceHandle) (node : Option Node) : Prop where
  /-- It tells whether there is anything. -/
  isPresent : ((b.locator h.protocol).isPresent h).Tells b (.ok node.isSome)
  /-- It takes a directory for a container. -/
  isContainer : node = some .directory →
    ∀ delimiter, ((b.locator h.protocol).isContainer h delimiter).Tells b (.ok true)
  /-- It reads a file. -/
  read : ∀ content, node = some (.file content) →
    ((b.locator h.protocol).read h).Tells b (.ok content)
  /-- It cannot read a directory. -/
  unreadable : node = some .directory → ∃ failure,
    ((b.locator h.protocol).read h).Tells b (.error failure) ∧ failure.kind = .resourceAccess

namespace Backend

variable {b : Backing}

/-- What a found place is. -/
def Target.node : Target → Node
  | tree t => t.node
  | entry archive name =>
    match archive.content? name with
    | some content => .file content
    | none => .directory

/-- A found file is read. -/
theorem Target.read_of_file {target : Target} {content : List UInt8} (location : Text)
    (h : target.node = .file content) : target.read location = .ok content := by
  cases target with
  | tree t =>
    cases t with
    | file bytes =>
      cases h
      rfl
    | directory entries => cases h
  | entry archive name =>
    unfold Target.node at h
    unfold Target.read
    cases hcontent : archive.content? name with
    | none => simp [hcontent] at h
    | some bytes => simpa [hcontent] using h

/-- A found directory cannot be read. -/
theorem Target.read_of_directory {target : Target} (location : Text)
    (h : target.node = .directory) : target.read location = .error (.cannotOpen location) := by
  cases target with
  | tree t =>
    cases t with
    | file bytes => cases h
    | directory entries => rfl
  | entry archive name =>
    unfold Target.node at h
    unfold Target.read
    cases hcontent : archive.content? name with
    | none => simp [hcontent]
    | some bytes => simp [hcontent] at h

/-- Where the file system answers, it gives what stands there. -/
theorem exists_lookAt {w : World} {path : ResourcePath} (h : w.look path ≠ .tooLong) :
    ∃ found, lookAt w path = .ok found ∧ found.map FileTree.node = w.nodeAt path := by
  unfold lookAt World.nodeAt
  cases hlook : w.look path with
  | missing => exact ⟨none, rfl, rfl⟩
  | found t => exact ⟨some t, rfl, rfl⟩
  | tooLong => exact absurd hlook h

/-- In a directory, names lead to what stands there. -/
private theorem targetIn?_directory {w : World} {path : ResourcePath} {names : List Text}
    (hnames : ∀ name ∈ names, ResourcePath.IsPart name)
    (hlook : w.look (path.append ⟨0, names⟩) ≠ .tooLong) :
    ∃ found, targetIn? w names (.directory path) = .ok found ∧
      found.map Target.node = w.nodeAt (path.append ⟨0, names⟩) := by
  have hfilter : names.filter (· ≠ text ".") = names := by
    rw [List.filter_eq_self]
    exact fun name hname => decide_eq_true (hnames name hname).2.1
  obtain ⟨found, hfound, hnode⟩ := exists_lookAt hlook
  refine ⟨found.map .tree, ?_, ?_⟩
  · rw [targetIn?, hfilter, hfound]
    rfl
  · rw [← hnode, Option.map_map]
    rfl

/-- In a properly written archive, names lead to what stands there. -/
private theorem targetIn?_archive {w : World} {archive : Archive} (hproper : archive.IsProper)
    {names : List Text} (hne : names ≠ []) (hnames : ∀ name ∈ names, ResourcePath.IsPart name) :
    ∃ found, targetIn? w names (.archive archive) = .ok found ∧
      found.map Target.node = archive.nodeAt names := by
  refine ⟨_, rfl, ?_⟩
  rw [Archive.resolve?_joinWith hne hnames hproper]
  cases hnode : archive.nodeAt names with
  | none => rfl
  | some node =>
    cases node with
    | directory =>
      have hcontent := Archive.content?_append_slash (a := archive) (Text.joinWith ['/'] names)
      simp only [Option.map_some, Target.node, hcontent]
    | file content =>
      have hcontent := Archive.content?_joinWith hne hnames hnode
      simp only [Option.map_some, Target.node, hcontent]

/-- A root is found for each entry of a search path that is one, and names lead in it to what they
lead to from the entry. -/
theorem searchRoot?_tells {entry : Text} (hentry : b.world.IsSearchRoot entry) :
    ∃ root, (searchRoot? b.world entry).Tells b (.ok (some root)) ∧
      ∀ names, names ≠ [] → (∀ name ∈ names, ResourcePath.IsPart name) →
        b.world.AnswersIn [entry] names →
        ∃ found, targetIn? b.world names root = .ok found ∧
          found.map Target.node = b.world.nodeIn names entry := by
  cases hentry with
  | @directory entries h =>
    have hlook : lookAt b.world (.ofText entry) = .ok (some (.directory entries)) := by
      rw [lookAt, h]
    refine ⟨.directory (.ofText entry), ?_, fun names hne hnames hanswers => ?_⟩
    · exact .bind (.ofExcept hlook) (.pure _)
    · rw [World.nodeIn, h]
      exact targetIn?_directory hnames (hanswers entry List.mem_cons_self _ h)
  | @archive entries h hproper =>
    have hlook : lookAt b.world (.ofText entry) = .ok (some (.file (.archive entries))) := by
      rw [lookAt, h]
    have hstands : b.world.look (.ofText (ResourcePath.ofText entry).render) =
        .found (.file (.archive entries)) := by
      rwa [ResourcePath.ofText_render_ofText]
    refine ⟨.archive (.ofEntries entries), ?_, fun names hne hnames _ => ?_⟩
    · exact .bind (.ofExcept hlook) (.bind ⟨isTransparent_openArchive hstands, rfl⟩ (.pure _))
    · rw [World.nodeIn, h]
      exact targetIn?_archive hproper hne hnames

/-- A search finds what stands on the search path. -/
theorem search?_tells {searchPath names : List Text}
    (hroots : ∀ entry ∈ searchPath, b.world.IsSearchRoot entry) (hne : names ≠ [])
    (hnames : ∀ name ∈ names, ResourcePath.IsPart name)
    (hanswers : b.world.AnswersIn searchPath names) :
    ∃ found, (search? b.world names searchPath).Tells b (.ok found) ∧
      found.map Target.node = b.world.searchNode searchPath names := by
  induction searchPath with
  | nil => exact ⟨none, .pure _, rfl⟩
  | cons entry searchPath ih =>
    obtain ⟨root, hroot, htargets⟩ := searchRoot?_tells (hroots entry List.mem_cons_self)
    obtain ⟨found, hfound, hnode⟩ := htargets names hne hnames fun entry' hmem =>
      hanswers entry' (List.mem_singleton.mp hmem ▸ List.mem_cons_self)
    obtain ⟨further, hfurther, hrest⟩ := ih
      (fun entry' hmem => hroots entry' (List.mem_cons_of_mem _ hmem))
      fun entry' hmem => hanswers entry' (List.mem_cons_of_mem _ hmem)
    rw [World.searchNode, List.findSome?_cons, ← hnode]
    cases found with
    | none => exact ⟨further, .bind hroot (.bind (.ofExcept hfound) hfurther), hrest⟩
    | some target => exact ⟨some target, .bind hroot (.bind (.ofExcept hfound) (.pure _)), rfl⟩

/-- Joined names are searched for as they are. -/
theorem find?_joinWith (w : World) (searchPath : List Text) {names : List Text} (hne : names ≠ [])
    (hnames : ∀ name ∈ names, ResourcePath.IsPart name) :
    find? w searchPath (Text.joinWith ['/'] names) = search? w names searchPath := by
  have hpieces : (Text.pieces ['/'] (Text.joinWith ['/'] names)).filter (· ≠ []) = names := by
    rw [Text.pieces_joinWith hne fun name hname => (hnames name hname).2.2, List.filter_eq_self]
    exact fun name hname => decide_eq_true (hnames name hname).1
  obtain ⟨name, rest, rfl⟩ := List.exists_cons_of_ne_nil hne
  unfold find?
  rw [hpieces]

end Backend

namespace Locator

variable {b : Backing} {p : Protocol}

/-- What cannot be read for want of access seems to be a container. -/
theorem seemsContainer_tells {h : ResourceHandle} {failure : Failure}
    (hread : ((b.locator h.protocol).read h).Tells b (.error failure))
    (hkind : failure.kind = .resourceAccess) (delimiter : Text) :
    ((b.locator h.protocol).seemsContainer h delimiter).Tells b (.ok true) := by
  have hload : ((b.locator h.protocol).load h delimiter).Tells b (.error failure) := by
    refine ⟨isTransparent_load h delimiter, ?_⟩
    rw [answer_load]
    exact hread.bind_error.answer_eq
  have hassumes : (failure.kind ≠ .resolutionTimeout &&
      (failure.isNaming || failure.kind = .system)) = true := by
    simp [Failure.isNaming, hkind, FailureKind.isNaming]
  refine .bind hload.attempt ?_
  dsimp only
  rw [if_pos hassumes]
  exact .bind (.note _ _ _) (.pure _)

/-- On a search path, names lead to what the first of its entries holds under them. -/
theorem sees_searchPath {searchPath names : List Text}
    (hpath : (backendFor b.environment .bundled).searchPath b.world = searchPath)
    (hroots : ∀ entry ∈ searchPath, b.world.IsSearchRoot entry) (hne : names ≠ [])
    (hnames : ∀ name ∈ names, ResourcePath.IsPart name)
    (hanswers : b.world.AnswersIn searchPath names) :
    b.Sees ⟨.bundled, Protocol.place .bundled [] names⟩ (b.world.searchNode searchPath names) := by
  obtain ⟨found, hfound, hnode⟩ := Backend.search?_tells hroots hne hnames hanswers
  have hplace : Protocol.place .bundled [] names = Text.joinWith ['/'] names := rfl
  rw [← Backend.find?_joinWith b.world searchPath hne hnames, ← hplace, ← hpath] at hfound
  have hread (target : Backend.Target) (htarget : found = some target) :
      ((b.locator .bundled).read ⟨.bundled, Protocol.place .bundled [] names⟩).Tells b
        (target.read (Protocol.place .bundled [] names)) := by
    subst htarget
    exact .bind (.visit _ _) (.bind hfound (.ofExcept rfl))
  have hunreadable (hdirectory : found.map Backend.Target.node = some .directory) :
      ((b.locator .bundled).read ⟨.bundled, Protocol.place .bundled [] names⟩).Tells b
        (.error (.cannotOpen (Protocol.place .bundled [] names))) := by
    obtain ⟨target, htarget, hnode⟩ := Option.map_eq_some_iff.mp hdirectory
    rw [← Backend.Target.read_of_directory _ hnode]
    exact hread target htarget
  rw [← hnode]
  refine ⟨?_, fun hdirectory delimiter => ?_, fun content hfile => ?_, fun hdirectory => ?_⟩
  · rw [Option.isSome_map]
    exact .bind (.visit _ _) (.bind hfound (.pure _))
  · exact .bind (.visit _ _) (seemsContainer_tells (hunreadable hdirectory) rfl delimiter)
  · obtain ⟨target, htarget, hnode⟩ := Option.map_eq_some_iff.mp hfile
    rw [← Backend.Target.read_of_file (Protocol.place .bundled [] names) hnode]
    exact hread target htarget
  · exact ⟨_, hunreadable hdirectory, rfl⟩

/-- At the location of a file path, what stands there is seen. -/
theorem sees_local {location : Text} (hanswers : b.world.look (.ofText location) ≠ .tooLong) :
    b.Sees ⟨.localPath, location⟩ (b.world.nodeAt (.ofText location)) := by
  obtain ⟨found, hlook, hnode⟩ := Backend.exists_lookAt hanswers
  have hread (t : FileTree) (ht : found = some t) :
      ((b.locator .localPath).read ⟨.localPath, location⟩).Tells b
        ((Backend.Target.tree t).read location) := by
    subst ht
    have hnull : ¬location.elem (CodePoint.ofNat 0) = true := by
      rw [List.elem_iff]
      refine World.null_not_mem_of_nodeAt (w := b.world) ?_
      rw [← hnode]
      rfl
    refine .bind (.visit _ _) ?_
    change (Backend.read b.world _ .localPath).Tells b _
    have hstands : b.world.look (.ofText location) = .found t := by
      unfold Backend.lookAt at hlook
      split at hlook <;> cases hlook
      next hfound => exact hfound
    rw [Backend.read, if_neg hnull, hstands]
    cases t with
    | file content => exact .pure _
    | directory entries => exact .throw _
  rw [← hnode]
  refine ⟨?_, fun hdirectory delimiter => ?_, fun content hfile => ?_, fun hdirectory => ?_⟩
  · rw [Option.isSome_map]
    exact .bind (.visit _ _) (.bind (.ofExcept hlook) (.pure _))
  · obtain ⟨t, rfl, ht⟩ := Option.map_eq_some_iff.mp hdirectory
    refine .bind (.visit _ _) (.bind (.ofExcept hlook) ?_)
    cases t with
    | file content => cases ht
    | directory entries => exact .pure _
  · obtain ⟨t, htarget, ht⟩ := Option.map_eq_some_iff.mp hfile
    have hnode : (Backend.Target.tree t).node = .file content := ht
    rw [← Backend.Target.read_of_file location hnode]
    exact hread t htarget
  · obtain ⟨t, htarget, ht⟩ := Option.map_eq_some_iff.mp hdirectory
    have hnode : (Backend.Target.tree t).node = .directory := ht
    refine ⟨.cannotOpen location, ?_, rfl⟩
    rw [← Backend.Target.read_of_directory _ hnode]
    exact hread t htarget

/-- Beneath a directory, names lead to what stands there. -/
theorem sees_directory {base : Text} {names : List Text}
    (hnames : ∀ name ∈ names, ResourcePath.IsPart name)
    (hanswers : b.world.look ((ResourcePath.ofText base).append ⟨0, names⟩) ≠ .tooLong) :
    b.Sees ⟨.localPath, Protocol.place .localPath base names⟩
      (b.world.nodeAt ((ResourcePath.ofText base).append ⟨0, names⟩)) := by
  have hpath : ResourcePath.ofText (Protocol.place .localPath base names) =
      (ResourcePath.ofText base).append ⟨0, names⟩ :=
    ResourcePath.ofText_render ((ResourcePath.wellFormed_ofText base).append hnames)
  rw [← hpath] at hanswers ⊢
  exact sees_local hanswers

end Locator

end ConfigNamespace
