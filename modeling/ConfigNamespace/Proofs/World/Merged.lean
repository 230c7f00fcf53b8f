import ConfigNamespace.Proofs.World.Node

/-!
# Merged trees

A search path of directories and archives stands for one tree: names lead to what the first of its
entries holds under them. A directory may hold this very tree, and then mirrors the search path.
-/

namespace ConfigNamespace

namespace World

/-- What stands at a path. -/
def nodeAt (w : World) (path : ResourcePath) : Option Node :=
  match w.look path with
  | .found t => some t.node
  | _ => none

/-- What is found at a path is found by following its names. -/
theorem follow_of_look {w : World} {path : ResourcePath} {t : FileTree}
    (h : w.look path = .found t) :
    FileTree.follow (w.start path).1 (w.start path).2 path.parts = .found t := by
  unfold look FileTree.look at h
  split at h
  · cases h
  · split at h
    · cases h
    · exact h

/-- What is told of a place is told of a tree that stands there. -/
theorem exists_look_of_nodeAt {w : World} {path : ResourcePath} {node : Node}
    (h : w.nodeAt path = some node) : ∃ t, w.look path = .found t ∧ t.node = node := by
  unfold nodeAt at h
  split at h
  next t hlook => exact ⟨t, hlook, Option.some.inj h⟩
  · cases h

/-- Where something stands, no null character is in the path, however it is written. -/
theorem null_not_mem_of_nodeAt {w : World} {s : Text} (h : (w.nodeAt (.ofText s)).isSome) :
    CodePoint.ofNat 0 ∉ s := by
  have hparts : ∀ part ∈ (ResourcePath.ofText s).parts, CodePoint.ofNat 0 ∉ part := by
    unfold nodeAt look FileTree.look at h
    split at h
    · next hfound =>
      split at hfound
      · cases hfound
      · next hallowed =>
        intro part hpart hnull
        refine hallowed (List.any_eq_true.mpr ⟨part, hpart, ?_⟩)
        rw [Bool.not_eq_true', List.all_eq_false]
        exact ⟨_, hnull, by decide⟩
    · cases h
  intro hmem
  rw [← Text.joinWith_pieces (CodePoint.ofChar '/') s] at hmem
  rcases Text.mem_of_mem_joinWith hmem with hslash | ⟨piece, hpiece, hnull⟩
  · exact absurd hslash (by decide)
  · refine hparts piece (List.mem_filter.mpr ⟨hpiece, decide_eq_true ⟨?_, ?_⟩⟩) hnull
    · exact List.ne_nil_of_mem hnull
    · rintro rfl
      exact absurd hnull (by decide)

/-- A path is answered if its names and the path as a whole are not too long. -/
theorem look_ne_tooLong {w : World} {path : ResourcePath}
    (hnames : ∀ name ∈ path.parts, (Text.utf8 name).length ≤ FileTree.maxNameBytes)
    (hpath : (Text.utf8 path.render).length ≤ FileTree.maxPathBytes) : w.look path ≠ .tooLong := by
  unfold look FileTree.look
  split
  · simp
  · rw [if_neg (Nat.not_lt.mpr hpath)]
    exact FileTree.follow_ne_tooLong _ _ hnames

/-- Where a name with more behind it leads to something, the name itself is answered. -/
theorem look_ne_tooLong_of_longer {w : World} {path : ResourcePath} {name more : Text}
    {t : FileTree} (hname : ResourcePath.IsName name)
    (h : w.look (path.append (.ofText (name ++ more))) = .found t) :
    w.look (path.append ⟨0, [name]⟩) ≠ .tooLong := by
  obtain ⟨first, rest, hslash, hlonger⟩ := ResourcePath.exists_ofText_append hname.1 more
  have happend (names : List Text) :
      path.append ⟨0, names⟩ = ⟨path.slashes, path.parts ++ names⟩ := if_pos rfl
  rw [hlonger, happend] at h
  rw [happend]
  have hrender : ∃ behind, (⟨path.slashes, path.parts ++ (name ++ first) :: rest⟩ :
      ResourcePath).render = (⟨path.slashes, path.parts ++ [name]⟩ : ResourcePath).render ++ behind := by
    obtain ⟨behind, hbehind⟩ :=
      Text.exists_joinWith_append (text "/") name first path.parts rest
    refine ⟨behind, ?_⟩
    rw [ResourcePath.render, ResourcePath.render, if_neg (by simp), if_neg (by simp),
      List.append_assoc]
    exact congrArg _ hbehind
  unfold look FileTree.look at h ⊢
  split at h
  · cases h
  · split at h
    · cases h
    next hshort =>
      split
      · simp
      · obtain ⟨behind, hbehind⟩ := hrender
        rw [hbehind] at hshort
        have hlength := Nat.le_trans (Text.length_utf8_le_append _ behind) (Nat.le_of_not_lt hshort)
        rw [if_neg (Nat.not_lt.mpr hlength)]
        exact FileTree.follow_ne_tooLong_of_longer (hname.append hslash).2 h

/-- What names lead to from an entry of a search path. -/
def nodeIn (w : World) (names : List Text) (entry : Text) : Option Node :=
  match w.look (.ofText entry) with
  | .found (.directory _) => w.nodeAt ((ResourcePath.ofText entry).append ⟨0, names⟩)
  | .found (.file (.archive entries)) => (Archive.ofEntries entries).nodeAt names
  | _ => none

/-- What names lead to on a search path: what the first entry that has them holds. -/
def searchNode (w : World) (searchPath names : List Text) : Option Node :=
  searchPath.findSome? (w.nodeIn names)

/-- Whether an entry of a search path is a directory or a properly written archive. -/
inductive IsSearchRoot (w : World) (entry : Text) : Prop
  /-- It is a directory. -/
  | directory {entries : List (Text × FileTree)}
    (h : w.look (.ofText entry) = .found (.directory entries))
  /-- It is an archive. -/
  | archive {entries : List (Text × List UInt8)}
    (h : w.look (.ofText entry) = .found (.file (.archive entries)))
    (hproper : (Archive.ofEntries entries).IsProper)

/-- Whether the directory at a base in a world holds the merged tree of a search path in another
world, where every file has a dot in its name. -/
structure Mirrors (w' : World) (base : Text) (w : World) (searchPath : List Text) : Prop where
  /-- The search path consists of directories and archives. -/
  isSearchRoot : ∀ entry ∈ searchPath, w.IsSearchRoot entry
  /-- Every file of these has a dot in its name. -/
  dotted : ∀ entry ∈ searchPath, ∀ names name content,
    (∀ part ∈ names ++ [name], ResourcePath.IsName part) →
    w.nodeIn (names ++ [name]) entry = some (.file content) → CodePoint.ofChar '.' ∈ name
  /-- What names lead to from the base is what they lead to on the search path. -/
  merged : ∀ names, names ≠ [] → (∀ name ∈ names, ResourcePath.IsName name) →
    w'.nodeAt ((ResourcePath.ofText base).append ⟨0, names⟩) = w.searchNode searchPath names

/-- A name without a dot leads to no file on a search path. -/
theorem Mirrors.eq_directory {w w' : World} {base : Text} {searchPath : List Text}
    (h : w'.Mirrors base w searchPath) {names : List Text} {name : Text} {node : Node}
    (hnames : ∀ part ∈ names ++ [name], ResourcePath.IsName part)
    (hdot : CodePoint.ofChar '.' ∉ name)
    (hnode : w.searchNode searchPath (names ++ [name]) = some node) : node = .directory := by
  cases node with
  | directory => rfl
  | file content =>
    obtain ⟨entry, hentry, hin⟩ := List.exists_of_findSome?_eq_some hnode
    exact absurd (h.dotted entry hentry names name content hnames hin) hdot

/-- Whether the file system answers for names beneath every directory of a search path: no name and
no path is too long for it. -/
def AnswersIn (w : World) (searchPath names : List Text) : Prop :=
  ∀ entry ∈ searchPath, ∀ entries, w.look (.ofText entry) = .found (.directory entries) →
    w.look ((ResourcePath.ofText entry).append ⟨0, names⟩) ≠ .tooLong

/-- A world with the same document in a directory and in an archive. -/
def twofold : World :=
  let content := Text.utf8 (text "k=1\n")
  .ofFiles (.directory [(text "M", .directory [(text "app.ini", .file (.bytes content))]),
    (text "z.zip", .file (.archive [(text "app.ini", content)]))])

/-- Beneath a directory that has nothing but one name, with nothing beneath that, names lead to this
one alone. -/
theorem eq_of_nodeAt_sole {w : World} {path : ResourcePath} {sole : Text} {t : FileTree}
    (hpath : w.look path = .found (.directory [(sole, t)])) (hleaf : t.entries = [])
    {names : List Text} {node : Node} (hne : names ≠ [])
    (hnames : ∀ name ∈ names, ResourcePath.IsName name)
    (h : w.nodeAt (path.append ⟨0, names⟩) = some node) : names = [sole] ∧ node = t.node := by
  obtain ⟨found, hlook, rfl⟩ := exists_look_of_nodeAt h
  have happend : path.append ⟨0, names⟩ = ⟨path.slashes, path.parts ++ names⟩ := if_pos rfl
  rw [happend] at hlook
  obtain ⟨parents, between, hbetween, hfollow⟩ := FileTree.follow_append (follow_of_look hlook)
  have hstart : w.start ⟨path.slashes, path.parts ++ names⟩ = w.start path := rfl
  rw [hstart, follow_of_look hpath] at hbetween
  cases hbetween
  obtain ⟨name, rest, rfl⟩ := List.exists_cons_of_ne_nil hne
  obtain ⟨below, hbelow, hfollow⟩ := FileTree.child?_of_follow (hnames name (by simp)).2 hfollow
  have hname : name = sole ∧ below = t := by
    rw [FileTree.child?, FileTree.entries, List.lookup_cons] at hbelow
    split at hbelow
    next heq =>
      cases hbelow
      exact ⟨eq_of_beq heq, rfl⟩
    · cases hbelow
  obtain ⟨rfl, rfl⟩ := hname
  cases rest with
  | nil =>
    rw [FileTree.follow] at hfollow
    cases hfollow
    exact ⟨rfl, rfl⟩
  | cons second rest =>
    obtain ⟨third, hthird, -⟩ := FileTree.child?_of_follow (hnames second (by simp)).2 hfollow
    rw [FileTree.child?, hleaf] at hthird
    cases hthird

/-- The directory of the twofold world has the document alone. -/
theorem eq_of_nodeAt_twofold {names : List Text} {node : Node} (hne : names ≠ [])
    (hnames : ∀ name ∈ names, ResourcePath.IsName name)
    (h : twofold.nodeAt ((ResourcePath.ofText (text "M")).append ⟨0, names⟩) = some node) :
    names = [text "app.ini"] ∧ node = .file (Text.utf8 (text "k=1\n")) :=
  eq_of_nodeAt_sole rfl rfl hne hnames h

/-- So has its archive. -/
private theorem eq_of_nodeIn_twofold {names : List Text} {node : Node} (hne : names ≠ [])
    (h : twofold.nodeIn names (text "z.zip") = some node) : names = [text "app.ini"] := by
  obtain ⟨entry, hentry, hprefix⟩ := Archive.isPrefix_of_nodeAt h
  rw [List.mem_singleton.mp hentry] at hprefix
  obtain ⟨name, rest, rfl⟩ := List.exists_cons_of_ne_nil hne
  obtain ⟨rfl, hrest⟩ := List.cons_prefix_cons.mp hprefix
  rw [List.prefix_nil.mp hrest]
  rfl

/-- The directory of the twofold world mirrors the archive. -/
theorem mirrors_twofold : twofold.Mirrors (text "M") twofold [text "z.zip"] := by
  refine ⟨?_, ?_, ?_⟩
  · intro entry hentry
    rw [List.mem_singleton.mp hentry]
    refine .archive rfl fun entry hentry => ?_
    rw [List.mem_singleton.mp hentry]
    exact ⟨[text "app.ini"], by decide, by simp [ResourcePath.IsPart]; decide, .inl rfl⟩
  · intro entry hentry names name content _ hnode
    rw [List.mem_singleton.mp hentry] at hnode
    have hnames : names ++ [name] = [] ++ [text "app.ini"] := eq_of_nodeIn_twofold (by simp) hnode
    obtain ⟨-, hname⟩ := List.append_inj' hnames rfl
    rw [List.singleton_inj.mp hname]
    decide
  · intro names hne hnames
    by_cases hdocument : names = [text "app.ini"]
    · rw [hdocument]
      decide
    · have hdirectory : twofold.nodeAt ((ResourcePath.ofText (text "M")).append ⟨0, names⟩) =
          none := by
        rw [Option.eq_none_iff_forall_ne_some]
        exact fun node hnode => hdocument (eq_of_nodeAt_twofold hne hnames hnode).1
      have harchive : twofold.nodeIn names (text "z.zip") = none := by
        rw [Option.eq_none_iff_forall_ne_some]
        exact fun node hnode => hdocument (eq_of_nodeIn_twofold hne hnode)
      rw [hdirectory, searchNode, List.findSome?_cons, harchive]
      rfl

end World

end ConfigNamespace
