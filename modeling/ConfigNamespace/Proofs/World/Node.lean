import ConfigNamespace.Proofs.Resource.Path
import ConfigNamespace.World.Archive
import ConfigNamespace.World.Basic

/-!
# Trees of resources

A directory and an archive both hold a tree: names lead to a directory, to a file, or nowhere. For
an archive, this tree is read off the names of its entries. Where these are written properly,
resolving a path and reading it give what stands in the tree.
-/

namespace ConfigNamespace

/-- What names lead to. -/
inductive Node
  /-- A directory. -/
  | directory
  /-- A file with its bytes. -/
  | file (content : List UInt8)
  deriving DecidableEq

/-- What a file tree is at its top. -/
def FileTree.node : FileTree → Node
  | file content => .file content.toBytes
  | directory _ => .directory

instance (found : FileTree.Finding) : Decidable (found = .tooLong) :=
  match found with
  | .missing => .isFalse nofun
  | .found _ => .isFalse nofun
  | .tooLong => .isTrue rfl

/-- A name that does not lead up leads to an entry of the directory. -/
theorem FileTree.child?_of_follow {parents : List FileTree} {t found : FileTree} {name : Text}
    {names : List Text} (hname : name ≠ text "..")
    (h : follow parents t (name :: names) = .found found) :
    ∃ below, t.child? name = some below ∧ follow (t :: parents) below names = .found found := by
  unfold follow at h
  rw [if_neg hname] at h
  split at h
  · cases h
  · split at h
    · cases h
    · cases hchild : t.child? name with
      | none => simp [hchild] at h
      | some below =>
        rw [hchild] at h
        exact ⟨below, rfl, h⟩

/-- One name leads nowhere, is too long, or leads to where the names behind it are followed from. -/
theorem FileTree.follow_cons (parents : List FileTree) (t : FileTree) (name : Text) :
    (∀ names, follow parents t (name :: names) = .missing) ∨
      (∀ names, follow parents t (name :: names) = .tooLong) ∨
        ∃ parents' t', ∀ names, follow parents t (name :: names) = follow parents' t' names := by
  by_cases hdirectory : (!t.isDirectory) = true
  · refine .inl fun names => ?_
    rw [follow.eq_def]
    exact if_pos hdirectory
  by_cases hdots : name = text ".."
  · refine .inr (.inr ⟨parents.tail, parents.headD t, fun names => ?_⟩)
    rw [follow.eq_def]
    dsimp only
    rw [if_neg hdirectory, if_pos hdots]
    cases parents <;> rfl
  by_cases hlong : maxNameBytes < (Text.utf8 name).length
  · refine .inr (.inl fun names => ?_)
    rw [follow.eq_def]
    dsimp only
    rw [if_neg hdirectory, if_neg hdots, if_pos hlong]
  cases hchild : t.child? name with
  | none =>
    refine .inl fun names => ?_
    rw [follow.eq_def]
    dsimp only
    rw [if_neg hdirectory, if_neg hdots, if_neg hlong, hchild]
  | some below =>
    refine .inr (.inr ⟨t :: parents, below, fun names => ?_⟩)
    rw [follow.eq_def]
    dsimp only
    rw [if_neg hdirectory, if_neg hdots, if_neg hlong, hchild]

/-- Names are followed from where the names before them lead. -/
theorem FileTree.follow_append {parents : List FileTree} {t found : FileTree} {names more : List Text}
    (h : follow parents t (names ++ more) = .found found) :
    ∃ parents' between, follow parents t names = .found between ∧
      follow parents' between more = .found found := by
  induction names generalizing parents t with
  | nil => exact ⟨parents, t, by simp [follow], h⟩
  | cons name names ih =>
    rw [List.cons_append] at h
    obtain hmissing | htooLong | ⟨parents', t', hstep⟩ := follow_cons parents t name
    · rw [hmissing] at h
      cases h
    · rw [htooLong] at h
      cases h
    · rw [hstep] at h ⊢
      exact ih h

/-- Names that are not too long are answered. -/
theorem FileTree.follow_ne_tooLong (parents : List FileTree) (t : FileTree) {names : List Text}
    (h : ∀ name ∈ names, (Text.utf8 name).length ≤ maxNameBytes) :
    follow parents t names ≠ .tooLong := by
  induction names generalizing parents t with
  | nil => simp [follow]
  | cons name names ih =>
    obtain ⟨hname, hnames⟩ := List.forall_mem_cons.mp h
    unfold follow
    split
    · simp
    · split
      · cases parents with
        | nil => exact ih _ _ hnames
        | cons parent parents => exact ih _ _ hnames
      · rw [if_neg (Nat.not_lt.mpr hname)]
        cases t.child? name with
        | none => simp
        | some below => exact ih _ _ hnames

/-- A text has no more bytes than one that goes on from it. -/
theorem Text.length_utf8_le_append (s t : Text) :
    (Text.utf8 s).length ≤ (Text.utf8 (s ++ t)).length := by
  rw [Text.utf8, Text.utf8, List.flatMap_append, List.length_append]
  exact Nat.le_add_right _ _

/-- Where a name with more behind it leads to something, the name itself is answered. -/
theorem FileTree.follow_ne_tooLong_of_longer {parents : List FileTree} {t found : FileTree}
    {passed rest : List Text} {name more : Text} (hdots : name ++ more ≠ text "..")
    (h : follow parents t (passed ++ (name ++ more) :: rest) = .found found) :
    follow parents t (passed ++ [name]) ≠ .tooLong := by
  induction passed generalizing parents t with
  | nil =>
    rw [List.nil_append] at h ⊢
    unfold follow at h ⊢
    split
    · simp
    next hdirectory =>
      rw [if_neg hdirectory, if_neg hdots] at h
      split
      · cases parents <;> simp [follow]
      · have hlength : (Text.utf8 name).length ≤ maxNameBytes := by
          refine Nat.le_trans (Text.length_utf8_le_append name more) (Nat.le_of_not_lt fun hlong => ?_)
          rw [if_pos hlong] at h
          cases h
        rw [if_neg (Nat.not_lt.mpr hlength)]
        cases t.child? name with
        | none => simp
        | some below => simp [follow]
  | cons first passed ih =>
    rw [List.cons_append] at h ⊢
    obtain hmissing | htooLong | ⟨parents', t', hstep⟩ := follow_cons parents t first
    · rw [hmissing] at h
      cases h
    · rw [htooLong] at h
      cases h
    · rw [hstep] at h ⊢
      exact ih h

namespace Archive

/-- What names lead to in an archive: a file that has these names, the last one if there are
several, or a directory if a name leads beneath it. -/
def nodeAt (a : Archive) (names : List Text) : Option Node :=
  match a.entries.reverse.find? fun entry => Text.pieces ['/'] entry.1 = names with
  | some entry => some (.file entry.2)
  | none =>
    if a.entries.any fun entry => names.isPrefixOf (Text.pieces ['/'] entry.1) then some .directory
    else none

/-- Only the beginnings of what stands in an archive lead to something. -/
theorem isPrefix_of_nodeAt {a : Archive} {names : List Text} {node : Node}
    (h : a.nodeAt names = some node) :
    ∃ entry ∈ a.entries, names <+: Text.pieces ['/'] entry.1 := by
  unfold nodeAt at h
  split at h
  · next entry hfound =>
    have hnames : Text.pieces ['/'] entry.1 = names := by simpa using List.find?_some hfound
    have hmem := List.mem_reverse.mp (List.mem_of_find?_eq_some hfound)
    exact ⟨entry, hmem, hnames ▸ List.prefix_rfl⟩
  · split at h
    · next hany =>
      obtain ⟨entry, hmem, hprefix⟩ := List.any_eq_true.mp hany
      exact ⟨entry, hmem, List.isPrefixOf_iff_prefix.mp hprefix⟩
    · cases h

/-- Whether a text is written as names are, with or without a slash at the end. -/
def WrittenAs (written : Text) (parts : List Text) : Prop :=
  written = Text.joinWith ['/'] parts ∨ written = Text.joinWith ['/'] parts ++ text "/"

section Parents

variable {init parts : List Text} {last written : Text}

/-- Written names without the slash at the end. -/
theorem WrittenAs.trimEndChar (h : WrittenAs written parts) (hne : parts ≠ [])
    (hlast : ResourcePath.IsPart (parts.getLast hne)) :
    Text.trimEndChar '/' written = Text.joinWith ['/'] parts := by
  have hjoined : Text.trimEndChar '/' (Text.joinWith ['/'] parts) = Text.joinWith ['/'] parts := by
    obtain ⟨before, hbefore⟩ := Text.joinWith_eq_append ['/'] hne
    rw [hbefore, Text.trimEndChar_append _ hlast.1 hlast.2.2]
  rcases h with rfl | rfl
  · exact hjoined
  · exact (Text.trimEndChar_append_self _ _).trans hjoined

/-- The directory directly above written names. -/
theorem WrittenAs.parent? (h : WrittenAs written (init ++ [last]))
    (hinit : ∀ part ∈ init, ResourcePath.IsPart part) (hlast : ResourcePath.IsPart last) :
    parent? written = if init = [] then none else some (Text.joinWith ['/'] init) := by
  have hslash : CodePoint.ofChar '/' ∉ last.reverse := fun hmem =>
    hlast.2.2 (List.mem_reverse.mp hmem)
  unfold Archive.parent?
  rw [h.trimEndChar (by simp) (by simpa using hlast)]
  by_cases hempty : init = []
  · rw [if_pos hempty, hempty]
    simp only [List.nil_append, Text.joinWith]
    rw [Text.breakAt?_eq_none hslash]
  · have hreverse : (Text.joinWith ['/'] (init ++ [last])).reverse =
        last.reverse ++ CodePoint.ofChar '/' :: (Text.joinWith ['/'] init).reverse := by
      rw [Text.joinWith_append_singleton _ _ hempty]
      simp
    have habove : WrittenAs (Text.joinWith ['/'] init) init := .inl rfl
    obtain ⟨first, rest, rfl⟩ := List.exists_cons_of_ne_nil hempty
    have hne := Text.joinWith_ne_nil ['/'] (hinit first List.mem_cons_self).1 rest
    rw [if_neg hempty, hreverse, Text.breakAt?_append_cons hslash]
    dsimp only
    rw [List.reverse_reverse, habove.trimEndChar hempty (hinit _ (List.getLast_mem hempty))]
    split
    · next heq => exact absurd heq hne
    · rfl

/-- The directories above written names are what any of the first of them lead to. -/
theorem WrittenAs.mem_parents (h : WrittenAs written parts) (hne : parts ≠ [])
    (hparts : ∀ part ∈ parts, ResourcePath.IsPart part) {fuel : Nat} (hfuel : parts.length ≤ fuel)
    {path : Text} : path ∈ parents fuel written ↔
      ∃ above rest, above ≠ [] ∧ rest ≠ [] ∧ parts = above ++ rest ∧
        path = Text.joinWith ['/'] above := by
  induction fuel generalizing parts written with
  | zero =>
    rw [Nat.le_zero, List.length_eq_zero_iff] at hfuel
    exact absurd hfuel hne
  | succ fuel ih =>
    obtain ⟨init, last, rfl⟩ : ∃ init last, parts = init ++ [last] :=
      ⟨_, _, (List.dropLast_concat_getLast hne).symm⟩
    obtain ⟨hinit, hlast⟩ := List.forall_mem_append.mp hparts
    rw [parents, h.parent? hinit (hlast last (List.mem_singleton.mpr rfl))]
    by_cases hempty : init = []
    · subst hempty
      rw [if_pos rfl]
      constructor
      · intro hmem
        simp at hmem
      · rintro ⟨above, rest, habove, hrest, heq, -⟩
        rcases List.append_eq_singleton_iff.mp heq.symm with ⟨hnil, -⟩ | ⟨-, hnil⟩
        · exact absurd hnil habove
        · exact absurd hnil hrest
    · have hlength : init.length ≤ fuel := by simpa using hfuel
      rw [if_neg hempty]
      dsimp only
      rw [List.mem_cons, ih (.inl rfl) hempty hinit hlength]
      constructor
      · rintro (rfl | ⟨above, rest, habove, hrest, rfl, rfl⟩)
        · exact ⟨init, [last], hempty, by simp, rfl, rfl⟩
        · exact ⟨above, rest ++ [last], habove, by simp, by simp, rfl⟩
      · rintro ⟨above, rest, habove, hrest, heq, rfl⟩
        obtain ⟨rest, last', rfl⟩ : ∃ rest' last', rest = rest' ++ [last'] :=
          ⟨_, _, (List.dropLast_concat_getLast hrest).symm⟩
        rw [← List.append_assoc] at heq
        obtain ⟨rfl, -⟩ := List.append_inj' heq rfl
        by_cases hrest' : rest = []
        · exact .inl (by simp [hrest'])
        · exact .inr ⟨above, rest, habove, hrest', rfl, rfl⟩

end Parents

/-- Whether the names of an archive are written properly: as names that may stand in a path, with a
slash at the end for a directory. -/
def IsProper (a : Archive) : Prop :=
  ∀ entry ∈ a.entries, ∃ parts, parts ≠ [] ∧ (∀ part ∈ parts, ResourcePath.IsPart part) ∧
    WrittenAs entry.1 parts

section Resolve

variable {a : Archive} {names : List Text}

/-- The pieces of written names are these names, and an empty piece behind the slash at the end. -/
theorem WrittenAs.pieces_eq {written : Text} {parts : List Text} (h : WrittenAs written parts)
    (hne : parts ≠ []) (hparts : ∀ part ∈ parts, ResourcePath.IsPart part) :
    Text.pieces ['/'] written = parts ∨ Text.pieces ['/'] written = parts ++ [[]] := by
  have hjoined : Text.pieces ['/'] (Text.joinWith ['/'] parts) = parts :=
    Text.pieces_joinWith hne fun part hpart => (hparts part hpart).2.2
  rcases h with rfl | rfl
  · exact .inl hjoined
  · have hslash : text "/" = [CodePoint.ofChar '/'] := rfl
    rw [hslash, Text.pieces_append_cons, hjoined, Text.pieces_nil]
    exact .inr rfl

variable (hne : names ≠ []) (hnames : ∀ name ∈ names, ResourcePath.IsPart name)
include hne hnames

/-- Names are the pieces of a written path exactly if joining them gives the path. -/
theorem pieces_eq_names_iff {written : Text} :
    Text.pieces ['/'] written = names ↔ written = Text.joinWith ['/'] names :=
  Text.pieces_eq_iff hne fun name hname => (hnames name hname).2.2

/-- Written names with a slash behind them are no names. -/
theorem append_slash_ne_joinWith (path : Text) :
    path ++ text "/" ≠ Text.joinWith ['/'] names := by
  have hslash : text "/" = [CodePoint.ofChar '/'] := rfl
  rw [ne_eq, ← pieces_eq_names_iff hne hnames, hslash, Text.pieces_append_cons, Text.pieces_nil]
  rintro rfl
  exact (hnames [] (by simp)).1 rfl

/-- A file stands under names if an entry has them. -/
theorem has_joinWith : a.has (Text.joinWith ['/'] names) = true ↔
    ∃ entry ∈ a.entries, Text.pieces ['/'] entry.1 = names := by
  simp only [has, List.any_eq_true, Bool.or_eq_true, decide_eq_true_eq]
  constructor
  · rintro ⟨entry, hmem, heq | ⟨path, -, heq⟩⟩
    · exact ⟨entry, hmem, (pieces_eq_names_iff hne hnames).mpr heq⟩
    · exact absurd heq (append_slash_ne_joinWith hne hnames path)
  · rintro ⟨entry, hmem, heq⟩
    exact ⟨entry, hmem, .inl ((pieces_eq_names_iff hne hnames).mp heq)⟩

/-- A written name leads beneath others if it is the directory of these names, or they are among the
directories above it. -/
theorem WrittenAs.leads_beneath_iff {written : Text} {parts : List Text}
    (h : WrittenAs written parts) (hparts : parts ≠ [])
    (hproper : ∀ part ∈ parts, ResourcePath.IsPart part) :
    (written = Text.joinWith ['/'] names ++ text "/" ∨
        Text.joinWith ['/'] names ∈ parents written.length written) ↔
      ∃ rest, rest ≠ [] ∧ Text.pieces ['/'] written = names ++ rest := by
  have hslash : text "/" = [CodePoint.ofChar '/'] := rfl
  have hpieces : Text.pieces ['/'] (Text.joinWith ['/'] names) = names :=
    (pieces_eq_names_iff hne hnames).mpr rfl
  have hfuel : parts.length ≤ written.length := by
    have hlength := Text.length_le_length_joinWith ['/'] fun part hpart => (hproper part hpart).1
    rcases h with rfl | rfl
    · exact hlength
    · rw [List.length_append]
      omega
  rw [h.mem_parents hparts hproper hfuel]
  constructor
  · rintro (heq | ⟨above, rest, habove, hrest, rfl, heq⟩)
    · refine ⟨[[]], by simp, ?_⟩
      rw [heq, hslash, Text.pieces_append_cons, hpieces, Text.pieces_nil]
    · have habove' : above = names := by
        rw [← hpieces, heq]
        refine (Text.pieces_joinWith habove fun part hpart => ?_).symm
        exact (hproper part (List.mem_append_left _ hpart)).2.2
      subst habove'
      rcases h.pieces_eq hparts hproper with heq | heq
      · exact ⟨rest, hrest, heq⟩
      · exact ⟨rest ++ [[]], by simp, by rw [heq, List.append_assoc]⟩
  · rintro ⟨rest, hrest, heq⟩
    have habove {rest : List Text} (hrest : rest ≠ []) (heq : parts = names ++ rest) :
        ∃ above rest, above ≠ [] ∧ rest ≠ [] ∧ parts = above ++ rest ∧
          Text.joinWith ['/'] names = Text.joinWith ['/'] above :=
      ⟨names, rest, hne, hrest, heq, rfl⟩
    rcases h.pieces_eq hparts hproper with hwritten | hwritten
    · exact .inr (habove hrest (hwritten.symm.trans heq))
    · rw [hwritten, ← List.dropLast_concat_getLast hrest, ← List.append_assoc] at heq
      obtain ⟨heq, -⟩ := List.append_inj' heq rfl
      by_cases hrest' : rest.dropLast = []
      · rw [hrest', List.append_nil] at heq
        subst heq
        rcases h with rfl | rfl
        · rw [hpieces] at hwritten
          simp at hwritten
        · exact .inl rfl
      · exact .inr (habove hrest' heq)

/-- A directory stands under names if an entry leads beneath them. -/
theorem has_joinWith_slash (ha : a.IsProper) :
    a.has (Text.joinWith ['/'] names ++ text "/") = true ↔
      ∃ entry ∈ a.entries, ∃ rest, rest ≠ [] ∧ Text.pieces ['/'] entry.1 = names ++ rest := by
  have hcancel (path : Text) : path ++ text "/" = Text.joinWith ['/'] names ++ text "/" ↔
      path = Text.joinWith ['/'] names := List.append_left_inj _
  simp only [has, List.any_eq_true, Bool.or_eq_true, decide_eq_true_eq, hcancel]
  refine exists_congr fun entry => and_congr_right fun hmem => ?_
  obtain ⟨parts, hparts, hproper, hwritten⟩ := ha entry hmem
  rw [← hwritten.leads_beneath_iff hne hnames hparts hproper]
  simp

/-- Resolving names gives the name of what stands there. -/
theorem resolve?_joinWith (ha : a.IsProper) :
    a.resolve? (Text.joinWith ['/'] names) =
      match a.nodeAt names with
      | some (.file _) => some (Text.joinWith ['/'] names)
      | some .directory => some (Text.joinWith ['/'] names ++ text "/")
      | none => none := by
  unfold nodeAt resolve?
  cases hfile : a.entries.reverse.find? fun entry => Text.pieces ['/'] entry.1 = names with
  | some entry =>
    have hhas : a.has (Text.joinWith ['/'] names) = true := by
      refine (has_joinWith hne hnames).mpr ⟨entry, ?_, ?_⟩
      · exact List.mem_reverse.mp (List.mem_of_find?_eq_some hfile)
      · simpa using List.find?_some hfile
    rw [if_pos hhas]
  | none =>
    have hnone : ∀ entry ∈ a.entries, Text.pieces ['/'] entry.1 ≠ names := by
      simpa using hfile
    have hhas : ¬a.has (Text.joinWith ['/'] names) = true := by
      rw [has_joinWith hne hnames]
      rintro ⟨entry, hmem, heq⟩
      exact hnone entry hmem heq
    have hbeneath : a.has (Text.joinWith ['/'] names ++ text "/") = true ↔
        (a.entries.any fun entry => names.isPrefixOf (Text.pieces ['/'] entry.1)) = true := by
      simp only [has_joinWith_slash hne hnames ha, List.any_eq_true, List.isPrefixOf_iff_prefix]
      refine exists_congr fun entry => and_congr_right fun hmem => ?_
      constructor
      · rintro ⟨rest, -, heq⟩
        exact ⟨rest, heq.symm⟩
      · rintro ⟨rest, heq⟩
        refine ⟨rest, ?_, heq.symm⟩
        rintro rfl
        exact hnone entry hmem (by simpa using heq.symm)
    rw [if_neg hhas]
    by_cases hdirectory : a.has (Text.joinWith ['/'] names ++ text "/") = true
    · rw [if_pos hdirectory, if_pos (hbeneath.mp hdirectory)]
    · rw [if_neg hdirectory, if_neg (mt hbeneath.mpr hdirectory)]

/-- What is read under joined names is the file that stands there. -/
theorem content?_joinWith {content : List UInt8} (h : a.nodeAt names = some (.file content)) :
    a.content? (Text.joinWith ['/'] names) = some content := by
  have hfile : Text.endsWith (Text.joinWith ['/'] names) (text "/") = false := by
    obtain ⟨before, hbefore⟩ := Text.joinWith_eq_append ['/'] hne
    obtain ⟨hlast, -, hslash⟩ := hnames _ (List.getLast_mem hne)
    rw [hbefore]
    exact Text.endsWith_append before hlast hslash
  unfold nodeAt at h
  unfold content?
  rw [hfile, if_neg Bool.false_ne_true]
  simp only [← pieces_eq_names_iff hne hnames]
  split at h
  · next entry hfound =>
    rw [hfound]
    cases h
    rfl
  · split at h <;> cases h

omit hne hnames in
/-- A directory has no content. -/
theorem content?_append_slash (path : Text) : a.content? (path ++ text "/") = none := by
  have hends : Text.endsWith (path ++ text "/") (text "/") = true := Text.endsWith_append_self _ _
  rw [content?, if_pos hends]

end Resolve

end Archive

end ConfigNamespace
