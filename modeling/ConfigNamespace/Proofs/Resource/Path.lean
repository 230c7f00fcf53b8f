import ConfigNamespace.Proofs.Text.Pieces
import ConfigNamespace.Resource.Path

/-!
# Laws of file paths

A path that was read is well formed, and a well-formed path is read back from its written form. So
the written form of a path is as good as the path itself.
-/

namespace ConfigNamespace

namespace ResourcePath

/-- Whether a text may stand as a name in a path: it is not empty, no single dot, and holds no
slash. -/
def IsPart (name : Text) : Prop := name ≠ [] ∧ name ≠ text "." ∧ CodePoint.ofChar '/' ∉ name

/-- Whether a text may stand as a name in a path and leads down. -/
def IsName (name : Text) : Prop := IsPart name ∧ name ≠ text ".."

/-- An extension without slashes leaves a name one. -/
theorem IsName.append {name extension : Text} (h : IsName name)
    (hextension : CodePoint.ofChar '/' ∉ extension) : IsName (name ++ extension) := by
  obtain ⟨⟨hne, hdot, hslash⟩, hdots⟩ := h
  obtain ⟨c, rest, rfl⟩ := List.exists_cons_of_ne_nil hne
  refine ⟨⟨List.cons_ne_nil _ _, ?_, ?_⟩, ?_⟩
  · intro heq
    obtain ⟨rfl, hrest⟩ := List.cons.inj heq
    obtain ⟨rfl, -⟩ := List.append_eq_nil_iff.mp hrest
    exact hdot rfl
  · intro hmem
    rcases List.mem_append.mp hmem with hmem | hmem
    · exact hslash hmem
    · exact hextension hmem
  · intro heq
    have hshown : text ".." = [CodePoint.ofChar '.', CodePoint.ofChar '.'] := rfl
    rw [hshown] at heq hdots
    obtain ⟨rfl, hrest⟩ := List.cons.inj heq
    rcases List.append_eq_singleton_iff.mp hrest with ⟨rfl, -⟩ | ⟨rfl, -⟩
    · exact hdot rfl
    · exact hdots rfl

/-- Whether a path is one that can be read from a text. -/
structure WellFormed (p : ResourcePath) : Prop where
  /-- At most two slashes are kept in front. -/
  slashes_le_two : p.slashes ≤ 2
  /-- All names may stand in a path. -/
  isPart : ∀ part ∈ p.parts, IsPart part

/-- Every path that was read is well formed. -/
theorem wellFormed_ofText (s : Text) : (ofText s).WellFormed := by
  refine ⟨?_, ?_⟩
  · simp only [ofText]
    split
    · omega
    · split <;> omega
  · intro part hpart
    simp only [ofText, partsOf, List.mem_filter, decide_eq_true_eq] at hpart
    exact ⟨hpart.2.1, hpart.2.2, fun hmem => (Text.mem_of_mem_pieces hpart.1 hmem).2 rfl⟩

/-- A path whose first name begins with a given one is relative. -/
theorem exists_ofText_append {name : Text} (h : IsPart name) (more : Text) :
    ∃ first rest, CodePoint.ofChar '/' ∉ first ∧
      ofText (name ++ more) = ⟨0, (name ++ first) :: rest⟩ := by
  obtain ⟨hne, hdot, hslash⟩ := h
  obtain ⟨first, pieces, hmore, hpieces⟩ := Text.pieces_append_of_not_mem hslash more
  have hfirst : CodePoint.ofChar '/' ∉ first := fun hmem =>
    (Text.mem_of_mem_pieces (hmore ▸ List.mem_cons_self) hmem).2 rfl
  obtain ⟨c, name, rfl⟩ := List.exists_cons_of_ne_nil hne
  have hc : c ≠ CodePoint.ofChar '/' := by
    rintro rfl
    exact hslash List.mem_cons_self
  refine ⟨first, pieces.filter fun part => part ≠ [] ∧ part ≠ text ".", hfirst, ?_⟩
  have hkept : (c :: name) ++ first ≠ text "." := by
    intro heq
    obtain ⟨rfl, hnil⟩ := List.cons.inj heq
    obtain ⟨rfl, -⟩ := List.append_eq_nil_iff.mp hnil
    exact hdot rfl
  have hparts : partsOf ((c :: name) ++ more) =
      ((c :: name) ++ first) :: pieces.filter fun part => part ≠ [] ∧ part ≠ text "." := by
    rw [partsOf, hpieces, List.filter_cons_of_pos (by simpa using hkept)]
  have hleading : List.takeWhile (fun c : CodePoint => c = '/') ((c :: name) ++ more) = [] := by
    simp [hc]
  rw [ofText, hparts, hleading]
  rfl

/-- Names behind a well-formed path make a well-formed path. -/
theorem WellFormed.append {p : ResourcePath} (h : p.WellFormed) {names : List Text}
    (hnames : ∀ name ∈ names, IsPart name) : (p.append ⟨0, names⟩).WellFormed := by
  refine ⟨h.slashes_le_two, ?_⟩
  intro part hpart
  rcases List.mem_append.mp hpart with hpart | hpart
  · exact h.isPart part hpart
  · exact hnames part hpart

/-- Names may be appended at once or one after another. -/
theorem append_append (p : ResourcePath) (names names' : List Text) :
    (p.append ⟨0, names⟩).append ⟨0, names'⟩ = p.append ⟨0, names ++ names'⟩ := by
  simp [append, List.append_assoc]

/-- Nothing is appended without names. -/
@[simp] theorem append_nil (p : ResourcePath) : p.append ⟨0, []⟩ = p := by
  simp [append]

/-- Slashes in front count for no names. -/
theorem partsOf_replicate_append (n : Nat) (s : Text) :
    partsOf (List.replicate n (CodePoint.ofChar '/') ++ s) = partsOf s := by
  induction n with
  | zero => rfl
  | succ n ih =>
    rw [← ih, List.replicate_succ, List.cons_append]
    unfold partsOf
    rw [Text.pieces_cons_self, List.filter_cons_of_neg (by simp)]

/-- The names that were joined are the names of the joined text. -/
theorem partsOf_joinWith {parts : List Text} (h : ∀ part ∈ parts, IsPart part) :
    partsOf (Text.joinWith [CodePoint.ofChar '/'] parts) = parts := by
  unfold partsOf
  by_cases hne : parts = []
  · simp [hne, Text.joinWith]
  · rw [Text.pieces_joinWith hne fun part hpart => (h part hpart).2.2, List.filter_eq_self]
    intro part hpart
    exact decide_eq_true ⟨(h part hpart).1, (h part hpart).2.1⟩

/-- Joined names do not begin with a slash. -/
theorem takeWhile_joinWith {parts : List Text} (h : ∀ part ∈ parts, IsPart part) :
    (Text.joinWith [CodePoint.ofChar '/'] parts).takeWhile
      (fun c => decide (c = CodePoint.ofChar '/')) = [] := by
  cases parts with
  | nil => rfl
  | cons part parts =>
    obtain ⟨hne, -, hslash⟩ := h part List.mem_cons_self
    obtain ⟨a, rest, rfl⟩ := List.exists_cons_of_ne_nil hne
    have ha : a ≠ CodePoint.ofChar '/' := fun heq => hslash (heq ▸ List.mem_cons_self)
    by_cases hparts : parts = []
    · simp [hparts, Text.joinWith, ha]
    · simp [Text.joinWith_cons _ _ hparts, ha]

/-- A well-formed path is read back from its written form. -/
theorem ofText_render {p : ResourcePath} (h : p.WellFormed) : ofText p.render = p := by
  obtain ⟨slashes, parts⟩ := p
  obtain ⟨hslashes, hparts⟩ := h
  change slashes ≤ 2 at hslashes
  by_cases hempty : slashes = 0 ∧ parts = []
  · obtain ⟨rfl, rfl⟩ := hempty
    decide
  · have hleading : ((List.replicate slashes (CodePoint.ofChar '/') ++
        Text.joinWith [CodePoint.ofChar '/'] parts).takeWhile
          fun c => decide (c = CodePoint.ofChar '/')).length = slashes := by
      rw [List.takeWhile_append_of_pos (by simp), takeWhile_joinWith hparts]
      simp
    simp only [render, if_neg hempty, ofText, hleading, partsOf_replicate_append,
      partsOf_joinWith hparts]
    congr 1
    split
    · omega
    · split <;> omega

/-- A path can be written and read again. -/
theorem ofText_render_ofText (s : Text) : ofText (ofText s).render = ofText s :=
  ofText_render (wellFormed_ofText s)

end ResourcePath

end ConfigNamespace
