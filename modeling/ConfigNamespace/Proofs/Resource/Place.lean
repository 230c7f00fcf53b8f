import ConfigNamespace.Lookup.Locator
import ConfigNamespace.Proofs.Resource.Path
import ConfigNamespace.Proofs.Text.Percent

/-!
# Places beneath a base

Each protocol writes in its own way where names lead to from a base. The handle of one more name is
the place with that name appended, so a walk from container to container stays beneath its base.
-/

namespace ConfigNamespace

/-- What a plain segment is: a name that leads down, without backslashes. -/
theorem isPlainSegment_iff {segment : Text} :
    isPlainSegment segment = true ↔
      ResourcePath.IsName segment ∧ CodePoint.backslash ∉ segment := by
  simp only [isPlainSegment, Bool.and_eq_true, decide_eq_true_eq, Bool.not_eq_true',
    List.any_eq_false, Bool.or_eq_true, not_or]
  constructor
  · rintro ⟨⟨⟨hne, hdot⟩, hdots⟩, hall⟩
    refine ⟨⟨⟨hne, hdot, fun hmem => ?_⟩, hdots⟩, fun hmem => ?_⟩
    · exact (hall _ hmem).1 rfl
    · exact (hall _ hmem).2 rfl
  · rintro ⟨⟨⟨hne, hdot, hslash⟩, hdots⟩, hbackslash⟩
    refine ⟨⟨⟨hne, hdot⟩, hdots⟩, fun c hc => ⟨?_, ?_⟩⟩
    · rintro rfl
      exact hslash hc
    · rintro rfl
      exact hbackslash hc

/-- A plain segment stays plain when it is encoded. -/
theorem isPlainSegment_percentEncode {segment : Text} (h : isPlainSegment segment = true) :
    isPlainSegment (percentEncode segment) = true := by
  obtain ⟨⟨⟨hne, hdot, -⟩, hdots⟩, -⟩ := isPlainSegment_iff.mp h
  refine isPlainSegment_iff.mpr ⟨⟨⟨percentEncode_ne_nil hne, ?_, ?_⟩, ?_⟩, ?_⟩
  · intro heq
    have hself : percentEncode segment = segment :=
      eq_of_percentEncode_dots (by rw [heq]; decide)
    exact hdot (hself.symm.trans heq)
  · exact slash_not_mem_percentEncode segment
  · intro heq
    have hself : percentEncode segment = segment :=
      eq_of_percentEncode_dots (by rw [heq]; decide)
    exact hdots (hself.symm.trans heq)
  · intro hmem
    exact absurd (unreserved_of_mem_percentEncode hmem) (by decide)

/-- An extension without separators leaves a segment plain. -/
theorem isPlainSegment_append {segment extension : Text} (h : isPlainSegment segment = true)
    (hextension : ∀ c ∈ extension, c ≠ CodePoint.ofChar '/' ∧ c ≠ CodePoint.backslash) :
    isPlainSegment (segment ++ extension) = true := by
  obtain ⟨hname, hbackslash⟩ := isPlainSegment_iff.mp h
  refine isPlainSegment_iff.mpr ⟨hname.append fun hmem => (hextension _ hmem).1 rfl, ?_⟩
  intro hmem
  rcases List.mem_append.mp hmem with hmem | hmem
  · exact hbackslash hmem
  · exact (hextension _ hmem).2 rfl

/-- A plain segment is a name. -/
theorem isName_of_isPlainSegment {name : Text} (h : isPlainSegment name = true) :
    ResourcePath.IsName name := (isPlainSegment_iff.mp h).1

/-- A plain segment may stand in a path. -/
theorem isPart_of_isPlainSegment {name : Text} (h : isPlainSegment name = true) :
    ResourcePath.IsPart name := (isName_of_isPlainSegment h).1

/-- Where names lead to from a base: along a file path, along the names of an archive, or along the
components of a URL. -/
def Protocol.place (p : Protocol) (base : Text) (names : List Text) : Text :=
  match p with
  | .localPath => ((ResourcePath.ofText base).append ⟨0, names⟩).render
  | .bundled => Text.joinWith ['/'] (if base = [] then names else base :: names)
  | .remote => Text.joinWith ['/'] (Text.trimEndChar '/' base :: names.map percentEncode)

/-- Where a walk stands that has passed some names: at its base, as it is written, or beneath it. -/
def Protocol.stand (p : Protocol) (base : Text) (passed : List Text) : Text :=
  if passed = [] then base else p.place base passed

/-- Whether a protocol has a place for a name: a URL has none for half of a surrogate pair. -/
def Protocol.Admits (p : Protocol) (name : Text) : Prop :=
  p = .remote → name.any CodePoint.isSurrogate = false

/-- Without a URL, there is a place for every name. -/
theorem Protocol.admits_of_ne {p : Protocol} (hp : p ≠ .remote) (name : Text) : p.Admits name :=
  fun hremote => absurd hremote hp

/-- Every protocol has a place for a scalar name. -/
theorem Protocol.admits_of_isScalar (p : Protocol) {name : Text} (h : name.IsScalar) :
    p.Admits name := by
  refine fun _ => List.any_eq_false.mpr fun c hc => ?_
  rw [h c hc]
  exact Bool.false_ne_true

/-- A single name that may stand in a path is a path. -/
theorem ResourcePath.ofText_of_isPart {name : Text} (h : IsPart name) : ofText name = ⟨0, [name]⟩ := by
  have hwell : (⟨0, [name]⟩ : ResourcePath).WellFormed := by
    refine ⟨by simp, fun part hpart => ?_⟩
    rw [List.mem_singleton.mp hpart]
    exact h
  have hread := ofText_render hwell
  simpa [render, Text.joinWith] using hread

/-- A path is not written as the empty text. -/
theorem ResourcePath.render_ne_nil {p : ResourcePath} (hp : p.WellFormed) : p.render ≠ [] := by
  intro hnil
  have hread := ofText_render hp
  rw [hnil] at hread
  rw [← hread] at hnil
  exact absurd hnil (by decide)

namespace Locator

/-- Only a name that the protocol has a place for has a handle. -/
theorem admits_of_child {e : Environment} {p : Protocol} {base name : Text} {h : ResourceHandle}
    (hchild : (backendFor e p).child base name = .ok h) : p.Admits name := by
  rintro rfl
  unfold backendFor Backend.child at hchild
  dsimp only at hchild
  split at hchild
  · cases hchild
  next hscalar => exact eq_false_of_ne_true hscalar

/-- The handle of a name directly beneath a base. -/
private theorem child_base (e : Environment) (p : Protocol) (base : Text) {name : Text}
    (hname : ResourcePath.IsPart name) (hadmits : p.Admits name) :
    (backendFor e p).child base name = .ok ⟨p, p.place base [name]⟩ := by
  cases p with
  | localPath =>
    have hpart := ResourcePath.ofText_of_isPart hname
    simp only [backendFor, Backend.child, Protocol.place, hpart]
    by_cases hbase : base = []
    · rw [if_pos hbase, hbase]
      simp [ResourcePath.ofText, ResourcePath.partsOf, ResourcePath.append, ResourcePath.render,
        Text.joinWith]
    · rw [if_neg hbase]
  | bundled =>
    simp only [backendFor, Backend.child, Protocol.place]
    by_cases hbase : base = []
    · rw [if_pos hbase, if_pos hbase]
      rfl
    · rw [if_neg hbase, if_neg hbase]
      rfl
  | remote =>
    simp only [backendFor, Backend.child, hadmits rfl]
    rfl

/-- The handle of a name beneath a place is the place with the name appended. -/
private theorem child_place (e : Environment) (p : Protocol) (base : Text) {names : List Text}
    (hne : names ≠ []) (hnames : ∀ name ∈ names, ResourcePath.IsPart name) {name : Text}
    (hname : ResourcePath.IsPart name) (hadmits : p.Admits name) :
    (backendFor e p).child (p.place base names) name = .ok ⟨p, p.place base (names ++ [name])⟩ := by
  cases p with
  | localPath =>
    have hpart := ResourcePath.ofText_of_isPart hname
    have hwell := (ResourcePath.wellFormed_ofText base).append hnames
    simp only [backendFor, Backend.child, Protocol.place, hpart]
    rw [if_neg (ResourcePath.render_ne_nil hwell), ResourcePath.ofText_render hwell,
      ResourcePath.append_append]
  | bundled =>
    obtain ⟨first, rest, rfl⟩ := List.exists_cons_of_ne_nil hne
    obtain ⟨hfirst, -⟩ := hnames first List.mem_cons_self
    simp only [backendFor, Backend.child, Protocol.place]
    by_cases hbase : base = []
    · simp only [if_pos hbase]
      rw [if_neg (Text.joinWith_ne_nil _ hfirst _), Text.joinWith_append_singleton _ _ hne]
      rfl
    · simp only [if_neg hbase]
      rw [if_neg (Text.joinWith_ne_nil _ hbase _), ← List.cons_append,
        Text.joinWith_append_singleton _ _ (List.cons_ne_nil _ _)]
      rfl
  | remote =>
    obtain ⟨hlast, -⟩ := hnames _ (List.getLast_mem hne)
    -- A place ends in its last component, so no slash is there to trim.
    have htrim : Text.trimEndChar '/' (Protocol.place .remote base names) =
        Protocol.place .remote base names := by
      simp only [Protocol.place]
      rw [← List.dropLast_concat_getLast hne, List.map_append, List.map_singleton,
        ← List.cons_append, Text.joinWith_append_singleton _ _ (List.cons_ne_nil _ _),
        Text.trimEndChar_append _ (percentEncode_ne_nil hlast) (slash_not_mem_percentEncode _)]
    simp only [backendFor, Backend.child, htrim, hadmits rfl]
    simp only [Protocol.place]
    rw [List.map_append, List.map_singleton, ← List.cons_append,
      Text.joinWith_append_singleton _ _ (List.cons_ne_nil _ _)]
    rfl

/-- The handle of a name from where a walk stands. -/
theorem child_stand (e : Environment) (p : Protocol) (base : Text) {passed : List Text}
    (hpassed : ∀ name ∈ passed, ResourcePath.IsPart name) {name : Text}
    (hname : ResourcePath.IsPart name) (hadmits : p.Admits name) :
    (backendFor e p).child (p.stand base passed) name = .ok ⟨p, p.place base (passed ++ [name])⟩ := by
  unfold Protocol.stand
  by_cases hempty : passed = []
  · rw [if_pos hempty, hempty, child_base e p base hname hadmits]
    rfl
  · rw [if_neg hempty, child_place e p base hempty hpassed hname hadmits]

/-- If a name has a handle from where a walk stands, this is the one. -/
theorem eq_of_child_stand {e : Environment} {p : Protocol} {base : Text} {passed : List Text}
    (hpassed : ∀ name ∈ passed, ResourcePath.IsPart name) {name : Text}
    (hname : ResourcePath.IsPart name) {h : ResourceHandle}
    (hchild : (backendFor e p).child (p.stand base passed) name = .ok h) :
    h = ⟨p, p.place base (passed ++ [name])⟩ :=
  Except.ok.inj (hchild.symm.trans
    (child_stand e p base hpassed hname (admits_of_child hchild)))

end Locator

/-- A location ends in its last name. -/
theorem ResourceHandle.name_append_slash_append (p : Protocol) (above : Text) {last : Text}
    (hlast : ResourcePath.IsPart last) :
    (⟨p, above ++ text "/" ++ last⟩ : ResourceHandle).name = (⟨p, last⟩ : ResourceHandle).name := by
  obtain ⟨hne, -, hslash⟩ := hlast
  have htrim := Text.trimEndChar_append [] hne hslash
  rw [List.nil_append] at htrim
  have hreplace : Text.replaceChar .backslash ['/'] (text "/") = [CodePoint.ofChar '/'] := by decide
  unfold name
  dsimp only
  rw [Text.trimEndChar_append _ hne hslash, htrim, Text.replaceChar_append,
    Text.replaceChar_append, hreplace, List.append_assoc, List.singleton_append,
    Text.afterLast?_append_cons]
  rfl

/-- The last of the names that lead to a place is the name of its handle. -/
theorem ResourceHandle.name_joinWith (p : Protocol) (slashes : Nat) (names : List Text) {last : Text}
    (hlast : ResourcePath.IsPart last) :
    (⟨p, List.replicate slashes (CodePoint.ofChar '/') ++ Text.joinWith ['/'] (names ++ [last])⟩ :
      ResourceHandle).name = (⟨p, last⟩ : ResourceHandle).name := by
  by_cases hempty : names = []
  · subst hempty
    cases slashes with
    | zero => rfl
    | succ slashes =>
      rw [List.replicate_succ']
      exact name_append_slash_append p _ hlast
  · rw [Text.joinWith_append_singleton _ _ hempty, ← List.append_assoc, ← List.append_assoc]
    exact name_append_slash_append p _ hlast

/-- The last of the names that lead to a place, not encoded, is the name of its handle. -/
theorem ResourceHandle.name_place {p : Protocol} (hp : p ≠ .remote) (base : Text)
    (names : List Text) {last : Text} (hlast : ResourcePath.IsPart last) :
    (⟨p, p.place base (names ++ [last])⟩ : ResourceHandle).name =
      (⟨p, last⟩ : ResourceHandle).name := by
  cases p with
  | localPath =>
    rw [Protocol.place, ResourcePath.append, if_pos rfl, ResourcePath.render, if_neg (by simp)]
    dsimp only
    rw [← List.append_assoc]
    exact name_joinWith .localPath _ _ hlast
  | bundled =>
    rw [Protocol.place]
    by_cases hbase : base = []
    · rw [if_pos hbase]
      exact name_joinWith .bundled 0 _ hlast
    · rw [if_neg hbase]
      exact name_joinWith .bundled 0 (base :: names) hlast
  | remote => exact absurd rfl hp

/-- A plain segment is the name of its handle. -/
theorem ResourceHandle.name_of_isPlainSegment (p : Protocol) {name : Text}
    (h : isPlainSegment name = true) : (⟨p, name⟩ : ResourceHandle).name = name := by
  obtain ⟨⟨⟨hne, -, hslash⟩, -⟩, hbackslash⟩ := isPlainSegment_iff.mp h
  have htrim := Text.trimEndChar_append [] hne hslash
  rw [List.nil_append] at htrim
  unfold ResourceHandle.name
  dsimp only
  rw [htrim, Text.replaceChar_of_not_mem _ hbackslash]
  exact congrArg (Option.getD · name) (Text.afterLast?_eq_none hslash)

/-- The handle of a plain name with an extension has a name that ends in the extension, as far as the
extension has no separators and, in a URL, needs no encoding. -/
theorem Locator.suffix_name_of_child (e : Environment) {p : Protocol} {base name extension : Text}
    {h : ResourceHandle} (hname : isPlainSegment name = true)
    (hextension : ∀ c ∈ extension, c ≠ CodePoint.ofChar '/' ∧ c ≠ CodePoint.backslash)
    (hremote : p = .remote → percentEncode extension = extension)
    (hchild : (backendFor e p).child base (name ++ extension) = .ok h) : extension <:+ h.name := by
  have hplain := isPlainSegment_append hname hextension
  rw [child_base e p base (isPart_of_isPlainSegment hplain) (admits_of_child hchild)] at hchild
  cases hchild
  by_cases hp : p = .remote
  · subst hp
    have hencoded := isPlainSegment_percentEncode hplain
    have hjoined := ResourceHandle.name_joinWith .remote 0 [Text.trimEndChar '/' base]
      (isPart_of_isPlainSegment hencoded)
    have hsame : (⟨.remote, Protocol.place .remote base [name ++ extension]⟩ : ResourceHandle).name =
        percentEncode (name ++ extension) :=
      hjoined.trans (ResourceHandle.name_of_isPlainSegment .remote hencoded)
    rw [hsame, percentEncode_append, hremote rfl]
    exact List.suffix_append _ _
  · rw [← List.nil_append [name ++ extension],
      ResourceHandle.name_place hp base [] (isPart_of_isPlainSegment hplain),
      ResourceHandle.name_of_isPlainSegment p hplain]
    exact List.suffix_append _ _

end ConfigNamespace
