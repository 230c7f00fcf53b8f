import ConfigNamespace.Proofs.Lookup.CacheHistory
import ConfigNamespace.Proofs.Resource.Place

/-!
# Places that are never shared

From one base, two different lists of names never lead to the same location, under any protocol: file
paths are read back from their written form, the names on a search path are the pieces between its
slashes, and each component of a URL tells the name that it encodes. So no document that is kept for
the one list is ever given for the other.
-/

namespace ConfigNamespace

open Operation

/-- The handle that names lead to from another handle, each beneath the location of the one before. -/
def Backend.descend (b : Backend) (start : ResourceHandle) (names : List Text) :
    Except Failure ResourceHandle :=
  names.foldlM (fun above name => b.child above.location name) start

/-- Whether a segment can name a resource under every protocol: it is plain and has a form in bytes. -/
def IsAddressable (segment : Text) : Prop := isPlainSegment segment = true ∧ segment.IsScalar

instance (segment : Text) : Decidable (IsAddressable segment) := inferInstanceAs (Decidable (_ ∧ _))

/-- A name with an address may stand in a path. -/
theorem IsAddressable.isPart {name : Text} (h : IsAddressable name) : ResourcePath.IsPart name :=
  isPart_of_isPlainSegment h.1

/-- Names without surrogates are told by their codes. -/
theorem map_percentEncode_injective {names others : List Text}
    (hnames : ∀ name ∈ names, name.IsScalar) (hothers : ∀ name ∈ others, name.IsScalar)
    (h : names.map percentEncode = others.map percentEncode) : names = others := by
  induction names generalizing others with
  | nil => exact (List.map_eq_nil_iff.mp h.symm).symm
  | cons name names ih =>
    obtain ⟨other, others, rfl, hfirst, hrest⟩ := List.map_eq_cons_iff.mp h.symm
    rw [List.forall_mem_cons] at hnames hothers
    rw [percentEncode_injective hothers.1 hnames.1 hfirst, ih hnames.2 hothers.2 hrest.symm]

/-- Two lists of names lead to the same place beneath a base only if they are the same. -/
theorem Protocol.place_injective (p : Protocol) {base : Text} {names others : List Text}
    (hne : names ≠ []) (hne' : others ≠ []) (hnames : ∀ name ∈ names, IsAddressable name)
    (hothers : ∀ name ∈ others, IsAddressable name) (h : p.place base names = p.place base others) :
    names = others := by
  have hslash : ∀ name ∈ names, CodePoint.ofChar '/' ∉ name :=
    fun name hmem => (hnames name hmem).isPart.2.2
  have hslash' : ∀ name ∈ others, CodePoint.ofChar '/' ∉ name :=
    fun name hmem => (hothers name hmem).isPart.2.2
  cases p with
  | localPath =>
    have hbase := ResourcePath.wellFormed_ofText base
    have hpaths := congrArg ResourcePath.ofText h
    simp only [place, ResourcePath.ofText_render (hbase.append fun name hmem => (hnames name hmem).isPart),
      ResourcePath.ofText_render (hbase.append fun name hmem => (hothers name hmem).isPart)] at hpaths
    exact List.append_cancel_left (congrArg ResourcePath.parts hpaths)
  | bundled =>
    unfold place at h
    by_cases hbase : base = []
    · rw [if_pos hbase, if_pos hbase] at h
      exact Text.joinWith_injective hne hne' hslash hslash' h
    · rw [if_neg hbase, if_neg hbase, Text.joinWith_cons _ _ hne, Text.joinWith_cons _ _ hne'] at h
      exact Text.joinWith_injective hne hne' hslash hslash' (List.append_cancel_left h)
  | remote =>
    unfold place at h
    have hcodes : names.map percentEncode ≠ [] := by simpa using hne
    have hcodes' : others.map percentEncode ≠ [] := by simpa using hne'
    rw [Text.joinWith_cons _ _ hcodes, Text.joinWith_cons _ _ hcodes'] at h
    -- No slash is left in a code, so the components of the URL are the codes of the names.
    have hclean (names : List Text) : ∀ code ∈ names.map percentEncode, CodePoint.ofChar '/' ∉ code := by
      intro code hcode
      obtain ⟨name, -, rfl⟩ := List.mem_map.mp hcode
      exact slash_not_mem_percentEncode name
    refine map_percentEncode_injective (fun name hmem => (hnames name hmem).2)
      (fun name hmem => (hothers name hmem).2) ?_
    exact Text.joinWith_injective hcodes hcodes' (hclean names) (hclean others)
      (List.append_cancel_left h)

namespace Locator

/-- Names lead from where a walk stands to where all of them together lead. The induction is on the
names that are left, and carries that those passed may stand in paths. -/
theorem descend_stand (e : Environment) (p : Protocol) (base : Text) {passed names : List Text}
    (hpassed : ∀ name ∈ passed, ResourcePath.IsPart name)
    (hnames : ∀ name ∈ names, IsAddressable name) :
    (backendFor e p).descend ⟨p, p.stand base passed⟩ names =
      .ok ⟨p, p.stand base (passed ++ names)⟩ := by
  induction names generalizing passed with
  | nil =>
    rw [List.append_nil]
    rfl
  | cons name names ih =>
    obtain ⟨hname, hnames⟩ := List.forall_mem_cons.mp hnames
    have hstand : p.place base (passed ++ [name]) = p.stand base (passed ++ [name]) :=
      (if_neg (by simp)).symm
    have hrest := ih
      (List.forall_mem_append.mpr ⟨hpassed, List.forall_mem_singleton.mpr hname.isPart⟩) hnames
    rw [List.append_assoc, List.singleton_append] at hrest
    unfold Backend.descend at hrest ⊢
    rw [List.foldlM_cons,
      child_stand e p base hpassed hname.isPart (p.admits_of_isScalar hname.2), hstand]
    exact hrest

/-- One or more names lead from a base to the place that they name beneath it. -/
theorem descend_base (e : Environment) (p : Protocol) (base : Text) {names : List Text}
    (hne : names ≠ []) (hnames : ∀ name ∈ names, IsAddressable name) :
    (backendFor e p).descend ⟨p, base⟩ names = .ok ⟨p, p.place base names⟩ := by
  have hnone : ∀ name ∈ ([] : List Text), ResourcePath.IsPart name := nofun
  have hdown := descend_stand e p base hnone hnames
  rwa [List.nil_append, Protocol.stand, Protocol.stand, if_pos rfl, if_neg hne] at hdown

/-- Loading a document leaves what is kept under any other key alone. -/
theorem get?_load_of_ne (l : Locator) {h : ResourceHandle} {delimiter : Text} {key : CacheKey}
    (hkey : key ≠ ⟨h, delimiter⟩) (s : Session) :
    ((l.load h delimiter).outcome s).2.cache.get? key = s.cache.get? key := by
  cases hcached : s.cache.get? ⟨h, delimiter⟩ with
  | some d => rw [outcome_load_of_cached l hcached]
  | none =>
    obtain ⟨-, -, hcache⟩ := l.load_of_missing hcached
    rw [hcache]
    cases l.parsed h delimiter s with
    | ok d => exact (DocumentCache.get?_add ..).trans (if_neg hkey)
    | error failure => rfl

/-- From any base, one or more plain names with a form in bytes lead to a handle, and two different
lists of such names lead to different handles. Loading a document from the one, whoever does it and for
whatever delimiter, leaves alone what is kept for the other. -/
theorem descend_injective (e : Environment) (p : Protocol) (base : Text) {names others : List Text}
    (hne : names ≠ []) (hne' : others ≠ []) (hnames : ∀ name ∈ names, IsAddressable name)
    (hothers : ∀ name ∈ others, IsAddressable name) :
    ∃ h h', (backendFor e p).descend ⟨p, base⟩ names = .ok h ∧
      (backendFor e p).descend ⟨p, base⟩ others = .ok h' ∧ (h = h' ↔ names = others) ∧
      (names ≠ others → ∀ (l : Locator) (delimiter delimiter' : Text) (s : Session),
        ((l.load h delimiter).outcome s).2.cache.get? ⟨h', delimiter'⟩ =
          s.cache.get? ⟨h', delimiter'⟩) := by
  have hsame : (⟨p, p.place base names⟩ : ResourceHandle) = ⟨p, p.place base others⟩ ↔
      names = others := by
    refine ⟨fun heq => ?_, fun heq => by rw [heq]⟩
    exact p.place_injective hne hne' hnames hothers (congrArg ResourceHandle.location heq)
  refine ⟨_, _, descend_base e p base hne hnames, descend_base e p base hne' hothers, hsame, ?_⟩
  intro hdiffer l delimiter delimiter' s
  refine l.get?_load_of_ne (fun heq => hdiffer (hsame.mp ?_)) s
  exact (congrArg CacheKey.handle heq).symm

/-- On a server, a name with a blank and the name that is written like its code. -/
theorem descend_injective_blank :
    let e : Environment := ⟨none, text ".", .whole 10, none, text "composite", []⟩
    let names := [text "é?", text "a b"]
    let others := [text "é?", text "a%20b"]
    (∀ name ∈ names, IsAddressable name) ∧ (∀ name ∈ others, IsAddressable name) ∧
      (backendFor e .remote).descend ⟨.remote, text "http://h/c/"⟩ names =
        .ok ⟨.remote, text "http://h/c/%C3%A9%3F/a%20b"⟩ ∧
      (backendFor e .remote).descend ⟨.remote, text "http://h/c/"⟩ others =
        .ok ⟨.remote, text "http://h/c/%C3%A9%3F/a%2520b"⟩ ∧
      ∀ (l : Locator) (delimiter : Text) (s : Session),
        ((l.load ⟨.remote, text "http://h/c/%C3%A9%3F/a%20b"⟩ delimiter).outcome s).2.cache.get?
            ⟨⟨.remote, text "http://h/c/%C3%A9%3F/a%2520b"⟩, delimiter⟩ =
          s.cache.get? ⟨⟨.remote, text "http://h/c/%C3%A9%3F/a%2520b"⟩, delimiter⟩ := by
  intro e names others
  have hnames : ∀ name ∈ names, IsAddressable name := by decide
  have hothers : ∀ name ∈ others, IsAddressable name := by decide
  obtain ⟨h, h', hfirst, hsecond, -, hapart⟩ := descend_injective e .remote (text "http://h/c/")
    (List.cons_ne_nil _ _) (List.cons_ne_nil _ _) hnames hothers
  have hwritten : (backendFor e .remote).descend ⟨.remote, text "http://h/c/"⟩ names =
      .ok ⟨.remote, text "http://h/c/%C3%A9%3F/a%20b"⟩ := by rfl
  have hwritten' : (backendFor e .remote).descend ⟨.remote, text "http://h/c/"⟩ others =
      .ok ⟨.remote, text "http://h/c/%C3%A9%3F/a%2520b"⟩ := by rfl
  cases hfirst.symm.trans hwritten
  cases hsecond.symm.trans hwritten'
  exact ⟨hnames, hothers, hwritten, hwritten', fun l delimiter s => hapart (by decide) l delimiter _ s⟩

end Locator

end ConfigNamespace
