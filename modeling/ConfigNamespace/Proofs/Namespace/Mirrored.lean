import ConfigNamespace.Proofs.Lookup.TreeWalk
import ConfigNamespace.Proofs.Namespace.Scope

/-!
# Bundled and local resources agree

A directory that holds the merged tree of a search path is as good as the search path. A namespace
of the one and a namespace of the other reply alike to every key, as long as the file system answers:
both walks are walks in the same tree, and both load the same entries where they end. Only what
shows a location differs, which is the wording of failures and the identity of composites.
-/

namespace ConfigNamespace

open Operation

/-- Whether two composites are the same but for where they come from. -/
def Composite.Matches (c c' : Composite Value) : Prop :=
  c.name = c'.name ∧ c.path = c'.path ∧ c.attributes = c'.attributes

/-- Composites that match lead to replies that are alike. -/
theorem Reply.alike_of_built {built built' : Except Failure (Composite Value)}
    (h : Agree Composite.Matches built built') (v v' : View) :
    Alike Composite.Matches (ofNamed v (built.map fun c => .value (.composite c)))
      (ofNamed v' (built'.map fun c => .value (.composite c))) := by
  cases h with
  | error h => exact .fails h
  | ok h => exact .composite h

namespace World.Mirrors

variable {b b' : Backing} {w w' : World} {base : Text} {searchPath segments : List Text}

/-- A locator of bundled resources oversees the merged tree, which has directories for all bare
segments without dots. -/
theorem oversees_searchPath (h : w'.Mirrors base b.world searchPath)
    (hpath : (Locator.backendFor b.environment .bundled).searchPath b.world = searchPath)
    (hextensions : ∀ extension ∈ b.parsers.order, CodePoint.ofChar '/' ∉ extension)
    (hdots : ∀ segment ∈ segments, CodePoint.ofChar '.' ∉ segment)
    (hanswers : ∀ names, Candidate b.parsers.order segments names →
      b.world.AnswersIn searchPath names) :
    b.Oversees .bundled [] (b.world.searchNode searchPath) segments := by
  refine ⟨nofun, hextensions, fun names hcandidate hnames => ?_, ?_⟩
  · obtain ⟨passed, last, rfl⟩ := hcandidate.exists_append
    exact Locator.sees_searchPath hpath h.isSearchRoot (by simp)
      (fun name hmem => (hnames name hmem).1) (hanswers _ hcandidate)
  · rintro passed segment rest found rfl hnames hnode
    exact h.eq_directory hnames (hdots segment (by simp)) hnode

/-- A locator of local files oversees the same tree beneath the directory that holds it. -/
theorem oversees_directory (h : b.world.Mirrors base w searchPath)
    (hextensions : ∀ extension ∈ b.parsers.order, CodePoint.ofChar '/' ∉ extension)
    (hdots : ∀ segment ∈ segments, CodePoint.ofChar '.' ∉ segment)
    (hanswers : ∀ names, Candidate b.parsers.order segments names →
      b.world.look ((ResourcePath.ofText base).append ⟨0, names⟩) ≠ .tooLong) :
    b.Oversees .localPath base (w.searchNode searchPath) segments := by
  refine ⟨nofun, hextensions, fun names hcandidate hnames => ?_, ?_⟩
  · have hsees := Locator.sees_directory (fun name hmem => (hnames name hmem).1)
      (hanswers _ hcandidate)
    obtain ⟨passed, last, rfl⟩ := hcandidate.exists_append
    rwa [h.merged _ (by simp) hnames] at hsees
  · rintro passed segment rest found rfl hnames hnode
    exact h.eq_directory hnames (hdots segment (by simp)) hnode

end World.Mirrors

namespace Family

section Named

section Documents

variable {d d' : Document} (hentries : d.entries = d'.entries)
include hentries

/-- Documents with the same entries hold composites that match. -/
theorem built_agree (builder : CompositeBuilder) (converter : TypeConverter)
    (key delimiter : Text) :
    Agree Composite.Matches (builder.built converter d key delimiter)
      (builder.built converter d' key delimiter) := by
  have hsources : CompositeBuilder.sources d' key delimiter =
      CompositeBuilder.sources d key delimiter := by
    simp only [CompositeBuilder.sources, Document.under, hentries]
  unfold CompositeBuilder.built
  rw [hsources]
  split
  · exact .error rfl
  · generalize CompositeBuilder.sources d key delimiter = sources
    cases builder.attributes converter sources delimiter sources with
    | error failure => exact .error rfl
    | ok attributes => exact .ok ⟨rfl, rfl, rfl⟩

/-- Documents with the same entries hold the same values. -/
theorem documentValue_agree (converter : TypeConverter) (key remainder delimiter : Text) :
    Agree (· = ·) (documentValue converter d key remainder delimiter)
      (documentValue converter d' key remainder delimiter) := by
  have hget (key : Text) : d'.get? key = d.get? key := by
    rw [Document.get?, Document.get?, hentries]
  unfold documentValue
  rw [hget, hget]
  cases d.get? remainder with
  | none => exact .error rfl
  | some value =>
    cases d.get? (typeKey delimiter remainder) with
    | none => exact .refl _
    | some typeName =>
      cases typeName with
      | single typeName => exact .refl _
      | several typeNames => exact .error rfl

/-- Documents with the same entries hold composites under the same keys. -/
theorem isComposite_eq (builder : CompositeBuilder) (key delimiter : Text) :
    builder.isComposite d' key delimiter = builder.isComposite d key delimiter := by
  obtain ⟨handle, entries⟩ := d
  obtain ⟨handle', entries'⟩ := d'
  cases hentries
  rfl

end Documents

variable {f g : Family} (hconverter : g.converter = f.converter)
  (hmarker : g.environment.compositeMarker = f.environment.compositeMarker)
include hconverter hmarker

/-- Documents with the same entries name the same, up to where composites come from. -/
theorem meaning_alike {d d' : Document} (hentries : d.entries = d'.entries) (v v' : View)
    (key delimiter : Text) (segments rest : List Text) :
    Reply.Alike Composite.Matches
      (.ofNamed v (f.meaning d key delimiter segments rest))
      (.ofNamed v' (g.meaning d' key delimiter segments rest)) := by
  unfold meaning
  rw [hconverter, hmarker]
  dsimp only
  rw [isComposite_eq hentries]
  split
  · exact Reply.alike_of_built (built_agree hentries _ _ _ _) v v'
  · split
    · exact .makes rfl
    · exact Reply.alike_ofNamed v v' ((documentValue_agree hentries _ _ _ _).map _)

/-- What was loaded with the same entries leads to replies that are alike. -/
private theorem loaded_alike {loaded loaded' : Except Failure Document}
    (h : Agree (fun d d' => d.entries = d'.entries) loaded loaded') (v v' : View)
    (key delimiter : Text) (segments rest : List Text) :
    Reply.Alike Composite.Matches
      (.ofNamed v (loaded.bind fun d => f.meaning d key delimiter segments rest))
      (.ofNamed v' (loaded'.bind fun d => g.meaning d key delimiter segments rest)) := by
  cases h with
  | error h => exact .fails h
  | ok h => exact meaning_alike hconverter hmarker h v v' key delimiter segments rest

/-- Where two namespaces oversee the same tree, each under its own protocol and base, segments name
the same in both, up to where composites come from. Only pages have encoded names. -/
theorem find_alike {w w' : World} {v v' : View} {p p' : Protocol} {base base' key : Text}
    {node : List Text → Option Node} {segments : List Text} (hparsers : g.parsers = f.parsers)
    (hdelimiter : g.delimiterOf v' = f.delimiterOf v)
    (hroot : readRoot (f.rootOf v) = .ok (p, base))
    (hroot' : readRoot (g.rootOf v') = .ok (p', base'))
    (hsees : (f.backing w).Oversees p base node segments)
    (hsees' : (g.backing w').Oversees p' base' node segments) :
    Reply.Alike Composite.Matches (.ofNamed v (f.find w v key segments).answer)
      (.ofNamed v' (g.find w' v' key segments).answer) := by
  by_cases hne : segments = []
  · unfold find
    rw [if_pos hne, if_pos hne]
    exact .fails rfl
  have hpassed : ∀ name ∈ ([] : List Text), ResourcePath.IsName name := by simp
  have hwalk : (((f.backing w).locator p).walk (f.delimiterOf v) base segments).Tells (f.backing w)
      (.ok ((treeWalk node f.parsers.order [] segments).map (Option.map fun names =>
        ⟨p, p.place base names⟩) id)) := Locator.walk_tells hsees rfl hpassed _
  have hwalk' : (((g.backing w').locator p').walk (g.delimiterOf v') base' segments).Tells
      (g.backing w') (.ok ((treeWalk node g.parsers.order [] segments).map (Option.map fun names =>
        ⟨p', p'.place base' names⟩) id)) := Locator.walk_tells hsees' rfl hpassed _
  rw [hparsers] at hwalk'
  rcases hfound : treeWalk node f.parsers.order [] segments with ⟨_ | names, rest⟩
  all_goals rw [hfound] at hwalk hwalk'
  all_goals rw [answer_find hne hroot hwalk.answer_eq, answer_find hne hroot' hwalk'.answer_eq]
  · exact .fails rfl
  · obtain ⟨hcandidate, hnames, hnode⟩ := of_treeWalk hsees.extension rfl hpassed hfound
    obtain ⟨found, hnode⟩ := Option.isSome_iff_exists.mp hnode
    have hhere := hsees.sees names hcandidate hnames
    have hcandidate' : Candidate g.parsers.order segments names := hparsers ▸ hcandidate
    have hthere := hsees'.sees names hcandidate' hnames
    rw [hnode] at hhere hthere
    have hname : (⟨p', p'.place base' names⟩ : ResourceHandle).name =
        (⟨p, p.place base names⟩ : ResourceHandle).name := by
      obtain ⟨passed, last, rfl⟩ := hcandidate.exists_append
      have hlast := (hnames last (by simp)).1
      rw [ResourceHandle.name_place hsees.protocol_ne _ _ hlast,
        ResourceHandle.name_place hsees'.protocol_ne _ _ hlast]
      rfl
    have hload := hhere.load_agree hthere hparsers hname (f.delimiterOf v)
    rw [hdelimiter]
    exact loaded_alike hconverter hmarker hload v v' key (f.delimiterOf v) segments rest

end Named

/-- The search path of a family in a world. -/
def searchPath (f : Family) (w : World) : List Text :=
  (Locator.backendFor f.environment .bundled).searchPath w

/-- Whether two namespaces stand opposite each other: under the same parsers, converters and marker,
the one starts at all bundled resources, and the other from the same segments beneath a directory
that mirrors them. Both cut keys at dots. -/
structure Opposite (w : World) (f : Family) (v : View) (w' : World) (g : Family) (v' : View)
    (base : Text) : Prop where
  /-- The parsers are the same. -/
  parsers_eq : g.parsers = f.parsers
  /-- The converters are the same. -/
  converter_eq : g.converter = f.converter
  /-- The marker of composites is the same. -/
  marker_eq : g.environment.compositeMarker = f.environment.compositeMarker
  /-- The one starts at all bundled resources. -/
  bundled : readRoot (f.rootOf v) = .ok (.bundled, [])
  /-- The other starts at a directory. -/
  localPath : readRoot (g.rootOf v') = .ok (.localPath, base)
  /-- The directory holds the merged tree of the search path. -/
  mirrors : w'.Mirrors base w (f.searchPath w)
  /-- The one cuts keys at dots. -/
  delimiter_eq : f.delimiterOf v = text "."
  /-- So does the other. -/
  delimiter_eq' : g.delimiterOf v' = text "."
  /-- Both start from the same segments. -/
  segments_eq : v'.segments = v.segments
  /-- These were cut at dots, too. -/
  undotted : ∀ segment ∈ v.segments, CodePoint.ofChar '.' ∉ segment
  /-- Both are open, or both are closed. -/
  closed_eq : v'.closed = v.closed

/-- Whether the file systems answer wherever two opposite namespaces may look for a key. -/
def Answers (w : World) (f : Family) (v : View) (w' : World) (base key : Text) : Prop :=
  ∀ segments names, segmentsOf (text ".") key = .ok segments →
    Candidate f.parsers.order (v.segments ++ segments) names →
      w.AnswersIn (f.searchPath w) names ∧
        w'.look ((ResourcePath.ofText base).append ⟨0, names⟩) ≠ .tooLong

/-- The family of the twofold world that is opened for a root. -/
def twofold (root : Option Text) (parsers : ParserRegistry) : Family :=
  opened (.at root [text "z.zip"]) parsers

/-- The namespaces of bundled resources and of the directory stand opposite in the twofold world. -/
theorem opposite_twofold (parsers : ParserRegistry) :
    Opposite .twofold (twofold none parsers) ((twofold none parsers).view 0) .twofold
      (twofold (some (text "M")) parsers) ((twofold (some (text "M")) parsers).view 0) (text "M") :=
  ⟨rfl, rfl, rfl, rfl, rfl, World.mirrors_twofold, rfl, rfl, rfl, by simp [twofold, opened, view], rfl⟩

/-- The candidates for two segments and one extension. -/
private def pairCandidates (extension first second : Text) : List (List Text) :=
  [[first], [first, second], [first ++ extension], [first, second ++ extension],
    [defaultDocument ++ extension], [first, defaultDocument ++ extension],
    [first, second, defaultDocument ++ extension]]

private theorem mem_pairCandidates {extension first second : Text} {names : List Text}
    (h : Candidate [extension] [first, second] names) :
    names ∈ pairCandidates extension first second := by
  unfold pairCandidates
  cases h with
  | @bare passed rest segment h =>
    rcases passed with _ | ⟨a, _ | ⟨b, passed⟩⟩ <;> simp at h <;> simp [h]
  | @document passed rest segment extension h hextension =>
    obtain rfl := List.mem_singleton.mp hextension
    rcases passed with _ | ⟨a, _ | ⟨b, passed⟩⟩ <;> simp at h <;> simp [h]
  | @default passed rest extension h hextension =>
    obtain rfl := List.mem_singleton.mp hextension
    rcases passed with _ | ⟨a, _ | ⟨b, _ | ⟨c, passed⟩⟩⟩ <;> simp at h <;> simp [h]

/-- The file system of the twofold world answers for a key of two segments if it does beneath the
directory. No other directory is searched. -/
private theorem answers_twofold {parsers : ParserRegistry} {extension first second key : Text}
    (horder : parsers.order = [extension])
    (hsegments : segmentsOf (text ".") key = .ok [first, second])
    (hlook : ∀ names ∈ pairCandidates extension first second,
      World.twofold.look ((ResourcePath.ofText (text "M")).append ⟨0, names⟩) ≠ .tooLong) :
    Answers .twofold (twofold none parsers) ((twofold none parsers).view 0) .twofold (text "M")
      key := by
  intro segments names hsegments' hcandidate
  rw [hsegments, Except.ok.injEq] at hsegments'
  subst hsegments'
  have hparsers : (twofold none parsers).parsers.order = [extension] := horder
  rw [hparsers] at hcandidate
  refine ⟨fun entry hentry entries hdirectory => ?_, hlook names (mem_pairCandidates hcandidate)⟩
  rw [List.mem_singleton.mp hentry] at hdirectory
  cases hdirectory

/-- A closed namespace fails whatever is sought in it. -/
theorem answer_seek_of_closed {f : Family} {w : World} {v : View} (h : v.closed = true)
    (key : Value) : (f.seek w v key).answer = .error .closed := by
  unfold seek
  rw [if_pos h]
  rfl

/-- The segments of a key that is cut at dots have none. -/
theorem dot_not_mem_of_segmentsOf {key segment : Text} {segments : List Text}
    (h : segmentsOf (text ".") key = .ok segments) (hsegment : segment ∈ segments) :
    CodePoint.ofChar '.' ∉ segment := by
  rw [segmentsOf_eq (by decide), Except.ok.injEq] at h
  subst h
  intro hmem
  exact (Text.mem_of_mem_pieces (List.mem_filter.mp hsegment).1 hmem).2 rfl

/-- The segments of a key name the same in opposite namespaces, because both oversee the merged
tree. -/
private theorem find_alike_of_opposite {w w' : World} {f g : Family} {v v' : View}
    {base key : Text} {segments : List Text} (h : Opposite w f v w' g v' base)
    (hextensions : ∀ extension ∈ f.parsers.order, CodePoint.ofChar '/' ∉ extension)
    (hanswers : Answers w f v w' base key)
    (hsegments : segmentsOf (text ".") key = .ok segments) :
    Reply.Alike Composite.Matches
      (.ofNamed v (f.find w v key (v.segments ++ segments)).answer)
      (.ofNamed v' (g.find w' v' key (v.segments ++ segments)).answer) := by
  have hdots : ∀ segment ∈ v.segments ++ segments, CodePoint.ofChar '.' ∉ segment :=
    List.forall_mem_append.mpr ⟨h.undotted, fun _ hmem => dot_not_mem_of_segmentsOf hsegments hmem⟩
  have hsees : (f.backing w).Oversees .bundled [] (w.searchNode (f.searchPath w))
      (v.segments ++ segments) :=
    h.mirrors.oversees_searchPath rfl hextensions hdots
      fun names hcandidate => (hanswers segments names hsegments hcandidate).1
  have hsees' : (g.backing w').Oversees .localPath base (w.searchNode (f.searchPath w))
      (v.segments ++ segments) := by
    have hparsers : (g.backing w').parsers = f.parsers := h.parsers_eq
    refine h.mirrors.oversees_directory ?_ hdots ?_ <;> rw [hparsers]
    · exact hextensions
    · exact fun names hcandidate => (hanswers segments names hsegments hcandidate).2
  exact find_alike h.converter_eq h.marker_eq h.parsers_eq
    (h.delimiter_eq'.trans h.delimiter_eq.symm) h.bundled h.localPath hsees hsees'

/-- Bundled resources and a directory that mirrors them are alike, where no slash is in an extension.
Whatever was done to the families before, a key that neither of two opposite namespaces has an
entry for is replied to in the same way in both: with the same value, with composites that match,
with namespaces that start from the same segments, or with failures of the same kind. -/
theorem lookup_alike_of_opposite {w w' : World} {f g : Family} {number number' : Nat}
    {base key : Text} (hf : Reachable w f) (hg : Reachable w' g)
    (h : Opposite w f (f.view number) w' g (g.view number') base)
    (hextensions : ∀ extension ∈ f.parsers.order, CodePoint.ofChar '/' ∉ extension)
    (hanswers : Answers w f (f.view number) w' base key)
    (hunbound : (f.view number).entries.get? key = none)
    (hunbound' : (g.view number').entries.get? key = none) (hreserved : key ∉ reservedKeys) :
    Reply.Alike Composite.Matches (reply (lookup w number (.str key)) f)
      (reply (lookup w' number' (.str key)) g) := by
  rw [reply_lookup hf.faithful, reply_lookup hg.faithful]
  generalize f.view number = v at *
  generalize g.view number' = v' at *
  obtain ⟨segments, hsegments⟩ : ∃ segments, segmentsOf (text ".") key = .ok segments :=
    ⟨_, segmentsOf_eq (by decide) key⟩
  have hhere : segmentsOf (f.delimiterOf v) key = .ok segments := by
    rw [h.delimiter_eq, hsegments]
  have hthere : segmentsOf (g.delimiterOf v') key = .ok segments := by
    rw [h.delimiter_eq', hsegments]
  cases hclosed : v.closed with
  | true =>
    have hclosed' : v'.closed = true := h.closed_eq.trans hclosed
    rw [answer_seek_of_closed hclosed, answer_seek_of_closed hclosed']
    exact .fails rfl
  | false =>
    have hclosed' : v'.closed = false := h.closed_eq.trans hclosed
    by_cases hkey : key = []
    · subst hkey
      unfold seek
      rw [if_neg (by simp [hclosed]), if_neg (by simp [hclosed'])]
      dsimp only
      rw [hhere, hthere]
      exact .makes (congrArg (· ++ segments) h.segments_eq.symm)
    · rw [seek_eq_findKey hclosed hkey hunbound hreserved,
        seek_eq_findKey hclosed' hkey hunbound' hreserved, findKey_eq_find hhere,
        findKey_eq_find hthere, h.segments_eq]
      exact find_alike_of_opposite h hextensions hanswers hsegments

/-- Both namespaces of the twofold world give the value that the document holds. -/
theorem lookup_twofold_alike :
    let parsers : ParserRegistry := ⟨[(text ".ini", .sections .utf8)], [text ".ini"], .properties .utf8⟩
    Reply.Alike Composite.Matches
      (reply (lookup .twofold 0 (.str (text "app.k"))) (twofold none parsers))
      (reply (lookup .twofold 0 (.str (text "app.k"))) (twofold (some (text "M")) parsers)) := by
  intro parsers
  have hanswers : Answers .twofold (twofold none parsers) ((twofold none parsers).view 0) .twofold
      (text "M") (text "app.k") := answers_twofold rfl rfl (by decide)
  exact lookup_alike_of_opposite (reachable_opened _ _ _) (reachable_opened _ _ _)
    (opposite_twofold parsers) (by decide) hanswers rfl rfl (by decide)

/-- A slash in an extension can tell them apart: a file path passes over a single dot, which a name
in an archive does not. -/
theorem not_lookup_alike_of_slash :
    let parsers : ParserRegistry :=
      ⟨[(text ".ini/.", .sections .utf8)], [text ".ini/."], .properties .utf8⟩
    let f := twofold none parsers
    let g := twofold (some (text "M")) parsers
    Reachable .twofold f ∧ Reachable .twofold g ∧
      Opposite .twofold f (f.view 0) .twofold g (g.view 0) (text "M") ∧
      Answers .twofold f (f.view 0) .twofold (text "M") (text "app.k") ∧
      (f.view 0).entries.get? (text "app.k") = none ∧
      (g.view 0).entries.get? (text "app.k") = none ∧ text "app.k" ∉ reservedKeys ∧
      ¬Reply.Alike Composite.Matches (reply (lookup .twofold 0 (.str (text "app.k"))) f)
        (reply (lookup .twofold 0 (.str (text "app.k"))) g) := by
  intro parsers f g
  have hbundled : reply (lookup .twofold 0 (.str (text "app.k"))) f =
      .fails (.notConfigured (text "app.k")) := rfl
  have hlocal : reply (lookup .twofold 0 (.str (text "app.k"))) g = .gives (.str (text "1")) := rfl
  refine ⟨reachable_opened _ _ _, reachable_opened _ _ _, opposite_twofold parsers,
    answers_twofold rfl rfl (by decide), rfl, rfl, by decide, ?_⟩
  rw [hbundled, hlocal]
  intro halike
  cases halike

end Family

end ConfigNamespace
