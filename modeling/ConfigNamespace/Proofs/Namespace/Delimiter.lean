import ConfigNamespace.Proofs.Format.Structured
import ConfigNamespace.Proofs.Lookup.CacheHistory
import ConfigNamespace.Proofs.Namespace.Attributes
import ConfigNamespace.Proofs.Namespace.History

/-!
# Two delimiters

A document with a structure may be read for one delimiter or for another. If neither occurs in its
names, it makes no difference which one joins them: under a key that is joined alike, both readings
name the same, and only the delimiter within the names of composites tells them apart. The cache keeps
the two readings side by side.
-/

namespace ConfigNamespace

open Operation

/-- The identity of the composite at a path of a document. -/
def Composite.identityAt (location path : Text) : Text :=
  if path = [] then location else location ++ text "#" ++ path

/-- Whether two composites of a document are the same but for the delimiter: where the names of the
first have the old one, those of the second have the new one. -/
structure Composite.Respelled (old new : CodePoint) (location : Text) (c c' : Composite Value) :
    Prop where
  /-- The name is a single segment. -/
  name_eq : c'.name = c.name
  /-- The path. -/
  path_eq : c'.path = Text.replaceChar old [new] c.path
  /-- The identity of the first composite is its path in the document. -/
  identity_eq : c.identity = identityAt location c.path
  /-- The identity of the second composite is its path in the document. -/
  identity_eq' : c'.identity = identityAt location c'.path
  /-- The attributes have the same values in the same order. -/
  attributes_eq : c'.attributes = Keyed.mapKeys (Text.replaceChar old [new]) c.attributes

/-- Whether two keys of a document name the same but for the delimiter. A composite that the document
makes is respelled, and all else is the same. -/
inductive Named.Respelled (old new : CodePoint) (location : Text) :
    (made : Bool) → Named → Named → Prop
  /-- Composites that are the same but for the delimiter. -/
  | composite {c c' : Composite Value} (h : c.Respelled old new location c') :
    Respelled old new location true (.value (.composite c)) (.value (.composite c'))
  /-- The same value or the same place. -/
  | same (named : Named) : Respelled old new location false named named

/-- Whether a document makes a composite of what it has under segments. -/
def Family.makesComposite (f : Family) (d : Document) (delimiter : Text) (rest : List Text) : Bool :=
  CompositeBuilder.isComposite ⟨f.environment.compositeMarker⟩ d (joinKey delimiter rest) delimiter

section Exchange

variable {σ : CodePoint → CodePoint} {d : Document} {b : CompositeBuilder}

/-- A type key is respelled like its parts. -/
theorem typeKey_map (htype : typeSegment.map σ = typeSegment) (delimiter key : Text) :
    typeKey (delimiter.map σ) (key.map σ) = (typeKey delimiter key).map σ := by
  simp only [typeKey, List.map_append, htype]

/-- The type of a value is what it was. -/
theorem Document.get?_typeKey_mapKeys (hσ : Function.Injective σ)
    (htype : typeSegment.map σ = typeSegment) (delimiter key : Text) :
    (d.mapKeys (List.map σ)).get? (typeKey (delimiter.map σ) (key.map σ)) =
      d.get? (typeKey delimiter key) := by
  rw [typeKey_map htype, Document.get?_mapKeys hσ]

namespace CompositeBuilder

/-- A key stands for a composite if it did before. -/
theorem isComposite_mapKeys (hσ : Function.Injective σ) (htype : typeSegment.map σ = typeSegment)
    (hflag : compositeFlag.map σ = compositeFlag) (key delimiter : Text) :
    b.isComposite (d.mapKeys (List.map σ)) (key.map σ) (delimiter.map σ) =
      b.isComposite d key delimiter := by
  have hflagged := Document.get?_mapKeys (d := d) hσ compositeFlag
  rw [hflag] at hflagged
  unfold isComposite Document.has
  rw [Document.get?_typeKey_mapKeys hσ htype, hflagged, Document.get?_mapKeys hσ,
    Document.under_mapKeys hσ]
  simp only [ne_eq, List.map_eq_nil_iff, Keyed.mapKeys, List.isEmpty_map]

/-- The entries that become attributes are those that did before. -/
theorem sources_mapKeys (hσ : Function.Injective σ) (hflag : compositeFlag.map σ = compositeFlag)
    (key delimiter : Text) :
    sources (d.mapKeys (List.map σ)) (key.map σ) (delimiter.map σ) =
      Keyed.mapKeys (List.map σ) (sources d key delimiter) := by
  unfold sources
  dsimp only
  rw [Document.under_mapKeys hσ]
  by_cases hkey : key = []
  · have hremove := Keyed.remove_mapKeys (List.map_injective_iff.mpr hσ) (d.under key delimiter)
      compositeFlag
    rw [hflag] at hremove
    rw [if_pos hkey, if_pos (by rw [hkey]; rfl), hremove]
  · rw [if_neg hkey, if_neg (by simpa using hkey)]

/-- The attributes have the values that they had. -/
theorem attributes_mapKeys (hσ : Function.Injective σ) (htype : typeSegment.map σ = typeSegment)
    (converter : TypeConverter) (delimiter : Text) (entries rest : Keyed DocumentValue) :
    b.attributes converter (Keyed.mapKeys (List.map σ) entries) (delimiter.map σ)
        (Keyed.mapKeys (List.map σ) rest) =
      (b.attributes converter entries delimiter rest).map (Keyed.mapKeys (List.map σ)) := by
  induction rest with
  | nil => rfl
  | cons entry rest ih =>
    obtain ⟨name, value⟩ := entry
    have hattribute : b.attributeOf converter (Keyed.mapKeys (List.map σ) entries) (delimiter.map σ)
        (name.map σ) value = b.attributeOf converter entries delimiter name value := by
      unfold attributeOf
      rw [typeKey_map htype, Keyed.get?_mapKeys (List.map_injective_iff.mpr hσ)]
    rw [Keyed.mapKeys_cons, attributes, attributes, hattribute, ih]
    cases b.attributeOf converter entries delimiter name value with
    | error failure => rfl
    | ok v => cases b.attributes converter entries delimiter rest <;> rfl

end CompositeBuilder

end Exchange

section Delimiters

variable {c₁ c₂ : CodePoint} {d : Document}

/-- Keys in which the second of two characters does not occur have the first one replaced when the
two are swapped. -/
theorem Keyed.mapKeys_swap {α : Type} {entries : Keyed α}
    (h : ∀ entry ∈ entries, c₂ ∈ entry.1 → c₁ = c₂) :
    mapKeys (List.map (Equiv.swap c₁ c₂)) entries = mapKeys (Text.replaceChar c₁ [c₂]) entries :=
  mapKeys_congr fun entry hentry => Text.map_swap_eq_replaceChar (h entry hentry)

/-- Whether a document that is read for one delimiter can be read for another one: the other one does
not occur in its keys. -/
def Document.Admits (d : Document) (old new : CodePoint) : Prop :=
  ∀ entry ∈ d.entries, new ∈ entry.1 → old = new

/-- What lies below a path does not hold the new delimiter either. -/
theorem Document.Admits.under (h : d.Admits c₁ c₂) (path delimiter : Text) :
    ∀ entry ∈ d.under path delimiter, c₂ ∈ entry.1 → c₁ = c₂ := by
  intro entry hentry hc₂
  unfold Document.under at hentry
  split at hentry
  · exact h entry hentry hc₂
  · obtain ⟨whole, hwhole, hdrop⟩ := List.mem_filterMap.mp hentry
    obtain ⟨rest, hrest, rfl⟩ := Option.map_eq_some_iff.mp hdrop
    refine h whole hwhole ?_
    rw [Text.dropStart?_eq_some_iff.mp hrest]
    exact List.mem_append_right _ hc₂

/-- The names of attributes do not hold the new delimiter either. -/
theorem Document.Admits.attributes (h : d.Admits c₁ c₂) {b : CompositeBuilder}
    {converter : TypeConverter} {key delimiter : Text} {attributes : Keyed Value}
    (hattributes : b.attributes converter (CompositeBuilder.sources d key delimiter) delimiter
      (CompositeBuilder.sources d key delimiter) = .ok attributes) :
    ∀ attr ∈ attributes, c₂ ∈ attr.1 → c₁ = c₂ := by
  intro attr hattr
  have hname : attr.1 ∈ Keyed.keys (CompositeBuilder.sources d key delimiter) :=
    (CompositeBuilder.attributes_eq_ok hattributes).1 ▸ List.mem_map_of_mem hattr
  obtain ⟨entry, hentry, heq⟩ := List.mem_map.mp hname
  rw [← heq]
  refine h.under key delimiter entry ?_
  unfold CompositeBuilder.sources at hentry
  dsimp only at hentry
  split at hentry
  · exact List.mem_of_mem_filter hentry
  · exact hentry

/-- What is read under joined segments ends in the last of them. -/
theorem CompositeBuilder.lastSegment_joinKey {c : CodePoint} {segments : List Text}
    (h : ∀ segment ∈ segments, c ∉ segment) :
    lastSegment [c] (joinKey [c] segments) = segments.getLastD [] :=
  Text.afterLast?_joinWith h

variable {rest : List Text}

/-- The composites that two readings of a document make under segments are the same but for the
delimiter. -/
theorem CompositeBuilder.built_respelled (b : CompositeBuilder) (converter : TypeConverter)
    (hd : d.Admits c₁ c₂) (hwords : FreeOf c₁ c₂ [typeSegment, compositeFlag])
    (hrest : FreeOf c₁ c₂ rest) :
    Paired (Composite.Respelled c₁ c₂ d.handle.location)
      (b.built converter d (joinKey [c₁] rest) [c₁])
      (b.built converter (d.mapKeys (List.map (Equiv.swap c₁ c₂))) (joinKey [c₂] rest) [c₂]) := by
  have hσ := (Equiv.swap c₁ c₂).injective
  have htype := hwords.map_swap typeSegment (by simp)
  have hflag := hwords.map_swap compositeFlag (by simp)
  have hdelimiter : [c₂] = [c₁].map (Equiv.swap c₁ c₂) := by simp
  have hname : lastSegment [c₂] (joinKey [c₂] rest) = lastSegment [c₁] (joinKey [c₁] rest) := by
    rw [lastSegment_joinKey fun segment hmem => (hrest segment hmem).2,
      lastSegment_joinKey fun segment hmem => (hrest segment hmem).1]
  have hjoin : joinKey [c₂] rest = (joinKey [c₁] rest).map (Equiv.swap c₁ c₂) := joinKey_swap hrest
  have hattributes := attributes_mapKeys (b := b) hσ htype converter [c₁]
    (sources d (joinKey [c₁] rest) [c₁]) (sources d (joinKey [c₁] rest) [c₁])
  rw [← sources_mapKeys hσ hflag, ← hjoin, ← hdelimiter] at hattributes
  have hseparator (key : Text) (c : CodePoint) : ¬(key ≠ [] && [c] = []) = true := by simp
  unfold built
  rw [if_neg (hseparator _ c₁), if_neg (hseparator _ c₂), hattributes]
  cases hown : b.attributes converter (sources d (joinKey [c₁] rest) [c₁]) [c₁]
    (sources d (joinKey [c₁] rest) [c₁]) with
  | error failure => exact .error failure
  | ok attributes =>
    refine .ok ⟨hname, ?_, rfl, rfl, Keyed.mapKeys_swap (hd.attributes hown)⟩
    refine hjoin.trans (Text.map_swap_eq_replaceChar fun hc₂ => ?_)
    rcases Text.mem_of_mem_joinWith hc₂ with hdelimiter | ⟨segment, hsegment, hc₂⟩
    · exact (List.mem_singleton.mp hdelimiter).symm
    · exact absurd hc₂ (hrest segment hsegment).2

namespace Family

/-- The values that two readings of a document hold under segments are the same, and have the same
type. -/
theorem documentValue_respelled (converter : TypeConverter)
    (hwords : FreeOf c₁ c₂ [typeSegment, compositeFlag]) (hrest : FreeOf c₁ c₂ rest)
    (key₁ key₂ : Text) :
    Agree (· = ·) (documentValue converter d key₁ (joinKey [c₁] rest) [c₁])
      (documentValue converter (d.mapKeys (List.map (Equiv.swap c₁ c₂))) key₂ (joinKey [c₂] rest)
        [c₂]) := by
  have hσ := (Equiv.swap c₁ c₂).injective
  have hdelimiter : [c₂] = [c₁].map (Equiv.swap c₁ c₂) := by simp
  have hvalue := Document.get?_mapKeys (d := d) hσ (joinKey [c₁] rest)
  have htype := Document.get?_typeKey_mapKeys (d := d) hσ (hwords.map_swap typeSegment (by simp))
    [c₁] (joinKey [c₁] rest)
  rw [← joinKey_swap hrest] at hvalue htype
  rw [← hdelimiter] at htype
  unfold documentValue
  rw [hvalue, htype]
  cases d.get? (joinKey [c₁] rest) with
  | none => exact .error rfl
  | some value =>
    rcases d.get? (typeKey [c₁] (joinKey [c₁] rest)) with _ | (typeName | typeNames)
    · exact .ok rfl
    · exact .refl _
    · exact .error rfl

/-- Two readings of a document make a composite of the same segments. -/
theorem makesComposite_swap (f : Family) (d : Document)
    (hwords : FreeOf c₁ c₂ [typeSegment, compositeFlag]) (hrest : FreeOf c₁ c₂ rest) :
    f.makesComposite (d.mapKeys (List.map (Equiv.swap c₁ c₂))) [c₂] rest =
      f.makesComposite d [c₁] rest := by
  have hdelimiter : [c₂] = [c₁].map (Equiv.swap c₁ c₂) := by simp
  unfold makesComposite
  rw [joinKey_swap hrest, hdelimiter]
  exact CompositeBuilder.isComposite_mapKeys (Equiv.swap c₁ c₂).injective
    (hwords.map_swap typeSegment (by simp)) (hwords.map_swap compositeFlag (by simp)) _ _

/-- Two readings of a document name the same under segments but for the delimiter, or fail in the same
way. -/
theorem meaning_respelled (f : Family) (hd : d.Admits c₁ c₂)
    (hwords : FreeOf c₁ c₂ [typeSegment, compositeFlag]) (hrest : FreeOf c₁ c₂ rest)
    (key₁ key₂ : Text) (segments : List Text) :
    Agree (Named.Respelled c₁ c₂ d.handle.location (f.makesComposite d [c₁] rest))
      (f.meaning d key₁ [c₁] segments rest)
      (f.meaning (d.mapKeys (List.map (Equiv.swap c₁ c₂))) key₂ [c₂] segments rest) := by
  have hmade := makesComposite_swap f d hwords hrest
  unfold makesComposite at hmade
  unfold meaning makesComposite
  dsimp only
  rw [hmade]
  cases CompositeBuilder.isComposite _ d (joinKey [c₁] rest) [c₁] with
  | true =>
    have hbuilt := CompositeBuilder.built_respelled ⟨f.environment.compositeMarker⟩ f.converter hd
      hwords hrest
    generalize CompositeBuilder.built _ _ d _ _ = built at hbuilt
    generalize CompositeBuilder.built _ _ _ _ _ = built' at hbuilt
    cases hbuilt with
    | ok h => exact .ok (.composite h)
    | error failure => exact .error rfl
  | false =>
    rw [if_neg Bool.false_ne_true, if_neg Bool.false_ne_true]
    split
    · exact .ok (.same _)
    · have hvalue := documentValue_respelled f.converter (d := d) hwords hrest key₁ key₂
      generalize documentValue f.converter d _ _ _ = found at hvalue
      generalize documentValue f.converter _ _ _ _ = found' at hvalue
      cases hvalue with
      | ok h =>
        cases h
        exact .ok (.same _)
      | error h => exact .error h

/-- What a document names does not depend on the session. -/
theorem outcome_named_fst (f : Family) (d : Document) (key delimiter : Text)
    (segments rest : List Text) (s : Session) :
    ((f.named d key delimiter segments rest).outcome s).1 =
      f.meaning d key delimiter segments rest := by
  unfold named meaning
  dsimp only
  split
  · have hbuild := CompositeBuilder.outcome_build ⟨f.environment.compositeMarker⟩ f.converter d
      (joinKey delimiter rest) delimiter s.log
    rw [outcome_bind]
    simp only [Session.onLog, outcome_onPart, hbuild]
    cases CompositeBuilder.built ⟨f.environment.compositeMarker⟩ f.converter d
      (joinKey delimiter rest) delimiter <;> rfl
  · split
    · rfl
    · cases documentValue f.converter d key (joinKey delimiter rest) delimiter <;> rfl

end Family

end Delimiters

/-- A document that was loaded is kept, and documents that were kept before are kept. -/
theorem Locator.kept_of_load {l : Locator} {h : ResourceHandle} {delimiter : Text} {d : Document}
    {s t : Session} (hload : (l.load h delimiter).outcome s = (.ok d, t)) :
    t.cache.get? ⟨h, delimiter⟩ = some d ∧
      ∀ key d', s.cache.get? key = some d' → t.cache.get? key = some d' := by
  cases hkept : s.cache.get? ⟨h, delimiter⟩ with
  | some kept =>
    rw [outcome_load_of_cached l hkept] at hload
    cases hload
    exact ⟨hkept, fun _ _ => id⟩
  | none =>
    obtain ⟨hresult, -, hcache⟩ := load_of_missing l hkept
    rw [hload] at hresult hcache
    rw [← hresult] at hcache
    dsimp only at hcache
    refine ⟨by rw [hcache, DocumentCache.get?_add, if_pos rfl], fun key d' hd' => ?_⟩
    have hother : key ≠ ⟨h, delimiter⟩ := by
      rintro rfl
      rw [hkept] at hd'
      cases hd'
    rw [hcache, DocumentCache.get?_add, if_neg hother, hd']

namespace StructuredFormat

/-- Two delimiters that occur in no name of a document make the same of it. Parsing for the second
gives what parsing for the first gives, with the one replaced by the other in the keys, and fails as it
fails. The mappings make documents, and where the delimiters do not occur in the two words that stand
for themselves in keys either, these name the same under segments without the delimiters: the same
value, composites that are the same but for the delimiter, or failures of the same kind. A cache that
holds both gives each where it is loaded, and it holds both once both are loaded. -/
theorem parse_two_delimiters (format : StructuredFormat) (content : List UInt8)
    {c₁ c₂ : CodePoint} (hnames : FreeOf c₁ c₂ (format.names content)) :
    format.parser.parse [c₂] content =
        (format.parser.parse [c₁] content).map (Keyed.mapKeys (Text.replaceChar c₁ [c₂])) ∧
      ∀ raw, format.parser.parse [c₁] content = .ok raw → ∀ h : ResourceHandle, ∃ d₁ d₂,
        Document.ofRaw h raw = .ok d₁ ∧
        Document.ofRaw h (Keyed.mapKeys (Text.replaceChar c₁ [c₂]) raw) = .ok d₂ ∧
        (FreeOf c₁ c₂ [typeSegment, compositeFlag] →
          ∀ (f : Family) (key₁ key₂ : Text) (segments rest : List Text) (s : Session),
            FreeOf c₁ c₂ rest →
            f.makesComposite d₂ [c₂] rest = f.makesComposite d₁ [c₁] rest ∧
              Agree (Named.Respelled c₁ c₂ h.location (f.makesComposite d₁ [c₁] rest))
                ((f.named d₁ key₁ [c₁] segments rest).outcome s).1
                ((f.named d₂ key₂ [c₂] segments rest).outcome s).1) ∧
        ∀ (l : Locator) (s : Session),
          (s.cache.get? ⟨h, [c₁]⟩ = some d₁ → s.cache.get? ⟨h, [c₂]⟩ = some d₂ →
            (l.load h [c₁]).outcome s = (.ok d₁, s) ∧ (l.load h [c₂]).outcome s = (.ok d₂, s)) ∧
          ∀ t u, (l.load h [c₁]).outcome s = (.ok d₁, t) → (l.load h [c₂]).outcome t = (.ok d₂, u) →
            u.cache.get? ⟨h, [c₁]⟩ = some d₁ ∧ u.cache.get? ⟨h, [c₂]⟩ = some d₂ := by
  have hinjective : Function.Injective (List.map (Equiv.swap c₁ c₂)) :=
    List.map_injective_iff.mpr (Equiv.swap c₁ c₂).injective
  obtain ⟨hswap, hfree⟩ := (format.isPlaced_declarations content).swap hnames
  -- The keys of the grouped declarations are declared, so that they do not hold the second delimiter.
  have hkeys (declarations : List (Text × Text))
      (hdeclared : format.declarations content [c₁] = .ok declarations) :
      ∀ entry ∈ groupDeclarations declarations, c₂ ∈ entry.1 → c₁ = c₂ := by
    intro entry hentry hc₂
    obtain ⟨declaration, hdeclaration, heq⟩ := mem_declarations_of_grouped hentry
    exact hfree declarations hdeclared declaration hdeclaration (heq ▸ hc₂)
  have hraw (declarations : List (Text × Text))
      (hdeclared : format.declarations content [c₁] = .ok declarations) :
      RawMapping.ofGrouped
          (groupDeclarations (Keyed.mapKeys (List.map (Equiv.swap c₁ c₂)) declarations)) =
        Keyed.mapKeys (Text.replaceChar c₁ [c₂])
          (RawMapping.ofGrouped (groupDeclarations declarations)) := by
    rw [groupDeclarations_mapKeys hinjective, Keyed.mapKeys_swap (hkeys declarations hdeclared),
      RawMapping.ofGrouped_mapKeys]
  rw [parse_eq, parse_eq, hswap]
  cases hdeclared : format.declarations content [c₁] with
  | error failure =>
    exact ⟨rfl, fun raw hparse => by cases hparse⟩
  | ok declarations =>
    refine ⟨congrArg Except.ok (hraw declarations hdeclared), fun raw hparse h => ?_⟩
    obtain rfl : RawMapping.ofGrouped (groupDeclarations declarations) = raw := Except.ok.inj hparse
    let d₁ : Document := ⟨h, groupDeclarations declarations⟩
    have hadmits : d₁.Admits c₁ c₂ := hkeys declarations hdeclared
    refine ⟨d₁, d₁.mapKeys (List.map (Equiv.swap c₁ c₂)), Document.ofRaw_ofGrouped h _, ?_, ?_, ?_⟩
    · rw [← hraw declarations hdeclared, Document.ofRaw_ofGrouped, groupDeclarations_mapKeys hinjective]
      rfl
    · intro hwords f key₁ key₂ segments rest s hrest
      rw [Family.outcome_named_fst, Family.outcome_named_fst]
      exact ⟨f.makesComposite_swap d₁ hwords hrest,
        f.meaning_respelled hadmits hwords hrest key₁ key₂ segments⟩
    · intro l s
      refine ⟨fun h₁ h₂ => ⟨l.outcome_load_of_cached h₁, l.outcome_load_of_cached h₂⟩, ?_⟩
      intro t u h₁ h₂
      exact ⟨(Locator.kept_of_load h₂).2 _ _ (Locator.kept_of_load h₁).1, (Locator.kept_of_load h₂).1⟩

/-- Read for a point and for a slash, a document makes a composite. -/
theorem parse_two_delimiters_composite :
    let h : ResourceHandle := ⟨.localPath, text "M/a.xml"⟩
    let f := Family.opened (.at (some (text "M")) []) .default
    FreeOf '.' '/' (markup.names (text "<r><d type='composite' u='1'/></r>").utf8) ∧
      markup.parser.parse (text "/") (text "<r><d type='composite' u='1'/></r>").utf8 = .ok
        [(text "r/d/type", .str (text "composite")), (text "r/d/u", .str (text "1"))] ∧
      ∃ d, Document.ofRaw h
          [(text "r/d/type", .str (text "composite")), (text "r/d/u", .str (text "1"))] = .ok d ∧
        Agree (Named.Respelled '.' '/' (text "M/a.xml") true)
          (.ok (.value (.composite ⟨text "d", text "r.d", text "M/a.xml#r.d",
            [(text "type", .str (text "composite")), (text "u", .str (text "1"))]⟩)))
          ((f.named d (text "a/r/d") (text "/") [] [text "r", text "d"]).outcome .empty).1 := by
  intro h f
  have hread : readMarkup (text "<r><d type='composite' u='1'/></r>").utf8 =
      .ok (.node (text "r") [] [] [.node (text "d")
        [(text "type", text "composite"), (text "u", text "1")] [] []]) := by cbv
  have hraw : markup.parser.parse (text ".") (text "<r><d type='composite' u='1'/></r>").utf8 = .ok
      [(text "r.d.type", .str (text "composite")), (text "r.d.u", .str (text "1"))] := by
    rw [parse_eq]
    unfold declarations Parser.markupDeclarations
    rw [hread]
    cbv
  have hnames : FreeOf '.' '/'
      (markup.names (text "<r><d type='composite' u='1'/></r>").utf8) := by
    unfold names
    rw [hread]
    decide
  obtain ⟨hparse, hdocuments⟩ := parse_two_delimiters markup _ hnames
  obtain ⟨d₁, d₂, h₁, h₂, hnamed, -⟩ := hdocuments _ hraw h
  cases h₁
  refine ⟨hnames, hparse.trans (congrArg _ hraw), d₂, h₂, ?_⟩
  exact (hnamed (by decide) f (text "a.r.d") (text "a/r/d") [] [text "r", text "d"] .empty
    (by decide)).2

end StructuredFormat

end ConfigNamespace
