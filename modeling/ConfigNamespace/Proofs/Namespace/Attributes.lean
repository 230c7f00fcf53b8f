import ConfigNamespace.Proofs.Document.Grouped
import ConfigNamespace.Proofs.Keyed
import ConfigNamespace.Proofs.Namespace.Find
import ConfigNamespace.Proofs.Text.Pieces
import Mathlib.Data.List.Nodup

/-!
# Attributes of composites

The values beneath a key of a document are typed in two places: one by one, when a key is looked up,
and together, when they become the attributes of a composite. Both read the same type of a value,
because the type key of an attribute is the type key of its entry with the path taken off.
-/

namespace ConfigNamespace

open Operation

namespace CompositeBuilder

/-- The key of the entry that a name leads to from a key. -/
def entryKey (key delimiter name : Text) : Text :=
  if key = [] then name else key ++ delimiter ++ name

/-- Whether the key of an entry lies beneath a key; beneath the empty key all but the flag do. -/
def Beneath (key delimiter entry : Text) : Prop :=
  if key = [] then entry ≠ compositeFlag else key ++ delimiter <+: entry

instance (key delimiter entry : Text) : Decidable (Beneath key delimiter entry) := by
  unfold Beneath
  infer_instance

/-- Whether a name leads to an entry that is typed on its own: it is not empty, nor the flag of the
document, and the type of the entry is no marker. -/
structure Leads (b : CompositeBuilder) (d : Document) (key delimiter name : Text)
    (value : DocumentValue) : Prop where
  /-- The name is not empty. -/
  ne_nil : name ≠ []
  /-- It is not the flag of the document. -/
  unflagged : key = [] → name ≠ compositeFlag
  /-- There is an entry. -/
  get_eq : d.get? (entryKey key delimiter name) = some value
  /-- Its type is no marker. -/
  unmarked : b.isMarker (d.get? (typeKey delimiter (entryKey key delimiter name))) = false

/-- Whether the type of an entry is not given more than once. -/
def TypedOnce (d : Document) (delimiter entry : Text) : Prop :=
  ∀ typeNames, d.get? (typeKey delimiter entry) ≠ some (.several typeNames)

/-- The type key of an entry is the entry of the type key. -/
theorem typeKey_entryKey (key delimiter name : Text) :
    typeKey delimiter (entryKey key delimiter name) =
      entryKey key delimiter (typeKey delimiter name) := by
  unfold entryKey typeKey
  split <;> simp only [List.append_assoc]

/-- No type is held under the flag. -/
theorem typeKey_ne_compositeFlag (delimiter name : Text) : typeKey delimiter name ≠ compositeFlag := by
  intro h
  have hsuffix : typeSegment <:+ compositeFlag := h ▸ List.suffix_append _ _
  exact absurd hsuffix (by decide)

section Sources

variable (d : Document) (key delimiter : Text)

/-- Below a path, the keys have the path taken off. -/
theorem get?_under (name : Text) :
    Keyed.get? (d.under key delimiter) name = d.get? (entryKey key delimiter name) := by
  obtain ⟨handle, entries⟩ := d
  unfold Document.under Document.get? entryKey
  by_cases hkey : key = []
  · rw [if_pos hkey, if_pos hkey]
    rfl
  · rw [if_neg hkey, if_neg hkey]
    change Keyed.get? _ _ = Keyed.get? entries _
    dsimp only
    induction entries with
    | nil => rfl
    | cons entry entries ih =>
      obtain ⟨k, value⟩ := entry
      rw [List.filterMap_cons, Keyed.get?_cons]
      cases hrest : Text.dropStart? (key ++ delimiter) k with
      | none =>
        have hne : key ++ delimiter ++ name ≠ k := by
          intro heq
          rw [Text.dropStart?_eq_some_iff.mpr heq.symm] at hrest
          cases hrest
        rw [if_neg hne]
        exact ih
      | some rest =>
        rw [Text.dropStart?_eq_some_iff.mp hrest]
        simp only [List.append_cancel_left_eq, Option.map_some]
        rw [Keyed.get?_cons, ih]

/-- The entries that become attributes are those of the document. -/
theorem get?_sources (name : Text) :
    (sources d key delimiter).get? name =
      if key = [] ∧ name = compositeFlag then none else d.get? (entryKey key delimiter name) := by
  unfold sources
  dsimp only
  by_cases hkey : key = []
  · rw [if_pos hkey, Keyed.get?_remove, get?_under]
    simp only [hkey, true_and]
  · rw [if_neg hkey, get?_under, if_neg fun h => hkey h.1]

/-- The type of an attribute is that of its entry. -/
theorem get?_sources_typeKey (name : Text) :
    (sources d key delimiter).get? (typeKey delimiter name) =
      d.get? (typeKey delimiter (entryKey key delimiter name)) := by
  rw [get?_sources, if_neg fun h => typeKey_ne_compositeFlag _ _ h.2, typeKey_entryKey]

/-- The entries that become attributes are all those beneath the key, in the order of the document. -/
theorem keys_sources : (sources d key delimiter).keys.map (entryKey key delimiter) =
    d.keys.filter fun entry => Beneath key delimiter entry := by
  unfold sources entryKey Beneath
  by_cases hkey : key = []
  · simp only [if_pos hkey]
    rw [Document.under, if_pos hkey]
    unfold Keyed.remove Keyed.keys Document.keys
    rw [List.map_id', List.filter_map]
    rfl
  · simp only [if_neg hkey]
    exact d.keys_under delimiter hkey

end Sources

section Attributes

variable {b : CompositeBuilder} {converter : TypeConverter} {all : Keyed DocumentValue}
  {delimiter : Text}

/-- Attributes have the names of the entries, in order, and each has the value that its entry becomes. -/
theorem attributes_eq_ok {entries : Keyed DocumentValue} {attributes : Keyed Value}
    (h : b.attributes converter all delimiter entries = .ok attributes) :
    attributes.keys = entries.keys ∧ ∀ name value, entries.get? name = some value →
      ∃ v, attributes.get? name = some v ∧
        b.attributeOf converter all delimiter name value = .ok v := by
  induction entries generalizing attributes with
  | nil =>
    cases h
    exact ⟨rfl, fun name value hvalue => by cases hvalue⟩
  | cons entry entries ih =>
    obtain ⟨k, value⟩ := entry
    unfold CompositeBuilder.attributes at h
    cases hfirst : b.attributeOf converter all delimiter k value with
    | error failure =>
      rw [hfirst] at h
      cases h
    | ok v =>
      rw [hfirst] at h
      cases hrest : b.attributes converter all delimiter entries with
      | error failure =>
        rw [hrest] at h
        cases h
      | ok rest =>
        rw [hrest] at h
        cases h
        obtain ⟨hkeys, hvalues⟩ := ih hrest
        refine ⟨congrArg (k :: ·) hkeys, fun name value' hvalue => ?_⟩
        rw [Keyed.get?_cons] at hvalue
        rw [Keyed.get?_cons]
        by_cases hname : name = k
        · rw [if_pos hname] at hvalue
          cases hvalue
          rw [hname]
          exact ⟨v, if_pos rfl, hfirst⟩
        · rw [if_neg hname] at hvalue
          rw [if_neg hname]
          exact hvalues name value' hvalue

/-- There are no attributes exactly if some entry becomes none. -/
theorem exists_attributes_eq_error_iff {entries : Keyed DocumentValue} :
    (∃ failure, b.attributes converter all delimiter entries = .error failure) ↔
      ∃ name value, (name, value) ∈ entries ∧
        ∃ failure, b.attributeOf converter all delimiter name value = .error failure := by
  induction entries with
  | nil => simp [attributes]
  | cons entry entries ih =>
    obtain ⟨k, value⟩ := entry
    unfold CompositeBuilder.attributes
    cases hfirst : b.attributeOf converter all delimiter k value with
    | error failure =>
      constructor
      · exact fun _ => ⟨k, value, List.mem_cons_self, failure, hfirst⟩
      · exact fun _ => ⟨failure, rfl⟩
    | ok v =>
      have hrest : (∃ failure, (b.attributes converter all delimiter entries).map ((k, v) :: ·) =
          .error failure) ↔ ∃ failure, b.attributes converter all delimiter entries =
            .error failure := by
        cases b.attributes converter all delimiter entries <;> simp [Except.map]
      dsimp only
      rw [hrest, ih]
      constructor
      · rintro ⟨name, value', hmem, hfailure⟩
        exact ⟨name, value', List.mem_cons_of_mem _ hmem, hfailure⟩
      · rintro ⟨name, value', hmem, failure, hfailure⟩
        rcases List.mem_cons.mp hmem with heq | hmem
        · cases heq
          rw [hfirst] at hfailure
          cases hfailure
        · exact ⟨name, value', hmem, failure, hfailure⟩

end Attributes

section Agreement

variable {b : CompositeBuilder} {converter : TypeConverter} {d : Document}
  {key delimiter name : Text} {value : DocumentValue}

/-- What is typed on its own is no composite. -/
theorem Leads.isComposite_eq (h : b.Leads d key delimiter name value) :
    b.isComposite d (entryKey key delimiter name) delimiter = false := by
  have hne : entryKey key delimiter name ≠ [] := by
    unfold entryKey
    split
    · exact h.ne_nil
    · simp [h.ne_nil]
  have hpresent : d.has (entryKey key delimiter name) = true := by
    rw [Document.has, h.get_eq]
    rfl
  unfold isComposite
  rw [h.unmarked, hpresent]
  simp [hne]

/-- The entry is among those that become attributes. -/
theorem Leads.get?_sources (h : b.Leads d key delimiter name value) :
    (sources d key delimiter).get? name = some value := by
  rw [CompositeBuilder.get?_sources, if_neg fun hflag => h.unflagged hflag.1 hflag.2, h.get_eq]

/-- An entry becomes the attribute that is read when its key is looked up, unless its type is given
more than once. -/
theorem Leads.attributeOf_eq (h : b.Leads d key delimiter name value)
    (honce : TypedOnce d delimiter (entryKey key delimiter name)) (shown : Text) :
    b.attributeOf converter (sources d key delimiter) delimiter name value =
      Family.documentValue converter d shown (entryKey key delimiter name) delimiter := by
  have hunmarked := h.unmarked
  unfold attributeOf Family.documentValue
  rw [get?_sources_typeKey, h.get_eq]
  dsimp only
  rcases htype : d.get? (typeKey delimiter (entryKey key delimiter name)) with
    _ | (typeName | typeNames)
  · rfl
  · rw [htype] at hunmarked
    have helem : b.markers.elem typeName = false := hunmarked
    dsimp only
    rw [if_neg (Bool.eq_false_iff.mp helem)]
  · exact absurd htype (honce typeNames)

/-- The keys of the entries that become attributes are there once each if those of the document are. -/
theorem nodup_keys_sources (hkeys : d.keys.Nodup) : (sources d key delimiter).keys.Nodup := by
  refine List.Nodup.of_map (entryKey key delimiter) ?_
  rw [keys_sources]
  exact hkeys.filter _

/-- An entry becomes no attribute exactly if no converter accepts its value for its type. -/
theorem attributeOf_eq_error_iff {failure : Failure} :
    b.attributeOf converter (sources d key delimiter) delimiter name value = .error failure ↔
      ∃ typeName, d.get? (typeKey delimiter (entryKey key delimiter name)) =
          some (.single typeName) ∧ typeName ∉ b.markers ∧
        converter.convert value.toValue typeName = .error failure := by
  unfold attributeOf
  rw [get?_sources_typeKey]
  rcases d.get? (typeKey delimiter (entryKey key delimiter name)) with
    _ | (typeName | typeNames)
  · simp
  · by_cases hmarker : typeName ∈ b.markers
    · simp [hmarker]
    · simp [hmarker]
  · simp

/-- An entry that becomes no attribute is typed on its own, or is under the empty name. -/
theorem leads_of_attributeOf_eq_error (hget : (sources d key delimiter).get? name = some value)
    {failure : Failure} (h : b.attributeOf converter (sources d key delimiter) delimiter name value =
      .error failure) (hname : name ≠ []) :
    b.Leads d key delimiter name value ∧ TypedOnce d delimiter (entryKey key delimiter name) := by
  obtain ⟨typeName, htype, hmarker, -⟩ := attributeOf_eq_error_iff.mp h
  rw [CompositeBuilder.get?_sources] at hget
  split at hget
  · cases hget
  next hflag =>
    refine ⟨⟨hname, fun hkey heq => hflag ⟨hkey, heq⟩, hget, ?_⟩, fun typeNames hseveral => ?_⟩
    · rw [htype]
      exact Bool.eq_false_iff.mpr (mt List.elem_iff.mp hmarker)
    · rw [htype] at hseveral
      cases hseveral

/-- The entry under the empty name becomes an attribute as well. -/
theorem get?_sources_nil : (sources d key delimiter).get? [] = d.get? (entryKey key delimiter []) := by
  rw [CompositeBuilder.get?_sources, if_neg fun hflag => absurd hflag.2 (by decide)]

/-- A composite is built out of the attributes, and if there are none there is no composite. -/
theorem outcome_build_fst (hdelimiter : delimiter ≠ []) (log : Log) :
    ((b.build converter d key delimiter).outcome log).1 =
      (b.attributes converter (sources d key delimiter) delimiter (sources d key delimiter)).map
        fun attributes => ⟨lastSegment delimiter key, key,
          if key = [] then d.handle.location else d.handle.location ++ text "#" ++ key,
          attributes⟩ := by
  have hseparator : ¬(key ≠ [] && delimiter = []) = true := by simp [hdelimiter]
  rw [outcome_build, built, if_neg hseparator]

/-- A composite has an attribute for each entry beneath the key, and the entry becomes its value. -/
theorem of_build_eq_ok (hdelimiter : delimiter ≠ []) {log : Log} {c : Composite Value}
    (h : ((b.build converter d key delimiter).outcome log).1 = .ok c) :
    (Keyed.keys c.attributes).map (entryKey key delimiter) =
        d.keys.filter (fun entry => Beneath key delimiter entry) ∧
      ∀ name value, (sources d key delimiter).get? name = some value → ∃ v, c.get? name = some v ∧
        b.attributeOf converter (sources d key delimiter) delimiter name value = .ok v := by
  rw [outcome_build_fst hdelimiter] at h
  cases hattributes : b.attributes converter (sources d key delimiter) delimiter
    (sources d key delimiter) with
  | error failure =>
    rw [hattributes] at h
    cases h
  | ok attributes =>
    rw [hattributes] at h
    cases h
    obtain ⟨hnames, hvalues⟩ := attributes_eq_ok hattributes
    exact ⟨by rw [hnames, keys_sources], hvalues⟩

/-- No composite is built exactly if some entry beneath the key becomes no attribute. -/
theorem exists_build_eq_error_iff (hkeys : d.keys.Nodup) (hdelimiter : delimiter ≠ []) (log : Log) :
    (∃ failure, ((b.build converter d key delimiter).outcome log).1 = .error failure) ↔
      ∃ name value, (sources d key delimiter).get? name = some value ∧
        ∃ failure, b.attributeOf converter (sources d key delimiter) delimiter name value =
          .error failure := by
  have hmem : ∀ name value, (name, value) ∈ sources d key delimiter ↔
      (sources d key delimiter).get? name = some value := fun name value =>
    ⟨Keyed.get?_of_mem (nodup_keys_sources hkeys), Keyed.mem_of_get?⟩
  have hattributes : (∃ failure, ((b.build converter d key delimiter).outcome log).1 =
      .error failure) ↔ ∃ failure, b.attributes converter (sources d key delimiter) delimiter
        (sources d key delimiter) = .error failure := by
    rw [outcome_build_fst hdelimiter]
    cases b.attributes converter (sources d key delimiter) delimiter
      (sources d key delimiter) <;> simp [Except.map]
  rw [hattributes, exists_attributes_eq_error_iff]
  simp only [hmem]

/-- Whether looking up what a name leads to is of no avail: it is typed on its own, but cannot be read. -/
def FailsAt (b : CompositeBuilder) (converter : TypeConverter) (d : Document)
    (key delimiter shown name : Text) : Prop :=
  (∃ value, b.Leads d key delimiter name value) ∧
    b.isComposite d (entryKey key delimiter name) delimiter = false ∧
    ∃ failure, Family.documentValue converter d shown (entryKey key delimiter name) delimiter =
      .error failure

/-- Whether the entry under the empty name has a type that its value is refused for. -/
def FailsNameless (b : CompositeBuilder) (converter : TypeConverter) (d : Document)
    (key delimiter : Text) : Prop :=
  ∃ value typeName failure, d.get? (entryKey key delimiter []) = some value ∧
    d.get? (typeKey delimiter (entryKey key delimiter [])) = some (.single typeName) ∧
    typeName ∉ b.markers ∧ converter.convert value.toValue typeName = .error failure

/-- Attributes of composites agree with lookups. The attributes of a composite stand for the entries
beneath its key, in the order of the document, and each has the value that a lookup of its entry
reads, if the type of the entry is no marker and not given more than once. No composite is built if
such a lookup fails, or if the entry under the empty name, which becomes an attribute as well, cannot
be converted. And only if that entry cannot be converted or some lookup of a name fails, is none
built. -/
theorem build_agrees (hkeys : d.keys.Nodup) (hdelimiter : delimiter ≠ []) (log : Log)
    (shown : Text) :
    (∀ c, ((b.build converter d key delimiter).outcome log).1 = .ok c →
      (Keyed.keys c.attributes).map (entryKey key delimiter) =
          d.keys.filter (fun entry => Beneath key delimiter entry) ∧
        ∀ name value, b.Leads d key delimiter name value →
          TypedOnce d delimiter (entryKey key delimiter name) →
          ∃ v, c.get? name = some v ∧
            b.isComposite d (entryKey key delimiter name) delimiter = false ∧
            Family.documentValue converter d shown (entryKey key delimiter name) delimiter =
              .ok v) ∧
    ((∃ name, TypedOnce d delimiter (entryKey key delimiter name) ∧
          b.FailsAt converter d key delimiter shown name) ∨
        b.FailsNameless converter d key delimiter →
      ∃ failure, ((b.build converter d key delimiter).outcome log).1 = .error failure) ∧
    ((∃ failure, ((b.build converter d key delimiter).outcome log).1 = .error failure) →
      (∃ name, b.FailsAt converter d key delimiter shown name) ∨
        b.FailsNameless converter d key delimiter) := by
  refine ⟨fun c hc => ?_, ?_, ?_⟩
  · obtain ⟨hnames, hvalues⟩ := of_build_eq_ok hdelimiter hc
    refine ⟨hnames, fun name value hleads honce => ?_⟩
    obtain ⟨v, hget, hv⟩ := hvalues name value hleads.get?_sources
    rw [hleads.attributeOf_eq honce shown] at hv
    exact ⟨v, hget, hleads.isComposite_eq, hv⟩
  · rw [exists_build_eq_error_iff hkeys hdelimiter]
    rintro (⟨name, honce, ⟨value, hleads⟩, -, failure, hfailure⟩ |
      ⟨value, typeName, failure, hget, htype⟩)
    · rw [← hleads.attributeOf_eq honce shown] at hfailure
      exact ⟨name, value, hleads.get?_sources, failure, hfailure⟩
    · rw [← get?_sources_nil] at hget
      exact ⟨[], value, hget, failure, attributeOf_eq_error_iff.mpr ⟨typeName, htype⟩⟩
  · rw [exists_build_eq_error_iff hkeys hdelimiter]
    rintro ⟨name, value, hget, failure, hfailure⟩
    by_cases hname : name = []
    · subst hname
      obtain ⟨typeName, htype⟩ := attributeOf_eq_error_iff.mp hfailure
      rw [get?_sources_nil] at hget
      exact .inr ⟨value, typeName, failure, hget, htype⟩
    · obtain ⟨hleads, honce⟩ := leads_of_attributeOf_eq_error hget hfailure hname
      rw [hleads.attributeOf_eq honce shown] at hfailure
      exact .inl ⟨name, ⟨value, hleads⟩, hleads.isComposite_eq, failure, hfailure⟩

end Agreement

/-- A document with the given entries. -/
def sample (entries : List (Text × DocumentValue)) : Document :=
  ⟨⟨.localPath, text "app.properties"⟩, entries⟩

/-- A typed attribute, next to an entry whose key only begins with the same text. -/
theorem build_agrees_typed :
    let b : CompositeBuilder := ⟨text "composite"⟩
    let d := sample [(text "FooDS.type", .single (text "composite")),
      (text "FooDS.port", .single (text "1")), (text "FooDS.port.type", .single (text "int")),
      (text "FooDSX.port", .single (text "2"))]
    ∃ c, ((b.build .builtin d (text "FooDS") (text ".")).outcome []).1 = .ok c ∧
      (Keyed.keys c.attributes).map (entryKey (text "FooDS") (text ".")) =
        [text "FooDS.type", text "FooDS.port", text "FooDS.port.type"] ∧
      c.get? (text "port") = some (.int 1) ∧
      b.isComposite d (text "FooDS.port") (text ".") = false ∧
      Family.documentValue .builtin d [] (text "FooDS.port") (text ".") = .ok (.int 1) := by
  intro b d
  have hkeys : d.keys.Nodup := by decide
  have hdelimiter : text "." ≠ [] := by decide
  have hleads : b.Leads d (text "FooDS") (text ".") (text "port") (.single (text "1")) := by
    refine ⟨by decide, ?_, rfl, by decide⟩
    intro h
    cases h
  have honce : TypedOnce d (text ".") (entryKey (text "FooDS") (text ".") (text "port")) := by
    intro typeNames h
    cases h
  obtain ⟨c, hc⟩ : ∃ c, ((b.build .builtin d (text "FooDS") (text ".")).outcome []).1 = .ok c :=
    ⟨_, rfl⟩
  obtain ⟨hnames, hvalues⟩ := (build_agrees hkeys hdelimiter [] []).1 c hc
  obtain ⟨v, hget, hcomposite, hread⟩ := hvalues _ _ hleads honce
  have hvalue : Family.documentValue .builtin d [] (text "FooDS.port") (text ".") =
      .ok (.int 1) := rfl
  obtain rfl : Value.int 1 = v := Except.ok.inj (hvalue.symm.trans hread)
  exact ⟨c, hc, hnames.trans (by decide), hget, hcomposite, hvalue⟩

/-- A composite may not be built although every name but the empty one is read. And a type that is
given twice is passed over when a composite is built, where a lookup refuses it. -/
theorem not_build_agrees :
    let b : CompositeBuilder := ⟨text "composite"⟩
    let nameless := sample [(text "FooDS.type", .single (text "composite")),
      (text "FooDS.", .single (text "x")), (text "FooDS..type", .single (text "int"))]
    let twice := sample [(text "FooDS.type", .single (text "composite")),
      (text "FooDS.port", .single (text "1")),
      (text "FooDS.port.type", .several [text "int", text "int"])]
    (b.isComposite nameless (text "FooDS") (text ".") = true ∧
      (∃ failure, ((b.build .builtin nameless (text "FooDS") (text ".")).outcome []).1 =
        .error failure) ∧
      ∀ name, ¬b.FailsAt .builtin nameless (text "FooDS") (text ".") [] name) ∧
    b.isComposite twice (text "FooDS") (text ".") = true ∧
      (∃ c, ((b.build .builtin twice (text "FooDS") (text ".")).outcome []).1 = .ok c) ∧
      Family.documentValue .builtin twice [] (text "FooDS.port") (text ".") =
        .error (.repeatedType (text "app.properties") (text "FooDS.port.type")) ∧
      b.FailsAt .builtin twice (text "FooDS") (text ".") [] (text "port") := by
  intro b nameless twice
  constructor
  · refine ⟨by decide, ⟨_, rfl⟩, fun name hfails => ?_⟩
    obtain ⟨⟨value, hleads⟩, -, failure, hfailure⟩ := hfails
    have hkey : entryKey (text "FooDS") (text ".") name = text "FooDS." ++ name := rfl
    have hmem := Keyed.mem_of_get? hleads.get_eq
    rw [hkey] at hmem hfailure
    rcases List.mem_cons.mp hmem with htype | hmem
    · obtain ⟨hname, -⟩ := Prod.mk.inj htype
      rw [hname] at hfailure
      cases hfailure
    · rcases List.mem_cons.mp hmem with hempty | hlast
      · obtain ⟨hname, -⟩ := Prod.mk.inj hempty
        exact absurd (List.append_right_eq_self.mp hname) hleads.ne_nil
      · obtain ⟨hname, -⟩ := Prod.mk.inj (List.mem_singleton.mp hlast)
        rw [hname] at hfailure
        cases hfailure
  · have hfailure : Family.documentValue .builtin twice [] (text "FooDS.port") (text ".") =
        .error (.repeatedType (text "app.properties") (text "FooDS.port.type")) := rfl
    have hleads : b.Leads twice (text "FooDS") (text ".") (text "port") (.single (text "1")) :=
      ⟨by decide, by decide, rfl, by decide⟩
    exact ⟨by decide, ⟨_, rfl⟩, hfailure, ⟨_, hleads⟩, hleads.isComposite_eq, _, hfailure⟩

end CompositeBuilder

end ConfigNamespace
