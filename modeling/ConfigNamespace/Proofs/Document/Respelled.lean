import ConfigNamespace.Proofs.Document.Grouping
import ConfigNamespace.Proofs.Keyed
import ConfigNamespace.Proofs.Text.Swapped

/-!
# Documents in another spelling

The keys of a document may be spelled with other characters, as long as different characters stay
different. Declarations are grouped as before then, and what a key means is read off as before if the
key and the delimiter are spelled alike, and the two words that stand for themselves in keys stay as
they are.
-/

namespace ConfigNamespace

namespace Keyed

variable {α : Type} {change : Text → Text}

/-- Entries with their keys changed. -/
def mapKeys (change : Text → Text) (entries : Keyed α) : Keyed α :=
  entries.map fun entry => (change entry.1, entry.2)

/-- The key of the first entry is changed first. -/
theorem mapKeys_cons (change : Text → Text) (key : Text) (v : α) (entries : Keyed α) :
    mapKeys change ((key, v) :: entries) = (change key, v) :: mapKeys change entries := rfl

/-- Keys that are changed alike are changed to the same. -/
theorem mapKeys_congr {change' : Text → Text} {entries : Keyed α}
    (h : ∀ entry ∈ entries, change entry.1 = change' entry.1) :
    mapKeys change entries = mapKeys change' entries :=
  List.map_congr_left fun entry hentry => congrArg (·, entry.2) (h entry hentry)

/-- What was read under a key is read under the key that it is changed to. -/
theorem get?_mapKeys (hchange : Function.Injective change) (entries : Keyed α) (key : Text) :
    get? (mapKeys change entries) (change key) = get? entries key := by
  induction entries with
  | nil => rfl
  | cons entry entries ih =>
    obtain ⟨k, v⟩ := entry
    rw [mapKeys_cons, get?_cons, get?_cons, ih]
    simp only [hchange.eq_iff]

/-- The entries under other keys are under other keys. -/
theorem remove_mapKeys (hchange : Function.Injective change) (entries : Keyed α) (key : Text) :
    remove (mapKeys change entries) (change key) = mapKeys change (remove entries key) := by
  unfold remove mapKeys
  rw [List.filter_map]
  congr 1
  refine List.filter_congr fun entry _ => ?_
  simp only [Function.comp_apply, ne_eq, hchange.eq_iff]

end Keyed

section Grouping

variable {change : Text → Text}

/-- A declaration is added to its key, whatever the keys are changed to. -/
theorem putDeclaration_mapKeys (hchange : Function.Injective change) (key value : Text)
    (entries : List (Text × DocumentValue)) :
    putDeclaration (change key) value (Keyed.mapKeys change entries) =
      Keyed.mapKeys change (putDeclaration key value entries) := by
  induction entries with
  | nil => rfl
  | cons entry entries ih =>
    obtain ⟨k, v⟩ := entry
    rw [Keyed.mapKeys_cons, putDeclaration, putDeclaration, ih]
    simp only [hchange.eq_iff]
    split <;> rfl

/-- Declarations whose keys are changed are grouped as they were. -/
theorem groupDeclarations_mapKeys (hchange : Function.Injective change)
    (declarations : List (Text × Text)) :
    groupDeclarations (Keyed.mapKeys change declarations) =
      Keyed.mapKeys change (groupDeclarations declarations) := by
  have hfold (entries : List (Text × DocumentValue)) :
      (Keyed.mapKeys change declarations).foldl (fun entries declaration =>
          putDeclaration declaration.1 declaration.2 entries) (Keyed.mapKeys change entries) =
        Keyed.mapKeys change (declarations.foldl (fun entries declaration =>
          putDeclaration declaration.1 declaration.2 entries) entries) := by
    induction declarations generalizing entries with
    | nil => rfl
    | cons declaration declarations ih =>
      obtain ⟨key, value⟩ := declaration
      rw [Keyed.mapKeys_cons, List.foldl_cons, List.foldl_cons, putDeclaration_mapKeys hchange, ih]
  exact hfold []

/-- The keys of grouped declarations are declared. -/
theorem mem_declarations_of_grouped {declarations : List (Text × Text)} {entry : Text × DocumentValue}
    (h : entry ∈ groupDeclarations declarations) :
    ∃ declaration ∈ declarations, declaration.1 = entry.1 := by
  rw [groupDeclarations_eq] at h
  obtain ⟨key, hkey, rfl⟩ := List.mem_map.mp h
  exact List.mem_map.mp (List.mem_eraseDups.mp hkey)

/-- What a parser gives for grouped declarations has their keys. -/
theorem RawMapping.ofGrouped_mapKeys (change : Text → Text)
    (entries : List (Text × DocumentValue)) :
    RawMapping.ofGrouped (Keyed.mapKeys change entries) =
      Keyed.mapKeys change (RawMapping.ofGrouped entries) := by
  simp only [RawMapping.ofGrouped, Keyed.mapKeys, List.map_map, Function.comp_def]

end Grouping

namespace Document

/-- A document with its keys changed. -/
def mapKeys (change : Text → Text) (d : Document) : Document :=
  ⟨d.handle, Keyed.mapKeys change d.entries⟩

/-- What a parser gives for grouped declarations makes the document of these. -/
theorem ofRaw_ofGrouped (h : ResourceHandle) (entries : List (Text × DocumentValue)) :
    ofRaw h (RawMapping.ofGrouped entries) = .ok ⟨h, entries⟩ := by
  have hvalue (v : DocumentValue) : valueOfRaw? v.toRaw = some v := by
    cases v with
    | single value => rfl
    | several values =>
      refine congrArg (fun texts => some (DocumentValue.several texts)) ?_
      rw [List.map_map]
      exact List.map_id values
  have hentries : entriesOfRaw h.location (RawMapping.ofGrouped entries) = .ok entries := by
    induction entries with
    | nil => rfl
    | cons entry entries ih =>
      obtain ⟨key, v⟩ := entry
      rw [RawMapping.ofGrouped, List.map_cons, ← RawMapping.ofGrouped, entriesOfRaw, hvalue, ih]
  rw [ofRaw, hentries]
  rfl

variable {σ : CodePoint → CodePoint} {d : Document}

/-- With keys that are respelled without being mixed up, a document holds the same values. -/
theorem get?_mapKeys (hσ : Function.Injective σ) (key : Text) :
    (d.mapKeys (List.map σ)).get? (key.map σ) = d.get? key :=
  Keyed.get?_mapKeys (List.map_injective_iff.mpr hσ) d.entries key

/-- The entries below a path are those that were below it. -/
theorem under_mapKeys (hσ : Function.Injective σ) (path delimiter : Text) :
    (d.mapKeys (List.map σ)).under (path.map σ) (delimiter.map σ) =
      Keyed.mapKeys (List.map σ) (d.under path delimiter) := by
  unfold under
  by_cases hpath : path = []
  · rw [if_pos hpath, hpath]
    rfl
  · rw [if_neg hpath, if_neg (by simpa using hpath)]
    unfold mapKeys Keyed.mapKeys
    rw [List.filterMap_map, List.map_filterMap]
    refine List.filterMap_congr fun entry _ => ?_
    simp only [Function.comp_apply]
    rw [← List.map_append, Text.dropStart?_map hσ, Option.map_map, Option.map_map]
    rfl

end Document

end ConfigNamespace
