import Mathlib.Data.List.Basic
import ConfigNamespace.Proofs.Document.Grouping

/-!
# Extending documents

Declarations that follow others extend the mapping that those make: a key of both keeps its place and
collects the values of the first, then those of the second, and the other keys of the second follow in
their order. So what a mapping becomes is told by the two mappings alone.
-/

namespace ConfigNamespace

namespace RawMapping

/-- The values that stand under a key: none if there is no such key, those of a list one by one. -/
def valuesAt (mapping : RawMapping) (key : Text) : List Value :=
  match mapping.lookup key with
  | none => []
  | some (.list values) => values
  | some value => [value]

/-- A mapping with what is declared after it: a key of both has the values of the first mapping and
then those of the second, and each further key of the second comes after the keys of the first. -/
def extendedBy (first second : RawMapping) : RawMapping :=
  (first.map fun entry =>
    (entry.1, match second.valuesAt entry.1 with
      | [] => entry.2
      | more => .list (first.valuesAt entry.1 ++ more))) ++
  second.filter fun entry => !(first.map (·.1)).elem entry.1

end RawMapping

section Keys

variable {key : Text} {declarations more : List (Text × Text)}

/-- The first of equal elements is found among those that are kept. -/
private theorem eraseDups_filter {α : Type} [BEq α] [LawfulBEq α] (p : α → Bool) (l : List α) :
    (l.filter p).eraseDups = l.eraseDups.filter p := by
  match l with
  | [] => rfl
  | a :: l =>
    have ih := eraseDups_filter p (l.filter fun b => !b == a)
    rw [List.eraseDups_cons, List.filter_cons, List.filter_cons]
    by_cases ha : p a = true
    · rw [if_pos ha, if_pos ha, List.eraseDups_cons, ← ih, List.filter_filter, List.filter_filter]
      simp only [Bool.and_comm]
    · rw [if_neg ha, if_neg ha, ← ih, List.filter_filter]
      congr 1
      refine List.filter_congr fun b _ => ?_
      by_cases hb : b = a
      · simp [hb, ha]
      · simp [hb]
termination_by l.length
decreasing_by exact Nat.lt_succ_of_le (List.length_filter_le _ _)

/-- The values under a key come from the declarations in turn. -/
theorem valuesUnder_append (key : Text) (declarations more : List (Text × Text)) :
    valuesUnder key (declarations ++ more) = valuesUnder key declarations ++ valuesUnder key more := by
  rw [valuesUnder, List.filter_append, List.map_append]
  rfl

/-- The keys of declarations are those under which something is declared. -/
theorem mem_declaredKeys : key ∈ declaredKeys declarations ↔ valuesUnder key declarations ≠ [] := by
  simp [declaredKeys, valuesUnder]

/-- Where each declared key has a value, the value of a key is found if something is declared under
it. -/
theorem lookup_map_declaredKeys {α : Type} (value : Text → α) (key : Text)
    (declarations : List (Text × Text)) :
    ((declaredKeys declarations).map fun key => (key, value key)).lookup key =
      if valuesUnder key declarations = [] then none else some (value key) := by
  by_cases hkey : key ∈ declaredKeys declarations
  · rw [List.lookup_graph _ hkey, if_neg (mem_declaredKeys.mp hkey)]
  · rw [if_pos (not_not.mp (mt mem_declaredKeys.mpr hkey)), List.lookup_eq_none_iff]
    rintro _ hmem
    obtain ⟨other, hother, rfl⟩ := List.mem_map.mp hmem
    simpa using fun heq : key = other => hkey (heq ▸ hother)

/-- Declarations that follow add the keys that are not there yet. -/
theorem declaredKeys_append (declarations more : List (Text × Text)) :
    declaredKeys (declarations ++ more) =
      declaredKeys declarations ++
        (declaredKeys more).filter fun key => !(declaredKeys declarations).elem key := by
  unfold declaredKeys
  rw [List.map_append, List.eraseDups_append, List.removeAll, eraseDups_filter]
  congr 1
  refine List.filter_congr fun key _ => ?_
  simp

end Keys

section Mappings

/-- What a parser makes of declarations: the keys, each with its values. -/
theorem ofGrouped_eq_map (declarations : List (Text × Text)) :
    RawMapping.ofGrouped (groupDeclarations declarations) = (declaredKeys declarations).map fun key =>
      (key, (DocumentValue.ofValues (valuesUnder key declarations)).toRaw) := by
  rw [groupDeclarations_eq, RawMapping.ofGrouped, List.map_map]
  rfl

/-- The values under a key are those that are declared under it. -/
theorem valuesAt_ofGrouped (key : Text) (declarations : List (Text × Text)) :
    (RawMapping.ofGrouped (groupDeclarations declarations)).valuesAt key =
      (valuesUnder key declarations).map .str := by
  rw [ofGrouped_eq_map, RawMapping.valuesAt, lookup_map_declaredKeys]
  rcases valuesUnder key declarations with _ | ⟨value, _ | ⟨second, values⟩⟩ <;> rfl

/-- Declarations that follow others extend the mapping of those by their own mapping. -/
theorem ofGrouped_append (declarations more : List (Text × Text)) :
    RawMapping.ofGrouped (groupDeclarations (declarations ++ more)) =
      (RawMapping.ofGrouped (groupDeclarations declarations)).extendedBy
        (RawMapping.ofGrouped (groupDeclarations more)) := by
  have hkeys : (RawMapping.ofGrouped (groupDeclarations declarations)).map (·.1) =
      declaredKeys declarations := by
    rw [ofGrouped_eq_map, List.map_map]
    exact List.map_id _
  rw [RawMapping.extendedBy, hkeys]
  simp only [valuesAt_ofGrouped]
  rw [ofGrouped_eq_map (declarations ++ more), declaredKeys_append, List.map_append,
    ofGrouped_eq_map declarations, ofGrouped_eq_map more, List.map_map, List.filter_map]
  congr 1
  · refine List.map_congr_left fun key hkey => ?_
    obtain ⟨value, values, hvalues⟩ := List.exists_cons_of_ne_nil (mem_declaredKeys.mp hkey)
    simp only [Function.comp_apply, valuesUnder_append, hvalues]
    cases valuesUnder key more with
    | nil => simp
    | cons second others => cases values <;> simp [DocumentValue.ofValues, DocumentValue.toRaw]
  · refine List.map_congr_left fun key hkey => ?_
    have hother : key ∉ declaredKeys declarations := by simpa using (List.mem_filter.mp hkey).2
    rw [valuesUnder_append, not_not.mp (mt mem_declaredKeys.mpr hother), List.nil_append]

end Mappings

end ConfigNamespace
