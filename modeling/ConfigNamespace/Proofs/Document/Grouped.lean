import ConfigNamespace.Proofs.Document.Extended
import ConfigNamespace.Proofs.Document.Respelled
import Mathlib.Data.List.Nodup

/-!
# Documents of grouped declarations

Nothing is lost between declarations and the document that they make: its keys are those declared,
each where it came first, and under each key stands all that was declared under it. What lies below a
path is then told by the keys as well, and no two entries below it come to the same key.
-/

namespace ConfigNamespace

section Keys

/-- Each element is kept once. -/
private theorem nodup_eraseDups {α : Type} [BEq α] [LawfulBEq α] (l : List α) : l.eraseDups.Nodup := by
  match l with
  | [] => exact List.nodup_nil
  | a :: l =>
    rw [List.eraseDups_cons, List.nodup_cons, List.mem_eraseDups]
    exact ⟨by simp, nodup_eraseDups _⟩
termination_by l.length
decreasing_by exact Nat.lt_succ_of_le (List.length_filter_le _ _)

/-- Each declared key is there once. -/
theorem nodup_declaredKeys (declarations : List (Text × Text)) : (declaredKeys declarations).Nodup :=
  nodup_eraseDups _

/-- The keys that declarations are grouped under. -/
theorem keys_groupDeclarations (declarations : List (Text × Text)) :
    Keyed.keys (groupDeclarations declarations) = declaredKeys declarations := by
  rw [groupDeclarations_eq, Keyed.keys, List.map_map]
  exact List.map_id _

/-- Under a key, all that was declared under it is grouped. -/
theorem get?_groupDeclarations (key : Text) (declarations : List (Text × Text)) :
    Keyed.get? (groupDeclarations declarations) key =
      if valuesUnder key declarations = [] then none
      else some (.ofValues (valuesUnder key declarations)) := by
  rw [groupDeclarations_eq]
  exact lookup_map_declaredKeys _ key declarations

end Keys

namespace Document

variable (d : Document) {path : Text} (delimiter : Text)

/-- The entries below a path are those whose keys begin with it and the delimiter. -/
theorem map_under (hpath : path ≠ []) :
    (d.under path delimiter).map (fun entry => (path ++ delimiter ++ entry.1, entry.2)) =
      d.entries.filter fun entry => path ++ delimiter <+: entry.1 := by
  rw [under, if_neg hpath, List.map_filterMap, ← List.filterMap_eq_filter]
  refine List.filterMap_congr fun (key, value) _ => ?_
  dsimp only
  cases hrest : Text.dropStart? (path ++ delimiter) key with
  | none =>
    have hnot : ¬path ++ delimiter <+: key := by
      rintro ⟨rest, rfl⟩
      rw [Text.dropStart?_eq_some_iff.mpr rfl] at hrest
      cases hrest
    simp [Option.guard, hnot]
  | some rest =>
    obtain rfl := Text.dropStart?_eq_some_iff.mp hrest
    simp [Option.guard]

/-- The keys below a path, with the path and the delimiter put back, are those that begin so. -/
theorem keys_under (hpath : path ≠ []) :
    (Keyed.keys (d.under path delimiter)).map (path ++ delimiter ++ ·) =
      d.keys.filter fun key => path ++ delimiter <+: key := by
  have hentries := congrArg (List.map (·.1)) (d.map_under delimiter hpath)
  rw [List.map_map] at hentries
  rw [Keyed.keys, keys, List.map_map, List.filter_map]
  exact hentries

variable {d}

/-- Below a path each key is there once, if it is so in the document. -/
theorem nodup_keys_under (h : d.keys.Nodup) (path : Text) :
    (Keyed.keys (d.under path delimiter)).Nodup := by
  by_cases hpath : path = []
  · rw [under, if_pos hpath]
    exact h
  · refine List.Nodup.of_map (path ++ delimiter ++ ·) ?_
    rw [d.keys_under delimiter hpath]
    exact h.filter _

/-- Declarations make a document. Its keys are those declared, each where it is declared first; under a
key stands the value that is declared there, or the row of the values if there are more. Below a path
are just the entries whose keys begin with it and the delimiter, in their order, and no two of them
have the same key there; below the empty path are all entries. -/
theorem ofRaw_groupDeclarations (h : ResourceHandle) (declarations : List (Text × Text)) :
    ∃ d, ofRaw h (RawMapping.ofGrouped (groupDeclarations declarations)) = .ok d ∧ d.handle = h ∧
      d.keys = (declarations.map fun declaration => declaration.1).eraseDups ∧ d.keys.Nodup ∧
      (∀ key, (d.get? key).map DocumentValue.toFixed =
        match valuesUnder key declarations with
        | [] => none
        | [value] => some (.str value)
        | values => some (.rowOfTexts values)) ∧
      ∀ path delimiter, (Keyed.keys (d.under path delimiter)).Nodup ∧
        if path = [] then d.under path delimiter = d.entries
        else
          (d.under path delimiter).map (fun entry => (path ++ delimiter ++ entry.1, entry.2)) =
            d.entries.filter fun entry => path ++ delimiter <+: entry.1 := by
  let d : Document := ⟨h, groupDeclarations declarations⟩
  have hkeys : d.keys = declaredKeys declarations := keys_groupDeclarations declarations
  have hnodup : d.keys.Nodup := hkeys ▸ nodup_declaredKeys declarations
  refine ⟨d, ofRaw_ofGrouped h _, rfl, hkeys, hnodup, fun key => ?_,
    fun path delimiter => ⟨nodup_keys_under delimiter hnodup path, ?_⟩⟩
  · rw [get?, ← Keyed.get?, get?_groupDeclarations]
    rcases valuesUnder key declarations with _ | ⟨value, _ | ⟨second, values⟩⟩ <;> rfl
  · split
    next hpath => rw [under, if_pos hpath]
    next hpath => exact map_under _ delimiter hpath

end Document

end ConfigNamespace
