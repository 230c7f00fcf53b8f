import ConfigNamespace.Proofs.Document.Grouping
import ConfigNamespace.Proofs.Lookup.Failing
import ConfigNamespace.Proofs.Markup.Element
import ConfigNamespace.Proofs.Markup.Refusal

/-!
# What parsers report

A parser gives keys with values, or reports that the document is malformed. Whatever bytes a document
holds, the parsers that come with the library do so, with two exceptions, both of them in markup: a
document may name an encoding that cannot be used, or nest its elements too deep. Then another failure
comes of it.
-/

namespace ConfigNamespace

namespace Properties

/-- What a line declares: the key and the value that it is split into, without their escapes. -/
theorem declaration_eq_ok_iff {line : NumberedLine} {pair : Text × Text} :
    declaration line = .ok pair ↔ (splitLine line.2).1 ≠ [] ∧
      unescape? (splitLine line.2).1 = some pair.1 ∧ unescape? (splitLine line.2).2 = some pair.2 := by
  unfold declaration
  dsimp only
  by_cases hkey : (splitLine line.2).1 = []
  · rw [if_pos hkey]
    simp [hkey]
  · rw [if_neg hkey]
    cases unescape? (splitLine line.2).1 with
    | none => simp
    | some key =>
      cases unescape? (splitLine line.2).2 with
      | none => simp
      | some value => simp [hkey, Prod.ext_iff]

/-- Each declaration is that of a line. -/
theorem exists_declaration_eq {lines : List NumberedLine} {declarations : List (Text × Text)}
    (h : declarationsOf lines = .ok declarations) {pair : Text × Text} (hpair : pair ∈ declarations) :
    ∃ line ∈ lines, declaration line = .ok pair := by
  induction lines generalizing declarations with
  | nil =>
    cases h
    exact absurd hpair List.not_mem_nil
  | cons line lines ih =>
    unfold declarationsOf at h
    split at h
    next => cases h
    next first hfirst =>
      split at h
      next => cases h
      next others hothers =>
        cases h
        rcases List.mem_cons.mp hpair with rfl | hmem
        · exact ⟨line, List.mem_cons_self, hfirst⟩
        · obtain ⟨later, hlater, hdeclaration⟩ := ih hothers hmem
          exact ⟨later, List.mem_cons_of_mem _ hlater, hdeclaration⟩

end Properties

namespace Sections

/-- Each declaration is an entry of a line within a section. -/
theorem exists_readLine_eq {delimiter name : Text} {number : Nat} {lines : List Text}
    {declarations : List (Text × Text)}
    (h : declarationsFrom delimiter number name lines = .ok declarations) {pair : Text × Text}
    (hpair : pair ∈ declarations) :
    ∃ line ∈ lines, ∃ own key, readLine line.trim = .entry key pair.2 ∧
      pair.1 = sectionKey delimiter own key := by
  have hlater {raw : Text} {rest : List Text} (h : ∃ line ∈ rest, ∃ own key,
      readLine line.trim = .entry key pair.2 ∧ pair.1 = sectionKey delimiter own key) :
      ∃ line ∈ raw :: rest, ∃ own key,
        readLine line.trim = .entry key pair.2 ∧ pair.1 = sectionKey delimiter own key := by
    obtain ⟨line, hline, hread⟩ := h
    exact ⟨line, List.mem_cons_of_mem _ hline, hread⟩
  induction lines generalizing number name declarations with
  | nil =>
    cases h
    exact absurd hpair List.not_mem_nil
  | cons raw rest ih =>
    unfold declarationsFrom at h
    split at h
    next => exact hlater (ih h hpair)
    next => exact hlater (ih h hpair)
    next => cases h
    next key value hline =>
      split at h
      next others hothers =>
        cases h
        rcases List.mem_cons.mp hpair with rfl | hmem
        · exact ⟨raw, List.mem_cons_self, name, key, hline, rfl⟩
        · exact hlater (ih hothers hmem)
      next => cases h

end Sections

namespace Element

mutual

/-- The keys of what a tree declares go on from the key of the tree. -/
theorem isPrefix_of_declarationsUnder {delimiter key : Text} {e : Element}
    {declaration : Text × Text} (h : declaration ∈ e.declarationsUnder delimiter key) :
    key <+: declaration.1 := by
  match e with
  | node tag attributes leading children =>
    rw [declarationsUnder, List.mem_append, List.mem_append] at h
    rcases h with (hleading | hattribute) | hchild
    · split at hleading
      · cases hleading
      · obtain rfl := List.mem_singleton.mp hleading
        exact List.prefix_rfl
    · obtain ⟨attr, -, rfl⟩ := List.mem_map.mp hattribute
      exact ⟨delimiter ++ attr.1, by simp⟩
    · exact isPrefix_of_childDeclarations hchild

/-- The keys of what trees declare go on from the key that they stand under. -/
theorem isPrefix_of_childDeclarations {delimiter key : Text} {children : List Element}
    {declaration : Text × Text} (h : declaration ∈ childDeclarations delimiter key children) :
    key <+: declaration.1 := by
  match children with
  | [] => cases h
  | child :: children =>
    rw [childDeclarations, List.mem_append] at h
    rcases h with hfirst | hrest
    · exact .trans ⟨delimiter ++ child.tag, by simp⟩ (isPrefix_of_declarationsUnder hfirst)
    · exact isPrefix_of_childDeclarations hrest

end

end Element

end ConfigNamespace
