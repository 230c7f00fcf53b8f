import ConfigNamespace.Format.Parser

/-!
# What grouping keeps

Grouping goes through declarations once and adds each to what stands under its key already. What it
comes to is said here by the declarations alone: each key stands where it is declared first, with all
that is declared under it, and in that order.
-/

namespace ConfigNamespace

/-- The values that are declared under a key, in order. -/
def valuesUnder (key : Text) (declarations : List (Text × Text)) : List Text :=
  (declarations.filter fun declaration => declaration.1 = key).map fun declaration => declaration.2

/-- The keys of declarations, each where it is declared first. -/
def declaredKeys (declarations : List (Text × Text)) : List Text :=
  (declarations.map fun declaration => declaration.1).eraseDups

/-- The mapping that declarations make: each key stands where it is declared first, with its value if
it is declared once, and with the list of all its values otherwise. -/
def declaredMapping (declarations : List (Text × Text)) : RawMapping :=
  (declaredKeys declarations).map fun key =>
    (key, match valuesUnder key declarations with
      | [value] => .str value
      | values => .ofTexts values)

namespace DocumentValue

/-- Further values come after those that are there. -/
theorem foldl_add_several (values more : List Text) :
    more.foldl add (several values) = several (values ++ more) := by
  induction more generalizing values with
  | nil => simp
  | cons value more ih =>
    have hadd : (several values).add value = several (values ++ [value]) := rfl
    rw [List.foldl_cons, hadd, ih, List.append_assoc, List.singleton_append]

/-- A first value and further ones are the values of one key. -/
theorem foldl_add_single (value : Text) (more : List Text) :
    more.foldl add (single value) = ofValues (value :: more) := by
  cases more with
  | nil => rfl
  | cons second more =>
    have hadd : (single value).add second = several [value, second] := rfl
    rw [List.foldl_cons, hadd, foldl_add_several]
    rfl

end DocumentValue

section Grouping

variable {key : Text} {declarations : List (Text × Text)}

/-- A declaration adds its value under its own key alone. -/
theorem valuesUnder_cons (key k value : Text) (declarations : List (Text × Text)) :
    valuesUnder key ((k, value) :: declarations) =
      if k = key then value :: valuesUnder key declarations else valuesUnder key declarations := by
  by_cases h : k = key <;> simp [valuesUnder, h]

/-- What is declared under other keys does not count. -/
theorem valuesUnder_filter_ne {other : Text} (h : key ≠ other)
    (declarations : List (Text × Text)) :
    valuesUnder key (declarations.filter fun declaration => declaration.1 ≠ other) =
      valuesUnder key declarations := by
  unfold valuesUnder
  rw [List.filter_filter]
  congr 1
  refine List.filter_congr fun declaration _ => ?_
  by_cases hkey : declaration.1 = key
  · simp [hkey, h]
  · simp [hkey]

/-- The first key comes first, and what else is declared under it adds no key. -/
theorem declaredKeys_cons (key value : Text) (declarations : List (Text × Text)) :
    declaredKeys ((key, value) :: declarations) =
      key :: declaredKeys (declarations.filter fun declaration => declaration.1 ≠ key) := by
  unfold declaredKeys
  rw [List.map_cons, List.eraseDups_cons, List.filter_map]
  congr 3
  refine List.filter_congr fun declaration _ => ?_
  by_cases h : declaration.1 = key <;> simp [h]

/-- Adding declarations to entries adds to the first of them what is declared under its key, and
groups the others behind it. -/
theorem foldl_putDeclaration_cons (v : DocumentValue) (entries : List (Text × DocumentValue)) :
    declarations.foldl (fun entries declaration =>
        putDeclaration declaration.1 declaration.2 entries) ((key, v) :: entries) =
      (key, (valuesUnder key declarations).foldl DocumentValue.add v) ::
        (declarations.filter fun declaration => declaration.1 ≠ key).foldl
          (fun entries declaration => putDeclaration declaration.1 declaration.2 entries)
          entries := by
  induction declarations generalizing v entries with
  | nil => rfl
  | cons declaration declarations ih =>
    obtain ⟨k, value⟩ := declaration
    rw [List.foldl_cons, valuesUnder_cons]
    by_cases h : k = key
    · have hput : putDeclaration k value ((key, v) :: entries) = (key, v.add value) :: entries := by
        rw [putDeclaration, if_pos h.symm]
      rw [if_pos h, hput, ih, List.foldl_cons, List.filter_cons_of_neg (by simp [h])]
    · have hput : putDeclaration k value ((key, v) :: entries) =
          (key, v) :: putDeclaration k value entries := by
        rw [putDeclaration, if_neg (Ne.symm h)]
      rw [if_neg h, hput, ih, List.filter_cons_of_pos (by simp [h]), List.foldl_cons]

/-- The first key of declarations is grouped with all that is declared under it. -/
theorem groupDeclarations_cons (key value : Text) (declarations : List (Text × Text)) :
    groupDeclarations ((key, value) :: declarations) =
      (key, .ofValues (value :: valuesUnder key declarations)) ::
        groupDeclarations (declarations.filter fun declaration => declaration.1 ≠ key) := by
  have hfirst : putDeclaration key value [] = [(key, .single value)] := rfl
  unfold groupDeclarations
  rw [List.foldl_cons, hfirst, foldl_putDeclaration_cons, DocumentValue.foldl_add_single]

/-- Grouped declarations are the keys, each where it is declared first, with all their values. -/
theorem groupDeclarations_eq (declarations : List (Text × Text)) :
    groupDeclarations declarations = (declaredKeys declarations).map fun key =>
      (key, .ofValues (valuesUnder key declarations)) := by
  match declarations with
  | [] => rfl
  | (first, value) :: declarations =>
    rw [groupDeclarations_cons, declaredKeys_cons, List.map_cons, valuesUnder_cons, if_pos rfl,
      groupDeclarations_eq (declarations.filter fun declaration => declaration.1 ≠ first)]
    congr 1
    refine List.map_congr_left fun key hkey => ?_
    have hother : key ≠ first := by
      obtain ⟨declaration, hmem, rfl⟩ := List.mem_map.mp (List.mem_eraseDups.mp hkey)
      simpa using (List.mem_filter.mp hmem).2
    rw [valuesUnder_filter_ne hother, valuesUnder_cons, if_neg (Ne.symm hother)]
termination_by declarations.length
decreasing_by exact Nat.lt_succ_of_le (List.length_filter_le _ _)

/-- A parser gives the mapping that the declarations make. -/
theorem ofGrouped_groupDeclarations (declarations : List (Text × Text)) :
    RawMapping.ofGrouped (groupDeclarations declarations) = declaredMapping declarations := by
  rw [groupDeclarations_eq, RawMapping.ofGrouped, List.map_map]
  refine List.map_congr_left fun key _ => ?_
  have hraw (values : List Text) : (DocumentValue.ofValues values).toRaw =
      match values with
      | [value] => .str value
      | values => .ofTexts values := by
    rcases values with _ | ⟨value, _ | ⟨second, values⟩⟩ <;> rfl
  exact congrArg (Prod.mk key) (hraw _)

end Grouping

/-- Declarations that come to something. -/
theorem eq_ok_of_toOption {declared : Except Failure (List (Text × Text))} {pairs : List (Text × Text)}
    (h : declared.toOption = some pairs) : declared = .ok pairs := by
  cases declared with
  | error failure => cases h
  | ok declared => exact congrArg Except.ok (Option.some.inj h)

namespace Parser

/-- Declarations are given as the mapping that they make. -/
theorem grouped_ok (declarations : List (Text × Text)) :
    grouped (.ok declarations) = .ok (declaredMapping declarations) :=
  congrArg Except.ok (ofGrouped_groupDeclarations declarations)

variable {encoding : Encoding} {content : List UInt8} {document : Text}

/-- The parser of flat documents groups the declarations of the decoded document. -/
theorem parse_properties (h : encoding.decode content = .ok document) (delimiter : Text) :
    (properties encoding).parse delimiter content = grouped (Properties.declarations document) := by
  change grouped (propertiesDeclarations encoding content) = _
  rw [propertiesDeclarations, h]

/-- The parser of documents with sections groups the declarations of the decoded document. -/
theorem parse_sections (h : encoding.decode content = .ok document) (delimiter : Text) :
    (sections encoding).parse delimiter content =
      grouped (Sections.declarations delimiter document) := by
  change grouped (sectionsDeclarations encoding delimiter content) = _
  rw [sectionsDeclarations, h]

end Parser

end ConfigNamespace
