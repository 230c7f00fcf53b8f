import Mathlib
import ConfigNamespace.Format.Parser
import ConfigNamespace.Proofs.Document.Placed
import ConfigNamespace.Proofs.Text.Pieces

/-!
# What a tree of elements declares

The declarations of a document in markup are collected while its elements are descended, and a key
grows by one name on the way to each element. What comes of it is said here without the descent: the
elements in the order in which they open, each with the tags that lead to it, declare their leading
text and their attributes one after the other.
-/

namespace ConfigNamespace.Element

/-- What an element declares by itself, where a path of tags leads to it: its leading text without
the blanks around it, unless nothing is left, and then its attributes in order. -/
def placedAt : List Text × Element → List Placed
  | (path, node _ attributes leading _) =>
    (if leading.trim = [] then [] else [⟨path, leading.trim⟩]) ++
      attributes.map fun attr => ⟨path ++ [attr.1], attr.2⟩

mutual

/-- The elements of a tree that stands within the elements of a path, in the order in which they
open. Each comes with the tags that lead to it, its own at the end. -/
def preorder : (path : List Text) → Element → List (List Text × Element)
  | path, node tag attributes leading children =>
    (path ++ [tag], node tag attributes leading children) :: preorderAll (path ++ [tag]) children

/-- The elements of several trees that stand one after the other within the elements of a path. -/
def preorderAll : (path : List Text) → List Element → List (List Text × Element)
  | _, [] => []
  | path, child :: children => preorder path child ++ preorderAll path children

end

/-- What a tree of elements declares, in the order of the document. -/
def placed (root : Element) : List Placed := (root.preorder []).flatMap placedAt

mutual

/-- An element whose key joins the tags that lead to it declares what the elements of its tree do,
in the order in which they open. -/
theorem declarationsUnder_eq (delimiter : Text) (path : List Text) (e : Element) :
    e.declarationsUnder delimiter (joinKey delimiter (path ++ [e.tag])) =
      ((e.preorder path).flatMap placedAt).map (Placed.joined delimiter) := by
  match e with
  | node tag attributes leading children =>
    have hpath : path ++ [tag] ≠ [] := List.append_ne_nil_of_right_ne_nil path (List.cons_ne_nil tag [])
    have hchildren := childDeclarations_eq delimiter hpath children
    have hattributes :
        attributes.map (fun attr => (joinKey delimiter (path ++ [tag]) ++ delimiter ++ attr.1, attr.2)) =
          (attributes.map fun attr => (⟨path ++ [tag] ++ [attr.1], attr.2⟩ : Placed)).map
            (Placed.joined delimiter) := by
      rw [List.map_map]
      refine List.map_congr_left fun attr _ => ?_
      have hkey : joinKey delimiter (path ++ [tag] ++ [attr.1]) = _ :=
        Text.joinWith_append_singleton delimiter attr.1 hpath
      rw [Function.comp_apply, Placed.joined, hkey]
      rfl
    have hown : (placedAt (path ++ [tag], node tag attributes leading children)).map
        (Placed.joined delimiter) =
          (if leading.trim = [] then [] else [(joinKey delimiter (path ++ [tag]), leading.trim)]) ++
            attributes.map fun attr =>
              (joinKey delimiter (path ++ [tag]) ++ delimiter ++ attr.1, attr.2) := by
      rw [placedAt, List.map_append, hattributes]
      split <;> rfl
    rw [Element.tag, declarationsUnder, preorder, List.flatMap_cons, List.map_append, hown,
      ← hchildren]

/-- Trees within the element at the end of a path declare what their elements do, one tree after the
other. -/
theorem childDeclarations_eq (delimiter : Text) {path : List Text} (hpath : path ≠ [])
    (children : List Element) :
    childDeclarations delimiter (joinKey delimiter path) children =
      ((preorderAll path children).flatMap placedAt).map (Placed.joined delimiter) := by
  match children with
  | [] => rfl
  | child :: children =>
    have hkey : joinKey delimiter (path ++ [child.tag]) =
        joinKey delimiter path ++ delimiter ++ child.tag :=
      Text.joinWith_append_singleton delimiter child.tag hpath
    rw [childDeclarations, preorderAll, List.flatMap_append, List.map_append, ← hkey,
      declarationsUnder_eq delimiter path child, childDeclarations_eq delimiter hpath children]

end

/-- A tree of elements declares what its elements do, in the order in which they open, under keys that
join the tags that lead to them. -/
theorem declarations_eq (delimiter : Text) (root : Element) :
    root.declarations delimiter = root.placed.map (Placed.joined delimiter) :=
  declarationsUnder_eq delimiter [] root

/-- A document in markup is flattened and grouped if its elements are not nested too deep. -/
theorem parse_of_readMarkup (delimiter : Text) {content : List UInt8} {root : Element}
    (hread : readMarkup content = .ok root) :
    Parser.markup.parse delimiter content =
      if root.depth ≤ room then
        .ok (RawMapping.ofGrouped (groupDeclarations (root.declarations delimiter)))
      else .error .elementsTooDeep := by
  change Parser.grouped (Parser.markupDeclarations delimiter content) = _
  rw [Parser.markupDeclarations, hread]
  dsimp only
  split <;> rfl

/-- A document in markup is parsed to the mapping that its elements make, in the order in which they
open: each key stands where it is declared first, with all that is declared under it. There is room
for so many elements within one another; where more are, parsing fails, whatever they declare. -/
theorem parse_preorder (delimiter : Text) {content : List UInt8} {root : Element}
    (hread : readMarkup content = .ok root) :
    Parser.markup.parse delimiter content =
      if root.depth ≤ room then .ok (declaredMapping (root.placed.map (Placed.joined delimiter)))
      else .error .elementsTooDeep := by
  rw [parse_of_readMarkup delimiter hread, ← declarations_eq, ← ofGrouped_groupDeclarations]

/-- A document in which an attribute and a child have one name, equal tags stand apart, and a child's
tag holds the delimiter so that its key is that of an attribute two levels on. -/
theorem parse_preorder_colliding :
    readMarkup (text "<r>t<a b='1'/><a.b>2</a.b><a b='3'/></r>").utf8 =
        .ok (node (text "r") [] (text "t") [node (text "a") [(text "b", text "1")] [] [],
          node (text "a.b") [] (text "2") [], node (text "a") [(text "b", text "3")] [] []]) ∧
      Parser.markup.parse (text ".") (text "<r>t<a b='1'/><a.b>2</a.b><a b='3'/></r>").utf8 =
        .ok [(text "r", .str (text "t")),
          (text "r.a.b", .list [.str (text "1"), .str (text "2"), .str (text "3")])] := by
  have hread : readMarkup (text "<r>t<a b='1'/><a.b>2</a.b><a b='3'/></r>").utf8 =
      .ok (node (text "r") [] (text "t") [node (text "a") [(text "b", text "1")] [] [],
        node (text "a.b") [] (text "2") [], node (text "a") [(text "b", text "3")] [] []]) := by cbv
  refine ⟨hread, (parse_preorder (text ".") hread).trans ?_⟩
  rw [if_pos (by decide)]
  rfl

/-- A document of elements within one another, as many as are asked for. -/
def nestedContent (count : Nat) : List UInt8 :=
  Text.utf8 ((List.replicate count (text "<a>")).flatten ++
    (List.replicate count (text "</a>")).flatten)

/-- A thousand elements within one another make a tree, but no mapping. -/
theorem not_parse_preorder :
    ∃ root, readMarkup (nestedContent 1000) = .ok root ∧ room < root.depth ∧
      Parser.markup.parse (text ".") (nestedContent 1000) = .error .elementsTooDeep ∧
      Parser.markup.parse (text ".") (nestedContent 1000) ≠
        .ok (declaredMapping (root.placed.map (Placed.joined (text ".")))) := by
  have hdeep : (match readMarkup (nestedContent 1000) with
      | .ok root => decide (room < root.depth)
      | .error _ => false) = true := by decide +kernel
  cases hread : readMarkup (nestedContent 1000) with
  | error error =>
    rw [hread] at hdeep
    cases hdeep
  | ok root =>
    rw [hread] at hdeep
    have hdepth : room < root.depth := of_decide_eq_true hdeep
    have hparse : Parser.markup.parse (text ".") (nestedContent 1000) = .error .elementsTooDeep := by
      rw [parse_of_readMarkup (text ".") hread, if_neg (Nat.not_le.mpr hdepth)]
    refine ⟨root, rfl, hdepth, hparse, ?_⟩
    rw [hparse]
    nofun

end ConfigNamespace.Element
