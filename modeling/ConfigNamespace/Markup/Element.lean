import ConfigNamespace.Markup.Content
import ConfigNamespace.Text.Blank

/-!
# Elements

A document in markup is a tree of elements. Flattened, it is a list of declarations: each element
declares its leading text, its attributes and what its children declare, under the path of tags from
the root. Only so many elements may be nested in one another.
-/

namespace ConfigNamespace

/-- An element: its tag, its attributes in order, the text before its first child, and its
children. -/
inductive Element
  /-- An element. -/
  | node (tag : Text) (attributes : List (Text × Text)) (leading : Text) (children : List Element)

namespace Element

/-- The tag of an element. -/
def tag : Element → Text
  | node tag _ _ _ => tag

/-- An element in the making: what is known of it, with text and children in reverse. -/
structure Draft where
  /-- The tag. -/
  tag : Text
  /-- The attributes. -/
  attributes : List (Text × Text)
  /-- The pieces of the text before the first child, the last first. -/
  leading : List Text
  /-- The children, the last first. -/
  children : List Element

/-- The element that a draft has become. -/
def Draft.finish (d : Draft) : Element :=
  node d.tag d.attributes (d.leading.reverse.flatMap id) d.children.reverse

/-- Builds the tree of events. The open elements are drafts, the innermost first. -/
def build : List Draft → List MarkupEvent → Option Element
  | _, [] => none
  | drafts, .opened tag attributes :: events => build (⟨tag, attributes, [], []⟩ :: drafts) events
  | [], _ :: _ => none
  | draft :: drafts, .characters content :: events =>
    build ((if draft.children.isEmpty then { draft with leading := content :: draft.leading }
      else draft) :: drafts) events
  | [draft], .closed :: _ => some draft.finish
  | draft :: outer :: drafts, .closed :: events =>
    build ({ outer with children := draft.finish :: outer.children } :: drafts) events

/-- The tree of the events of a document. -/
def ofEvents? (events : List MarkupEvent) : Option Element := build [] events

mutual

/-- What an element declares under a key: its trimmed leading text unless that is empty, its
attributes, and what its children declare. -/
def declarationsUnder (delimiter : Text) : (key : Text) → Element → List (Text × Text)
  | key, node _ attributes leading children =>
    (if leading.trim = [] then [] else [(key, leading.trim)]) ++
      attributes.map (fun attr => (key ++ delimiter ++ attr.1, attr.2)) ++
      childDeclarations delimiter key children

/-- What the children of an element with the given key declare. -/
def childDeclarations (delimiter : Text) : (key : Text) → List Element → List (Text × Text)
  | _, [] => []
  | key, child :: children =>
    declarationsUnder delimiter (key ++ delimiter ++ child.tag) child ++
      childDeclarations delimiter key children

end

/-- What a tree of elements declares. -/
def declarations (delimiter : Text) (root : Element) : List (Text × Text) :=
  declarationsUnder delimiter root.tag root

mutual

/-- How many elements of a tree are nested in one another where most are. -/
def depth : Element → Nat
  | node _ _ _ children => childrenDepth children + 1

/-- How many elements of several trees are nested in one another where most are. -/
def childrenDepth : List Element → Nat
  | [] => 0
  | child :: children => max (depth child) (childrenDepth children)

end

/-- How many elements may be nested in one another. A tree is flattened by a call for each element
within that for the element around it, and the runtime ends calls about a thousand levels deep. -/
def room : Nat := 980

end Element

end ConfigNamespace
