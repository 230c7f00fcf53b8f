import ConfigNamespace.Proofs.Document.Respelled
import ConfigNamespace.Proofs.Markup.Element

/-!
# Documents with a structure

Documents in markup and documents with sections declare their values under paths of names, and the
delimiter only joins the names of a path. So two delimiters that occur in no name make the same
mapping, with the one delimiter in its keys where the other one makes the other.
-/

namespace ConfigNamespace

/-- The formats that have a structure. -/
inductive StructuredFormat
  /-- Markup. -/
  | markup
  /-- Sections, in an encoding. -/
  | sections (encoding : Encoding)

/-- The names of a tree: the tags of its elements and the names of their attributes. -/
def Element.names (root : Element) : List Text :=
  (root.preorder []).flatMap fun
    | (_, node tag attributes _ _) => tag :: attributes.map fun attr => attr.1

namespace Sections

/-- The name that a line gives to a section or a value. -/
def Line.name? : Line → Option Text
  | header name => some name
  | entry key _ => some key
  | _ => none

/-- The names of a document with sections: those of its sections and its keys. -/
def names (content : Text) : List Text :=
  content.lines.filterMap fun raw => (readLine raw.trim).name?

end Sections

namespace StructuredFormat

/-- The parser of a format. -/
def parser : StructuredFormat → Parser
  | markup => .markup
  | sections encoding => .sections encoding

/-- What a document declares for a delimiter. -/
def declarations (format : StructuredFormat) (content : List UInt8) (delimiter : Text) :
    Except Failure (List (Text × Text)) :=
  match format with
  | markup => Parser.markupDeclarations delimiter content
  | sections encoding => Parser.sectionsDeclarations encoding delimiter content

/-- The names that stand in a document. What cannot be read has none. -/
def names (format : StructuredFormat) (content : List UInt8) : List Text :=
  match format with
  | markup => (readMarkup content).toOption.elim [] Element.names
  | sections encoding => (encoding.decode content).toOption.elim [] Sections.names

end StructuredFormat

/-- Whether the declarations for each delimiter are those of the same values, which are placed under
paths of given names. -/
inductive IsPlaced (names : List Text) (declared : Text → Except Failure (List (Text × Text))) : Prop
  /-- The same failure for all delimiters. -/
  | fails (failure : Failure) (h : ∀ delimiter, declared delimiter = .error failure)
  /-- The same placed values for all delimiters. -/
  | places (placed : List Placed) (hpaths : ∀ p ∈ placed, ∀ name ∈ p.path, name ∈ names)
    (h : ∀ delimiter, declared delimiter = .ok (placed.map (Placed.joined delimiter)))

namespace Element

mutual

/-- The tags that lead to an element of a tree are those of the path to the tree, and tags of the
tree. -/
theorem mem_path_of_mem_preorder {path : List Text} {e : Element} {entry : List Text × Element}
    (hentry : entry ∈ e.preorder path) {name : Text} (hname : name ∈ entry.1) :
    name ∈ path ∨ ∃ other ∈ e.preorder path, other.2.tag = name := by
  match e with
  | node tag attributes leading children =>
    have hown : name ∈ path ++ [tag] →
        name ∈ path ∨ ∃ other ∈ (node tag attributes leading children).preorder path,
          other.2.tag = name := by
      intro hmem
      rcases List.mem_append.mp hmem with hpath | htag
      · exact .inl hpath
      · exact .inr ⟨_, List.mem_cons_self, (List.mem_singleton.mp htag).symm⟩
    rcases List.mem_cons.mp hentry with rfl | hchild
    · exact hown hname
    · rcases mem_path_of_mem_preorderAll hchild hname with hpath | ⟨other, hother, htag⟩
      · exact hown hpath
      · exact .inr ⟨other, List.mem_cons_of_mem _ hother, htag⟩

/-- The tags that lead to an element of several trees are those of the path to them, and tags of
these trees. -/
theorem mem_path_of_mem_preorderAll {path : List Text} {children : List Element}
    {entry : List Text × Element} (hentry : entry ∈ preorderAll path children) {name : Text}
    (hname : name ∈ entry.1) :
    name ∈ path ∨ ∃ other ∈ preorderAll path children, other.2.tag = name := by
  match children with
  | [] => cases hentry
  | child :: children =>
    rcases List.mem_append.mp hentry with hfirst | hrest
    · refine (mem_path_of_mem_preorder hfirst hname).imp_right fun ⟨other, hother, htag⟩ => ?_
      exact ⟨other, List.mem_append_left _ hother, htag⟩
    · refine (mem_path_of_mem_preorderAll hrest hname).imp_right fun ⟨other, hother, htag⟩ => ?_
      exact ⟨other, List.mem_append_right _ hother, htag⟩

end

/-- The names of an element are names of the tree. -/
theorem mem_names {root : Element} {path : List Text} {tag leading : Text}
    {attributes : List (Text × Text)} {children : List Element}
    (h : (path, node tag attributes leading children) ∈ root.preorder []) :
    tag ∈ root.names ∧ ∀ attr ∈ attributes, attr.1 ∈ root.names :=
  ⟨List.mem_flatMap.mpr ⟨_, h, List.mem_cons_self⟩, fun _ hattr =>
    List.mem_flatMap.mpr ⟨_, h, List.mem_cons_of_mem _ (List.mem_map_of_mem hattr)⟩⟩

/-- A tree of elements declares values under paths of its names. -/
theorem isPlaced_declarations (root : Element) :
    IsPlaced root.names fun delimiter => .ok (root.declarations delimiter) := by
  refine .places root.placed (fun p hp name hname => ?_) fun delimiter => by rw [declarations_eq]
  obtain ⟨⟨path, e⟩, hentry, hplaced⟩ := List.mem_flatMap.mp hp
  have hpath (name : Text) (hname : name ∈ path) : name ∈ root.names := by
    rcases mem_path_of_mem_preorder hentry hname with hnone | ⟨⟨path', e'⟩, hother, rfl⟩
    · cases hnone
    · obtain ⟨tag, attributes, leading, children⟩ := e'
      exact (mem_names hother).1
  obtain ⟨tag, attributes, leading, children⟩ := e
  rcases List.mem_append.mp hplaced with hleading | hattribute
  · split at hleading
    · cases hleading
    · obtain rfl := List.mem_singleton.mp hleading
      exact hpath name hname
  · obtain ⟨attr, hattr, rfl⟩ := List.mem_map.mp hattribute
    rcases List.mem_append.mp hname with hmem | hmem
    · exact hpath name hmem
    · obtain rfl := List.mem_singleton.mp hmem
      exact (mem_names hentry).2 attr hattr

end Element

namespace Sections

/-- The key of an entry within a section joins the names that lead to it. -/
theorem sectionKey_eq_joinKey (delimiter name key : Text) :
    sectionKey delimiter name key = joinKey delimiter (if name = [] then [key] else [name, key]) := by
  unfold sectionKey
  split <;> rfl

/-- Lines within a section declare values under paths of the name of the section and the names that
the lines give. -/
theorem isPlaced_declarationsFrom {names : List Text} {name : Text} {lines : List Text}
    (hname : name = [] ∨ name ∈ names)
    (hlines : ∀ raw ∈ lines, ∀ n ∈ (readLine raw.trim).name?, n ∈ names) (number : Nat) :
    IsPlaced names fun delimiter => declarationsFrom delimiter number name lines := by
  induction lines generalizing number name with
  | nil => exact .places [] (fun p hp => by cases hp) fun _ => rfl
  | cons raw rest ih =>
    obtain ⟨hraw, hrest⟩ := List.forall_mem_cons.mp hlines
    simp only [declarationsFrom]
    cases hline : readLine raw.trim with
    | passedOver => exact ih hname hrest (number + 1)
    | header name' => exact ih (.inr (hraw name' (by rw [hline]; rfl))) hrest (number + 1)
    | faulty fault => exact .fails _ fun _ => rfl
    | entry key value =>
      rcases ih hname hrest (number + 1) with ⟨failure, h⟩ | ⟨placed, hpaths, h⟩
      · exact .fails failure fun delimiter => by simp only [h delimiter]
      · refine .places (⟨if name = [] then [key] else [name, key], value⟩ :: placed) ?_
          fun delimiter => by
            simp only [h delimiter, sectionKey_eq_joinKey, List.map_cons, Placed.joined]
        refine List.forall_mem_cons.mpr ⟨fun n hn => ?_, hpaths⟩
        have hkey : key ∈ names := hraw key (by rw [hline]; rfl)
        split at hn
        next => exact List.mem_singleton.mp hn ▸ hkey
        next hsection =>
          rcases List.mem_pair.mp hn with rfl | rfl
          · exact hname.resolve_left hsection
          · exact hkey

/-- A document with sections declares values under paths of its names. -/
theorem isPlaced_declarations (content : Text) :
    IsPlaced (names content) fun delimiter => declarations delimiter content :=
  isPlaced_declarationsFrom (.inl rfl)
    (fun raw hraw _ hn => List.mem_filterMap.mpr ⟨raw, hraw, hn⟩) 1

end Sections

namespace StructuredFormat

/-- A document declares values under paths of its names. -/
theorem isPlaced_declarations (format : StructuredFormat) (content : List UInt8) :
    IsPlaced (format.names content) (format.declarations content) := by
  cases format with
  | markup =>
    change IsPlaced ((readMarkup content).toOption.elim [] Element.names)
      fun delimiter => Parser.markupDeclarations delimiter content
    unfold Parser.markupDeclarations
    cases readMarkup content with
    | error error => exact .fails _ fun _ => rfl
    | ok root =>
      by_cases hdepth : root.depth ≤ Element.room
      · simp only [if_pos hdepth]
        exact root.isPlaced_declarations
      · simp only [if_neg hdepth]
        exact .fails _ fun _ => rfl
  | sections encoding =>
    change IsPlaced ((encoding.decode content).toOption.elim [] Sections.names)
      fun delimiter => Parser.sectionsDeclarations encoding delimiter content
    unfold Parser.sectionsDeclarations
    cases encoding.decode content with
    | error error => exact .fails _ fun _ => rfl
    | ok content => exact Sections.isPlaced_declarations content

/-- The parser of a format groups what a document declares. -/
theorem parse_eq (format : StructuredFormat) (content : List UInt8) (delimiter : Text) :
    format.parser.parse delimiter content = Parser.grouped (format.declarations content delimiter) := by
  cases format <;> rfl

end StructuredFormat

section Delimiters

variable {names : List Text} {declared : Text → Except Failure (List (Text × Text))}
  {c₁ c₂ : CodePoint}

/-- Whether neither of two delimiters occurs in any of several names. -/
def FreeOf (c₁ c₂ : CodePoint) (names : List Text) : Prop := ∀ name ∈ names, c₁ ∉ name ∧ c₂ ∉ name

instance (c₁ c₂ : CodePoint) (names : List Text) : Decidable (FreeOf c₁ c₂ names) := by
  unfold FreeOf
  infer_instance

/-- Swapping two delimiters changes no name without them. -/
theorem FreeOf.map_swap (h : FreeOf c₁ c₂ names) (name : Text) (hname : name ∈ names) :
    name.map (Equiv.swap c₁ c₂) = name :=
  Text.map_swap_eq_self (h name hname).1 (h name hname).2

/-- Names without two characters are joined by the one as they are by the other one, with the two
swapped. -/
theorem joinKey_swap {path : List Text} (hpath : FreeOf c₁ c₂ path) :
    joinKey [c₂] path = (joinKey [c₁] path).map (Equiv.swap c₁ c₂) := by
  have hnames : path.map (List.map (Equiv.swap c₁ c₂)) = path :=
    (List.map_congr_left hpath.map_swap).trans (List.map_id path)
  have hjoin := Text.joinWith_map (σ := Equiv.swap c₁ c₂) [c₁] path
  rw [hnames, List.map_singleton, Equiv.swap_apply_left] at hjoin
  exact hjoin

/-- What is declared for one delimiter is what is declared for another one, with the two swapped in
the keys, and the second one does not occur in the keys for the first. -/
theorem IsPlaced.swap (h : IsPlaced names declared) (hnames : FreeOf c₁ c₂ names) :
    declared [c₂] = (declared [c₁]).map (Keyed.mapKeys (List.map (Equiv.swap c₁ c₂))) ∧
      ∀ declarations, declared [c₁] = .ok declarations →
        ∀ declaration ∈ declarations, c₂ ∈ declaration.1 → c₁ = c₂ := by
  rcases h with ⟨failure, h⟩ | ⟨placed, hpaths, h⟩
  · refine ⟨by rw [h, h]; rfl, fun declarations hdeclarations => ?_⟩
    rw [h] at hdeclarations
    cases hdeclarations
  · constructor
    · rw [h, h, Except.map, Keyed.mapKeys, List.map_map]
      refine congrArg Except.ok (List.map_congr_left fun p hp => ?_)
      exact congrArg (·, p.value) (joinKey_swap fun name hname => hnames name (hpaths p hp name hname))
    · intro declarations hdeclarations declaration hmem hc₂
      rw [h] at hdeclarations
      cases hdeclarations
      obtain ⟨p, hp, rfl⟩ := List.mem_map.mp hmem
      rcases Text.mem_of_mem_joinWith hc₂ with hdelimiter | ⟨name, hname, hc₂⟩
      · exact (List.mem_singleton.mp hdelimiter).symm
      · exact absurd hc₂ (hnames name (hpaths p hp name hname)).2

end Delimiters

end ConfigNamespace
