import ConfigNamespace.Proofs.Lookup.Handles

/-!
# How reading fails

Reading documents fails because a resource cannot be reached or read, or because of what it holds. With
the parsers that come with the library nothing else can go wrong, so walking down a key fails in these
ways alone.
-/

namespace ConfigNamespace

open Operation

namespace Failure

/-- Whether a resource cannot be reached or read. -/
def isOfResource : Failure → Bool
  | timeout _ _ _ | unreachable _ _ | unusableTimeout _ | unencodable _ | cannotOpen _
  | notOnSearchPath _ | refusedStatus _ _ | notProvided | nullInPath | pathTooLong _ => true
  | _ => false

/-- Whether the content of a document cannot be used. -/
def isOfContent : Failure → Bool
  | undecodable _ _ | line _ _ | markup _ | elementsTooDeep | valueNotText _ _ _ => true
  | _ => false

/-- Whether a document cannot be read. -/
def isOfReading (failure : Failure) : Bool := failure.isOfResource || failure.isOfContent

/-- A failure of a resource is one of reading. -/
theorem isOfReading_of_resource {failure : Failure} (h : failure.isOfResource = true) :
    failure.isOfReading = true := by rw [isOfReading, h, Bool.true_or]

/-- A failure of content is one of reading. -/
theorem isOfReading_of_content {failure : Failure} (h : failure.isOfContent = true) :
    failure.isOfReading = true := by rw [isOfReading, h, Bool.or_true]

end Failure

namespace Backend

/-- Backends fail because of resources alone. -/
abbrev FailsOfResource {α : Type} (op : Operation Session α) : Prop :=
  op.FailsOnly fun failure => failure.isOfResource = true

variable (w : World)

/-- Looking at a path fails over the resource. -/
theorem isOfResource_of_lookAt {path : ResourcePath} {failure : Failure}
    (h : lookAt w path = .error failure) : failure.isOfResource = true := by
  unfold lookAt at h
  split at h <;> cases h
  rfl

/-- A handle is refused over the resource. -/
theorem isOfResource_of_child {backend : Backend} {base name : Text} {failure : Failure}
    (h : backend.child base name = .error failure) : failure.isOfResource = true := by
  cases backend with
  | localPath => cases h
  | bundled searchPath => cases h
  | remote timeout =>
    unfold child at h
    dsimp only at h
    split at h <;> cases h
    rfl
  | unprovided =>
    cases h
    rfl

/-- Reading what was found fails over the resource. -/
theorem isOfResource_of_read {location : Text} {target : Target} {failure : Failure}
    (h : target.read location = .error failure) : failure.isOfResource = true := by
  unfold Target.read at h
  split at h
  · cases h
  · cases h
    rfl
  · split at h <;> cases h
    rfl

/-- Opening an archive does not fail. -/
theorem openArchive_fails (path : Text) (entries : List (Text × List UInt8)) :
    FailsOfResource (openArchive path entries) := by
  refine .bind .get fun s _ => ?_
  split
  · exact .pure _
  · exact .bind (.modify _) fun _ _ => .pure _

/-- Taking an entry of a search path for a root fails over resources. -/
theorem searchRoot?_fails (entry : Text) : FailsOfResource (searchRoot? w entry) := by
  refine .bind (.ofExcept fun _ => isOfResource_of_lookAt w) fun found _ => ?_
  split
  · exact .pure _
  · exact .bind (openArchive_fails _ _) fun _ _ => .pure _
  · exact .pure _

/-- Following names beneath a root fails over the resource. -/
theorem isOfResource_of_targetIn? {names : List Text} {root : SearchRoot} {failure : Failure}
    (h : targetIn? w names root = .error failure) : failure.isOfResource = true := by
  cases root with
  | directory path =>
    exact isOfResource_of_lookAt w (eq_error_of_map h)
  | archive archive => cases h

/-- Searching along a path fails over resources. -/
theorem search?_fails (names entries : List Text) : FailsOfResource (search? w names entries) := by
  induction entries with
  | nil => exact .pure _
  | cons entry entries ih =>
    refine .bind (searchRoot?_fails w entry) fun root _ => ?_
    cases root with
    | none => exact ih
    | some root =>
      refine .bind (.ofExcept fun _ => isOfResource_of_targetIn? w) fun target _ => ?_
      cases target with
      | none => exact ih
      | some target => exact .pure _

/-- Finding a location fails over resources. -/
theorem find?_fails (entries : List Text) (location : Text) :
    FailsOfResource (find? w entries location) := by
  unfold find?
  split
  · exact .pure _
  · exact search?_fails w _ _

/-- A request fails over the resource. -/
theorem request_fails (timeout : Quantity) (method : RequestMethod) (url : Text) :
    FailsOfResource (request w timeout method url) := by
  refine .bind (.modify _) fun _ _ => ?_
  split
  · exact .throw rfl
  dsimp only
  split
  · exact .pure _
  · exact .bind nofun fun _ _ => .throw rfl
  · exact .throw rfl

/-- Asking whether a resource exists fails over the resource. -/
theorem isPresent_fails (h : ResourceHandle) (backend : Backend) :
    FailsOfResource (backend.isPresent w h) := by
  cases backend with
  | localPath => exact .bind (.ofExcept fun _ => isOfResource_of_lookAt w) fun _ _ => .pure _
  | bundled searchPath => exact .bind (find?_fails w _ _) fun _ _ => .pure _
  | remote timeout =>
    refine .bind (request_fails w _ _ _) fun asked _ => .ite (fun _ => ?_) fun _ => ?_
    · exact .bind (request_fails w _ _ _) fun _ _ => .bind nofun fun _ _ => .pure _
    · exact .bind (.pure _) fun _ _ => .bind nofun fun _ _ => .pure _
  | unprovided => exact .throw rfl

/-- Reading a resource fails over the resource. -/
theorem read_fails (h : ResourceHandle) (backend : Backend) :
    FailsOfResource (backend.read w h) := by
  cases backend with
  | localPath =>
    refine .ite (fun _ => .throw rfl) fun _ => ?_
    split
    · exact .pure _
    · exact .throw rfl
  | bundled searchPath =>
    refine .bind (find?_fails w _ _) fun target _ => ?_
    cases target with
    | none => exact .throw rfl
    | some target => exact .ofExcept fun _ => isOfResource_of_read
  | remote timeout =>
    exact .bind (request_fails w _ _ _) fun _ _ => .ite (fun _ => .pure _) fun _ => .throw rfl
  | unprovided => exact .throw rfl

end Backend

/-- The parsers that come with the library, in any encoding. -/
inductive Parser.IsBuiltin : Parser → Prop
  /-- The parser of flat documents. -/
  | properties (encoding : Encoding) : IsBuiltin (.properties encoding)
  /-- The parser of documents with sections. -/
  | sections (encoding : Encoding) : IsBuiltin (.sections encoding)
  /-- The parser of documents in markup. -/
  | markup : IsBuiltin .markup

/-- Whether a registry holds no parsers but those that come with the library. -/
structure ParserRegistry.IsBuiltin (registry : ParserRegistry) : Prop where
  /-- The parsers of extensions. -/
  parsers : ∀ entry ∈ registry.parsers, entry.2.IsBuiltin
  /-- The parser of other names. -/
  fallback : registry.fallback.IsBuiltin

/-- The registry that comes with the library holds its parsers. -/
theorem ParserRegistry.isBuiltin_default : default.IsBuiltin := by
  refine ⟨fun entry hentry => ?_, .properties .utf8⟩
  simp only [default, List.mem_cons, List.not_mem_nil, or_false] at hentry
  rcases hentry with rfl | rfl | rfl
  · exact .markup
  · exact .sections .utf8
  · exact .properties .utf8

namespace Properties

/-- A line that declares nothing has a fault. -/
theorem exists_line_of_declaration {line : NumberedLine} {failure : Failure}
    (h : declaration line = .error failure) : ∃ number fault, failure = .line number fault := by
  unfold declaration at h
  dsimp only at h
  split at h
  · cases h
    exact ⟨_, _, rfl⟩
  · split at h <;> cases h <;> exact ⟨_, _, rfl⟩

/-- Lines that cannot be read have one with a fault. -/
theorem exists_line_of_declarationsOf {lines : List NumberedLine} {failure : Failure}
    (h : declarationsOf lines = .error failure) : ∃ number fault, failure = .line number fault := by
  induction lines with
  | nil => cases h
  | cons line lines ih =>
    unfold declarationsOf at h
    split at h
    next hfirst =>
      cases h
      exact exists_line_of_declaration hfirst
    · split at h
      next hrest =>
        cases h
        exact ih hrest
      · cases h

end Properties

/-- Lines that cannot be read have one with a fault. -/
theorem Sections.exists_line_of_declarationsFrom {delimiter name : Text} {number : Nat}
    {lines : List Text} {failure : Failure}
    (h : declarationsFrom delimiter number name lines = .error failure) :
    ∃ number fault, failure = .line number fault := by
  induction lines generalizing number name with
  | nil => cases h
  | cons line lines ih =>
    unfold declarationsFrom at h
    split at h
    · exact ih h
    · exact ih h
    · cases h
      exact ⟨_, _, rfl⟩
    · split at h
      · cases h
      next hrest =>
        cases h
        exact ih hrest

/-- A parser that comes with the library fails because of the content alone. -/
theorem Parser.IsBuiltin.isOfContent {parser : Parser} (hparser : parser.IsBuiltin)
    {delimiter : Text} {content : List UInt8} {failure : Failure}
    (h : parser.parse delimiter content = .error failure) : failure.isOfContent = true := by
  have hgrouped {declarations : Except Failure (List (Text × Text))}
      (hdeclarations : ∀ failure, declarations = .error failure → failure.isOfContent = true)
      (h : grouped declarations = .error failure) : failure.isOfContent = true :=
    hdeclarations failure (eq_error_of_map h)
  cases hparser with
  | properties encoding =>
    refine hgrouped (fun raised hraised => ?_) h
    unfold propertiesDeclarations at hraised
    split at hraised
    · cases hraised
      rfl
    · obtain ⟨_, _, rfl⟩ := Properties.exists_line_of_declarationsOf hraised
      rfl
  | sections encoding =>
    refine hgrouped (fun raised hraised => ?_) h
    unfold sectionsDeclarations at hraised
    split at hraised
    · cases hraised
      rfl
    · obtain ⟨_, _, rfl⟩ := Sections.exists_line_of_declarationsFrom hraised
      rfl
  | markup =>
    refine hgrouped (fun raised hraised => ?_) h
    unfold markupDeclarations at hraised
    split at hraised
    · cases hraised
      rfl
    · split at hraised <;> cases hraised
      rfl

/-- A registry of built-in parsers takes a built-in one for each name. -/
theorem ParserRegistry.IsBuiltin.parserFor {registry : ParserRegistry} (h : registry.IsBuiltin)
    (name : Text) : (registry.parserFor name).IsBuiltin := by
  unfold ParserRegistry.parserFor
  split
  next hfound => exact h.parsers _ (List.mem_of_find?_eq_some hfound)
  · exact h.fallback

/-- The values of a document fail over the content. -/
theorem Document.isOfContent_of_entriesOfRaw {location : Text} {raw : RawMapping}
    {failure : Failure} (h : entriesOfRaw location raw = .error failure) :
    failure.isOfContent = true := by
  induction raw with
  | nil => cases h
  | cons entry raw ih =>
    unfold entriesOfRaw at h
    split at h
    · cases h
      rfl
    · split at h
      · cases h
      next hrest =>
        cases h
        exact ih hrest

namespace Locator

/-- Locators fail because documents cannot be read. -/
abbrev FailsOfReading {α : Type} (op : Operation Session α) : Prop :=
  op.FailsOnly fun failure => failure.isOfReading = true

variable {l : Locator}

/-- Looking for the handle of a name fails as reading does. -/
theorem child_fails (base name : Text) : FailsOfReading (l.child base name) :=
  .ofExcept fun _ hchild => Failure.isOfReading_of_resource (Backend.isOfResource_of_child hchild)

/-- Asking whether a resource exists fails as reading does. -/
theorem isPresent_fails (h : ResourceHandle) : FailsOfReading (l.isPresent h) :=
  .bind (.modify _) fun _ _ =>
    (Backend.isPresent_fails _ _ _).mono fun _ => Failure.isOfReading_of_resource

/-- Trying extensions fails as reading does. -/
theorem firstDocument_fails (base name : Text) (extensions : List Text) :
    FailsOfReading (l.firstDocument base name extensions) := by
  induction extensions with
  | nil => exact .pure _
  | cons extension extensions ih =>
    refine .bind (child_fails _ _) fun h _ => .bind (isPresent_fails h) fun _ _ => ?_
    exact .ite (fun _ => .pure _) fun _ => ih

/-- Falling back fails as reading does. -/
theorem fallBack_fails (path : Text) (remainder : List Text) :
    FailsOfReading (l.fallBack path remainder) := by
  refine .bind (firstDocument_fails _ _ _) fun found _ => ?_
  cases found with
  | none => exact .pure _
  | some h => exact .bind nofun fun _ _ => .pure _

variable (hparsers : l.parsers.IsBuiltin)
include hparsers

/-- Loading a document fails as reading does. -/
theorem load_fails (h : ResourceHandle) (delimiter : Text) :
    FailsOfReading (l.load h delimiter) := by
  refine .bind .get fun s _ => ?_
  split
  · exact .pure _
  · refine .bind (.bind ?_ fun _ _ => .bind (.ofExcept ?_) fun raw _ => .ofExcept ?_) fun _ _ =>
      .bind (.modify _) fun _ _ => .bind nofun fun _ _ => .pure _
    · exact .bind (.modify _) fun _ _ =>
        (Backend.read_fails _ _ _).mono fun _ => Failure.isOfReading_of_resource
    · exact fun _ hparse =>
        Failure.isOfReading_of_content ((hparsers.parserFor _).isOfContent hparse)
    · exact fun _ hraw => Failure.isOfReading_of_content
        (Document.isOfContent_of_entriesOfRaw (eq_error_of_map hraw))

/-- Where reading tells whether there is a container, it only fails as reading does. -/
theorem seemsContainer_fails (h : ResourceHandle) (delimiter : Text) :
    FailsOfReading (l.seemsContainer h delimiter) := by
  refine .bind (.attempt _) fun result hresult => ?_
  cases result with
  | ok d =>
    refine .ite (fun _ => .bind nofun fun _ _ => .pure _) fun _ => ?_
    exact .ite (fun _ => .bind nofun fun _ _ => .pure _) fun _ => .pure _
  | error failure =>
    obtain ⟨s, hs⟩ := hresult
    have hload := load_fails hparsers h delimiter s failure (Except.ok.inj hs)
    exact .ite (fun _ => .bind nofun fun _ _ => .pure _) fun _ => .throw hload

/-- Asking whether a resource is a container fails as reading does. -/
theorem isContainer_fails (h : ResourceHandle) (delimiter : Text) :
    FailsOfReading (l.isContainer h delimiter) := by
  refine .bind (.modify _) fun _ _ => ?_
  split
  · refine .bind (.ofExcept fun _ hlook =>
      Failure.isOfReading_of_resource (Backend.isOfResource_of_lookAt _ hlook)) fun found _ => ?_
    cases found <;> exact .pure _
  · exact .throw rfl
  · exact seemsContainer_fails hparsers h delimiter

/-- A probe fails as reading does. -/
theorem probe_fails (base segment delimiter : Text) :
    FailsOfReading (l.probe base segment delimiter) := by
  have hclassified (bare : ResourceHandle) (container : Bool) :
      FailsOfReading (l.classified bare base segment container) := by
    refine .ite (fun _ => .pure _) fun _ => .bind (firstDocument_fails _ _ _) fun found _ => ?_
    cases found <;> exact .pure _
  refine .ite (fun _ => .bind nofun fun _ _ => .pure _) fun _ => ?_
  refine .bind (child_fails _ _) fun bare _ => .bind (isPresent_fails bare) fun _ _ => ?_
  refine .ite (fun _ => ?_) fun _ => ?_
  · exact .bind (isContainer_fails hparsers bare delimiter) fun _ _ => hclassified bare _
  · exact .bind (.pure _) fun _ _ => hclassified bare _

/-- Walking down a key fails because documents cannot be read. -/
theorem walk_fails (delimiter path : Text) (segments : List Text) :
    FailsOfReading (l.walk delimiter path segments) := by
  induction segments generalizing path with
  | nil => exact fallBack_fails _ _
  | cons segment segments ih =>
    refine .bind (probe_fails hparsers _ _ _) fun found _ => ?_
    split
    · exact ih _
    · exact .bind nofun fun _ _ => .pure _
    · exact fallBack_fails _ _

end Locator

end ConfigNamespace
