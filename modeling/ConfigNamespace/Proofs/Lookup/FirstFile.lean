import ConfigNamespace.Proofs.Lookup.LocalWalk

/-!
# Readable documents

Beneath a directory, the document of a name is taken to be what stands under the first extension for
which anything does. Where this is a file it can be opened, and no file stands under an extension that
is tried before. But a directory is taken as well: it cannot be opened, and files under the extensions
behind its own are not found. So what is located is the first readable document of its name exactly if
it is no directory.
-/

namespace ConfigNamespace

open Operation

namespace Backing

/-- What stands under a name with an extension beneath a base. -/
def nodeUnder (b : Backing) (base name extension : Text) : Option Node :=
  b.world.nodeAt (.ofText (fileHandle base [] (name ++ extension)).location)

/-- Whether a handle is that of the first readable document of a name: a file stands there that can be
opened, under one of the extensions, and no file stands under an extension that is tried before. -/
inductive FirstFile (b : Backing) (base name : Text) : ResourceHandle → Prop
  /-- The file is the first one under the extensions in their order. -/
  | intro {earlier later : List Text} {extension : Text} {content : List UInt8}
    (horder : b.parsers.order = earlier ++ extension :: later)
    (hfile : b.nodeUnder base name extension = some (.file content))
    (hopens : ∀ s, (((b.locator .localPath).read
      (fileHandle base [] (name ++ extension))).outcome s).1 = .ok content)
    (hearlier : ∀ other ∈ earlier, ∀ content, b.nodeUnder base name other ≠ some (.file content)) :
    FirstFile b base name (fileHandle base [] (name ++ extension))

/-- Whether a handle is given for a name, from a session on: as that of its document, or as that of a
leaf. -/
def Locates (b : Backing) (base name delimiter : Text) (s : Session) (h : ResourceHandle) : Prop :=
  (((b.locator .localPath).locateDocument base name).outcome s).1 = .ok (some h) ∨
    (((b.locator .localPath).probe base name delimiter).outcome s).1 = .ok (.leaf, some h)

end Backing

namespace Locator

variable {b : Backing} {base name : Text}

section Access

variable {h : ResourceHandle}

/-- Whether something is present is what the file system tells, whatever was done before. -/
theorem outcome_isPresent_local (b : Backing) (h : ResourceHandle) (s : Session) :
    (((b.locator .localPath).isPresent h).outcome s).1 =
      (Backend.lookAt b.world (.ofText h.location)).map Option.isSome := by
  change (((Operation.ofExcept (Backend.lookAt b.world (.ofText h.location)) :
    Operation Session _) >>= fun found => pure found.isSome).outcome _).1 = _
  rw [outcome_bind, outcome_ofExcept]
  cases Backend.lookAt b.world (.ofText h.location) <;> rfl

/-- Whether something is a container is what the file system tells as well. -/
theorem outcome_isContainer_local (b : Backing) (h : ResourceHandle) (delimiter : Text) (s : Session) :
    (((b.locator .localPath).isContainer h delimiter).outcome s).1 =
      (Backend.lookAt b.world (.ofText h.location)).map fun found =>
        decide (found.map FileTree.node = some .directory) := by
  change (((Operation.ofExcept (Backend.lookAt b.world (.ofText h.location)) :
    Operation Session _) >>= _).outcome _).1 = _
  rw [outcome_bind, outcome_ofExcept]
  rcases Backend.lookAt b.world (.ofText h.location) with _ | _ | (content | entries) <;> rfl

/-- What stands at a handle is opened if it is a file, and refused if it is a directory. -/
theorem outcome_read_local {node : Node} (hnode : b.world.nodeAt (.ofText h.location) = some node)
    (s : Session) : (((b.locator .localPath).read h).outcome s).1 =
      match node with
      | .file content => .ok content
      | .directory => .error (.cannotOpen h.location) := by
  have hnull : ¬h.location.elem (CodePoint.ofNat 0) = true := by
    rw [List.elem_iff]
    exact World.null_not_mem_of_nodeAt (by rw [hnode]; rfl)
  obtain ⟨t, hlook, rfl⟩ := World.exists_look_of_nodeAt hnode
  change ((Backend.read b.world h .localPath).outcome _).1 = _
  rw [Backend.read, if_neg hnull, hlook]
  cases t <;> rfl

end Access

section Extensions

variable {extensions : List Text}

/-- Trying one more extension gives its handle if something stands there, and else goes on. -/
theorem outcome_firstDocument_cons (b : Backing) (base name extension : Text) (extensions : List Text)
    (s : Session) : ∃ t,
    (((b.locator .localPath).firstDocument base name (extension :: extensions)).outcome s).1 =
      match Backend.lookAt b.world (.ofText (fileHandle base [] (name ++ extension)).location) with
      | .ok (some _) => .ok (some (fileHandle base [] (name ++ extension)))
      | .ok none => (((b.locator .localPath).firstDocument base name extensions).outcome t).1
      | .error failure => .error failure := by
  have hchild : ((b.locator .localPath).child base (name ++ extension)).outcome s =
      (.ok (fileHandle base [] (name ++ extension)), s) := rfl
  have hasked := outcome_isPresent_local b (fileHandle base [] (name ++ extension)) s
  rcases hpresent : ((b.locator .localPath).isPresent
    (fileHandle base [] (name ++ extension))).outcome s with ⟨result, t⟩
  rw [hpresent] at hasked
  dsimp only at hasked
  refine ⟨t, ?_⟩
  rw [firstDocument, outcome_bind_ok hchild, outcome_bind, hpresent, hasked]
  rcases Backend.lookAt b.world _ with _ | _ | found <;> rfl

/-- What is found by trying extensions stands under one of them, and nothing under those before. -/
theorem exists_of_firstDocument {h : ResourceHandle} {s : Session}
    (hfound : (((b.locator .localPath).firstDocument base name extensions).outcome s).1 =
      .ok (some h)) :
    ∃ earlier extension later, extensions = earlier ++ extension :: later ∧
      h = fileHandle base [] (name ++ extension) ∧
      (∀ other ∈ earlier, b.nodeUnder base name other = none) ∧
      (b.nodeUnder base name extension).isSome := by
  induction extensions generalizing s with
  | nil => cases hfound
  | cons extension extensions ih =>
    obtain ⟨t, hstep⟩ := outcome_firstDocument_cons b base name extension extensions s
    rw [hstep] at hfound
    unfold Backend.lookAt at hfound
    cases hlook : b.world.look (.ofText (fileHandle base [] (name ++ extension)).location) with
    | tooLong =>
      rw [hlook] at hfound
      cases hfound
    | found t =>
      rw [hlook] at hfound
      cases hfound
      refine ⟨[], extension, extensions, rfl, rfl, nofun, ?_⟩
      rw [Backing.nodeUnder, World.nodeAt, hlook]
      rfl
    | missing =>
      rw [hlook] at hfound
      obtain ⟨earlier, found, later, rfl, rfl, hmissing, hstands⟩ := ih hfound
      have hfirst : b.nodeUnder base name extension = none := by
        rw [Backing.nodeUnder, World.nodeAt, hlook]
      exact ⟨extension :: earlier, found, later, rfl, rfl,
        List.forall_mem_cons.mpr ⟨hfirst, hmissing⟩, hstands⟩

/-- Where the file system answers, trying extensions finds the first one under which something
stands. -/
theorem outcome_firstDocument (hanswers : ∀ extension ∈ extensions,
      b.world.look (.ofText (fileHandle base [] (name ++ extension)).location) ≠ .tooLong)
    (s : Session) : (((b.locator .localPath).firstDocument base name extensions).outcome s).1 =
      .ok ((extensions.find? fun extension => (b.nodeUnder base name extension).isSome).map
        fun extension => fileHandle base [] (name ++ extension)) := by
  induction extensions generalizing s with
  | nil => rfl
  | cons extension extensions ih =>
    obtain ⟨hfirst, hothers⟩ := List.forall_mem_cons.mp hanswers
    obtain ⟨found, hlook, hnode⟩ := Backend.exists_lookAt hfirst
    obtain ⟨t, hstep⟩ := outcome_firstDocument_cons b base name extension extensions s
    have hunder : b.nodeUnder base name extension = found.map FileTree.node := hnode.symm
    rw [hstep, hlook, List.find?_cons, hunder]
    cases found with
    | none => exact ih hothers t
    | some t => rfl

end Extensions

section Probe

variable {delimiter : Text}

/-- What a probe answers that came to no container: the leaf that was located, if any was. -/
def leafOf : Option ResourceHandle → Location × Option ResourceHandle
  | some h => (.leaf, some h)
  | none => (.absent, none)

private theorem outcome_classified_false (bare : ResourceHandle) (s : Session) :
    (((b.locator .localPath).classified bare base name false).outcome s).1 =
      (((b.locator .localPath).locateDocument base name).outcome s).1.map leafOf := by
  rw [classified, if_neg (by simp), outcome_bind]
  rcases ((b.locator .localPath).locateDocument base name).outcome s with ⟨_ | _ | h, t⟩ <;> rfl

/-- A probe of a plain segment answers the container that stands there, and else what is located. -/
theorem outcome_probe_local (hplain : isPlainSegment name = true) (base delimiter : Text)
    (s : Session) : ∃ t, (((b.locator .localPath).probe base name delimiter).outcome s).1 =
      match Backend.lookAt b.world (.ofText (fileHandle base [] name).location) with
      | .error failure => .error failure
      | .ok found =>
        if found.map FileTree.node = some .directory then
          .ok (.container, some (fileHandle base [] name))
        else (((b.locator .localPath).locateDocument base name).outcome t).1.map leafOf := by
  have hchild : ((b.locator .localPath).child base name).outcome s =
      (.ok (fileHandle base [] name), s) := rfl
  have hasked := outcome_isPresent_local b (fileHandle base [] name) s
  rcases hpresent : ((b.locator .localPath).isPresent (fileHandle base [] name)).outcome s with
    ⟨result, u⟩
  have hkind := outcome_isContainer_local b (fileHandle base [] name) delimiter u
  rcases hcontainer : ((b.locator .localPath).isContainer (fileHandle base [] name)
    delimiter).outcome u with ⟨kind, t⟩
  rw [hpresent] at hasked
  rw [hcontainer] at hkind
  dsimp only at hasked hkind
  rw [probe_of_isPlainSegment hplain, outcome_bind_ok hchild, outcome_bind, hpresent, hasked]
  cases hlook : Backend.lookAt b.world (.ofText (fileHandle base [] name).location) with
  | error failure => exact ⟨t, rfl⟩
  | ok found =>
    rw [hlook] at hkind
    cases found with
    | none => exact ⟨u, outcome_classified_false (fileHandle base [] name) u⟩
    | some tree =>
      refine ⟨t, ?_⟩
      change ((_ >>= _ : Operation Session _).outcome u).1 = _
      rw [outcome_bind, hcontainer, hkind]
      dsimp only [Except.map]
      by_cases hdirectory : (some tree).map FileTree.node = some .directory
      · rw [if_pos hdirectory, decide_eq_true hdirectory]
        rfl
      · rw [if_neg hdirectory, decide_eq_false hdirectory]
        exact outcome_classified_false _ t

/-- What is given for a plain segment was located. -/
theorem exists_of_locates (hplain : isPlainSegment name = true) {s : Session} {h : ResourceHandle}
    (hgiven : b.Locates base name delimiter s h) :
    ∃ t, (((b.locator .localPath).locateDocument base name).outcome t).1 = .ok (some h) := by
  rcases hgiven with hlocated | hprobe
  · exact ⟨s, hlocated⟩
  · obtain ⟨t, hstep⟩ := outcome_probe_local (b := b) hplain base delimiter s
    rw [hstep] at hprobe
    refine ⟨t, ?_⟩
    split at hprobe
    · cases hprobe
    · split at hprobe
      · cases hprobe
      · rcases hresult : (((b.locator .localPath).locateDocument base name).outcome t).1 with
          failure | _ | found
        all_goals
          rw [hresult] at hprobe
          cases hprobe
        rfl

end Probe

end Locator

/-- A file stands at the handle of the first readable document. -/
theorem Backing.FirstFile.exists_content {b : Backing} {base name : Text} {h : ResourceHandle}
    (hfirst : b.FirstFile base name h) :
    ∃ content, b.world.nodeAt (.ofText h.location) = some (.file content) := by
  obtain ⟨-, hfile, -, -⟩ := hfirst
  exact ⟨_, hfile⟩

/-- The first extension under which anything stands is that of the first readable document, if a file
stands there. -/
theorem Backing.FirstFile.of_missing {b : Backing} {base name extension : Text}
    {earlier later : List Text} {content : List UInt8}
    (horder : b.parsers.order = earlier ++ extension :: later)
    (hmissing : ∀ other ∈ earlier, b.nodeUnder base name other = none)
    (hfile : b.nodeUnder base name extension = some (.file content)) :
    b.FirstFile base name (fileHandle base [] (name ++ extension)) := by
  refine .intro horder hfile (Locator.outcome_read_local hfile) fun other hmem content hother => ?_
  rw [hmissing other hmem] at hother
  cases hother

namespace Locator

/-- Where no directory stands under any of the extensions, the first one under which anything stands is
that of the first readable document. -/
theorem find?_eq_some_iff_firstFile {b : Backing} {base name : Text}
    (hfiles : ∀ extension ∈ b.parsers.order, b.nodeUnder base name extension ≠ some .directory)
    (h : ResourceHandle) :
    ((b.parsers.order.find? fun extension => (b.nodeUnder base name extension).isSome).map
      fun extension => fileHandle base [] (name ++ extension)) = some h ↔ b.FirstFile base name h := by
  rw [Option.map_eq_some_iff]
  constructor
  · rintro ⟨extension, hfound, rfl⟩
    obtain ⟨hstands, earlier, later, horder, hmissing⟩ := List.find?_eq_some_iff_append.mp hfound
    obtain ⟨node, hnode⟩ := Option.isSome_iff_exists.mp hstands
    cases node with
    | directory => exact absurd hnode (hfiles extension (by simp [horder]))
    | file content =>
      exact .of_missing horder (fun other hmem => by simpa using hmissing other hmem) hnode
  · rintro @⟨earlier, later, extension, content, horder, hfile, -, hearlier⟩
    refine ⟨extension, List.find?_eq_some_iff_append.mpr ⟨by rw [hfile]; rfl, earlier, later, horder,
      fun other hmem => ?_⟩, rfl⟩
    have hother : other ∈ b.parsers.order := by
      rw [horder]
      exact List.mem_append_left _ hmem
    cases hnode : b.nodeUnder base name other with
    | none => rfl
    | some node =>
      cases node with
      | directory => exact absurd hnode (hfiles other hother)
      | file content => exact absurd hnode (hearlier other hmem content)

/-- What is located for a plain segment beneath a directory is its first readable document exactly if it
is no directory, and a directory cannot be opened. Where no directory has the name of a document and
the file system answers, the first readable document is located, and it is a leaf unless there is a
container; where there is none, nothing is located. -/
theorem located_firstFile_iff (b : Backing) (base : Text) {name : Text}
    (hplain : isPlainSegment name = true) (delimiter : Text) :
    (∀ s h, b.Locates base name delimiter s h →
      (b.FirstFile base name h ↔ b.world.nodeAt (.ofText h.location) ≠ some .directory) ∧
      (b.world.nodeAt (.ofText h.location) = some .directory → ∀ t,
        (((b.locator .localPath).read h).outcome t).1 = .error (.cannotOpen h.location))) ∧
    ((∀ extension ∈ b.parsers.order, b.nodeUnder base name extension ≠ some .directory ∧
        b.world.look (.ofText (fileHandle base [] (name ++ extension)).location) ≠ .tooLong) →
      ∃ found, (∀ h, found = some h ↔ b.FirstFile base name h) ∧
        (∀ s, (((b.locator .localPath).locateDocument base name).outcome s).1 = .ok found) ∧
        (b.world.look (.ofText (fileHandle base [] name).location) ≠ .tooLong →
          b.world.nodeAt (.ofText (fileHandle base [] name).location) ≠ some .directory →
          ∀ s, (((b.locator .localPath).probe base name delimiter).outcome s).1 =
            .ok (leafOf found))) := by
  constructor
  · intro s h hgiven
    obtain ⟨t, hlocated⟩ := exists_of_locates hplain hgiven
    obtain ⟨earlier, extension, later, horder, rfl, hmissing, hstands⟩ :=
      exists_of_firstDocument hlocated
    refine ⟨⟨fun hfirst hdirectory => ?_, fun hnot => ?_⟩, fun hdirectory =>
      outcome_read_local hdirectory⟩
    · obtain ⟨content, hfile⟩ := hfirst.exists_content
      rw [hdirectory] at hfile
      cases hfile
    · obtain ⟨node, hnode⟩ := Option.isSome_iff_exists.mp hstands
      cases node with
      | directory => exact absurd hnode hnot
      | file content => exact .of_missing horder hmissing hnode
  · intro hextensions
    have hlocated := outcome_firstDocument fun extension hmem => (hextensions extension hmem).2
    refine ⟨_, find?_eq_some_iff_firstFile fun extension hmem => (hextensions extension hmem).1,
      hlocated, fun hanswers hbare s => ?_⟩
    obtain ⟨t, hstep⟩ := outcome_probe_local (b := b) hplain base delimiter s
    obtain ⟨found, hlook, hnode⟩ := Backend.exists_lookAt hanswers
    rw [← hnode] at hbare
    rw [hstep, hlook]
    dsimp only
    rw [if_neg hbare]
    exact congrArg (Except.map leafOf) (hlocated t)

/-- In the twofold world, the document of the directory is a leaf that can be opened. -/
theorem located_firstFile_twofold :
    let b : Backing := ⟨⟨none, text ".", .whole 10, none, text "composite", []⟩, .default, .twofold⟩
    let h : ResourceHandle := ⟨.localPath, text "M/app.ini"⟩
    b.Locates (text "M") (text "app") (text ".") .empty h ∧ b.FirstFile (text "M") (text "app") h ∧
      ∀ s, (((b.locator .localPath).probe (text "M") (text "app") (text ".")).outcome s).1 =
        .ok (.leaf, some h) := by
  intro b h
  have hgiven : b.Locates (text "M") (text "app") (text ".") .empty h := .inl rfl
  have hfiles : ∀ extension ∈ b.parsers.order,
      b.nodeUnder (text "M") (text "app") extension ≠ some .directory ∧
        b.world.look (.ofText (fileHandle (text "M") [] (text "app" ++ extension)).location) ≠
          .tooLong := by decide +kernel
  have hplain : isPlainSegment (text "app") = true := by decide
  obtain ⟨hlocated, hextent⟩ := located_firstFile_iff b (text "M") hplain (text ".")
  have hfirst := (hlocated .empty h hgiven).1.mpr (by decide +kernel)
  obtain ⟨found, hfound, -, hprobe⟩ := hextent hfiles
  obtain rfl := (hfound h).mpr hfirst
  exact ⟨hgiven, hfirst, hprobe (by decide +kernel) (by decide +kernel)⟩

/-- A directory with the name of a document is a leaf, though it cannot be opened, and hides the
document with an extension behind its own. -/
theorem not_located_firstFile :
    let w : World := .ofFiles (.directory [(text "M", .directory [(text "app.xml", .directory []),
      (text "app.ini", .file (.bytes (Text.utf8 (text "k=1\n"))))])])
    let b : Backing := ⟨⟨none, text ".", .whole 10, none, text "composite", []⟩, .default, w⟩
    let h : ResourceHandle := ⟨.localPath, text "M/app.xml"⟩
    isPlainSegment (text "app") = true ∧
      (((b.locator .localPath).probe (text "M") (text "app") (text ".")).outcome .empty).1 =
        .ok (.leaf, some h) ∧
      (((b.locator .localPath).locateDocument (text "M") (text "app")).outcome .empty).1 =
        .ok (some h) ∧
      (((b.locator .localPath).read h).outcome .empty).1 = .error (.cannotOpen (text "M/app.xml")) ∧
      ¬b.FirstFile (text "M") (text "app") h ∧
      b.FirstFile (text "M") (text "app") ⟨.localPath, text "M/app.ini"⟩ := by
  intro w b h
  refine ⟨by decide, rfl, rfl, rfl, fun hfirst => ?_, ?_⟩
  · obtain ⟨content, hfile⟩ := hfirst.exists_content
    cases hfile
  · have hfile : b.nodeUnder (text "M") (text "app") (text ".ini") =
        some (.file (Text.utf8 (text "k=1\n"))) := rfl
    have horder : b.parsers.order = [text ".xml"] ++ text ".ini" :: [text ".properties"] := rfl
    have hdirectory : b.nodeUnder (text "M") (text "app") (text ".xml") = some .directory := rfl
    refine .intro horder hfile (outcome_read_local hfile) fun other hmem content hother => ?_
    rw [List.mem_singleton.mp hmem, hdirectory] at hother
    cases hother

end Locator

end ConfigNamespace
