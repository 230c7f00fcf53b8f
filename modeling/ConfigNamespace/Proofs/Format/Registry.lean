import ConfigNamespace.Proofs.Keyed
import ConfigNamespace.Proofs.Lookup.Handles
import ConfigNamespace.Proofs.Resource.Place
import ConfigNamespace.Proofs.Text.Case
import ConfigNamespace.Proofs.World.Merged

/-!
# The parser of a document that was found

Documents are searched by trying extensions in their order, and parsed by the first registered
extension that their name ends in. A name that a document was found by ends in the extension that was
tried. So that extension's parser is used, the one registered last for it, unless another
extension that the name ends in as well was registered before.
-/

namespace ConfigNamespace

open Operation

namespace ParserRegistry

/-- What is supplied for an extension, if it is a parser: the extension as it is kept, and the parser. -/
def registration? : Text × Supplied Parser → Option (Text × Parser)
  | (extension, .usable parser) => some (normalizeExtension extension, parser)
  | (_, .other _) => none

/-- Whether a registry can come to be by registering parsers in turn: those that it is made of, and then
one after another. -/
inductive Made : ParserRegistry → Keyed Parser → Prop
  /-- The registry is made of parsers, with an order and a fallback. -/
  | make {parsers : List (Text × Supplied Parser)} {order : List Text} {fallback : Parser}
    {registry : ParserRegistry} (h : make parsers order fallback = .ok registry) :
    Made registry (parsers.filterMap registration?)
  /-- One more parser is registered, with a priority or without. -/
  | register {registry registry' : ParserRegistry} {history : Keyed Parser} {views : Nat → Text}
    {extension : Text} {parser : Supplied Parser} {priority : Option Int} (h : Made registry history)
    (hchanged : registry.registerSupplied views extension parser priority = .ok registry') :
    Made registry' (history ++ [(extension, parser)].filterMap registration?)

/-- Whether an extension is shadowed in a name: the name ends in one that was registered before. -/
def Shadowed (history : Keyed Parser) (extension name : Text) : Prop :=
  ∃ earlier ∈ history.keys.takeWhile (· ≠ extension), Text.endsWith name.toLower earlier = true

/-- What the parts of a registry have to do with the registrations that it comes from. -/
structure Records (registry : ParserRegistry) (history : Keyed Parser) : Prop where
  /-- The parsers were put one after another. -/
  parsers : registry.parsers = Keyed.putAll history []
  /-- Every extension that is tried was registered. -/
  order : ∀ extension ∈ registry.order, extension ∈ history.keys
  /-- Extensions are kept in lower case. -/
  lower : ∀ extension ∈ history.keys, Text.IsLower extension

/-- A normalized extension is in lower case. -/
theorem isLower_normalizeExtension (extension : Text) : Text.IsLower (normalizeExtension extension) := by
  unfold normalizeExtension
  dsimp only
  split
  · exact Text.isLower_toLower extension
  · intro c hc
    rcases List.mem_append.mp hc with hc | hc
    · exact (show ∀ c ∈ text ".", c.IsLower by decide +kernel) c hc
    · exact Text.isLower_toLower extension c hc

/-- Registered extensions are in lower case. -/
theorem isLower_of_registration? {entries : List (Text × Supplied Parser)} {extension : Text}
    (h : extension ∈ Keyed.keys (entries.filterMap registration?)) : Text.IsLower extension := by
  obtain ⟨entry, hentry, rfl⟩ := List.mem_map.mp h
  obtain ⟨⟨given, parser⟩, -, hgiven⟩ := List.mem_filterMap.mp hentry
  cases parser with
  | usable parser =>
    cases hgiven
    exact isLower_normalizeExtension given
  | other value => cases hgiven

/-- What is in an order after an insertion was inserted or there before. -/
theorem mem_insertAt {position : Int} {extension other : Text} {order : List Text}
    (h : other ∈ insertAt position extension order) : other = extension ∨ other ∈ order := by
  unfold insertAt at h
  rcases List.mem_append.mp h with h | h
  · exact .inr (List.mem_of_mem_take h)
  · exact (List.mem_cons.mp h).imp_right List.mem_of_mem_drop

/-- What a registration does to the parsers and to the order. -/
theorem registerSupplied_eq_ok {registry registry' : ParserRegistry} {views : Nat → Text}
    {extension : Text} {parser : Supplied Parser} {priority : Option Int}
    (h : registry.registerSupplied views extension parser priority = .ok registry') :
    ∃ entry, registration? (extension, parser) = some entry ∧
      registry'.parsers = Keyed.put entry.1 entry.2 registry.parsers ∧
      ∀ other ∈ registry'.order, other = entry.1 ∨ other ∈ registry.order := by
  cases parser with
  | other value => cases h
  | usable parser =>
    cases h
    refine ⟨_, rfl, rfl, fun other hother => ?_⟩
    cases priority with
    | none => exact .inr hother
    | some position => exact (mem_insertAt hother).imp_right List.mem_of_mem_erase

/-- Registering several parsers puts them one after another, with nothing new to try. -/
theorem registerAll_eq_ok {registry registry' : ParserRegistry}
    {entries : List (Text × Supplied Parser)} (h : registry.registerAll entries = .ok registry') :
    registry'.parsers = Keyed.putAll (entries.filterMap registration?) registry.parsers := by
  induction entries generalizing registry with
  | nil =>
    cases h
    rfl
  | cons entry entries ih =>
    obtain ⟨extension, parser⟩ := entry
    unfold registerAll at h
    split at h
    next changed hchanged =>
      obtain ⟨entry, hentry, hparsers, -⟩ := registerSupplied_eq_ok hchanged
      rw [ih h, hparsers, List.filterMap_cons, hentry]
      rfl
    · cases h

/-- A registry records what it is made with. -/
theorem Records.of_make {parsers : List (Text × Supplied Parser)} {order : List Text}
    {fallback : Parser} {registry : ParserRegistry} (h : make parsers order fallback = .ok registry) :
    registry.Records (parsers.filterMap registration?) := by
  unfold make at h
  split at h
  · cases h
  next filled hfilled =>
    have hparsers := registerAll_eq_ok hfilled
    dsimp only at h
    split at h
    next hunknown =>
      cases h
      refine ⟨hparsers, fun extension hextension => ?_, fun _ => isLower_of_registration?⟩
      have hknown : filled.parsers.has extension = true := by
        simpa using List.filter_eq_nil_iff.mp hunknown extension hextension
      rw [Keyed.has, hparsers, Keyed.get?_putAll, Keyed.get?_nil, Option.or_none,
        Keyed.isSome_get?_iff, Keyed.keys, List.map_reverse, List.mem_reverse] at hknown
      exact hknown
    · cases h

/-- A registry records all that it was made and written with. -/
theorem Made.records {registry : ParserRegistry} {history : Keyed Parser} (h : registry.Made history) :
    registry.Records history := by
  induction h with
  | make h => exact .of_make h
  | @register registry registry' history views extension parser priority _ hchanged ih =>
    obtain ⟨entry, hentry, hparsers, horder⟩ := registerSupplied_eq_ok hchanged
    have hlast : [(extension, parser)].filterMap registration? = [entry] := by
      rw [List.filterMap_cons, hentry]
      rfl
    have hlower (other : Text) (h : other ∈ Keyed.keys [entry]) : Text.IsLower other := by
      rw [← hlast] at h
      exact isLower_of_registration? h
    rw [hlast]
    have hkeys : Keyed.keys (history ++ [entry]) = history.keys ++ Keyed.keys [entry] := List.map_append
    refine ⟨?_, fun other hother => ?_, fun other hother => ?_⟩
    · rw [hparsers, ih.parsers, Keyed.putAll, Keyed.putAll, List.foldl_append]
      rfl
    · rw [hkeys]
      rcases horder other hother with rfl | hother
      · exact List.mem_append_right _ (List.mem_singleton_self _)
      · exact List.mem_append_left _ (ih.order other hother)
    · rw [hkeys] at hother
      rcases List.mem_append.mp hother with hother | hother
      · exact ih.lower other hother
      · exact hlower other hother

section Choice

variable {registry : ParserRegistry} {history : Keyed Parser}

/-- The parser for a name is the one registered last for the first registered extension that the name
ends in. -/
theorem Records.parserFor_eq (h : registry.Records history) (name : Text) :
    registry.parserFor name = ((history.keys.find? (Text.endsWith name.toLower)).bind
      (Keyed.get? history.reverse)).getD registry.fallback := by
  have hfound := Keyed.find?_putAll (Text.endsWith name.toLower) history
  unfold parserFor
  rw [h.parsers, hfound]
  cases history.keys.find? (Text.endsWith name.toLower) with
  | none => rfl
  | some extension => cases hparser : Keyed.get? history.reverse extension <;> simp [hparser]

/-- An extension that is not shadowed in a name that ends in it has its parser used. -/
theorem Records.parserFor_of_endsWith (h : registry.Records history) {extension name : Text}
    (hregistered : extension ∈ history.keys) (hends : Text.endsWith name.toLower extension = true)
    (hshadowed : ¬ Shadowed history extension name) :
    Keyed.get? history.reverse extension = some (registry.parserFor name) := by
  obtain ⟨before, after, hkeys, hfresh⟩ := List.eq_append_cons_of_mem hregistered
  have hbefore : history.keys.takeWhile (· ≠ extension) = before := by
    rw [hkeys, List.takeWhile_append_of_pos, List.takeWhile_cons_of_neg (by simp), List.append_nil]
    intro earlier hearlier
    exact decide_eq_true fun heq => hfresh (heq ▸ hearlier)
  have hfirst : history.keys.find? (Text.endsWith name.toLower) = some extension := by
    refine List.find?_eq_some_iff_append.mpr ⟨hends, before, after, hkeys, fun earlier hearlier => ?_⟩
    rw [Bool.not_eq_true']
    exact Bool.eq_false_iff.mpr fun h => hshadowed ⟨earlier, hbefore ▸ hearlier, h⟩
  have hparser : (Keyed.get? history.reverse extension).isSome := by
    rw [Keyed.isSome_get?_iff, Keyed.keys, List.map_reverse, List.mem_reverse]
    exact hregistered
  obtain ⟨parser, hparser⟩ := Option.isSome_iff_exists.mp hparser
  rw [h.parserFor_eq, hfirst, Option.bind_some, hparser]
  rfl

end Choice

end ParserRegistry

/-- Reads the document at a handle with a parser. -/
def Locator.readWith (l : Locator) (parser : Parser) (h : ResourceHandle) (delimiter : Text) :
    Operation Session Document := do
  let content ← l.read h
  let raw ← Operation.ofExcept (parser.parse delimiter content)
  Operation.ofExcept (Document.ofRaw h raw)

namespace ParserRegistry

/-- However a registry comes to be, the parser for a name with one of the extensions that are tried is
the one registered last for this extension, if it is not shadowed. A document that is located was
found by one of the extensions. Its name ends in the one it was found by, as far as this has no
separators and, in a URL, needs no encoding; and a document whose name ends in it is read with the
parser registered last for it, if it is not shadowed. -/
theorem parser_of_located {registry : ParserRegistry} {history : Keyed Parser}
    (hmade : registry.Made history) :
    (∀ extension ∈ registry.order, ∀ name, ¬ Shadowed history extension (name ++ extension) →
      Keyed.get? history.reverse extension = some (registry.parserFor (name ++ extension))) ∧
    ∀ (e : Environment) (p : Protocol) (w : World) (base name : Text) (h : ResourceHandle),
      let l : Locator := ⟨Locator.backendFor e p, registry, w⟩
      (l.locateDocument base name).MayGive (some h) →
      (∃ extension ∈ registry.order, l.backend.child base (name ++ extension) = .ok h) ∧
      ∀ extension ∈ registry.order, l.backend.child base (name ++ extension) = .ok h →
        (isPlainSegment name →
          (∀ c ∈ extension, c ≠ CodePoint.ofChar '/' ∧ c ≠ CodePoint.backslash) →
          (p = .remote → percentEncode extension = extension) → extension <:+ h.name) ∧
        (extension <:+ h.name → ¬ Shadowed history extension h.name →
          ∃ parser, Keyed.get? history.reverse extension = some parser ∧
            ∀ delimiter, l.readDocument h delimiter = l.readWith parser h delimiter) := by
  have hrecords := hmade.records
  have hchosen {extension : Text} (hextension : extension ∈ registry.order) (name : Text)
      (hshadowed : ¬ Shadowed history extension (name ++ extension)) :
      Keyed.get? history.reverse extension = some (registry.parserFor (name ++ extension)) := by
    have hregistered := hrecords.order extension hextension
    have hends := Text.suffix_toLower_append name (hrecords.lower extension hregistered)
    exact hrecords.parserFor_of_endsWith hregistered (Text.endsWith_iff.mpr hends) hshadowed
  refine ⟨fun extension hextension name => hchosen hextension name, ?_⟩
  intro e p w base name h l hlocated
  refine ⟨Locator.child_of_firstDocument hlocated, fun extension hextension hchild => ⟨?_, ?_⟩⟩
  · exact fun hname hplain hremote =>
      Locator.suffix_name_of_child e hname hplain hremote hchild
  · rintro ⟨before, hname⟩ hshadowed
    rw [← hname] at hshadowed
    refine ⟨_, hchosen hextension before hshadowed, fun delimiter => ?_⟩
    rw [hname]
    rfl

/-- A document in a directory, found by the second extension, for which another parser was registered
after the registry was made. -/
theorem parser_of_located_twofold :
    let made : ParserRegistry := ⟨[(text ".xml", .markup), (text ".ini", .properties .utf8)],
      [text ".xml", text ".ini"], .properties .utf8⟩
    let registry := made.register (text "INI") (.sections .utf8) none
    let history : Keyed Parser := [(text ".xml", .markup), (text ".ini", .properties .utf8),
      (text ".ini", .sections .utf8)]
    let l : Locator := ⟨.localPath, registry, World.twofold⟩
    let h : ResourceHandle := ⟨.localPath, text "M/app.ini"⟩
    registry.Made history ∧ (l.locateDocument (text "M") (text "app")).MayGive (some h) ∧
      ¬ Shadowed history (text ".ini") h.name ∧
      some (registry.parserFor (text "app.ini")) = some (.sections .utf8) ∧
      ∃ parser, Keyed.get? history.reverse (text ".ini") = some parser ∧
        ∀ delimiter, l.readDocument h delimiter = l.readWith parser h delimiter := by
  intro made registry history l h
  have hmade : made.Made [(text ".xml", .markup), (text ".ini", .properties .utf8)] := by
    have hparsers : ParserRegistry.make [(text "XML", .usable .markup),
        (text ".ini", .usable (.properties .utf8))] [text ".xml", text "ini"] (.properties .utf8) =
        .ok made := by rfl
    exact .make hparsers
  have hregistered : registry.Made history := by
    have hchanged : made.registerSupplied (fun _ => []) (text "INI") (.usable (.sections .utf8)) none =
        .ok registry := rfl
    exact .register hmade hchanged
  have hlocated : (l.locateDocument (text "M") (text "app")).MayGive (some h) := ⟨.empty, by rfl⟩
  have hshadowed : ¬ Shadowed history (text ".ini") (text "app.ini") := by
    rintro ⟨earlier, hearlier, hends⟩
    have hfirst : earlier = text ".xml" := List.mem_singleton.mp hearlier
    rw [hfirst] at hends
    exact absurd hends (by decide +kernel)
  have hextension : text ".ini" ∈ registry.order := .tail _ (.head _)
  obtain ⟨hchosen, hread⟩ := parser_of_located hregistered
  have hfound := (hread ⟨none, text ".", .whole 10, none, text "composite", []⟩ .localPath World.twofold
    (text "M") (text "app") h hlocated).2 _ hextension rfl
  exact ⟨hregistered, hlocated, hshadowed, (hchosen _ hextension (text "app") hshadowed).symm,
    hfound.2 (hfound.1 (by decide) (by decide) nofun) hshadowed⟩

/-- An extension that ends in another one, registered before, is shadowed: its documents are parsed as
those of the other one. Where an extension has a separator, or is encoded in a URL, the name of a
document that it locates does not end in it, and the fallback parses the document. -/
theorem not_parser_of_located :
    (¬ ∀ (registry : ParserRegistry) (history : Keyed Parser), registry.Made history →
      ∀ extension ∈ registry.order, ∀ name, name ≠ [] →
        Keyed.get? history.reverse extension = some (registry.parserFor (name ++ extension))) ∧
    ∀ p ∈ [Protocol.localPath, .remote], ¬ ∀ (registry : ParserRegistry) (history : Keyed Parser),
      registry.Made history → ∀ (e : Environment) (w : World) (base name : Text) (h : ResourceHandle),
        let l : Locator := ⟨Locator.backendFor e p, registry, w⟩
        (l.locateDocument base name).MayGive (some h) → ∀ extension ∈ registry.order,
          l.backend.child base (name ++ extension) = .ok h →
          ¬ Shadowed history extension (name ++ extension) →
          Keyed.get? history.reverse extension = some (registry.parserFor h.name) := by
  have hmade (extensions : List Text) (registry : ParserRegistry)
      (hparsers : ParserRegistry.make (extensions.map fun extension =>
        (extension, .usable ⟨extension, fun _ _ => .ok []⟩)) extensions.reverse
        (.properties .utf8) = .ok registry) : registry.Made _ := .make hparsers
  let e : Environment := ⟨none, text ".", .whole 10, none, text "composite", []⟩
  have hunshadowed {extension name : Text} {parser : Parser} :
      ¬ Shadowed [(extension, parser)] extension name := by
    rintro ⟨earlier, hearlier, -⟩
    rw [Keyed.keys, List.map_singleton, List.takeWhile_cons_of_neg (by simp)] at hearlier
    cases hearlier
  refine ⟨fun hchosen => ?_, fun p hp => ?_⟩
  · have hnames := congrArg (Option.map Parser.name) (hchosen _ _
      (hmade [text ".ini", text ".x.ini"] _ rfl) (text ".x.ini") (.head _) (text "a") (by decide))
    exact absurd hnames (by decide +kernel)
  · rcases List.mem_cons.mp hp with rfl | hp
    · intro hread
      let w : World :=
        .ofFiles (.directory [(text "app.d", .directory [(text "x", .file (.bytes []))])])
      have hnames := congrArg (Option.map Parser.name) (hread _ _ (hmade [text ".d/x"] _ rfl) e w
        [] (text "app") ⟨.localPath, text "app.d/x"⟩ ⟨.empty, by rfl⟩ _ (.head _) rfl hunshadowed)
      exact absurd hnames (by decide +kernel)
    · cases List.mem_singleton.mp hp
      intro hread
      let w : World := .ofPages [(text "http://h/app.%20x", ⟨.status 200, .status 200, []⟩)]
      have hnames := congrArg (Option.map Parser.name) (hread _ _ (hmade [text ". x"] _ rfl) e w
        (text "http://h") (text "app") ⟨.remote, text "http://h/app.%20x"⟩ ⟨.empty, by rfl⟩ _ (.head _)
        rfl hunshadowed)
      exact absurd hnames (by decide +kernel)

end ParserRegistry

end ConfigNamespace
