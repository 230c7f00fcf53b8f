import ConfigNamespace.Proofs.Lookup.Stored
import ConfigNamespace.Proofs.Namespace.Scope

/-!
# Stored values are found

Every value that a document holds is found under its path: the names of the directories that lead to
the document, the name of the document, and the key of the value, with delimiters between them. The
key may have any number of segments, because joining those that a walk leaves over gives the key
back.
-/

namespace ConfigNamespace

open Operation

namespace TypeConverter

/-- Values are converted in turn, up to the first that is refused. -/
theorem applyAll_eq_mapM (converter : Converter) (typeName : Text) (raw : List Value) :
    applyAll converter typeName raw = raw.mapM (apply converter typeName) := by
  induction raw with
  | nil => rfl
  | cons value raw ih =>
    rw [applyAll, ih, List.mapM_cons]
    cases apply converter typeName value with
    | error failure => rfl
    | ok v => cases raw.mapM (apply converter typeName) <;> rfl

/-- What a value of a document becomes: a text is converted at once, and several texts one by one. -/
def converted (c : TypeConverter) (typeName : Text) (value : DocumentValue) : Except Failure Value :=
  match c.converter? typeName with
  | none => .error (.unknownType typeName)
  | some converter =>
    match value with
    | .single raw => apply converter typeName (.str raw)
    | .several raws => (raws.mapM fun raw => apply converter typeName (.str raw)).map .list

/-- Converting the value that stands for stored texts is converting these texts. -/
theorem convert_toValue (c : TypeConverter) (typeName : Text) (value : DocumentValue) :
    c.convert value.toValue typeName = c.converted typeName value := by
  unfold convert converted
  cases c.converter? typeName with
  | none => rfl
  | some converter =>
    cases value with
    | single raw => rfl
    | several raws =>
      change (applyAll converter typeName (raws.map Value.str)).map Value.list = _
      rw [applyAll_eq_mapM, List.mapM_map]
      rfl

end TypeConverter

namespace Family

/-- What segments name that lead to a stored document, and then to the rest of a key. -/
theorem answer_find_stored {f : Family} {w : World} {v : View} {key base name : Text}
    {names rest : List Text} {d : Document} (hroot : readRoot (f.rootOf v) = .ok (.localPath, base))
    (hstored : (f.backing w).Stores base names name (f.delimiterOf v) d) :
    (f.find w v key (names ++ name :: rest)).answer =
      f.meaning d key (f.delimiterOf v) (names ++ name :: rest) rest := by
  obtain ⟨handle, -, hwalk, hload⟩ := hstored.exists_walk rest
  rw [answer_find (by simp) hroot hwalk.answer_eq, Option.elim_some, hload]
  rfl

/-- A value of a document that is no composite is named as it is read there. -/
theorem meaning_of_value {f : Family} {d : Document} {key delimiter : Text}
    {segments rest : List Text} (hrest : rest ≠ [])
    (hcomposite : CompositeBuilder.isComposite ⟨f.environment.compositeMarker⟩ d
      (joinKey delimiter rest) delimiter = false) :
    f.meaning d key delimiter segments rest =
      (documentValue f.converter d key (joinKey delimiter rest) delimiter).map .value := by
  rw [meaning, if_neg (by simp [hcomposite]), if_neg hrest]

/-- The segments of a key that goes on with a key of a document, and that no notation changes. -/
theorem segmentsOf_joinKey_append {c : CodePoint} {segments : List Text} {path : Text}
    (h : ∀ segment ∈ segments, segment ≠ [] ∧ c ∉ segment)
    (hnormal : normalizeKey [c] (joinKey [c] (segments ++ [path])) =
      joinKey [c] (segments ++ [path])) :
    segmentsOf [c] (joinKey [c] (segments ++ [path])) = .ok (segments ++ keySegments [c] path) := by
  rw [segmentsOf_eq (List.cons_ne_nil _ _), hnormal, keySegments_joinKey_append h]

/-- What the key of a stored value is answered with is how the value is read. -/
theorem answer_find_stored_value {f : Family} {w : World} {v : View} {key base name path : Text}
    {names : List Text} {d : Document} (hroot : readRoot (f.rootOf v) = .ok (.localPath, base))
    (hstored : (f.backing w).Stores base names name (f.delimiterOf v) d)
    (hrest : keySegments (f.delimiterOf v) path ≠ [])
    (hjoined : joinKey (f.delimiterOf v) (keySegments (f.delimiterOf v) path) = path)
    (hcomposite : CompositeBuilder.isComposite ⟨f.environment.compositeMarker⟩ d path
      (f.delimiterOf v) = false) :
    (f.find w v key (names ++ name :: keySegments (f.delimiterOf v) path)).answer =
      (documentValue f.converter d key path (f.delimiterOf v)).map .value := by
  rw [answer_find_stored hroot hstored, meaning_of_value hrest, hjoined]
  rwa [hjoined]

/-- Stored values are found. Let a document be stored in a directory, and let some segments of a
namespace and of a key lead there. Then the key that goes on with a key of the document is answered
with the value under that key: as it is if it has no type, converted text by text if it has one, and
with a failure if the conversion fails or if the type is given more than once. -/
theorem lookup_stored {w : World} {f : Family} (hf : Reachable w f) {number : Nat}
    {base name path : Text} {names segments : List Text} {c : CodePoint} {d : Document}
    {value : DocumentValue} (hopen : (f.view number).closed = false)
    (hroot : readRoot (f.rootOf (f.view number)) = .ok (.localPath, base))
    (hdelimiter : f.delimiterOf (f.view number) = [c])
    (hstored : (f.backing w).Stores base names name [c] d)
    (hsegments : (f.view number).segments ++ segments = names ++ [name])
    (huncut : ∀ segment ∈ segments, c ∉ segment) (hpath : path ≠ [])
    (hjoined : joinKey [c] (keySegments [c] path) = path) (hvalue : d.get? path = some value)
    (hcomposite : CompositeBuilder.isComposite ⟨f.environment.compositeMarker⟩ d path [c] = false)
    (hnormal : normalizeKey [c] (joinKey [c] (segments ++ [path])) =
      joinKey [c] (segments ++ [path]))
    (hunbound : (f.view number).entries.get? (joinKey [c] (segments ++ [path])) = none)
    (hreserved : joinKey [c] (segments ++ [path]) ∉ reservedKeys) :
    let answered := reply (lookup w number (.str (joinKey [c] (segments ++ [path])))) f
    (d.get? (typeKey [c] path) = none → answered = .gives value.toValue) ∧
    (∀ typeName, d.get? (typeKey [c] path) = some (.single typeName) →
      (∀ v, f.converter.converted typeName value = .ok v → answered = .gives v) ∧
      ∀ failure, f.converter.converted typeName value = .error failure →
        answered = .fails failure) ∧
    ∀ typeNames, d.get? (typeKey [c] path) = some (.several typeNames) →
      answered = .fails (.repeatedType d.handle.location (typeKey [c] path)) := by
  have hrest : keySegments [c] path ≠ [] := by
    intro hnone
    rw [hnone] at hjoined
    exact hpath hjoined.symm
  have hplain (segment : Text) (hmem : segment ∈ segments) : segment ≠ [] ∧ c ∉ segment := by
    refine ⟨?_, huncut segment hmem⟩
    have hsegment : segment ∈ names ++ [name] := by
      rw [← hsegments]
      exact List.mem_append_right _ hmem
    exact (isPart_of_isPlainSegment (hstored.plain segment hsegment)).1
  have hsplit : segmentsOf (f.delimiterOf (f.view number)) (joinKey [c] (segments ++ [path])) =
      .ok (segments ++ keySegments [c] path) := by
    rw [hdelimiter, segmentsOf_joinKey_append hplain hnormal]
  have hanswer : reply (lookup w number (.str (joinKey [c] (segments ++ [path])))) f =
      .ofNamed (f.view number) ((documentValue f.converter d (joinKey [c] (segments ++ [path])) path
        [c]).map .value) := by
    rw [reply_lookup_eq_find hf.faithful hopen (joinKey_append_ne_nil hplain hrest) hunbound
      hreserved hsplit, ← List.append_assoc, hsegments, List.append_assoc, List.singleton_append]
    rw [← hdelimiter] at hstored hrest hjoined hcomposite ⊢
    rw [answer_find_stored_value hroot hstored hrest hjoined hcomposite]
  rw [hanswer]
  unfold documentValue
  rw [hvalue]
  refine ⟨fun htype => ?_, fun typeName htype => ⟨fun v hconverted => ?_,
    fun failure hfailure => ?_⟩, fun typeNames htype => ?_⟩
  · simp only [htype]
    rfl
  · simp only [htype, TypeConverter.convert_toValue, hconverted]
    rfl
  · simp only [htype, TypeConverter.convert_toValue, hfailure]
    rfl
  · simp only [htype]
    rfl

/-- A world with a document in a directory that stands beside the working directory. -/
def besideWork : World :=
  { World.ofFiles (.directory []) with
    enclosures := [⟨text "work", [(text "M", .directory [(text "db", .directory [(text "app.ini",
      .file (.bytes (Text.utf8 (text "k=1\n"))))])])]⟩] }

/-- From the root of the file system, a value of a document outside of the working directory is
found. -/
theorem lookup_stored_besideWork :
    let f := opened (.at (some (text "/M")) []) .default
    let d : Document := ⟨⟨.localPath, text "/M/db/app.ini"⟩, [(text "k", .single (text "1"))]⟩
    (f.backing besideWork).Stores (text "/M") [text "db"] (text "app") (text ".") d ∧
      reply (lookup besideWork 0 (.str (text "db.app.k"))) f = .gives (.str (text "1")) := by
  intro f d
  have hf : Reachable besideWork f := reachable_opened _ _ _
  have hstored : (f.backing besideWork).Stores (text "/M") [text "db"] (text "app") (text ".") d := by
    refine ⟨by decide, fun passed rest hsplit hpassed => ?_, by decide, ?_⟩
    · obtain ⟨first, others, rfl⟩ := List.exists_cons_of_ne_nil hpassed
      obtain ⟨rfl, hothers⟩ := List.cons.inj hsplit
      obtain ⟨rfl, -⟩ := List.append_eq_nil_iff.mp hothers
      rfl
    · refine ⟨[text ".xml"], text ".ini", [text ".properties"], .bytes (Text.utf8 (text "k=1\n")), rfl,
        fun other hmem => ?_, rfl, rfl⟩
      rw [List.mem_singleton.mp hmem]
      rfl
  have hsegments : (f.view 0).segments ++ [text "db", text "app"] = [text "db"] ++ [text "app"] :=
    rfl
  have hpath : text "k" ≠ [] := by decide
  have hfound := lookup_stored hf rfl rfl rfl hstored hsegments (by decide) hpath (by decide) rfl
    (by decide) (by decide) rfl (by decide)
  exact ⟨hstored, hfound.1 rfl⟩

/-- A parser of one line that has a key and a value with a comma between them. -/
def commaParser : Parser where
  name := text "comma"
  parse _ content :=
    match Encoding.utf8.decode content with
    | .error error => .error (.undecodable .utf8 error)
    | .ok line =>
      let pieces := Text.pieces (text ",") line
      .ok [(pieces.headD [], .str (pieces.getLastD []))]

/-- A world with one document, in a directory. -/
def holding (name content : Text) : World :=
  .ofFiles (.directory [(text "M", .directory [(name, .file (.bytes (Text.utf8 content)))])])

set_option maxRecDepth 2000 in
/-- Two things can keep a value from being found. A document does not give what it holds under the
empty key, because the segments that lead to the document make a namespace. And an extension that is
tried before may make a name too long for the file system, which then fails. -/
theorem not_lookup_stored :
    (let f := opened (.at (some (text "M")) [])
        ⟨[(text ".csv", commaParser)], [text ".csv"], commaParser⟩
      let w := holding (text "app.csv") (text ",v")
      let d : Document := ⟨⟨.localPath, text "M/app.csv"⟩, [([], .single (text "v"))]⟩
      Reachable w f ∧ (f.backing w).Stores (text "M") [] (text "app") (text ".") d ∧
        d.get? [] = some (.single (text "v")) ∧
        joinKey (text ".") (keySegments (text ".") []) = [] ∧
        CompositeBuilder.isComposite ⟨f.environment.compositeMarker⟩ d [] (text ".") = false ∧
        joinKey (text ".") [text "app", []] = text "app." ∧
        normalizeKey (text ".") (text "app.") = text "app." ∧ text "app." ∉ reservedKeys ∧
        reply (lookup w 0 (.str (text "app."))) f =
          .makes (viewBelow (f.view 0) [text "app"])) ∧
    (let name := List.replicate 250 (CodePoint.ofChar 'a')
      let f := opened (.at (some (text "M")) []) ⟨[(text ".properties", .properties .utf8),
        (text ".ini", .sections .utf8)], [text ".properties", text ".ini"], .properties .utf8⟩
      let w := holding (name ++ text ".ini") (text "k=1")
      let h : ResourceHandle := ⟨.localPath, text "M/" ++ name ++ text ".ini"⟩
      let d : Document := ⟨h, [(text "k", .single (text "1"))]⟩
      Reachable w f ∧ isPlainSegment name = true ∧ CodePoint.ofChar '.' ∉ name ∧
        w.nodeAt (.ofText (text "M/" ++ name)) = none ∧
        w.nodeAt (.ofText (text "M/" ++ name ++ text ".properties")) = none ∧
        w.nodeAt (.ofText h.location) = some (.file (Text.utf8 (text "k=1"))) ∧
        (f.parsers.parse h.name (text ".") (Text.utf8 (text "k=1"))).bind (Document.ofRaw h) =
          .ok d ∧
        CompositeBuilder.isComposite ⟨f.environment.compositeMarker⟩ d (text "k") (text ".") = false ∧
        normalizeKey (text ".") (name ++ text ".k") = name ++ text ".k" ∧
        name ++ text ".k" ∉ reservedKeys ∧
        reply (lookup w 0 (.str (name ++ text ".k"))) f =
          .fails (.pathTooLong (text "M/" ++ name ++ text ".properties"))) := by
  constructor
  · intro f w d
    have hstored : (f.backing w).Stores (text "M") [] (text "app") (text ".") d := by
      refine ⟨by decide, fun passed rest hsplit hpassed => ?_, by decide, ?_⟩
      · exact absurd (List.append_eq_nil_iff.mp hsplit).1 hpassed
      · exact ⟨[], text ".csv", [], .bytes (Text.utf8 (text ",v")), rfl,
          fun other hmem => (List.not_mem_nil hmem).elim, rfl, rfl⟩
    exact ⟨reachable_opened _ _ _, hstored, rfl, rfl, rfl, rfl, by decide, by decide, rfl⟩
  · intro name f w h d
    refine ⟨reachable_opened _ _ _, ?_, ?_, ?_, ?_, ?_, ?_, ?_, ?_, ?_, rfl⟩
    · decide +kernel
    · decide +kernel
    · decide +kernel
    · decide +kernel
    · decide +kernel
    · rfl
    · rfl
    · decide +kernel
    · decide +kernel

end Family

end ConfigNamespace
