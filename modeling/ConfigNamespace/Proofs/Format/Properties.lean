import ConfigNamespace.Proofs.Document.Grouping
import ConfigNamespace.Proofs.Format.Written
import ConfigNamespace.Proofs.Text.Lines
import ConfigNamespace.Proofs.Text.Utf8

/-!
# Writing flat documents

A key and a value are written on one line. What is read of the line is the key and the value again,
with two exceptions: a key that ends with a backslash takes the separator in, because only one
character before a separator is looked at, and a space at the end of a value is trimmed away, which
leaves a backslash behind that joins the next line.
-/

namespace ConfigNamespace.Properties

/-- The line of a key and a value. -/
def writtenLine (pair : Text × Text) : Text :=
  written pair.1 ++ CodePoint.ofChar '=' :: written pair.2

/-- The document of keys and values, a line for each. -/
def writtenDocument (pairs : List (Text × Text)) : Text :=
  pairs.flatMap fun pair => writtenLine pair ++ [CodePoint.ofChar '\n']

/-- Whether the line of a key and a value is read as these. -/
def ReadsBack (pair : Text × Text) : Prop :=
  pair.1.getLast? ≠ some .backslash ∧ pair.2.getLast? ≠ some (CodePoint.ofChar ' ')

section Lines

variable {key value : Text}

/-- The line of a key and a value does not go on in the next one. -/
theorem isContinued_writtenLine (pair : Text × Text) : isContinued (writtenLine pair) = false := by
  have hsplit : writtenLine pair = written pair.1 ++ [CodePoint.ofChar '='] ++ written pair.2 := by
    simp [writtenLine]
  rw [hsplit]
  refine isContinued_append_written ?_ _
  rw [isContinued_concat]
  rfl

/-- The line of a key that is not empty begins with nothing that is trimmed away or begins a
comment. -/
theorem exists_writtenLine_eq_cons (hkey : key ≠ []) (value : Text) :
    ∃ a t, writtenLine (key, value) = a :: t ∧
      a.isBlank = false ∧ a ≠ CodePoint.ofChar '#' ∧ a ≠ CodePoint.ofChar '!' := by
  obtain ⟨a, t, hwritten, ha⟩ := exists_written_eq_cons hkey
  exact ⟨a, _, by rw [writtenLine, hwritten, List.cons_append], ha⟩

/-- Nothing is trimmed away from the line of a value that does not end with a space. -/
theorem trim_writtenLine (hkey : key ≠ []) (hvalue : value.getLast? ≠ some (CodePoint.ofChar ' ')) :
    (writtenLine (key, value)).trim = writtenLine (key, value) := by
  have hlast : ∃ t a, writtenLine (key, value) = t ++ [a] ∧ a.isBlank = false := by
    rcases List.eq_nil_or_concat value with rfl | ⟨value, c, rfl⟩
    · exact ⟨written key, CodePoint.ofChar '=', rfl, by decide⟩
    · obtain ⟨t, a, hwritten, ha⟩ := exists_writtenChar_eq_concat (c := c) (by simpa using hvalue)
      refine ⟨writtenLine (key, value) ++ t, a, ?_, ha⟩
      rw [List.concat_eq_append, writtenLine, written_append]
      simp [writtenLine, written, hwritten]
  obtain ⟨a, t, hfirst, ha, -⟩ := exists_writtenLine_eq_cons hkey value
  obtain ⟨t', a', hlast, ha'⟩ := hlast
  rw [Text.trim, hfirst, Text.trimStart_cons ha, ← hfirst, hlast, Text.trimEnd_concat ha']

/-- A space at the end of a value is trimmed away, and the backslash before it stays. -/
theorem trim_writtenLine_space (hkey : key ≠ []) (value : Text) :
    (writtenLine (key, value ++ [CodePoint.ofChar ' '])).trim =
      writtenLine (key, value) ++ [.backslash] := by
  have hspace : written [CodePoint.ofChar ' '] = [.backslash, CodePoint.ofChar ' '] := by decide
  have hsplit : writtenLine (key, value ++ [CodePoint.ofChar ' ']) =
      writtenLine (key, value) ++ [.backslash] ++ [CodePoint.ofChar ' '] := by
    simp [writtenLine, written_append, hspace]
  obtain ⟨a, t, hfirst, ha, -⟩ := exists_writtenLine_eq_cons hkey (value ++ [CodePoint.ofChar ' '])
  rw [Text.trim, hfirst, Text.trimStart_cons ha, ← hfirst, hsplit,
    Text.trimEnd_concat_of_isBlank (by decide), Text.trimEnd_concat (by decide)]

/-- The line of a value that does not end with a space is a logical line of its own. -/
theorem logicalLines_writtenLine (hkey : key ≠ [])
    (hvalue : value.getLast? ≠ some (CodePoint.ofChar ' ')) (number : Nat) (lines : List Text) :
    logicalLines number none (writtenLine (key, value) :: lines) =
      (number, writtenLine (key, value)) :: logicalLines (number + 1) none lines := by
  obtain ⟨a, t, hfirst, -, hhash, hbang⟩ := exists_writtenLine_eq_cons hkey value
  rw [logicalLines, trim_writtenLine hkey hvalue, if_neg, if_neg (by simp [isContinued_writtenLine])]
  simp [hfirst, isPassedOver, hhash, hbang]

/-- The line of a value that ends with a space goes on in the next one. At the end of a document it
is closed without the space. -/
theorem logicalLines_writtenLine_space (hkey : key ≠ []) (value : Text) (number : Nat) :
    logicalLines number none [writtenLine (key, value ++ [CodePoint.ofChar ' '])] =
      [(number, writtenLine (key, value))] := by
  obtain ⟨a, t, hfirst, -, hhash, hbang⟩ := exists_writtenLine_eq_cons hkey value
  have hpassed : isPassedOver (writtenLine (key, value) ++ [.backslash]) = false := by
    simp [hfirst, isPassedOver, hhash, hbang]
  have hcontinued : isContinued (writtenLine (key, value) ++ [.backslash]) = true := by
    rw [isContinued_concat, isContinued_writtenLine]
    rfl
  have hne : writtenLine (key, value) ≠ [] := by simp [hfirst]
  rw [logicalLines, trim_writtenLine_space hkey, if_neg (by simp [hpassed]), if_pos hcontinued,
    List.dropLast_concat, logicalLines.continued, if_neg hne]
  rfl

/-- The line of a key that does not end with a backslash declares the value under the key. -/
theorem declaration_writtenLine (hkey : key ≠ []) (hlast : key.getLast? ≠ some .backslash)
    (value : Text) (number : Nat) :
    declaration (number, writtenLine (key, value)) = .ok (key, value) := by
  have hflag : (key.getLast?.map fun c => decide (c = .backslash)).getD false = false := by
    cases hc : key.getLast? with
    | none => rfl
    | some c =>
      rw [hc] at hlast
      simpa using hlast
  have hbreak : breakAtSeparator? false (writtenLine (key, value)) =
      some (written key, CodePoint.ofChar '=', written value) := by
    rw [writtenLine, breakAtSeparator?_written, hflag]
    simp [breakAtSeparator?, isSeparator]
  have hsplit : splitLine (writtenLine (key, value)) = (written key, written value) := by
    rw [splitLine, hbreak]
    dsimp only
    rw [trimStart_written, if_neg (by decide)]
  obtain ⟨a, t, hfirst, -⟩ := exists_written_eq_cons hkey
  rw [declaration]
  dsimp only
  rw [hsplit, if_neg (by simp [hfirst]), unescape?_written, unescape?_written]

/-- The line of a key that ends with a backslash declares nothing under the key, the separator and the
value together. -/
theorem declaration_writtenLine_backslash (hlast : key.getLast? = some .backslash) (value : Text)
    (number : Nat) : declaration (number, writtenLine (key, value)) =
      .ok (key ++ CodePoint.ofChar '=' :: value, []) := by
  have hkey : key ≠ [] := by
    rintro rfl
    cases hlast
  have hnone : breakAtSeparator? false (written value) = none := by
    have h := breakAtSeparator?_written false value []
    simpa [breakAtSeparator?] using h
  have hbreak : breakAtSeparator? false (writtenLine (key, value)) = none := by
    rw [writtenLine, breakAtSeparator?_written, hlast, Option.map_some, Option.getD_some,
      decide_eq_true rfl, breakAtSeparator?_cons (.inl rfl), decide_eq_false (by decide), hnone]
    rfl
  have hunescape : unescape? (writtenLine (key, value)) =
      some (key ++ CodePoint.ofChar '=' :: value) := by
    rw [writtenLine, unescape?_written_append, unescape?.eq_def]
    dsimp only
    rw [if_neg (by decide), unescape?_written]
    rfl
  have hsplit : splitLine (writtenLine (key, value)) = (writtenLine (key, value), []) := by
    rw [splitLine, hbreak]
  obtain ⟨a, t, hfirst, -⟩ := exists_writtenLine_eq_cons hkey value
  rw [declaration]
  dsimp only
  rw [hsplit, if_neg (by simp [hfirst]), hunescape]
  rfl

end Lines

section Documents

/-- What is read of the line of a key and a value where no other line follows. -/
def readAlone (pair : Text × Text) : Text × Text :=
  let value := if pair.2.getLast? = some (CodePoint.ofChar ' ') then pair.2.dropLast else pair.2
  if pair.1.getLast? = some .backslash then (pair.1 ++ CodePoint.ofChar '=' :: value, [])
  else (pair.1, value)

/-- A line is read back exactly if neither exception applies. -/
theorem readAlone_eq_self_iff (pair : Text × Text) : readAlone pair = pair ↔ ReadsBack pair := by
  obtain ⟨key, value⟩ := pair
  unfold readAlone ReadsBack
  dsimp only
  by_cases hkey : key.getLast? = some .backslash
  · rw [if_pos hkey]
    simp [hkey]
  · rw [if_neg hkey]
    by_cases hvalue : value.getLast? = some (CodePoint.ofChar ' ')
    · have hne : value ≠ [] := by
        rintro rfl
        cases hvalue
      have hshorter : value.dropLast ≠ value := by
        intro heq
        have hlength := congrArg List.length heq
        rw [List.length_dropLast] at hlength
        have hpositive := List.length_pos_iff.mpr hne
        omega
      simp [hvalue, hshorter]
    · simp [hkey, hvalue]

/-- The lines of a document are those that were written. -/
theorem lines_writtenDocument (pairs : List (Text × Text)) :
    (writtenDocument pairs).lines = pairs.map writtenLine := by
  induction pairs with
  | nil => rfl
  | cons pair pairs ih =>
    have hsplit : writtenDocument (pair :: pairs) =
        writtenLine pair ++ CodePoint.ofChar '\n' :: writtenDocument pairs := by
      simp [writtenDocument]
    have hline : ∀ c ∈ writtenLine pair, c.isLineEnd = false := by
      intro c hc
      rw [writtenLine, List.mem_append, List.mem_cons] at hc
      rcases hc with hc | rfl | hc
      · exact isLineEnd_of_mem_written hc
      · decide
      · exact isLineEnd_of_mem_written hc
    rw [hsplit, Text.lines_append_lineFeed hline, ih, List.map_cons]

/-- Each line of a document that is read back is a logical line of its own. -/
theorem logicalLines_written {pairs : List (Text × Text)} (hkeys : ∀ pair ∈ pairs, pair.1 ≠ [])
    (hback : ∀ pair ∈ pairs, ReadsBack pair) (number : Nat) :
    logicalLines number none (pairs.map writtenLine) =
      (List.range' number pairs.length).zip (pairs.map writtenLine) := by
  induction pairs generalizing number with
  | nil => rfl
  | cons pair pairs ih =>
    have hpair := hback pair List.mem_cons_self
    rw [List.map_cons, logicalLines_writtenLine (hkeys pair List.mem_cons_self) hpair.2,
      ih (fun p hp => hkeys p (List.mem_cons_of_mem _ hp))
        (fun p hp => hback p (List.mem_cons_of_mem _ hp)),
      List.length_cons, List.range'_succ, List.zip_cons_cons]

/-- The logical lines of a document that is read back declare its values under their keys. -/
theorem declarationsOf_written {pairs : List (Text × Text)} (hkeys : ∀ pair ∈ pairs, pair.1 ≠ [])
    (hback : ∀ pair ∈ pairs, ReadsBack pair) (number : Nat) :
    declarationsOf ((List.range' number pairs.length).zip (pairs.map writtenLine)) = .ok pairs := by
  induction pairs generalizing number with
  | nil => rfl
  | cons pair pairs ih =>
    have hpair := declaration_writtenLine (hkeys pair List.mem_cons_self)
      (hback pair List.mem_cons_self).1 pair.2 number
    rw [List.length_cons, List.range'_succ, List.map_cons, List.zip_cons_cons, declarationsOf,
      hpair, ih (fun p hp => hkeys p (List.mem_cons_of_mem _ hp))
        (fun p hp => hback p (List.mem_cons_of_mem _ hp))]

/-- What the document of one key with a value declares. -/
theorem declarations_writtenDocument_singleton {pair : Text × Text} (hkey : pair.1 ≠ []) :
    declarations (writtenDocument [pair]) = .ok [readAlone pair] := by
  obtain ⟨key, value⟩ := pair
  have hline : logicalLines 1 none [writtenLine (key, value)] = [(1, writtenLine (key,
      if value.getLast? = some (CodePoint.ofChar ' ') then value.dropLast else value))] := by
    by_cases hvalue : value.getLast? = some (CodePoint.ofChar ' ')
    · obtain ⟨value, rfl⟩ := List.getLast?_eq_some_iff.mp hvalue
      rw [logicalLines_writtenLine_space hkey, if_pos hvalue, List.dropLast_concat]
    · rw [logicalLines_writtenLine hkey hvalue, if_neg hvalue]
      rfl
  rw [declarations, lines_writtenDocument, List.map_singleton, hline, readAlone]
  dsimp only
  generalize (if value.getLast? = some (CodePoint.ofChar ' ') then value.dropLast else value) = rest
  by_cases hlast : key.getLast? = some .backslash
  · rw [if_pos hlast, declarationsOf, declaration_writtenLine_backslash hlast]
    rfl
  · rw [if_neg hlast, declarationsOf, declaration_writtenLine hkey hlast]
    rfl

/-- A document that is written of scalar texts is a scalar text. -/
theorem isScalar_writtenDocument {pairs : List (Text × Text)}
    (h : ∀ pair ∈ pairs, pair.1.IsScalar ∧ pair.2.IsScalar) :
    (writtenDocument pairs).IsScalar := by
  intro a ha
  obtain ⟨pair, hpair, ha⟩ := List.mem_flatMap.mp ha
  rw [writtenLine, List.append_assoc, List.mem_append, List.cons_append, List.mem_cons,
    List.mem_append, List.mem_singleton] at ha
  rcases ha with ha | rfl | ha | rfl
  · exact isScalar_written (h pair hpair).1 a ha
  · decide
  · exact isScalar_written (h pair hpair).2 a ha
  · decide

/-- The parser of flat documents reads the bytes of a text as that text. -/
theorem parse_utf8 {content : Text} (h : content.IsScalar) (delimiter : Text) :
    (Parser.properties .utf8).parse delimiter (Text.utf8 content) =
      Parser.grouped (declarations content) := by
  have hdecode : Encoding.utf8.decode (Text.utf8 content) = .ok content := by
    rw [Encoding.decode, decodeUtf8From_utf8 h]
  exact Parser.parse_properties hdecode delimiter

/-- What the parser reads of the document of one key with a value. -/
theorem parse_writtenDocument_singleton (delimiter : Text) {pair : Text × Text}
    (hkey : pair.1 ≠ []) (hscalar : pair.1.IsScalar ∧ pair.2.IsScalar) :
    (Parser.properties .utf8).parse delimiter (Text.utf8 (writtenDocument [pair])) =
      .ok [((readAlone pair).1, .str (readAlone pair).2)] := by
  have hdocument : (writtenDocument [pair]).IsScalar :=
    isScalar_writtenDocument fun p hp => by rwa [List.mem_singleton.mp hp]
  rw [parse_utf8 hdocument, declarations_writtenDocument_singleton hkey]
  rfl

/-- A written document is read back. The line of a key and a value, on its own, is read as these
exactly if the key does not end with a backslash and the value does not end with a space. If that
holds of all keys and values, then each line of their document is a logical line of its own, and the
document is read as the values under their keys. -/
theorem parse_writtenDocument (delimiter : Text) {pairs : List (Text × Text)}
    (hkeys : ∀ pair ∈ pairs, pair.1 ≠ [])
    (hscalar : ∀ pair ∈ pairs, pair.1.IsScalar ∧ pair.2.IsScalar) :
    (∀ pair ∈ pairs, (Parser.properties .utf8).parse delimiter
        (Text.utf8 (writtenDocument [pair])) = .ok [(pair.1, .str pair.2)] ↔ ReadsBack pair) ∧
      ((∀ pair ∈ pairs, ReadsBack pair) →
        logicalLines 1 none (writtenDocument pairs).lines =
            (List.range' 1 pairs.length).zip (pairs.map writtenLine) ∧
          (Parser.properties .utf8).parse delimiter (Text.utf8 (writtenDocument pairs)) =
            .ok (RawMapping.ofGrouped (groupDeclarations pairs))) := by
  constructor
  · intro pair hpair
    rw [parse_writtenDocument_singleton delimiter (hkeys pair hpair) (hscalar pair hpair),
      ← readAlone_eq_self_iff]
    constructor
    · intro h
      simp only [Except.ok.injEq, List.cons.injEq, Prod.mk.injEq, Value.str.injEq, and_true] at h
      exact Prod.ext h.1 h.2
    · intro h
      rw [h]
  · intro hback
    have hlines : logicalLines 1 none (writtenDocument pairs).lines =
        (List.range' 1 pairs.length).zip (pairs.map writtenLine) := by
      rw [lines_writtenDocument, logicalLines_written hkeys hback]
    refine ⟨hlines, ?_⟩
    rw [parse_utf8 (isScalar_writtenDocument hscalar), declarations, hlines,
      declarationsOf_written hkeys hback]
    rfl

/-- A key with a space and a value that is a backslash, before a line whose key and value are made of
signs and blanks. -/
theorem parse_writtenDocument_signs :
    let pairs := [(text "a b", text "\\"), (text ":", text " x\t")]
    writtenDocument pairs = text "a\\ b=\\\\\n\\:=\\ x\\t\n" ∧
      (Parser.properties .utf8).parse (text ".") (Text.utf8 (writtenDocument pairs)) =
        .ok [(text "a b", .str (text "\\")), (text ":", .str (text " x\t"))] := by
  intro pairs
  have hscalar : ∀ pair ∈ pairs, pair.1.IsScalar ∧ pair.2.IsScalar := by
    unfold Text.IsScalar
    decide
  have hback : ∀ pair ∈ pairs, ReadsBack pair := by
    unfold ReadsBack
    decide
  exact ⟨by decide, ((parse_writtenDocument (text ".") (by decide) hscalar).2 hback).2⟩

/-- Not every line is read back: a backslash as a key takes the separator in, and a space as a value is
lost. -/
theorem not_parse_writtenDocument :
    let read (pair : Text × Text) := (Parser.properties .utf8).parse (text ".")
      (Text.utf8 (writtenDocument [pair]))
    read (text "\\", text "v") = .ok [(text "\\=v", .str [])] ∧
      read (text "k", text " ") = .ok [(text "k", .str [])] ∧
      ¬∀ pair : Text × Text, pair.1 ≠ [] → pair.1.IsScalar → pair.2.IsScalar →
        read pair = .ok [(pair.1, .str pair.2)] := by
  intro read
  have hbackslash : read (text "\\", text "v") = .ok [(text "\\=v", .str [])] :=
    parse_writtenDocument_singleton _ (by decide) (by unfold Text.IsScalar; decide)
  have hspace : read (text "k", text " ") = .ok [(text "k", .str [])] :=
    parse_writtenDocument_singleton _ (by decide) (by unfold Text.IsScalar; decide)
  refine ⟨hbackslash, hspace, fun h => ?_⟩
  have hread := h (text "\\", text "v") (by decide) (by unfold Text.IsScalar; decide)
    (by unfold Text.IsScalar; decide)
  rw [hbackslash] at hread
  simp only [Except.ok.injEq, List.cons.injEq, Prod.mk.injEq] at hread
  exact absurd hread.1.1 (by decide)

end Documents

end ConfigNamespace.Properties
