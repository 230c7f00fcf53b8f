import ConfigNamespace.Proofs.Document.Extended
import ConfigNamespace.Proofs.Format.Reported
import ConfigNamespace.Proofs.Format.Sections
import ConfigNamespace.Proofs.Format.Separated

/-!
# Values with line ends

A key, an equals sign and a value on a line are read alike with sections and without. The value goes up
to the end of the line, whatever it holds, but more characters end a line than those that one ends it
with: at a vertical tab, a form feed, an information separator, a next-line character or one of the two
separators for lines and paragraphs, a value is cut, and the rest of it is taken for another line. So
the values that are read back are exactly those without any of them.
-/

namespace ConfigNamespace

/-- Whether a character is a letter, a digit, an underscore or a hyphen. -/
def CodePoint.isWordChar (c : CodePoint) : Bool :=
  c.isAsciiLetter || c.isAsciiDigit || c = '_' || c = '-'

namespace Text

/-- Whether a text is a word. -/
def IsWord (s : Text) : Prop := s ≠ [] ∧ ∀ c ∈ s, c.isWordChar = true

/-- Whether a value has nothing that is read as something else within its line. -/
structure IsStraight (value : Text) : Prop where
  /-- A backslash escapes what follows it, or joins the next line. -/
  backslash_not_mem : CodePoint.backslash ∉ value
  /-- Blanks around a value do not belong to it. -/
  trimmed : value.IsTrimmed

instance (s : Text) : Decidable s.IsWord := instDecidableAnd

instance (value : Text) : Decidable value.IsStraight :=
  decidable_of_iff (CodePoint.backslash ∉ value ∧ value.IsTrimmed)
    ⟨fun ⟨hbackslash, htrimmed⟩ => ⟨hbackslash, htrimmed⟩,
      fun h => ⟨h.backslash_not_mem, h.trimmed⟩⟩

/-- The documents of the given lines, each ended by a line feed, a carriage return or both. The last one
may go without an end unless it is empty. -/
inductive LinedUp : (lines : List Text) → (document : Text) → Prop
  /-- A document without lines is empty. -/
  | nil : LinedUp [] []
  /-- A last line. -/
  | last {line : Text} (hne : line ≠ []) : LinedUp [line] line
  /-- A line with its end. A carriage return and a line feed are never two ends in a row. -/
  | cons {line terminator document : Text} {lines : List Text}
    (hend : terminator ∈ [text "\n", text "\r", text "\r\n"])
    (hjoined : terminator = text "\r" → document.head? ≠ some (CodePoint.ofChar '\n'))
    (hrest : LinedUp lines document) : LinedUp (line :: lines) (line ++ terminator ++ document)

section Lines

variable {lines : List Text} {document : Text}

/-- Lines without any character that ends a line are the lines of their document. -/
theorem LinedUp.lines_eq (h : LinedUp lines document) (hlines : ∀ line ∈ lines, line.IsUnbroken) :
    document.lines = lines := by
  have hlaid : LaidOut lines document := by
    induction h with
    | nil => exact .nil
    | last hne => exact .last (hlines _ List.mem_cons_self) hne
    | cons hend hjoined _ ih =>
      have hterminator : _ ∈ terminators := List.mem_append_left _ hend
      exact .cons (hlines _ List.mem_cons_self) hterminator hjoined
        (ih fun line hline => hlines line (List.mem_cons_of_mem _ hline))
  exact hlaid.lines_eq

/-- A document is made of its lines and what ends them. -/
theorem LinedUp.not_mem (h : LinedUp lines document) {c : CodePoint} (hc : c.isLineEnd = false)
    (hlines : ∀ line ∈ lines, c ∉ line) : c ∉ document := by
  induction h with
  | nil => exact List.not_mem_nil
  | last => exact hlines _ List.mem_cons_self
  | @cons line terminator document lines hend _ _ ih =>
    have hterminator : ∀ a ∈ terminator, a.isLineEnd = true := by
      simp only [List.mem_cons, List.not_mem_nil, or_false] at hend
      rcases hend with rfl | rfl | rfl <;> decide
    simp only [List.mem_append, not_or]
    refine ⟨⟨hlines _ List.mem_cons_self, fun hmem => ?_⟩,
      ih fun line hline => hlines line (List.mem_cons_of_mem _ hline)⟩
    exact Bool.eq_false_iff.mp hc (hterminator c hmem)

end Lines

end Text

/-- The signs that one of the formats gives a meaning: those that separate, escape, or begin a comment or
a header. -/
def formatSigns : List CodePoint :=
  [CodePoint.ofChar '=', CodePoint.ofChar ':', CodePoint.backslash, CodePoint.ofChar '#',
    CodePoint.ofChar '!', CodePoint.ofChar ';', CodePoint.ofChar '[']

/-- No character of a word is a blank or a sign. -/
theorem CodePoint.isWordChar_spec {c : CodePoint} (h : c.isWordChar = true) :
    c.isBlank = false ∧ c ∉ formatSigns := by
  have hval : (0x41 ≤ c.val ∧ c.val ≤ 0x5A) ∨ (0x61 ≤ c.val ∧ c.val ≤ 0x7A) ∨
      (0x30 ≤ c.val ∧ c.val ≤ 0x39) ∨ c.val = 0x5F ∨ c.val = 0x2D := by
    simp only [isWordChar, isAsciiLetter, isAsciiDigit, Bool.or_eq_true, Bool.and_eq_true,
      decide_eq_true_eq] at h
    rcases h with ((h | h) | rfl) | rfl
    · omega
    · omega
    · decide
    · decide
  constructor
  · simp only [isBlank, Bool.or_eq_false_iff, Bool.and_eq_false_iff, decide_eq_false_iff_not, beq_eq_false_iff_ne]
    omega
  · intro hmem
    have hsigns : ∀ sign ∈ formatSigns, ¬((0x41 ≤ sign.val ∧ sign.val ≤ 0x5A) ∨
        (0x61 ≤ sign.val ∧ sign.val ≤ 0x7A) ∨ (0x30 ≤ sign.val ∧ sign.val ≤ 0x39) ∨
        sign.val = 0x5F ∨ sign.val = 0x2D) := by decide
    exact hsigns c hmem hval

section Words

variable {key : Text}

/-- A word can stand in a flat document as it is. -/
theorem Text.IsWord.isPlainKey (h : key.IsWord) : Properties.IsPlainKey key := by
  have hseparators : ∀ sign ∈ Properties.separatorSigns, sign ∈ formatSigns := by decide
  have hcomments : ∀ sign ∈ Properties.commentSigns, sign ∈ formatSigns := by decide
  have hchars (c : CodePoint) (hc : c ∈ key) := CodePoint.isWordChar_spec (h.2 c hc)
  exact {
    ne_nil := h.1
    unblank := fun c hc => (hchars c hc).1
    unsigned := fun c hc hmem => (hchars c hc).2 (hseparators c hmem)
    backslash_not_mem := fun hmem => (hchars _ hmem).2 (by decide)
    head_not_mem := fun c hc hmem => (hchars c (List.mem_of_head? hc)).2 (hcomments c hmem) }

/-- A word with a value on one line can be an entry. -/
theorem Text.IsWord.isEntry (h : key.IsWord) {value : Text} (hvalue : value.IsTrimmed)
    (hunbroken : value.IsUnbroken) : Sections.IsEntry (key, value) := by
  have hheads : ∀ sign ∈ CodePoint.ofChar '[' :: Sections.commentSigns, sign ∈ formatSigns := by decide
  have hchars (c : CodePoint) (hc : c ∈ key) := CodePoint.isWordChar_spec (h.2 c hc)
  exact {
    ne_nil := h.1
    equals_not_mem := fun hmem => (hchars _ hmem).2 (by decide)
    head_not_mem := fun c hc hmem => (hchars c (List.mem_of_head? hc)).2 (hheads c hmem)
    key_trimmed := Text.isTrimmed_of_forall fun c hc => (hchars c hc).1
    value_trimmed := hvalue
    key_unbroken := Text.isUnbroken_of_forall fun c hc => (hchars c hc).1
    value_unbroken := hunbroken }

end Words

/-- The line of a key and a value with an equals sign between them. -/
def assignedLine (pair : Text × Text) : Text := pair.1 ++ CodePoint.ofChar '=' :: pair.2

section Reading

variable {pair : Text × Text} {pairs : List (Text × Text)} {content : Text}

/-- The line of a key and a value is trimmed. -/
theorem isTrimmed_assignedLine (hkey : pair.1.IsWord) (hvalue : pair.2.IsTrimmed) :
    (assignedLine pair).IsTrimmed :=
  Text.isTrimmed_append_cons hkey.1
    (fun c hc => hkey.isPlainKey.unblank c (List.mem_of_head? hc)) (by decide) hvalue.2

/-- A value goes up to the end of its line. -/
theorem isUnbroken_assignedLine (hkey : pair.1.IsWord) (hvalue : pair.2.IsUnbroken) :
    (assignedLine pair).IsUnbroken := by
  have hsign : Text.IsUnbroken [CodePoint.ofChar '='] := by decide
  have hword : pair.1.IsUnbroken := Text.isUnbroken_of_forall hkey.isPlainKey.unblank
  exact hword.append (hsign.append hvalue)

/-- A line that assigns a plain value to a word has no backslash in it. -/
theorem backslash_not_mem_assignedLine (hkey : pair.1.IsWord) (hvalue : pair.2.IsStraight) :
    CodePoint.backslash ∉ assignedLine pair := by
  rw [assignedLine, List.mem_append, List.mem_cons, not_or, not_or]
  exact ⟨hkey.isPlainKey.backslash_not_mem, by decide, hvalue.backslash_not_mem⟩

namespace Properties

/-- A line declares its value under its key. -/
theorem declaration_assignedLine (hkey : pair.1.IsWord) (hvalue : pair.2.IsStraight) (number : Nat) :
    declaration (number, assignedLine pair) = .ok pair := by
  have hsplit : splitLine (assignedLine pair) = pair := by
    have hequals : isSeparator (CodePoint.ofChar '=') = true := by decide
    have hblank : ¬(CodePoint.ofChar '=').isBlank = true := by decide
    rw [assignedLine, splitLine, breakAtSeparator?_key hkey.isPlainKey hequals]
    dsimp only
    rw [if_neg hblank, trimStart_of_head hvalue.trimmed.1]
  refine declaration_eq_ok_iff.mpr ⟨?_, ?_, ?_⟩
  · rw [hsplit]
    exact hkey.1
  · rw [hsplit, unescape?_of_not_mem hkey.isPlainKey.backslash_not_mem]
  · rw [hsplit, unescape?_of_not_mem hvalue.backslash_not_mem]

/-- Lines of keys and values declare these. -/
theorem declarationsOf_assigned
    (hpairs : ∀ pair ∈ pairs, pair.1.IsWord ∧ pair.2.IsStraight) (number : Nat) :
    declarationsOf (logicalLines number none (pairs.map assignedLine)) = .ok pairs := by
  induction pairs generalizing number with
  | nil => rfl
  | cons pair pairs ih =>
    obtain ⟨hkey, hvalue⟩ := hpairs pair List.mem_cons_self
    have htrim := (isTrimmed_assignedLine hkey hvalue.trimmed).trim_eq
    refine declarationsOf_logicalLines_cons ?_ ?_ ?_
      (ih (fun other hother => hpairs other (List.mem_cons_of_mem _ hother)) (number + 1))
    · rw [htrim]
      exact hkey.isPlainKey.isPassedOver_append _
    · rw [htrim]
      exact isContinued_of_not_mem (backslash_not_mem_assignedLine hkey hvalue)
    · rw [htrim]
      exact declaration_assignedLine hkey hvalue number

/-- What follows the separator is part of the line. -/
theorem eq_append_of_breakAtSeparator? {flag : Bool} {line before after : Text} {separator : CodePoint}
    (h : breakAtSeparator? flag line = some (before, separator, after)) :
    line = before ++ separator :: after := by
  induction line generalizing flag before with
  | nil => cases h
  | cons c line ih =>
    rw [breakAtSeparator?] at h
    split at h
    · cases h
      rfl
    · split at h
      next front _ _ hbroken =>
        cases h
        rw [ih hbroken, List.cons_append]
      next => cases h

/-- A value is made of characters of its line. -/
theorem mem_of_mem_splitLine {line : Text} {c : CodePoint} (hc : c ∈ (splitLine line).2) :
    c ∈ line := by
  have hstart {s : Text} (h : c ∈ s.trimStart) : c ∈ s := (List.dropWhile_suffix _).subset h
  unfold splitLine at hc
  split at hc
  next => exact absurd hc List.not_mem_nil
  next key separator after hbroken =>
    rw [eq_append_of_breakAtSeparator? hbroken]
    refine List.mem_append_right _ (List.mem_cons_of_mem _ (hstart ?_))
    dsimp only at hc
    split at hc
    next =>
      split at hc
      next sign rest hrest =>
        rw [hrest]
        split at hc
        · exact List.mem_cons_of_mem _ (hstart hc)
        · rwa [← hrest]
      next => exact absurd hc List.not_mem_nil
    next => exact hc

/-- Without backslashes, each logical line is one of the lines. -/
theorem exists_eq_of_mem_logicalLines {lines : List Text}
    (hlines : ∀ line ∈ lines, CodePoint.backslash ∉ line) {number : Nat} {numbered : NumberedLine}
    (h : numbered ∈ logicalLines number none lines) : ∃ line ∈ lines, numbered.2 = line.trim := by
  induction lines generalizing number with
  | nil => exact absurd h List.not_mem_nil
  | cons raw lines ih =>
    have hrest := fun line hline => hlines line (List.mem_cons_of_mem raw hline)
    have hlater {number : Nat} (h : numbered ∈ logicalLines number none lines) :
        ∃ line ∈ raw :: lines, numbered.2 = line.trim := by
      obtain ⟨line, hline, heq⟩ := ih hrest h
      exact ⟨line, List.mem_cons_of_mem _ hline, heq⟩
    have hcontinued : isContinued raw.trim = false :=
      isContinued_of_not_mem fun hmem => hlines raw List.mem_cons_self (Text.mem_of_mem_trim hmem)
    rw [logicalLines, hcontinued] at h
    split at h
    · exact hlater h
    · rcases List.mem_cons.mp h with rfl | h
      · exact ⟨raw, List.mem_cons_self, rfl⟩
      · exact hlater h

/-- Without backslashes, no value goes beyond its line. -/
theorem isUnbroken_of_declarations (hcontent : CodePoint.backslash ∉ content)
    {declared : List (Text × Text)} (h : declarations content = .ok declared) :
    ∀ pair ∈ declared, pair.2.IsUnbroken := by
  intro pair hpair c hc
  have hlines : ∀ line ∈ content.lines, CodePoint.backslash ∉ line := fun line hline hmem =>
    hcontent (Text.mem_of_mem_lines hline hmem).1
  obtain ⟨numbered, hnumbered, hdeclaration⟩ := exists_declaration_eq h hpair
  obtain ⟨line, hline, htrim⟩ := exists_eq_of_mem_logicalLines hlines hnumbered
  have hpart {a : CodePoint} (ha : a ∈ (splitLine numbered.2).2) : a ∈ line :=
    Text.mem_of_mem_trim (htrim ▸ mem_of_mem_splitLine ha)
  have hunescaped := (declaration_eq_ok_iff.mp hdeclaration).2.2
  rw [unescape?_of_not_mem fun hmem => hlines line hline (hpart hmem)] at hunescaped
  exact (Text.mem_of_mem_lines hline (hpart (Option.some.inj hunescaped ▸ hc))).2

end Properties

namespace Sections

/-- Lines of keys and values declare these. -/
theorem declarationsFrom_assigned
    (hpairs : ∀ pair ∈ pairs, pair.1.IsWord ∧ pair.2.IsStraight)
    (hvalues : ∀ pair ∈ pairs, pair.2.IsUnbroken) (delimiter : Text) :
    declarationsFrom delimiter 1 [] (pairs.map assignedLine) = .ok pairs := by
  have hwritten (pair : Text × Text) : WrittenEntry pair (assignedLine pair) := by
    have hnone := Text.isBlank_nil
    simpa [assignedLine] using @WrittenEntry.intro pair [] [] [] [] hnone hnone hnone hnone
  have hlines : WrittenEntries pairs (pairs.map assignedLine) := by
    clear hpairs hvalues
    induction pairs with
    | nil => exact .nil
    | cons pair pairs ih => exact .entry (hwritten pair) ih
  have hentries : ∀ pair ∈ pairs, IsEntry pair := fun pair hpair =>
    (hpairs pair hpair).1.isEntry (hpairs pair hpair).2.trimmed (hvalues pair hpair)
  have hothers (number : Nat) : declarationsFrom delimiter number [] [] = .ok [] := rfl
  have hread := hlines.declarationsFrom_append hentries hothers 1
  simpa [sectionKey] using hread

/-- A value is made of characters of its line. -/
theorem mem_of_readLine {line key value : Text} (h : readLine line = .entry key value) {c : CodePoint}
    (hc : c ∈ value) : c ∈ line := by
  unfold readLine at h
  split at h
  next => cases h
  next first rest =>
    have hsplit : ∃ front after, splitEntry? (first :: rest) = some (front, after) ∧
        value = Text.trim after := by
      repeat' split at h
      all_goals cases h
      exact ⟨_, _, ‹_›, rfl⟩
    obtain ⟨front, after, hsplit, rfl⟩ := hsplit
    have hafter : c ∈ after := Text.mem_of_mem_trim hc
    unfold splitEntry? at hsplit
    split at hsplit
    next hequals =>
      cases hsplit
      rw [Text.eq_append_cons_of_breakAt? hequals]
      exact List.mem_append_right _ (List.mem_cons_of_mem _ hafter)
    next =>
      rw [Text.eq_append_cons_of_breakAt? hsplit]
      exact List.mem_append_right _ (List.mem_cons_of_mem _ hafter)

/-- No value goes beyond its line. -/
theorem isUnbroken_of_declarations {delimiter : Text} {declared : List (Text × Text)}
    (h : declarations delimiter content = .ok declared) : ∀ pair ∈ declared, pair.2.IsUnbroken := by
  intro pair hpair c hc
  obtain ⟨line, hline, _, _, hread, _⟩ := exists_readLine_eq h hpair
  exact (Text.mem_of_mem_lines hline (Text.mem_of_mem_trim (mem_of_readLine hread hc))).2

end Sections

/-- Declarations that make the same mapping have the same values. -/
theorem exists_value_eq {declared : List (Text × Text)}
    (h : Parser.grouped (.ok declared) = .ok (declaredMapping pairs)) (hpair : pair ∈ pairs) :
    ∃ other ∈ declared, other.2 = pair.2 := by
  rw [← ofGrouped_groupDeclarations] at h
  have hvalues := congrArg (fun mapping : RawMapping => mapping.valuesAt pair.1) (Except.ok.inj h)
  simp only [valuesAt_ofGrouped] at hvalues
  have hunder : valuesUnder pair.1 declared = valuesUnder pair.1 pairs :=
    List.map_injective_iff.mpr (fun _ _ heq => Value.str.inj heq) hvalues
  have hmem : pair.2 ∈ valuesUnder pair.1 declared := by
    rw [hunder]
    exact List.mem_map.mpr ⟨pair, List.mem_filter.mpr ⟨hpair, by simp⟩, rfl⟩
  obtain ⟨other, hother, hvalue⟩ := List.mem_map.mp hmem
  exact ⟨other, (List.mem_filter.mp hother).1, hvalue⟩

/-- Values go up to the ends of their lines. Let each line of a document assign a value to a word, where no
value has a backslash, or blanks around it. Both formats read these keys and values, whatever else the
values hold, exactly if no value holds a character that ends a line; and this is not a carriage return or
a line feed alone. -/
theorem parse_assigned_iff (delimiter : Text)
    (hpairs : ∀ pair ∈ pairs, pair.1.IsWord ∧ pair.2.IsStraight)
    (hcontent : Text.LinedUp (pairs.map assignedLine) content) {encoding : Encoding}
    {bytes : List UInt8} (hdecode : encoding.decode bytes = .ok content) :
    ((Parser.properties encoding).parse delimiter bytes = .ok (declaredMapping pairs) ↔
        ∀ pair ∈ pairs, pair.2.IsUnbroken) ∧
      ((Parser.sections encoding).parse delimiter bytes = .ok (declaredMapping pairs) ↔
        ∀ pair ∈ pairs, pair.2.IsUnbroken) := by
  have hlines (hvalues : ∀ pair ∈ pairs, pair.2.IsUnbroken) :
      content.lines = pairs.map assignedLine := by
    refine hcontent.lines_eq (List.forall_mem_map.mpr fun pair hpair => ?_)
    exact isUnbroken_assignedLine (hpairs pair hpair).1 (hvalues pair hpair)
  have hbackslash : CodePoint.backslash ∉ content := by
    refine hcontent.not_mem (by decide) (List.forall_mem_map.mpr fun pair hpair => ?_)
    exact backslash_not_mem_assignedLine (hpairs pair hpair).1 (hpairs pair hpair).2
  -- What is read goes no further than a line, so what makes the same mapping does not either.
  have hback {declared : Except Failure (List (Text × Text))}
      (hunbroken : ∀ read, declared = .ok read → ∀ pair ∈ read, pair.2.IsUnbroken)
      (h : Parser.grouped declared = .ok (declaredMapping pairs)) :
      ∀ pair ∈ pairs, pair.2.IsUnbroken := by
    intro pair hpair
    cases declared with
    | error failure => cases h
    | ok read =>
      obtain ⟨other, hother, hvalue⟩ := exists_value_eq h hpair
      exact hvalue ▸ hunbroken read rfl other hother
  refine ⟨⟨fun h => ?_, fun hvalues => ?_⟩, ⟨fun h => ?_, fun hvalues => ?_⟩⟩
  · rw [Parser.parse_properties hdecode] at h
    exact hback (fun _ => Properties.isUnbroken_of_declarations hbackslash) h
  · refine Properties.parse_of_declarations ?_ delimiter hdecode
    rw [Properties.declarations, hlines hvalues]
    exact Properties.declarationsOf_assigned hpairs 1
  · rw [Parser.parse_sections hdecode] at h
    exact hback (fun _ => Sections.isUnbroken_of_declarations) h
  · refine Sections.parse_of_declarations ?_ hdecode
    rw [Sections.declarations, hlines hvalues]
    exact Sections.declarationsFrom_assigned hpairs hvalues delimiter

/-- A value that begins with an equals sign and holds further signs, and one that is empty. -/
theorem parse_assigned_signs :
    (Parser.properties .utf8).parse (text ".") (text "k-1==a:b # c\r\nk_2=").utf8 =
        .ok [(text "k-1", .str (text "=a:b # c")), (text "k_2", .str [])] ∧
      (Parser.sections .utf8).parse (text ".") (text "k-1==a:b # c\r\nk_2=").utf8 =
        .ok [(text "k-1", .str (text "=a:b # c")), (text "k_2", .str [])] := by
  let pairs : List (Text × Text) := [(text "k-1", text "=a:b # c"), (text "k_2", [])]
  have hlined : Text.LinedUp (pairs.map assignedLine)
      (text "k-1==a:b # c" ++ text "\r\n" ++ text "k_2=") :=
    .cons (by decide) (by decide) (.last (by decide))
  have hdecode : Encoding.utf8.decode (text "k-1==a:b # c\r\nk_2=").utf8 =
      .ok (text "k-1==a:b # c" ++ text "\r\n" ++ text "k_2=") := decodeUtf8From_utf8 (by decide) 0
  have hpairs : ∀ pair ∈ pairs, pair.1.IsWord ∧ pair.2.IsStraight := by decide
  have hread := parse_assigned_iff (text ".") hpairs hlined hdecode
  have hvalues : ∀ pair ∈ pairs, pair.2.IsUnbroken := by decide
  exact ⟨hread.1.mpr hvalues, hread.2.mpr hvalues⟩

/-- A next-line character cuts a value. What comes after it is another key without sections, and a line
that cannot be read with them. -/
theorem not_parse_assigned :
    let nextLine : CodePoint := CodePoint.ofNat 0x85
    let document : Text := text "k=a" ++ nextLine :: text "b"
    (Parser.properties .utf8).parse (text ".") document.utf8 =
        .ok [(text "k", .str (text "a")), (text "b", .str [])] ∧
      (Parser.sections .utf8).parse (text ".") document.utf8 =
        .error (.line 2 (.notAssignment (text "b"))) ∧
      ¬∀ key value : Text, key.IsWord → value.IsStraight → CodePoint.ofChar '\r' ∉ value →
        CodePoint.ofChar '\n' ∉ value → value.IsScalar →
        (Parser.properties .utf8).parse (text ".") (assignedLine (key, value)).utf8 =
            .ok [(key, .str value)] ∨
          (Parser.sections .utf8).parse (text ".") (assignedLine (key, value)).utf8 =
            .ok [(key, .str value)] := by
  intro nextLine document
  have hdecode : Encoding.utf8.decode document.utf8 = .ok document :=
    decodeUtf8From_utf8 (by decide) 0
  have hflat : (Parser.properties .utf8).parse (text ".") document.utf8 =
      .ok [(text "k", .str (text "a")), (text "b", .str [])] := by
    have hdeclared : Properties.declarations document = .ok [(text "k", text "a"), (text "b", [])] :=
      eq_ok_of_toOption (by decide +kernel)
    exact Properties.parse_of_declarations hdeclared (text ".") hdecode
  have hsections : (Parser.sections .utf8).parse (text ".") document.utf8 =
      .error (.line 2 (.notAssignment (text "b"))) := by
    have hlines : document.lines = [text "k=a", text "b"] := by decide +kernel
    have hfirst : Sections.readLine (text "k=a").trim = .entry (text "k") (text "a") := by
      decide +kernel
    have hsecond : Sections.readLine (text "b").trim = .faulty (.notAssignment (text "b")) := by
      decide +kernel
    rw [Parser.parse_sections hdecode, Sections.declarations, hlines, Sections.declarationsFrom, hfirst,
      Sections.declarationsFrom, hsecond]
    rfl
  refine ⟨hflat, hsections, fun h => ?_⟩
  have hline : assignedLine (text "k", text "a" ++ nextLine :: text "b") = document := by decide
  have hread := h (text "k") (text "a" ++ nextLine :: text "b") (by decide) (by decide) (by decide)
    (by decide) (by decide)
  rw [hline, hflat, hsections] at hread
  rcases hread with hread | hread
  · simp only [Except.ok.injEq, List.cons.injEq, reduceCtorEq, and_false] at hread
  · cases hread

end Reading

end ConfigNamespace
