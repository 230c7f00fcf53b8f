import ConfigNamespace.Format.Parser
import ConfigNamespace.Proofs.Document.Grouping
import ConfigNamespace.Proofs.Text.Lines
import ConfigNamespace.Proofs.Text.Pieces
import ConfigNamespace.Proofs.Text.Utf8

/-!
# Writing documents with sections

A document with sections is written with a header before the entries of each section. A line is told
by its first character that is not blank, and what is read of it is what was written, whatever blanks
stand around the parts: a name ends before the last bracket and a key before the first equals sign, so
that names may hold brackets, and values any signs. The section holds from its header to the next
one, whatever stands between the lines that holds nothing of its own.
-/

namespace ConfigNamespace.Sections

/-- A document with sections: the entries before the first header, and the sections with theirs. -/
structure Sectioned where
  /-- The entries that belong to no section. -/
  entries : List (Text × Text)
  /-- The sections in order, each with its name and its entries. A name may occur again. -/
  sections : List (Text × List (Text × Text))

/-- The signs that begin a comment. -/
def commentSigns : List CodePoint := [CodePoint.ofChar ';', CodePoint.ofChar '#']

/-- Whether a text can be the name of a section. -/
structure IsName (name : Text) : Prop where
  /-- A name is not empty. -/
  ne_nil : name ≠ []
  /-- Blanks around a name do not belong to it. -/
  trimmed : name.IsTrimmed
  /-- A name stands on one line. -/
  unbroken : name.IsUnbroken

/-- Whether a key and a value can be an entry. -/
structure IsEntry (entry : Text × Text) : Prop where
  /-- A key is not empty. -/
  ne_nil : entry.1 ≠ []
  /-- A key ends before the first equals sign. -/
  equals_not_mem : CodePoint.ofChar '=' ∉ entry.1
  /-- A key does not begin as a comment or a header. -/
  head_not_mem : ∀ c ∈ entry.1.head?, c ∉ CodePoint.ofChar '[' :: commentSigns
  /-- Blanks around a key do not belong to it. -/
  key_trimmed : entry.1.IsTrimmed
  /-- Blanks around a value do not belong to it. -/
  value_trimmed : entry.2.IsTrimmed
  /-- A key stands on one line. -/
  key_unbroken : entry.1.IsUnbroken
  /-- A value stands on one line. -/
  value_unbroken : entry.2.IsUnbroken

instance (name : Text) : Decidable (IsName name) :=
  decidable_of_iff (name ≠ [] ∧ name.IsTrimmed ∧ name.IsUnbroken)
    ⟨fun h => ⟨h.1, h.2.1, h.2.2⟩, fun h => ⟨h.ne_nil, h.trimmed, h.unbroken⟩⟩

instance (entry : Text × Text) : Decidable (IsEntry entry) :=
  decidable_of_iff (entry.1 ≠ [] ∧ CodePoint.ofChar '=' ∉ entry.1 ∧
      (∀ c ∈ entry.1.head?, c ∉ CodePoint.ofChar '[' :: commentSigns) ∧ entry.1.IsTrimmed ∧
      entry.2.IsTrimmed ∧ entry.1.IsUnbroken ∧ entry.2.IsUnbroken)
    ⟨fun ⟨h₁, h₂, h₃, h₄, h₅, h₆, h₇⟩ => ⟨h₁, h₂, h₃, h₄, h₅, h₆, h₇⟩,
      fun ⟨h₁, h₂, h₃, h₄, h₅, h₆, h₇⟩ => ⟨h₁, h₂, h₃, h₄, h₅, h₆, h₇⟩⟩

/-- Whether all parts of a document can be written. -/
structure Sectioned.IsWritable (document : Sectioned) : Prop where
  /-- The entries before the first header. -/
  entries : ∀ entry ∈ document.entries, IsEntry entry
  /-- The names of the sections. -/
  names : ∀ part ∈ document.sections, IsName part.1
  /-- The entries of the sections. -/
  parts : ∀ part ∈ document.sections, ∀ entry ∈ part.2, IsEntry entry

/-- The keys and values of a document, those of a section with its name and the delimiter before
their keys. -/
def Sectioned.declared (delimiter : Text) (document : Sectioned) : List (Text × Text) :=
  document.entries ++ document.sections.flatMap fun part =>
    part.2.map fun entry => (part.1 ++ delimiter ++ entry.1, entry.2)

/-- The ways to write the header of a section: its name in brackets, with blanks around both. -/
inductive WrittenHeader (name : Text) : Text → Prop
  /-- The blanks before and after the brackets, and those around the name. -/
  | intro {before left right after : Text} (hbefore : before.IsBlank) (hleft : left.IsBlank)
    (hright : right.IsBlank) (hafter : after.IsBlank) :
    WrittenHeader name
      (before ++ (CodePoint.ofChar '[' :: (left ++ name ++ right) ++ [CodePoint.ofChar ']']) ++
        after)

/-- The ways to write an entry: its key, an equals sign and its value, with blanks around all. -/
inductive WrittenEntry (entry : Text × Text) : Text → Prop
  /-- The blanks before and after the entry, and those around the equals sign. -/
  | intro {before left right after : Text} (hbefore : before.IsBlank) (hleft : left.IsBlank)
    (hright : right.IsBlank) (hafter : after.IsBlank) :
    WrittenEntry entry
      (before ++ entry.1 ++ left ++ CodePoint.ofChar '=' :: (right ++ entry.2 ++ after))

/-- The lines of entries: one for each, and between them lines that hold nothing or a comment. -/
inductive WrittenEntries : (entries : List (Text × Text)) → (lines : List Text) → Prop
  /-- No lines for no entries. -/
  | nil : WrittenEntries [] []
  /-- A line that holds nothing or a comment. -/
  | filler {entries : List (Text × Text)} {line : Text} {lines : List Text}
    (hline : Text.IsFiller commentSigns line) (hrest : WrittenEntries entries lines) :
    WrittenEntries entries (line :: lines)
  /-- The line of the first entry. -/
  | entry {entry : Text × Text} {entries : List (Text × Text)} {line : Text} {lines : List Text}
    (hline : WrittenEntry entry line) (hrest : WrittenEntries entries lines) :
    WrittenEntries (entry :: entries) (line :: lines)

/-- The lines of sections: the header of each, and the lines of its entries after it. -/
inductive WrittenSections :
    (sections : List (Text × List (Text × Text))) → (lines : List Text) → Prop
  /-- No lines for no sections. -/
  | nil : WrittenSections [] []
  /-- The lines of the first section. -/
  | part {name : Text} {entries : List (Text × Text)}
    {sections : List (Text × List (Text × Text))} {header : Text} {lines others : List Text}
    (hheader : WrittenHeader name header) (hlines : WrittenEntries entries lines)
    (hrest : WrittenSections sections others) :
    WrittenSections ((name, entries) :: sections) (header :: (lines ++ others))

/-- The lines of a document: those of the entries before the first header, and those of the
sections. -/
inductive Sectioned.Written (document : Sectioned) : (lines : List Text) → Prop
  /-- The lines before the first header, and those from there on. -/
  | intro {lines others : List Text} (hlines : WrittenEntries document.entries lines)
    (hothers : WrittenSections document.sections others) : Written document (lines ++ others)

section Lines

variable {name line : Text} {entry : Text × Text}

/-- A line that holds nothing or a comment is passed over. -/
theorem readLine_filler (hline : Text.IsFiller commentSigns line) :
    readLine line.trim = .passedOver := by
  rcases hline.trim_eq (by decide) with hnone | ⟨sign, hsign, comment, hcomment⟩
  · rw [hnone, readLine]
  · have hsign : sign = CodePoint.ofChar ';' ∨ sign = CodePoint.ofChar '#' := by
      simpa [commentSigns] using hsign
    rw [hcomment, readLine, if_pos hsign]

/-- The header of a section is read as its name. -/
theorem readLine_header (hline : WrittenHeader name line) (hname : IsName name) :
    readLine line.trim = .header name := by
  obtain @⟨before, left, right, after, hbefore, hleft, hright, hafter⟩ := hline
  have htrimmed : Text.IsTrimmed
      (CodePoint.ofChar '[' :: (left ++ name ++ right) ++ [CodePoint.ofChar ']']) := by
    constructor
    · intro c hc
      obtain rfl : CodePoint.ofChar '[' = c := by simpa using hc
      decide
    · intro c hc
      rw [List.getLast?_concat] at hc
      obtain rfl := Option.some.inj hc
      decide
  have hinner : headerName? (left ++ name ++ right ++ [CodePoint.ofChar ']']) = some name := by
    rw [headerName?, List.reverse_append, List.reverse_singleton, List.singleton_append]
    dsimp only
    rw [if_pos rfl, List.reverse_reverse, hname.trimmed.trim_append hleft hright,
      if_neg hname.ne_nil]
  rw [htrimmed.trim_append hbefore hafter, List.cons_append, readLine, if_neg (by decide),
    if_pos rfl, hinner]

/-- A line that does not begin as a comment or a header is read as the two parts that it is split into. -/
theorem readLine_of_split {front rest : Text}
    (hhead : ∀ c ∈ line.head?, c ∉ CodePoint.ofChar '[' :: commentSigns)
    (hsplit : splitEntry? line = some (front, rest)) (hfront : front.trim ≠ []) :
    readLine line = .entry front.trim rest.trim := by
  cases line with
  | nil => cases hsplit
  | cons c s =>
    have hc : (c ≠ CodePoint.ofChar ';' ∧ c ≠ CodePoint.ofChar '#') ∧ c ≠ CodePoint.ofChar '[' := by
      have hhead := hhead c rfl
      simp only [commentSigns, List.mem_cons, List.not_mem_nil, or_false, not_or] at hhead
      exact ⟨hhead.2, hhead.1⟩
    rw [readLine, if_neg (not_or.mpr hc.1), if_neg hc.2, hsplit]
    dsimp only
    rw [if_neg hfront]

/-- What begins with the key of an entry does not begin as a comment or a header. -/
theorem IsEntry.head_append_not_mem (hentry : IsEntry entry) (s : Text) :
    ∀ c ∈ (entry.1 ++ s).head?, c ∉ CodePoint.ofChar '[' :: commentSigns := by
  have hhead : (entry.1 ++ s).head? = entry.1.head? := by
    obtain ⟨c, k, hkey⟩ := List.exists_cons_of_ne_nil hentry.ne_nil
    rw [hkey]
    rfl
  rw [hhead]
  exact hentry.head_not_mem

/-- The blanks after the key of an entry do not belong to it. -/
theorem IsEntry.trim_key_append (hentry : IsEntry entry) {left : Text} (hleft : left.IsBlank) :
    Text.trim (entry.1 ++ left) = entry.1 :=
  hentry.key_trimmed.trim_append Text.isBlank_nil hleft

/-- A key, an equals sign and what comes to the value without the blanks around it are read as these
two. -/
private theorem readLine_append {left rest : Text} (hentry : IsEntry entry) (hleft : left.IsBlank)
    (hrest : rest.trim = entry.2) :
    readLine (entry.1 ++ left ++ CodePoint.ofChar '=' :: rest) = .entry entry.1 entry.2 := by
  have hsplit : splitEntry? (entry.1 ++ left ++ CodePoint.ofChar '=' :: rest) =
      some (entry.1 ++ left, rest) := by
    have hequals : CodePoint.ofChar '=' ∉ entry.1 ++ left := by
      rw [List.mem_append, not_or]
      exact ⟨hentry.equals_not_mem, fun hmem => absurd (hleft _ hmem) (by decide)⟩
    unfold splitEntry?
    rw [Text.breakAt?_append_cons hequals]
  have hkey := hentry.trim_key_append hleft
  have hhead := hentry.head_append_not_mem (left ++ CodePoint.ofChar '=' :: rest)
  rw [← List.append_assoc] at hhead
  rw [readLine_of_split hhead hsplit (by rw [hkey]; exact hentry.ne_nil), hkey, hrest]

/-- Trimming takes the blanks before the key and after the value of a line, whatever sign stands between
them. If the value is empty, then the blanks after the sign go with those at the end of the line. -/
theorem exists_trim_eq_append {key value before right after : Text} {sign : CodePoint} (hne : key ≠ [])
    (hkey : key.IsTrimmed) (hvalue : value.IsTrimmed) (hsign : sign.isBlank = false)
    (hbefore : before.IsBlank) (left : Text) (hright : right.IsBlank) (hafter : after.IsBlank) :
    ∃ gap : Text, gap.IsBlank ∧ Text.trim (before ++ key ++ left ++ sign :: (right ++ value ++ after)) =
      key ++ left ++ sign :: (gap ++ value) := by
  have hhead : ∀ c ∈ (key ++ left).head?, c.isBlank = false := by
    obtain ⟨c, k, rfl⟩ := List.exists_cons_of_ne_nil hne
    exact hkey.1
  have htrimmed {rest : Text} (hrest : ∀ c ∈ rest.getLast?, c.isBlank = false) :
      Text.IsTrimmed (key ++ left ++ sign :: rest) :=
    Text.isTrimmed_append_cons (List.append_ne_nil_of_left_ne_nil hne left) hhead hsign hrest
  by_cases hempty : value = []
  · have hsplit : before ++ key ++ left ++ sign :: (right ++ value ++ after) =
        before ++ (key ++ left ++ [sign]) ++ (right ++ after) := by
      simp [hempty]
    have hnone : ∀ c ∈ List.getLast? ([] : Text), c.isBlank = false := by simp
    refine ⟨[], Text.isBlank_nil, ?_⟩
    rw [hsplit, (htrimmed hnone).trim_append hbefore (hright.append hafter), hempty, List.append_nil]
  · have hsplit : before ++ key ++ left ++ sign :: (right ++ value ++ after) =
        before ++ (key ++ left ++ sign :: (right ++ value)) ++ after := by
      simp
    have hlast : ∀ c ∈ (right ++ value).getLast?, c.isBlank = false := by
      rw [List.getLast?_append, List.getLast?_eq_some_getLast hempty, Option.some_or,
        ← List.getLast?_eq_some_getLast hempty]
      exact hvalue.2
    exact ⟨right, hright, by rw [hsplit, (htrimmed hlast).trim_append hbefore hafter]⟩

/-- What blanks stand before a trimmed value are trimmed away. -/
theorem trim_gap_append {gap value : Text} (hgap : gap.IsBlank) (hvalue : value.IsTrimmed) :
    Text.trim (gap ++ value) = value := by
  simpa using hvalue.trim_append hgap Text.isBlank_nil

/-- An entry is read as its key and its value. -/
theorem readLine_entry (hline : WrittenEntry entry line) (hentry : IsEntry entry) :
    readLine line.trim = .entry entry.1 entry.2 := by
  obtain @⟨before, left, right, after, hbefore, hleft, hright, hafter⟩ := hline
  obtain ⟨gap, hgap, htrim⟩ := exists_trim_eq_append hentry.ne_nil hentry.key_trimmed
    hentry.value_trimmed (by decide : (CodePoint.ofChar '=').isBlank = false) hbefore left hright hafter
  rw [htrim]
  exact readLine_append hentry hleft (trim_gap_append hgap hentry.value_trimmed)

end Lines

section Documents

variable {document : Sectioned} {lines others : List Text} {delimiter : Text}

/-- The lines of entries declare these within the section that holds, before what the further lines
declare. -/
theorem WrittenEntries.declarationsFrom_append {entries declared : List (Text × Text)} {name : Text}
    (hlines : WrittenEntries entries lines) (hentries : ∀ entry ∈ entries, IsEntry entry)
    (hothers : ∀ number, declarationsFrom delimiter number name others = .ok declared)
    (number : Nat) :
    declarationsFrom delimiter number name (lines ++ others) =
      .ok (entries.map (fun entry => (sectionKey delimiter name entry.1, entry.2)) ++ declared) := by
  induction hlines generalizing number with
  | nil => exact hothers number
  | filler hline _ ih =>
    rw [List.cons_append, declarationsFrom, readLine_filler hline]
    exact ih hentries (number + 1)
  | entry hline _ ih =>
    rw [List.cons_append, declarationsFrom, readLine_entry hline (hentries _ List.mem_cons_self),
      List.map_cons, List.cons_append]
    dsimp only
    rw [ih (fun entry hentry => hentries entry (List.mem_cons_of_mem _ hentry)) (number + 1)]

/-- The lines of sections declare the entries of each within it, whatever section holds before. -/
theorem WrittenSections.declarationsFrom_eq {sections : List (Text × List (Text × Text))}
    (hlines : WrittenSections sections lines) (hnames : ∀ part ∈ sections, IsName part.1)
    (hentries : ∀ part ∈ sections, ∀ entry ∈ part.2, IsEntry entry) (number : Nat) (name : Text) :
    declarationsFrom delimiter number name lines = .ok (sections.flatMap fun part =>
      part.2.map fun entry => (part.1 ++ delimiter ++ entry.1, entry.2)) := by
  induction hlines generalizing number name with
  | nil => rfl
  | @part own entries sections header lines others hheader hlines _ ih =>
    have hown := hnames _ List.mem_cons_self
    have hothers (number : Nat) := ih
      (fun part hpart => hnames part (List.mem_cons_of_mem _ hpart))
      (fun part hpart => hentries part (List.mem_cons_of_mem _ hpart)) number own
    rw [declarationsFrom, readLine_header hheader hown, List.flatMap_cons]
    dsimp only
    rw [hlines.declarationsFrom_append (hentries _ List.mem_cons_self) hothers]
    simp only [sectionKey, if_neg hown.ne_nil]

/-- The lines of a document declare its keys and values. -/
theorem Sectioned.Written.declarationsFrom_eq (hlines : document.Written lines)
    (hdocument : document.IsWritable) :
    declarationsFrom delimiter 1 [] lines = .ok (document.declared delimiter) := by
  obtain @⟨lines, others, hentries, hsections⟩ := hlines
  have hothers (number : Nat) : declarationsFrom delimiter number [] others = .ok _ :=
    hsections.declarationsFrom_eq hdocument.names hdocument.parts number []
  rw [hentries.declarationsFrom_append hdocument.entries hothers, Sectioned.declared]
  simp [sectionKey]

/-- The parser of documents with sections gives the mapping that the declarations make. -/
theorem parse_of_declarations {content : Text} {declared : List (Text × Text)}
    (hdeclared : declarations delimiter content = .ok declared) {encoding : Encoding}
    {bytes : List UInt8} (hdecode : encoding.decode bytes = .ok content) :
    (Parser.sections encoding).parse delimiter bytes = .ok (declaredMapping declared) := by
  rw [Parser.parse_sections hdecode, hdeclared, Parser.grouped_ok]

/-- Entries can be written. -/
theorem exists_writtenEntries {entries : List (Text × Text)}
    (hentries : ∀ entry ∈ entries, IsEntry entry) :
    ∃ lines, WrittenEntries entries lines ∧ ∀ line ∈ lines, line.IsUnbroken := by
  induction entries with
  | nil => exact ⟨[], .nil, fun line hline => absurd hline List.not_mem_nil⟩
  | cons entry entries ih =>
    have hentry := hentries entry List.mem_cons_self
    obtain ⟨lines, hlines, hall⟩ := ih fun e he => hentries e (List.mem_cons_of_mem _ he)
    have hequals : Text.IsUnbroken [CodePoint.ofChar '='] := by decide
    refine ⟨_, .entry (.intro Text.isBlank_nil Text.isBlank_nil Text.isBlank_nil Text.isBlank_nil)
      hlines, List.forall_mem_cons.mpr ⟨?_, hall⟩⟩
    simpa using hentry.key_unbroken.append (hequals.append hentry.value_unbroken)

/-- Sections can be written. -/
theorem exists_writtenSections {sections : List (Text × List (Text × Text))}
    (hnames : ∀ part ∈ sections, IsName part.1)
    (hentries : ∀ part ∈ sections, ∀ entry ∈ part.2, IsEntry entry) :
    ∃ lines, WrittenSections sections lines ∧ ∀ line ∈ lines, line.IsUnbroken := by
  induction sections with
  | nil => exact ⟨[], .nil, fun line hline => absurd hline List.not_mem_nil⟩
  | cons part sections ih =>
    have hname := hnames part List.mem_cons_self
    obtain ⟨others, hothers, hallOthers⟩ := ih
      (fun p hp => hnames p (List.mem_cons_of_mem _ hp))
      fun p hp => hentries p (List.mem_cons_of_mem _ hp)
    obtain ⟨lines, hlines, hall⟩ := exists_writtenEntries (hentries part List.mem_cons_self)
    have hleft : Text.IsUnbroken [CodePoint.ofChar '['] := by decide
    have hright : Text.IsUnbroken [CodePoint.ofChar ']'] := by decide
    refine ⟨_, .part (.intro Text.isBlank_nil Text.isBlank_nil Text.isBlank_nil Text.isBlank_nil)
      hlines hothers, List.forall_mem_cons.mpr ⟨?_, fun line hline =>
        (List.mem_append.mp hline).elim (hall line) (hallOthers line)⟩⟩
    simpa using hleft.append (hname.unbroken.append hright)

/-- Every document with sections whose parts can be written has a text, and each text that it can be
written as is read back: the keys, each where it stands first, with all that stands under them. A key
of a section is read with the name of the section and the delimiter before it. -/
theorem parse_sectioned (delimiter : Text) (hdocument : document.IsWritable) :
    (∃ lines content, document.Written lines ∧ Text.LaidOut lines content) ∧
      ∀ lines content, document.Written lines → Text.LaidOut lines content →
        (content.IsScalar → (Parser.sections .utf8).parse delimiter content.utf8 =
          .ok (declaredMapping (document.declared delimiter))) ∧
        ∀ (encoding : Encoding) (bytes : List UInt8), encoding.decode bytes = .ok content →
          (Parser.sections encoding).parse delimiter bytes =
            .ok (declaredMapping (document.declared delimiter)) := by
  constructor
  · obtain ⟨lines, hlines, hall⟩ := exists_writtenEntries hdocument.entries
    obtain ⟨others, hothers, hallOthers⟩ :=
      exists_writtenSections hdocument.names hdocument.parts
    exact ⟨lines ++ others, _, .intro hlines hothers, Text.laidOut_lineFeeds fun line hline =>
      (List.mem_append.mp hline).elim (hall line) (hallOthers line)⟩
  · intro lines content hlines hcontent
    have hdeclared : declarations delimiter content = .ok (document.declared delimiter) := by
      rw [declarations, hcontent.lines_eq, hlines.declarationsFrom_eq hdocument]
    exact ⟨fun hscalar => parse_of_declarations hdeclared (decodeUtf8From_utf8 hscalar 0),
      fun encoding bytes hdecode => parse_of_declarations hdeclared hdecode⟩

/-- A key of its own that is also one of a section, a section that comes twice, and one whose name is
in brackets, with blanks, comments and ends of several kinds. -/
theorem parse_sectioned_twice :
    (Parser.sections .utf8).parse (text ".")
        (text " s.a =0\n# [t]\n[ s ]\r\na= 1 = :\n\n[[x]]\n:=\n [s]\n\tb =  ").utf8 =
      .ok [(text "s.a", .list [.str (text "0"), .str (text "1 = :")]), (text "[x].:", .str []),
        (text "s.b", .str [])] := by
  let document : Sectioned := ⟨[(text "s.a", text "0")],
    [(text "s", [(text "a", text "1 = :")]), (text "[x]", [(text ":", [])]),
      (text "s", [(text "b", [])])]⟩
  let lines : List Text := [text " s.a =0", text "# [t]", text "[ s ]", text "a= 1 = :", [],
    text "[[x]]", text ":=", text " [s]", text "\tb =  "]
  have hwritable : document.IsWritable := ⟨by decide, by decide, by decide⟩
  have hcomment : Text.IsFiller commentSigns (text "# [t]") :=
    .inr ⟨[], CodePoint.ofChar '#', text " [t]", rfl, by decide, by decide⟩
  have hspace : Text.IsBlank (text " ") := by decide
  have htab : Text.IsBlank (text "\t") := by decide
  have hspaces : Text.IsBlank (text "  ") := by decide
  have hnone := Text.isBlank_nil
  have hentries : WrittenEntries document.entries [text " s.a =0", text "# [t]"] :=
    .entry (.intro hspace hspace hnone hnone) <| .filler hcomment .nil
  have hsections : WrittenSections document.sections (text "[ s ]" :: ([text "a= 1 = :", []] ++
      text "[[x]]" :: ([text ":="] ++ text " [s]" :: ([text "\tb =  "] ++ [])))) :=
    .part (.intro hnone hspace hspace hnone)
        (.entry (.intro hnone hnone hspace hnone) <| .filler (.inl hnone) .nil) <|
      .part (.intro hnone hnone hnone hnone) (.entry (.intro hnone hnone hnone hnone) .nil) <|
      .part (.intro hspace hnone hnone hnone) (.entry (.intro htab hspace hspaces hnone) .nil) .nil
  have hwritten : document.Written lines := .intro hentries hsections
  have hcontent : Text.LaidOut lines
      (text " s.a =0" ++ text "\n" ++ (text "# [t]" ++ text "\n" ++ (text "[ s ]" ++ text "\r\n" ++
        (text "a= 1 = :" ++ text "\n" ++ ([] ++ text "\n" ++ (text "[[x]]" ++ text "\n" ++
          (text ":=" ++ text "\n" ++ (text " [s]" ++ text "\n" ++ text "\tb =  ")))))))) := by
    exact .cons (by decide) (by decide) (by decide) <| .cons (by decide) (by decide) (by decide) <|
      .cons (by decide) (by decide) (by decide) <| .cons (by decide) (by decide) (by decide) <|
      .cons (by decide) (by decide) (by decide) <| .cons (by decide) (by decide) (by decide) <|
      .cons (by decide) (by decide) (by decide) <| .cons (by decide) (by decide) (by decide) <|
      .last (by decide) (by decide)
  have hread := ((parse_sectioned (text ".") hwritable).2 _ _ hwritten hcontent).1 (by decide)
  exact hread

end Documents

end ConfigNamespace.Sections
