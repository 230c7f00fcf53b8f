import Mathlib.Data.List.Forall2
import ConfigNamespace.Proofs.Format.Concatenated
import ConfigNamespace.Proofs.Format.Sections

/-!
# Colons in documents with sections

An entry may be written with a colon in place of its equals sign. The reader looks for an equals sign in
all of the line before it looks for a colon, and so an equals sign of the value is taken for the one
between the key and the value. Where the value has none, the two ways to write an entry are
interchangeable, and only there.
-/

namespace ConfigNamespace.Sections

/-- Whether a key and a value can be an entry with either sign. -/
structure IsSignedEntry (entry : Text × Text) : Prop extends IsEntry entry where
  /-- A key ends before the first colon. -/
  colon_not_mem : CodePoint.ofChar ':' ∉ entry.1

instance (entry : Text × Text) : Decidable (IsSignedEntry entry) :=
  decidable_of_iff (IsEntry entry ∧ CodePoint.ofChar ':' ∉ entry.1)
    ⟨fun ⟨hentry, hcolon⟩ => ⟨hentry, hcolon⟩, fun h => ⟨h.toIsEntry, h.colon_not_mem⟩⟩

/-- The ways to write an entry with a colon: its key, the colon and its value, with blanks around all. -/
inductive WrittenColon (entry : Text × Text) : Text → Prop
  /-- The blanks before and after the entry, and those around the colon. -/
  | intro {before left right after : Text} (hbefore : before.IsBlank) (hleft : left.IsBlank)
    (hright : right.IsBlank) (hafter : after.IsBlank) :
    WrittenColon entry
      (before ++ entry.1 ++ left ++ CodePoint.ofChar ':' :: (right ++ entry.2 ++ after))

/-- Whether two lines are the same, or an entry without an equals sign in its value is written with an
equals sign on one of them and with a colon on the other. -/
inductive Exchanged : Text → Text → Prop
  /-- A line that stays as it is. -/
  | same (line : Text) : Exchanged line line
  /-- A colon for the equals sign. -/
  | colon {entry : Text × Text} {line line' : Text} (hentry : IsSignedEntry entry)
    (hvalue : CodePoint.ofChar '=' ∉ entry.2) (hline : WrittenEntry entry line)
    (hline' : WrittenColon entry line') : Exchanged line line'
  /-- An equals sign for the colon. -/
  | equals {entry : Text × Text} {line line' : Text} (hentry : IsSignedEntry entry)
    (hvalue : CodePoint.ofChar '=' ∉ entry.2) (hline : WrittenEntry entry line)
    (hline' : WrittenColon entry line') : Exchanged line' line

section Lines

variable {entry : Text × Text} {line line' : Text}

/-- What the reader sees of an entry with a colon. -/
theorem WrittenColon.exists_trim_eq (hline : WrittenColon entry line) (hentry : IsSignedEntry entry) :
    ∃ left gap : Text, left.IsBlank ∧ gap.IsBlank ∧
      line.trim = entry.1 ++ (left ++ CodePoint.ofChar ':' :: (gap ++ entry.2)) := by
  obtain @⟨before, left, right, after, hbefore, hleft, hright, hafter⟩ := hline
  have hsign : (CodePoint.ofChar ':').isBlank = false := by decide
  obtain ⟨gap, hgap, htrim⟩ := exists_trim_eq_append hentry.ne_nil hentry.key_trimmed
    hentry.value_trimmed hsign hbefore left hright hafter
  exact ⟨left, gap, hleft, hgap, by rw [htrim, List.append_assoc]⟩

/-- No equals sign stands before the value of an entry with a colon. -/
theorem IsEntry.equals_not_mem_append (hentry : IsEntry entry) {left gap s : Text} (hleft : left.IsBlank)
    (hgap : gap.IsBlank) (hs : CodePoint.ofChar '=' ∉ s) :
    CodePoint.ofChar '=' ∉ entry.1 ++ left ++ CodePoint.ofChar ':' :: (gap ++ s) := by
  have hsign : (CodePoint.ofChar '=').isBlank = false := by decide
  have hne : CodePoint.ofChar '=' ≠ CodePoint.ofChar ':' := by decide
  simp [hentry.equals_not_mem, hleft.not_mem hsign, hgap.not_mem hsign, hne, hs]

/-- An entry with a colon is read as its key and its value if the value has no equals sign. -/
theorem readLine_colon (hline : WrittenColon entry line) (hentry : IsSignedEntry entry)
    (hvalue : CodePoint.ofChar '=' ∉ entry.2) : readLine line.trim = .entry entry.1 entry.2 := by
  obtain ⟨left, gap, hleft, hgap, htrim⟩ := hline.exists_trim_eq hentry
  have hequals := hentry.equals_not_mem_append hleft hgap hvalue
  have hcolon : CodePoint.ofChar ':' ∉ entry.1 ++ left := by
    rw [List.mem_append, not_or]
    exact ⟨hentry.colon_not_mem, hleft.not_mem (by decide)⟩
  have hsplit : splitEntry? (entry.1 ++ left ++ CodePoint.ofChar ':' :: (gap ++ entry.2)) =
      some (entry.1 ++ left, gap ++ entry.2) := by
    unfold splitEntry?
    rw [Text.breakAt?_eq_none hequals, Text.breakAt?_append_cons hcolon]
  have hkey := hentry.trim_key_append hleft
  have hhead := hentry.head_append_not_mem (left ++ CodePoint.ofChar ':' :: (gap ++ entry.2))
  rw [← List.append_assoc] at hhead
  rw [htrim, ← List.append_assoc, readLine_of_split hhead hsplit (by rw [hkey]; exact hentry.ne_nil),
    hkey, trim_gap_append hgap hentry.value_trimmed]

/-- An equals sign in the value of an entry with a colon ends the key that is read, so that the colon
belongs to it. -/
theorem exists_readLine_colon (hline : WrittenColon entry line) (hentry : IsSignedEntry entry)
    (hvalue : CodePoint.ofChar '=' ∈ entry.2) :
    ∃ key value, CodePoint.ofChar ':' ∈ key ∧ readLine line.trim = .entry key value := by
  obtain ⟨left, gap, hleft, hgap, htrim⟩ := hline.exists_trim_eq hentry
  obtain ⟨front, rest, hrest, hfront⟩ := List.eq_append_cons_of_mem hvalue
  let whole := entry.1 ++ left ++ CodePoint.ofChar ':' :: (gap ++ front)
  have hcolon : CodePoint.ofChar ':' ∈ whole.trim := by
    rw [Text.mem_trim (by decide)]
    simp [whole]
  have hequals : CodePoint.ofChar '=' ∉ whole := hentry.equals_not_mem_append hleft hgap hfront
  have hwhole : entry.1 ++ (left ++ CodePoint.ofChar ':' :: (gap ++ entry.2)) =
      whole ++ CodePoint.ofChar '=' :: rest := by
    simp [whole, hrest]
  have hsplit : splitEntry? (whole ++ CodePoint.ofChar '=' :: rest) = some (whole, rest) := by
    unfold splitEntry?
    rw [Text.breakAt?_append_cons hequals]
  have hhead := hentry.head_append_not_mem (left ++ CodePoint.ofChar ':' :: (gap ++ entry.2))
  rw [hwhole] at hhead
  refine ⟨whole.trim, Text.trim rest, hcolon, ?_⟩
  rw [htrim, hwhole, readLine_of_split hhead hsplit (List.ne_nil_of_mem hcolon)]

/-- Lines that differ in a sign alone are read alike. -/
theorem Exchanged.readLine_eq (h : Exchanged line line') : readLine line.trim = readLine line'.trim := by
  cases h with
  | same => rfl
  | colon hentry hvalue hline hline' =>
    rw [readLine_entry hline hentry.toIsEntry, readLine_colon hline' hentry hvalue]
  | equals hentry hvalue hline hline' =>
    rw [readLine_entry hline hentry.toIsEntry, readLine_colon hline' hentry hvalue]

end Lines

section Documents

variable {delimiter : Text} {content content' : Text}

/-- Lines that differ in signs alone declare the same, or fail alike. -/
theorem declarationsFrom_exchanged {lines lines' : List Text} (h : List.Forall₂ Exchanged lines lines')
    (number : Nat) (name : Text) :
    declarationsFrom delimiter number name lines = declarationsFrom delimiter number name lines' := by
  induction h generalizing number name with
  | nil => rfl
  | cons hline _ ih =>
    rw [declarationsFrom, declarationsFrom, hline.readLine_eq]
    simp only [ih]

/-- Within a section, keys stay apart. -/
theorem sectionKey_injective (delimiter name : Text) :
    Function.Injective (sectionKey delimiter name) := by
  intro key key' h
  unfold sectionKey at h
  split at h
  · exact h
  · exact List.append_cancel_left h

/-- What lines declare if one of them is an entry: the entry stands between what is declared before and
after it, within the section that holds there. -/
theorem declarationsFrom_append_entry {before after : List Text} {line key value : Text}
    (hline : readLine line.trim = .entry key value) (number : Nat) (name : Text) :
    declarationsFrom delimiter number name (before ++ line :: after) =
      (declarationsFrom delimiter number name before).bind fun declared =>
        (declarationsFrom delimiter (number + before.length + 1) (sectionAfter name before) after).map
          fun others => declared ++ (sectionKey delimiter (sectionAfter name before) key, value) ::
            others := by
  rw [declarationsFrom_append]
  congr 1
  funext declared
  rw [declarationsFrom, hline]
  dsimp only
  cases declarationsFrom delimiter (number + before.length + 1) (sectionAfter name before) after <;> rfl

/-- Declarations of which one stands under another key make another mapping. -/
theorem ofGrouped_ne_of_key {declared others : List (Text × Text)} {key key' value value' : Text}
    (h : key' ≠ key) :
    RawMapping.ofGrouped (groupDeclarations (declared ++ (key', value') :: others)) ≠
      RawMapping.ofGrouped (groupDeclarations (declared ++ (key, value) :: others)) := by
  intro heq
  have hlength := congrArg (fun mapping : RawMapping => (mapping.valuesAt key).length) heq
  simp only [valuesAt_ofGrouped, valuesUnder_append, valuesUnder_cons, if_neg h, ↓reduceIte,
    List.length_map, List.length_append, List.length_cons] at hlength
  omega

/-- The two signs of an entry are interchangeable where the value has no equals sign. Documents whose
lines differ in such signs alone are read as the same mapping, or fail alike. If one line of a document
that can be read is an entry with an equals sign, then the document with a colon in its place is read as
the same mapping exactly if there is no equals sign in the value. -/
theorem parse_exchanged (delimiter : Text) {encoding : Encoding} {bytes bytes' : List UInt8}
    (hdecode : encoding.decode bytes = .ok content) (hdecode' : encoding.decode bytes' = .ok content') :
    (List.Forall₂ Exchanged content.lines content'.lines →
      (Parser.sections encoding).parse delimiter bytes =
        (Parser.sections encoding).parse delimiter bytes') ∧
    ∀ (before after : List Text) (line line' : Text) (entry : Text × Text) (mapping : RawMapping),
      IsSignedEntry entry → WrittenEntry entry line → WrittenColon entry line' →
      content.lines = before ++ line :: after → content'.lines = before ++ line' :: after →
      (Parser.sections encoding).parse delimiter bytes = .ok mapping →
        ((Parser.sections encoding).parse delimiter bytes' = .ok mapping ↔
          CodePoint.ofChar '=' ∉ entry.2) := by
  have halike (h : List.Forall₂ Exchanged content.lines content'.lines) :
      (Parser.sections encoding).parse delimiter bytes =
        (Parser.sections encoding).parse delimiter bytes' := by
    rw [Parser.parse_sections hdecode, Parser.parse_sections hdecode', declarations, declarations,
      declarationsFrom_exchanged h]
  refine ⟨halike, ?_⟩
  intro before after line line' entry mapping hentry hline hline' hlines hlines' hread
  constructor
  · intro hread' hvalue
    obtain ⟨key, value, hcolon, hcut⟩ := exists_readLine_colon hline' hentry hvalue
    have hkey : sectionKey delimiter (sectionAfter [] before) key ≠
        sectionKey delimiter (sectionAfter [] before) entry.1 := by
      intro heq
      exact hentry.colon_not_mem (sectionKey_injective _ _ heq ▸ hcolon)
    rw [Parser.parse_sections hdecode, declarations, hlines,
      declarationsFrom_append_entry (readLine_entry hline hentry.toIsEntry)] at hread
    rw [Parser.parse_sections hdecode', declarations, hlines', declarationsFrom_append_entry hcut]
      at hread'
    cases hbefore : declarationsFrom delimiter 1 [] before with
    | error failure =>
      rw [hbefore] at hread
      cases hread
    | ok declared =>
      cases hafter : declarationsFrom delimiter (1 + before.length + 1) (sectionAfter [] before)
          after with
      | error failure =>
        rw [hbefore, hafter] at hread
        cases hread
      | ok others =>
        rw [hbefore, hafter] at hread hread'
        exact ofGrouped_ne_of_key hkey (Except.ok.inj (hread'.trans hread.symm))
  · intro hvalue
    have hsame (lines : List Text) : List.Forall₂ Exchanged lines lines :=
      List.forall₂_same.mpr fun line _ => .same line
    rw [← hread, halike]
    rw [hlines, hlines']
    exact List.rel_append (hsame before) (.cons (.colon hentry hvalue hline hline') (hsame after))

/-- A colon for an equals sign and an equals sign for a colon, and an equals sign in a value. -/
theorem parse_exchanged_twofold :
    let read (content : Text) := (Parser.sections .utf8).parse (text ".") content.utf8
    read (text "[s]\nu=h:80\nv : a:") = read (text "[s]\nu: h:80\nv=a:") ∧
      read (text "u=a=b") = .ok [(text "u", .str (text "a=b"))] ∧
      read (text "u: a=b") ≠ .ok [(text "u", .str (text "a=b"))] := by
  intro read
  have hdecode {content : Text} (hscalar : content.IsScalar) : Encoding.utf8.decode content.utf8 =
      .ok content := decodeUtf8From_utf8 hscalar 0
  have hnone := Text.isBlank_nil
  have hspace : Text.IsBlank (text " ") := by decide
  have hexchanged : List.Forall₂ Exchanged (text "[s]\nu=h:80\nv : a:").lines
      (text "[s]\nu: h:80\nv=a:").lines := by
    have hfirst : Exchanged (text "u=h:80") (text "u: h:80") :=
      @Exchanged.colon (text "u", text "h:80") _ _ (by decide) (by decide)
        (.intro hnone hnone hnone hnone) (.intro hnone hnone hspace hnone)
    have hsecond : Exchanged (text "v : a:") (text "v=a:") :=
      @Exchanged.equals (text "v", text "a:") _ _ (by decide) (by decide)
        (.intro hnone hnone hnone hnone) (.intro hnone hspace hspace hnone)
    have hlines : (text "[s]\nu=h:80\nv : a:").lines = [text "[s]", text "u=h:80", text "v : a:"] ∧
        (text "[s]\nu: h:80\nv=a:").lines = [text "[s]", text "u: h:80", text "v=a:"] := by
      decide +kernel
    rw [hlines.1, hlines.2]
    exact .cons (.same _) (.cons hfirst (.cons hsecond .nil))
  have hsame : read (text "[s]\nu=h:80\nv : a:") = read (text "[s]\nu: h:80\nv=a:") :=
    (parse_exchanged (text ".") (hdecode (by decide)) (hdecode (by decide))).1 hexchanged
  have hread : read (text "u=a=b") = .ok [(text "u", .str (text "a=b"))] := by
    have hdeclared : declarations (text ".") (text "u=a=b") = .ok [(text "u", text "a=b")] :=
      eq_ok_of_toOption (by decide +kernel)
    exact parse_of_declarations hdeclared (hdecode (by decide))
  have hlines : (text "u=a=b").lines = [] ++ text "u=a=b" :: [] ∧
      (text "u: a=b").lines = [] ++ text "u: a=b" :: [] := by decide +kernel
  have hapart : read (text "u: a=b") = .ok [(text "u", .str (text "a=b"))] ↔
      CodePoint.ofChar '=' ∉ text "a=b" :=
    (parse_exchanged (text ".") (hdecode (by decide)) (hdecode (by decide))).2 [] [] _ _
      (text "u", text "a=b") _ (by decide) (.intro hnone hnone hnone hnone)
      (.intro hnone hnone hspace hnone) hlines.1 hlines.2 hread
  exact ⟨hsame, hread, fun hread' => hapart.mp hread' (by decide)⟩

/-- An address with both signs is cut at the wrong one after a colon. -/
theorem not_parse_exchanged :
    let read (line : Text) := (Parser.sections .utf8).parse (text ".") line.utf8
    read (text "url=http://h?a=b") = .ok [(text "url", .str (text "http://h?a=b"))] ∧
      read (text "url: http://h?a=b") = .ok [(text "url: http://h?a", .str (text "b"))] ∧
      ¬∀ entry : Text × Text, IsSignedEntry entry → entry.1.IsScalar → entry.2.IsScalar →
        read (entry.1 ++ text ": " ++ entry.2) = read (entry.1 ++ text "=" ++ entry.2) := by
  intro read
  have hequals : read (text "url=http://h?a=b") = .ok [(text "url", .str (text "http://h?a=b"))] := by
    have hdeclared : declarations (text ".") (text "url=http://h?a=b") =
        .ok [(text "url", text "http://h?a=b")] := eq_ok_of_toOption (by decide +kernel)
    exact parse_of_declarations hdeclared (decodeUtf8From_utf8 (by decide) 0)
  have hcolon : read (text "url: http://h?a=b") = .ok [(text "url: http://h?a", .str (text "b"))] := by
    have hdeclared : declarations (text ".") (text "url: http://h?a=b") =
        .ok [(text "url: http://h?a", text "b")] := eq_ok_of_toOption (by decide +kernel)
    exact parse_of_declarations hdeclared (decodeUtf8From_utf8 (by decide) 0)
  refine ⟨hequals, hcolon, fun h => ?_⟩
  have hread := h (text "url", text "http://h?a=b") (by decide) (by decide) (by decide)
  have hlines : text "url" ++ text ": " ++ text "http://h?a=b" = text "url: http://h?a=b" ∧
      text "url" ++ text "=" ++ text "http://h?a=b" = text "url=http://h?a=b" := by decide
  rw [hlines.1, hlines.2, hequals, hcolon] at hread
  simp only [Except.ok.injEq, List.cons.injEq, Prod.mk.injEq] at hread
  exact absurd hread.1.1 (by decide)

end Documents

end ConfigNamespace.Sections
