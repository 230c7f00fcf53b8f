import ConfigNamespace.Format.Parser
import ConfigNamespace.Proofs.Document.Grouping
import ConfigNamespace.Proofs.Format.Written
import ConfigNamespace.Proofs.Text.Lines

/-!
# Spelling out flat documents

Every key and every value can be spelled out in a flat document, each character by its number. What is
spelled out holds no blanks, no separators and no comment signs, so that no line is trimmed, passed
over or joined with the next one, and the first equals sign is the one between the key and the value.
A document of such lines declares what was spelled out, whatever stands between the lines that holds
nothing of its own.
-/

namespace ConfigNamespace.Properties

/-- Whether a character is the hexadecimal digit of a number, in either case. -/
def IsDigitOf (n : Nat) (d : CodePoint) : Prop :=
  ∃ digits ∈ [text "0123456789abcdef", text "0123456789ABCDEF"], digits[n]? = some d

instance (n : Nat) (d : CodePoint) : Decidable (IsDigitOf n d) := List.decidableBEx _ _

/-- `SpelledChar c t`: the text `t` is a backslash, the letter `u` and four hexadecimal digits of the
number of `c`. -/
inductive SpelledChar (c : CodePoint) : Text → Prop
  /-- The four digits have the value of the number. -/
  | number {x y z w : Nat} {a b d e : CodePoint} (ha : IsDigitOf x a) (hb : IsDigitOf y b)
    (hd : IsDigitOf z d) (he : IsDigitOf w e)
    (hvalue : ((x * 0x10 + y) * 0x10 + z) * 0x10 + w = c.val) :
    SpelledChar c [.backslash, CodePoint.ofChar 'u', a, b, d, e]

/-- `Spelled s t`: the text `t` spells out all characters of `s`. -/
inductive Spelled : (s t : Text) → Prop
  /-- Nothing spells out the empty text. -/
  | nil : Spelled [] []
  /-- The first character is spelled out before the others. -/
  | cons {c : CodePoint} {s t u : Text} (hc : SpelledChar c t) (hs : Spelled s u) :
    Spelled (c :: s) (t ++ u)

/-- The signs that begin a comment. -/
def commentSigns : List CodePoint := [CodePoint.ofChar '#', CodePoint.ofChar '!']

/-- The lines that spell out pairs of keys and values: one for each pair, and between them lines that
hold nothing or a comment. -/
inductive SpelledLines : (pairs : List (Text × Text)) → (lines : List Text) → Prop
  /-- No lines for no pairs. -/
  | nil : SpelledLines [] []
  /-- A line that holds nothing or a comment. -/
  | filler {pairs : List (Text × Text)} {line : Text} {lines : List Text}
    (hline : Text.IsFiller commentSigns line) (hrest : SpelledLines pairs lines) :
    SpelledLines pairs (line :: lines)
  /-- The line of the first pair. -/
  | pair {key value k v : Text} {pairs : List (Text × Text)} {lines : List Text}
    (hkey : Spelled key k) (hvalue : Spelled value v) (hrest : SpelledLines pairs lines) :
    SpelledLines ((key, value) :: pairs) ((k ++ CodePoint.ofChar '=' :: v) :: lines)

section Characters

variable {c : CodePoint} {t : Text}

/-- What a reader makes of a hexadecimal digit: it is read as what it was written for, and is nothing
that is trimmed away, separates or escapes. -/
private theorem isDigitOf_spec {n : Nat} {d : CodePoint} (h : IsDigitOf n d) :
    d.hexDigit? = some n ∧ d.isBlank = false ∧ isSeparator d = false ∧ d ≠ .backslash ∧
      d.isSurrogate = false := by
  have hspec : ∀ digits ∈ [text "0123456789abcdef", text "0123456789ABCDEF"], ∀ n < 0x10,
      ∀ d ∈ digits[n]?, d.hexDigit? = some n ∧ d.isBlank = false ∧ isSeparator d = false ∧
        d ≠ .backslash ∧ d.isSurrogate = false := by
    decide
  have hlength : ∀ digits ∈ [text "0123456789abcdef", text "0123456789ABCDEF"],
      digits.length = 0x10 := by
    decide
  obtain ⟨digits, hdigits, hd⟩ := h
  obtain ⟨hn, -⟩ := List.getElem?_eq_some_iff.mp hd
  exact hspec digits hdigits n (hlength digits hdigits ▸ hn) d hd

/-- A character of at most four digits can be spelled out. -/
theorem exists_spelledChar (hc : c.val < 0x10000) :
    ∃ t, SpelledChar c t ∧ ∀ a ∈ t, a.isSurrogate = false := by
  have hdigit : ∀ n < 0x10, ∃ d, IsDigitOf n d := by
    intro n hn
    exact ⟨(text "0123456789abcdef")[n], _, List.mem_cons_self, List.getElem?_eq_getElem hn⟩
  obtain ⟨a, ha⟩ := hdigit (c.val / 0x1000) (by omega)
  obtain ⟨b, hb⟩ := hdigit (c.val / 0x100 % 0x10) (by omega)
  obtain ⟨d, hd⟩ := hdigit (c.val / 0x10 % 0x10) (by omega)
  obtain ⟨e, he⟩ := hdigit (c.val % 0x10) (by omega)
  refine ⟨_, .number ha hb hd he (by omega), ?_⟩
  intro s hs
  simp only [List.mem_cons, List.not_mem_nil, or_false] at hs
  rcases hs with rfl | rfl | rfl | rfl | rfl | rfl
  · decide
  · decide
  · exact (isDigitOf_spec ha).2.2.2.2
  · exact (isDigitOf_spec hb).2.2.2.2
  · exact (isDigitOf_spec hd).2.2.2.2
  · exact (isDigitOf_spec he).2.2.2.2

namespace SpelledChar

/-- What spells out a character holds no blanks. -/
theorem isBlank_of_mem (h : SpelledChar c t) {a : CodePoint} (ha : a ∈ t) : a.isBlank = false := by
  obtain ⟨hx, hy, hz, hw, -⟩ := h
  simp only [List.mem_cons, List.not_mem_nil, or_false] at ha
  rcases ha with rfl | rfl | rfl | rfl | rfl | rfl
  · decide
  · decide
  · exact (isDigitOf_spec hx).2.1
  · exact (isDigitOf_spec hy).2.1
  · exact (isDigitOf_spec hz).2.1
  · exact (isDigitOf_spec hw).2.1

/-- What spells out a character does not make a line go on. -/
theorem isContinued_append (h : SpelledChar c t) (s : Text) : isContinued (s ++ t) = false := by
  obtain @⟨x, y, z, w, a, b, d, e, -, -, -, hw, -⟩ := h
  have hsplit : s ++ [.backslash, CodePoint.ofChar 'u', a, b, d, e] =
      s ++ [.backslash, CodePoint.ofChar 'u', a, b, d] ++ [e] := by simp
  rw [hsplit, isContinued_concat]
  simp [(isDigitOf_spec hw).2.2.2.1]

/-- What spells out a character holds no separator. -/
theorem breakAtSeparator?_append (h : SpelledChar c t) (s : Text) :
    breakAtSeparator? false (t ++ s) =
      (breakAtSeparator? false s).map fun parts => (t ++ parts.1, parts.2) := by
  obtain ⟨hx, hy, hz, hw, -⟩ := h
  simp only [List.cons_append, List.nil_append]
  rw [breakAtSeparator?_cons (.inr (by decide)), breakAtSeparator?_cons (.inl (by decide)),
    breakAtSeparator?_cons (.inr (isDigitOf_spec hx).2.2.1),
    breakAtSeparator?_cons (.inr (isDigitOf_spec hy).2.2.1),
    breakAtSeparator?_cons (.inr (isDigitOf_spec hz).2.2.1),
    breakAtSeparator?_cons (.inr (isDigitOf_spec hw).2.2.1)]
  simp only [Option.map_map, (isDigitOf_spec hw).2.2.2.1]
  rfl

/-- What spells out a character is read as that character. -/
theorem unescape?_append (h : SpelledChar c t) (s : Text) :
    unescape? (t ++ s) = (unescape? s).map (c :: ·) := by
  obtain @⟨x, y, z, w, a, b, d, e, hx, hy, hz, hw, hvalue⟩ := h
  have hfour : fourDigits? a b d e = some c.val := by
    rw [fourDigits?, (isDigitOf_spec hx).1, (isDigitOf_spec hy).1, (isDigitOf_spec hz).1,
      (isDigitOf_spec hw).1]
    exact congrArg some hvalue
  simp only [List.cons_append, List.nil_append]
  rw [unescape?, if_pos rfl, if_pos rfl, hfour]
  cases unescape? s with
  | none => rfl
  | some out => exact congrArg (fun a => some (a :: out)) (CodePoint.ofNat_eq rfl)

end SpelledChar

end Characters

/-- A text of characters of at most four digits can be spelled out. -/
theorem exists_spelled {s : Text} (hs : ∀ c ∈ s, c.val < 0x10000) :
    ∃ t, Spelled s t ∧ t.IsScalar := by
  induction s with
  | nil => exact ⟨[], .nil, fun a ha => absurd ha List.not_mem_nil⟩
  | cons c s ih =>
    obtain ⟨t, hc, ht⟩ := exists_spelledChar (hs c List.mem_cons_self)
    obtain ⟨u, hs, hu⟩ := ih fun a ha => hs a (List.mem_cons_of_mem _ ha)
    exact ⟨t ++ u, .cons hc hs, fun a ha => (List.mem_append.mp ha).elim (ht a) (hu a)⟩

/-- A character on its own is spelled out by its digits. -/
theorem spelled_singleton {c a b d e : CodePoint} (x y z w : Nat) (ha : IsDigitOf x a)
    (hb : IsDigitOf y b) (hd : IsDigitOf z d) (he : IsDigitOf w e)
    (hvalue : ((x * 0x10 + y) * 0x10 + z) * 0x10 + w = c.val) :
    Spelled [c] [.backslash, CodePoint.ofChar 'u', a, b, d, e] :=
  .cons (.number ha hb hd he hvalue) .nil

namespace Spelled

variable {s t : Text}

/-- A text that is spelled has no blanks in it. -/
theorem isBlank_of_mem (h : Spelled s t) {a : CodePoint} (ha : a ∈ t) : a.isBlank = false := by
  induction h with
  | nil => exact absurd ha List.not_mem_nil
  | cons hc _ ih => exact (List.mem_append.mp ha).elim hc.isBlank_of_mem ih

/-- What spells out a text that is not empty begins with a backslash. -/
theorem exists_eq_cons (h : Spelled s t) (hne : s ≠ []) : ∃ u, t = .backslash :: u := by
  cases h with
  | nil => exact absurd rfl hne
  | cons hc _ =>
    cases hc
    exact ⟨_, rfl⟩

/-- What spells out a text does not make a line go on. -/
theorem isContinued_append (h : Spelled s t) {u : Text} (hu : isContinued u = false) :
    isContinued (u ++ t) = false := by
  induction h generalizing u with
  | nil => rwa [List.append_nil]
  | cons hc _ ih =>
    rw [← List.append_assoc]
    exact ih (hc.isContinued_append u)

/-- What spells out a text holds no separator. -/
theorem breakAtSeparator?_append (h : Spelled s t) (u : Text) :
    breakAtSeparator? false (t ++ u) =
      (breakAtSeparator? false u).map fun parts => (t ++ parts.1, parts.2) := by
  induction h with
  | nil => exact Option.map_id'.symm
  | cons hc _ ih =>
    rw [List.append_assoc, hc.breakAtSeparator?_append, ih, Option.map_map]
    simp only [Function.comp_def, List.append_assoc]

/-- What spells out a text is read as that text. -/
theorem unescape?_eq (h : Spelled s t) : unescape? t = some s := by
  induction h with
  | nil => rfl
  | cons hc _ ih =>
    rw [hc.unescape?_append, ih]
    rfl

end Spelled

section Lines

variable {key value k v : Text}

/-- The line of a pair holds no blanks. -/
private theorem isBlank_of_mem_line (hkey : Spelled key k) (hvalue : Spelled value v)
    {a : CodePoint} (ha : a ∈ k ++ CodePoint.ofChar '=' :: v) : a.isBlank = false := by
  rw [List.mem_append, List.mem_cons] at ha
  rcases ha with ha | rfl | ha
  · exact hkey.isBlank_of_mem ha
  · decide
  · exact hvalue.isBlank_of_mem ha

/-- The line of a pair is a logical line of its own. -/
theorem logicalLines_spelled (hkey : Spelled key k) (hvalue : Spelled value v) (hne : key ≠ [])
    (number : Nat) (lines : List Text) :
    logicalLines number none ((k ++ CodePoint.ofChar '=' :: v) :: lines) =
      (number, k ++ CodePoint.ofChar '=' :: v) :: logicalLines (number + 1) none lines := by
  have htrim : Text.trim (k ++ CodePoint.ofChar '=' :: v) = k ++ CodePoint.ofChar '=' :: v :=
    (Text.isTrimmed_of_forall fun _ ha => isBlank_of_mem_line hkey hvalue ha).trim_eq
  have hpassed : isPassedOver (k ++ CodePoint.ofChar '=' :: v) = false := by
    obtain ⟨u, rfl⟩ := hkey.exists_eq_cons hne
    rfl
  have hcontinued : isContinued (k ++ CodePoint.ofChar '=' :: v) = false := by
    have hsplit : k ++ CodePoint.ofChar '=' :: v = k ++ [CodePoint.ofChar '='] ++ v := by simp
    rw [hsplit]
    refine hvalue.isContinued_append ?_
    rw [isContinued_concat]
    rfl
  rw [logicalLines, htrim, if_neg (by simp [hpassed]), if_neg (by simp [hcontinued])]

/-- A line that holds nothing or a comment is passed over where no line goes on. -/
theorem logicalLines_filler {line : Text} (hline : Text.IsFiller commentSigns line) (number : Nat)
    (lines : List Text) :
    logicalLines number none (line :: lines) = logicalLines (number + 1) none lines := by
  have hpassed : isPassedOver line.trim = true := by
    rcases hline.trim_eq (by decide) with hnone | ⟨sign, hsign, comment, hcomment⟩
    · rw [hnone]
      rfl
    · rw [hcomment, isPassedOver]
      simpa [commentSigns] using hsign
  rw [logicalLines, if_pos hpassed]

/-- The line of a pair declares the value under the key. -/
theorem declaration_spelled (hkey : Spelled key k) (hvalue : Spelled value v) (hne : key ≠ [])
    (number : Nat) :
    declaration (number, k ++ CodePoint.ofChar '=' :: v) = .ok (key, value) := by
  have hbreak : breakAtSeparator? false (k ++ CodePoint.ofChar '=' :: v) =
      some (k, CodePoint.ofChar '=', v) := by
    rw [hkey.breakAtSeparator?_append]
    simp [breakAtSeparator?, isSeparator]
  have hstart : v.trimStart = v := by
    cases v with
    | nil => rfl
    | cons a v => exact Text.trimStart_cons (hvalue.isBlank_of_mem List.mem_cons_self) v
  have hsplit : splitLine (k ++ CodePoint.ofChar '=' :: v) = (k, v) := by
    rw [splitLine, hbreak]
    dsimp only
    rw [hstart, if_neg (by decide)]
  have hk : k ≠ [] := by
    obtain ⟨u, rfl⟩ := hkey.exists_eq_cons hne
    exact List.cons_ne_nil _ _
  rw [declaration]
  dsimp only
  rw [hsplit, if_neg hk, hkey.unescape?_eq, hvalue.unescape?_eq]

end Lines

section Documents

variable {pairs : List (Text × Text)} {lines : List Text}

/-- The lines of pairs declare the pairs. -/
theorem SpelledLines.declarationsOf_eq (h : SpelledLines pairs lines)
    (hkeys : ∀ pair ∈ pairs, pair.1 ≠ []) (number : Nat) :
    declarationsOf (logicalLines number none lines) = .ok pairs := by
  induction h generalizing number with
  | nil => rfl
  | filler hline _ ih => rw [logicalLines_filler hline, ih hkeys]
  | pair hkey hvalue _ ih =>
    have hne := hkeys _ List.mem_cons_self
    rw [logicalLines_spelled hkey hvalue hne, declarationsOf, declaration_spelled hkey hvalue hne,
      ih fun pair hpair => hkeys pair (List.mem_cons_of_mem _ hpair)]

/-- Pairs of texts of characters of at most four digits have lines that spell them out. -/
theorem exists_spelledLines
    (hbmp : ∀ pair ∈ pairs, ∀ c ∈ pair.1 ++ pair.2, c.val < 0x10000) :
    ∃ lines, SpelledLines pairs lines ∧ ∀ line ∈ lines, line.IsUnbroken ∧ line.IsScalar := by
  induction pairs with
  | nil => exact ⟨[], .nil, fun line hline => absurd hline List.not_mem_nil⟩
  | cons pair pairs ih =>
    obtain ⟨key, value⟩ := pair
    obtain ⟨lines, hlines, hall⟩ := ih fun pair hpair => hbmp pair (List.mem_cons_of_mem _ hpair)
    have hfirst := hbmp (key, value) List.mem_cons_self
    obtain ⟨k, hkey, hk⟩ := exists_spelled fun c hc => hfirst c (List.mem_append_left _ hc)
    obtain ⟨v, hvalue, hv⟩ := exists_spelled fun c hc => hfirst c (List.mem_append_right _ hc)
    refine ⟨(k ++ CodePoint.ofChar '=' :: v) :: lines, .pair hkey hvalue hlines, ?_⟩
    rintro line (_ | ⟨_, hline⟩)
    · refine ⟨Text.isUnbroken_of_forall fun a ha => isBlank_of_mem_line hkey hvalue ha, ?_⟩
      intro a ha
      rw [List.mem_append, List.mem_cons] at ha
      rcases ha with ha | rfl | ha
      · exact hk a ha
      · decide
      · exact hv a ha
    · exact hall line hline

/-- The parser of flat documents gives the mapping that the declarations make. -/
theorem parse_of_declarations {document : Text} {declared : List (Text × Text)}
    (hdeclared : declarations document = .ok declared) (delimiter : Text) {encoding : Encoding}
    {content : List UInt8} (hdecode : encoding.decode content = .ok document) :
    (Parser.properties encoding).parse delimiter content = .ok (declaredMapping declared) := by
  rw [Parser.parse_properties hdecode, hdeclared, Parser.grouped_ok]

/-- Every flat document can be spelled out. What is spelled out, with what end of each line and what
lines between them that hold nothing of their own, is read back: the keys, each where it stands first,
with all that stands under them. -/
theorem parse_spelled (delimiter : Text) (hkeys : ∀ pair ∈ pairs, pair.1 ≠ [])
    (hbmp : ∀ pair ∈ pairs, ∀ c ∈ pair.1 ++ pair.2, c.val < 0x10000) :
    (∃ lines document, SpelledLines pairs lines ∧ Text.LaidOut lines document ∧
        document.IsScalar) ∧
      ∀ lines document, SpelledLines pairs lines → Text.LaidOut lines document →
        (document.IsScalar → (Parser.properties .utf8).parse delimiter document.utf8 =
          .ok (declaredMapping pairs)) ∧
        ∀ (encoding : Encoding) (content : List UInt8), encoding.decode content = .ok document →
          (Parser.properties encoding).parse delimiter content = .ok (declaredMapping pairs) := by
  constructor
  · obtain ⟨lines, hlines, hall⟩ := exists_spelledLines hbmp
    refine ⟨lines, _, hlines, Text.laidOut_lineFeeds fun line hline => (hall line hline).1, ?_⟩
    intro a ha
    obtain ⟨line, hline, ha⟩ := List.mem_flatMap.mp ha
    rcases List.mem_append.mp ha with ha | ha
    · exact (hall line hline).2 a ha
    · rw [List.mem_singleton.mp ha]
      decide
  · intro lines document hlines hdocument
    have hdeclared : declarations document = .ok pairs := by
      rw [declarations, hdocument.lines_eq, hlines.declarationsOf_eq hkeys]
    exact ⟨fun hscalar => parse_of_declarations hdeclared delimiter (decodeUtf8From_utf8 hscalar 0),
      fun encoding content hdecode => parse_of_declarations hdeclared delimiter hdecode⟩

/-- A key that is a separator, twice, with a comment sign and a line end as values, and a key without
a value, in lines with a comment and an empty one among them, with ends of several kinds. -/
theorem parse_spelled_repeated :
    (Parser.properties .utf8).parse (text ".")
        (text "\\u003D=\\u0023\r\n ! a=b\\\r\\u006b=\n\n\\u003d=\\u000A").utf8 =
      .ok [(text "=", .list [.str (text "#"), .str (text "\n")]), (text "k", .str [])] := by
  have hcomment : Text.IsFiller commentSigns (text " ! a=b\\") :=
    .inr ⟨text " ", CodePoint.ofChar '!', text " a=b\\", rfl, by decide, by decide⟩
  have hempty : Text.IsFiller commentSigns [] := .inl Text.isBlank_nil
  let lines : List Text :=
    [text "\\u003D=\\u0023", text " ! a=b\\", text "\\u006b=", [], text "\\u003d=\\u000A"]
  have hlines :
      SpelledLines [(text "=", text "#"), (text "k", []), (text "=", text "\n")] lines := by
    refine .pair (k := text "\\u003D") (v := text "\\u0023") ?_ ?_ <| .filler hcomment <|
      .pair (k := text "\\u006b") (v := []) ?_ .nil <| .filler hempty <|
      .pair (k := text "\\u003d") (v := text "\\u000A") ?_ ?_ .nil
    · exact spelled_singleton 0 0 3 13 (by decide) (by decide) (by decide) (by decide) (by decide)
    · exact spelled_singleton 0 0 2 3 (by decide) (by decide) (by decide) (by decide) (by decide)
    · exact spelled_singleton 0 0 6 11 (by decide) (by decide) (by decide) (by decide) (by decide)
    · exact spelled_singleton 0 0 3 13 (by decide) (by decide) (by decide) (by decide) (by decide)
    · exact spelled_singleton 0 0 0 10 (by decide) (by decide) (by decide) (by decide) (by decide)
  have hdocument : Text.LaidOut lines
      (text "\\u003D=\\u0023" ++ text "\r\n" ++ (text " ! a=b\\" ++ text "\r" ++
        (text "\\u006b=" ++ text "\n" ++ ([] ++ text "\n" ++ text "\\u003d=\\u000A")))) := by
    exact .cons (by decide) (by decide) (by decide) <| .cons (by decide) (by decide) (by decide) <|
      .cons (by decide) (by decide) (by decide) <| .cons (by decide) (by decide) (by decide) <|
      .last (by decide) (by decide)
  have hread := ((parse_spelled (text ".") (by decide) (by decide)).2 _ _ hlines hdocument).1 (by decide)
  exact hread

end Documents

end ConfigNamespace.Properties
