import ConfigNamespace.Text.Blank

/-!
# Laws of lines and blanks

A document is laid out as lines with something that ends each of them, and its lines are these again.
A line feed ends the line before it, whatever follows; a carriage return does unless a line feed
follows. Trimming takes nothing from a text that begins and ends with characters that are not blank,
and takes what blanks stand around it.
-/

namespace ConfigNamespace.Text

/-- Whether a text is free of characters that end a line. -/
def IsUnbroken (s : Text) : Prop := ∀ c ∈ s, c.isLineEnd = false

/-- Whether a text is made of blanks. -/
def IsBlank (s : Text) : Prop := ∀ c ∈ s, c.isBlank = true

/-- Whether a text neither begins nor ends with a blank. -/
def IsTrimmed (s : Text) : Prop :=
  (∀ c ∈ s.head?, c.isBlank = false) ∧ ∀ c ∈ s.getLast?, c.isBlank = false

instance (s : Text) : Decidable s.IsUnbroken := List.decidableBAll _ _

instance (s : Text) : Decidable s.IsBlank := List.decidableBAll _ _

instance (s : Text) : Decidable s.IsTrimmed := instDecidableAnd

/-- What may end a line. -/
def terminators : List Text :=
  [text "\n", text "\r", text "\r\n", [CodePoint.ofNat 0x0B], [CodePoint.ofNat 0x0C],
    [CodePoint.ofNat 0x1C], [CodePoint.ofNat 0x1D], [CodePoint.ofNat 0x1E], [CodePoint.ofNat 0x85],
    [CodePoint.ofNat 0x2028], [CodePoint.ofNat 0x2029]]

/-- The documents that have the given lines. The last line may go without an end unless it is
empty. -/
inductive LaidOut : (lines : List Text) → (document : Text) → Prop
  /-- A document without lines is empty. -/
  | nil : LaidOut [] []
  /-- A last line. -/
  | last {line : Text} (hline : line.IsUnbroken) (hne : line ≠ []) : LaidOut [line] line
  /-- A line with its end. A carriage return and a line feed are never two ends in a row. -/
  | cons {line terminator document : Text} {lines : List Text} (hline : line.IsUnbroken)
    (hend : terminator ∈ terminators)
    (hjoined : terminator = text "\r" → document.head? ≠ some (CodePoint.ofChar '\n'))
    (hrest : LaidOut lines document) : LaidOut (line :: lines) (line ++ terminator ++ document)

/-- Two unbroken texts make an unbroken one. -/
theorem IsUnbroken.append {s t : Text} (hs : s.IsUnbroken) (ht : t.IsUnbroken) :
    IsUnbroken (s ++ t) := fun c hc => (List.mem_append.mp hc).elim (hs c) (ht c)

/-- Two blank texts make a blank one. -/
theorem IsBlank.append {s t : Text} (hs : s.IsBlank) (ht : t.IsBlank) : IsBlank (s ++ t) :=
  fun c hc => (List.mem_append.mp hc).elim (hs c) (ht c)

/-- Blanks are all that a blank text holds. -/
theorem IsBlank.not_mem {s : Text} {c : CodePoint} (hs : s.IsBlank) (hc : c.isBlank = false) : c ∉ s :=
  fun hmem => Bool.eq_false_iff.mp hc (hs c hmem)

/-- The empty text is blank. -/
theorem isBlank_nil : IsBlank [] := fun _ hc => absurd hc List.not_mem_nil

section Lines

variable {line s : Text} {rest : List Text}

/-- What ends a line ends an empty one at the start of a text. -/
theorem lines_terminator_append {terminator : Text} (hend : terminator ∈ terminators)
    (hjoined : terminator = text "\r" → s.head? ≠ some (CodePoint.ofChar '\n')) :
    lines (terminator ++ s) = [] :: lines s := by
  simp only [terminators, List.mem_cons, List.not_mem_nil, or_false] at hend
  rcases hend with rfl | rfl | rfl | rfl | rfl | rfl | rfl | rfl | rfl | rfl | rfl
  case inr.inl =>
    cases s with
    | nil => rfl
    | cons c s =>
      have hc : c ≠ CodePoint.ofChar '\n' := by simpa using hjoined rfl
      have hval : c.val ≠ 0x0A := fun h => hc (CodePoint.ext h)
      change lines (CodePoint.ofChar '\r' :: c :: s) = _
      rw [lines.eq_def]
      dsimp only
      rw [if_pos (by decide), if_neg fun h => hval h.2]
  all_goals cases s <;> rfl

/-- A line goes up to what ends it. -/
theorem lines_append (hline : line.IsUnbroken) (hs : lines s = [] :: rest) :
    lines (line ++ s) = line :: rest := by
  induction line with
  | nil => exact hs
  | cons c line ih =>
    have hc : c.isLineEnd = false := hline c List.mem_cons_self
    rw [List.cons_append, lines.eq_def]
    dsimp only
    rw [if_neg (by simp [hc]), ih fun a ha => hline a (List.mem_cons_of_mem _ ha), consLine]

/-- A line feed ends the line before it. -/
theorem lines_append_lineFeed (hline : line.IsUnbroken) (s : Text) :
    lines (line ++ CodePoint.ofChar '\n' :: s) = line :: lines s :=
  lines_append hline (@lines_terminator_append s (text "\n") (by decide) (nomatch ·))

/-- A text without line ends is one line unless it is empty. -/
theorem lines_of_isUnbroken (hline : line.IsUnbroken) (hne : line ≠ []) : lines line = [line] := by
  induction line with
  | nil => exact absurd rfl hne
  | cons c line ih =>
    have hc : c.isLineEnd = false := hline c List.mem_cons_self
    rw [lines.eq_def]
    dsimp only
    rw [if_neg (by simp [hc])]
    by_cases h : line = []
    · rw [h]
      rfl
    · rw [ih (fun a ha => hline a (List.mem_cons_of_mem _ ha)) h]
      rfl

/-- Only the empty text has no lines. -/
theorem eq_nil_of_lines_eq_nil (h : lines s = []) : s = [] := by
  cases s with
  | nil => rfl
  | cons c s =>
    unfold lines at h
    repeat' split at h
    · cases h
    · cases h
    · cases h
    · cases hlines : lines s <;> rw [hlines, consLine] at h <;> cases h

/-- A line is made of characters of the text that do not end lines. -/
theorem mem_of_mem_lines {c : CodePoint} (hline : line ∈ lines s) (hc : c ∈ line) :
    c ∈ s ∧ c.isLineEnd = false := by
  fun_induction lines s generalizing line with
  | case1 => exact absurd hline List.not_mem_nil
  | case2 a ha d s hjoined ih =>
    rcases List.mem_cons.mp hline with rfl | hline
    · exact absurd hc List.not_mem_nil
    · obtain ⟨hmem, hend⟩ := ih hline hc
      exact ⟨List.mem_cons_of_mem _ (List.mem_cons_of_mem _ hmem), hend⟩
  | case3 a ha d s hapart ih =>
    rcases List.mem_cons.mp hline with rfl | hline
    · exact absurd hc List.not_mem_nil
    · obtain ⟨hmem, hend⟩ := ih hline hc
      exact ⟨List.mem_cons_of_mem _ hmem, hend⟩
  | case4 a ha =>
    obtain rfl := List.mem_singleton.mp hline
    exact absurd hc List.not_mem_nil
  | case5 a s ha ih =>
    have ha : a.isLineEnd = false := Bool.eq_false_iff.mpr ha
    cases hlines : lines s with
    | nil =>
      rw [hlines] at hline
      obtain rfl := List.mem_singleton.mp hline
      obtain rfl := List.mem_singleton.mp hc
      exact ⟨List.mem_cons_self, ha⟩
    | cons first rest =>
      rw [hlines] at hline ih
      rcases List.mem_cons.mp hline with rfl | hline
      · rcases List.mem_cons.mp hc with rfl | hc
        · exact ⟨List.mem_cons_self, ha⟩
        · obtain ⟨hmem, hend⟩ := ih List.mem_cons_self hc
          exact ⟨List.mem_cons_of_mem _ hmem, hend⟩
      · obtain ⟨hmem, hend⟩ := ih (List.mem_cons_of_mem _ hline) hc
        exact ⟨List.mem_cons_of_mem _ hmem, hend⟩

/-- The lines of a text that is empty or ends with a line feed are complete, whatever follows. -/
theorem lines_append_of_getLast? (h : ∀ c ∈ s.getLast?, c = CodePoint.ofChar '\n') (t : Text) :
    lines (s ++ t) = lines s ++ lines t := by
  have htail {c : CodePoint} {s : Text} (h : ∀ a ∈ (c :: s).getLast?, a = CodePoint.ofChar '\n') :
      ∀ a ∈ s.getLast?, a = CodePoint.ofChar '\n' := by
    intro a ha
    exact h a (by rw [List.getLast?_cons, Option.mem_def.mp ha]; rfl)
  fun_induction lines s with
  | case1 => rfl
  | case2 c hc d s hjoined ih =>
    rw [List.cons_append, List.cons_append, lines.eq_def]
    dsimp only
    rw [if_pos hc, if_pos hjoined, ih (htail (htail h)), List.cons_append]
  | case3 c hc d s hapart ih =>
    rw [List.cons_append, List.cons_append, lines.eq_def]
    dsimp only
    rw [if_pos hc, if_neg hapart, ← List.cons_append, ih (htail h), List.cons_append]
  | case4 c hc =>
    obtain rfl : c = CodePoint.ofChar '\n' := h c rfl
    exact lines_append_lineFeed (fun a ha => absurd ha List.not_mem_nil) t
  | case5 c s hc ih =>
    rw [List.cons_append, lines.eq_def]
    dsimp only
    rw [if_neg hc, ih (htail h)]
    cases hlines : lines s with
    | nil =>
      -- A last character is the line feed, which ends a line.
      obtain rfl := eq_nil_of_lines_eq_nil hlines
      obtain rfl : c = CodePoint.ofChar '\n' := h c rfl
      exact absurd (by decide) hc
    | cons line rest => rfl

/-- The lines of a document are those that it was laid out with. -/
theorem LaidOut.lines_eq {lines : List Text} {document : Text} (h : LaidOut lines document) :
    document.lines = lines := by
  induction h with
  | nil => rfl
  | last hline hne => exact lines_of_isUnbroken hline hne
  | cons hline hend hjoined _ ih =>
    rw [List.append_assoc, lines_append hline (lines_terminator_append hend hjoined), ih]

/-- Lines are laid out with a line feed after each. -/
theorem laidOut_lineFeeds {lines : List Text} (h : ∀ line ∈ lines, line.IsUnbroken) :
    LaidOut lines (lines.flatMap fun line => line ++ text "\n") := by
  induction lines with
  | nil => exact .nil
  | cons line lines ih =>
    exact .cons (h line List.mem_cons_self) (by decide) (nomatch ·)
      (ih fun line hline => h line (List.mem_cons_of_mem _ hline))

end Lines

section Blanks

variable {before s after : Text}

/-- Nothing is trimmed off the start of a text that begins with no blank. -/
theorem trimStart_cons {c : CodePoint} (h : c.isBlank = false) (s : Text) :
    trimStart (c :: s) = c :: s :=
  List.dropWhile_cons_of_neg (by simp [h])

/-- A text that ends with a character that is not blank stays as it is. -/
theorem trimEnd_concat {c : CodePoint} (h : c.isBlank = false) (s : Text) :
    trimEnd (s ++ [c]) = s ++ [c] := by
  rw [trimEnd, List.reverse_append, List.reverse_singleton, List.singleton_append,
    List.dropWhile_cons_of_neg (by simp [h]), List.reverse_cons, List.reverse_reverse]

/-- Blanks at the start are trimmed away. -/
theorem trimStart_append (hbefore : before.IsBlank) (s : Text) :
    trimStart (before ++ s) = trimStart s :=
  List.dropWhile_append_of_pos hbefore

/-- Blanks at the end are trimmed away. -/
theorem trimEnd_append (hafter : after.IsBlank) (s : Text) : trimEnd (s ++ after) = trimEnd s := by
  have hreverse : ∀ c ∈ after.reverse, c.isBlank = true := fun c hc =>
    hafter c (List.mem_reverse.mp hc)
  rw [trimEnd, List.reverse_append, List.dropWhile_append_of_pos hreverse, trimEnd]

/-- A blank at the end is trimmed away. -/
theorem trimEnd_concat_of_isBlank {c : CodePoint} (h : c.isBlank = true) (s : Text) :
    trimEnd (s ++ [c]) = trimEnd s :=
  trimEnd_append (fun a ha => by rwa [List.mem_singleton.mp ha]) s

/-- A text without blanks is trimmed. -/
theorem isTrimmed_of_forall (h : ∀ c ∈ s, c.isBlank = false) : s.IsTrimmed :=
  ⟨fun c hc => h c (List.mem_of_head? hc), fun c hc => h c (List.mem_of_getLast? hc)⟩

/-- A text without blanks is free of line ends. -/
theorem isUnbroken_of_forall (h : ∀ c ∈ s, c.isBlank = false) : s.IsUnbroken := fun c hc =>
  Bool.eq_false_iff.mpr fun hend =>
    Bool.eq_false_iff.mp (h c hc) (CodePoint.isBlank_of_isLineEnd hend)

/-- What blanks stand around a trimmed text are trimmed away, and nothing else. -/
theorem IsTrimmed.trim_append (hs : s.IsTrimmed) (hbefore : before.IsBlank)
    (hafter : after.IsBlank) : trim (before ++ s ++ after) = s := by
  rw [trim, List.append_assoc, trimStart_append hbefore]
  rcases s with _ | ⟨c, s⟩
  · have hnone : trimStart (after ++ []) = [] := trimStart_append hafter []
    rw [List.append_nil] at hnone
    rw [List.nil_append, hnone]
    rfl
  · rw [List.cons_append, trimStart_cons (hs.1 c rfl), ← List.cons_append, trimEnd_append hafter]
    obtain ⟨front, a, hlast⟩ := List.eq_nil_or_concat (c :: s) |>.resolve_left (List.cons_ne_nil c s)
    rw [List.concat_eq_append] at hlast
    rw [hlast, trimEnd_concat (hs.2 a (by simp [hlast]))]

/-- A trimmed text stays as it is. -/
theorem IsTrimmed.trim_eq (hs : s.IsTrimmed) : s.trim = s := by
  simpa using hs.trim_append isBlank_nil isBlank_nil

/-- Nothing is left of blanks. -/
theorem trim_of_isBlank (hs : s.IsBlank) : s.trim = [] := by
  rw [trim, ← List.append_nil s, trimStart_append hs]
  rfl

/-- The first character that is not blank is the first of the trimmed text. -/
theorem exists_trim_eq_cons {c : CodePoint} (hbefore : before.IsBlank) (hc : c.isBlank = false)
    (s : Text) : ∃ t, trim (before ++ c :: s) = c :: t := by
  rw [trim, trimStart_append hbefore, trimStart_cons hc, trimEnd, List.reverse_cons,
    List.dropWhile_append]
  split
  · exact ⟨[], by simp [hc]⟩
  · exact ⟨(s.reverse.dropWhile CodePoint.isBlank).reverse, by simp⟩

/-- Trimming adds nothing. -/
theorem mem_of_mem_trim {c : CodePoint} (h : c ∈ s.trim) : c ∈ s := by
  rw [trim, trimEnd, List.mem_reverse] at h
  have hstart := (List.dropWhile_suffix _).subset h
  rw [List.mem_reverse] at hstart
  exact (List.dropWhile_suffix _).subset hstart

/-- What begins with a character that is not blank, and ends with a sign or another such character, is
trimmed. -/
theorem isTrimmed_append_cons {sign : CodePoint} {rest : Text} (hne : s ≠ [])
    (hhead : ∀ c ∈ s.head?, c.isBlank = false) (hsign : sign.isBlank = false)
    (hlast : ∀ c ∈ rest.getLast?, c.isBlank = false) : IsTrimmed (s ++ sign :: rest) := by
  constructor
  · obtain ⟨first, s, rfl⟩ := List.exists_cons_of_ne_nil hne
    exact hhead
  · intro c hc
    rw [List.getLast?_append, List.getLast?_cons] at hc
    obtain rfl := Option.some.inj hc
    cases hrest : rest.getLast? with
    | none => exact hsign
    | some last => exact hlast last hrest

/-- Trimming keeps what is not blank. -/
theorem mem_trim {c : CodePoint} (hc : c.isBlank = false) : c ∈ s.trim ↔ c ∈ s := by
  have hdrop (s : Text) : c ∈ s.dropWhile CodePoint.isBlank ↔ c ∈ s := by
    refine ⟨fun hmem => (List.dropWhile_suffix _).subset hmem, fun hmem => ?_⟩
    rw [← @List.takeWhile_append_dropWhile _ CodePoint.isBlank s] at hmem
    refine (List.mem_append.mp hmem).resolve_left fun htake => ?_
    exact Bool.eq_false_iff.mp hc (List.all_eq_true.mp List.all_takeWhile c htake)
  rw [trim, trimEnd, List.mem_reverse, hdrop, List.mem_reverse, trimStart, hdrop]

end Blanks

section Fillers

/-- Whether a line holds nothing, or a comment that begins with one of the given signs. -/
def IsFiller (signs : List CodePoint) (line : Text) : Prop :=
  line.IsBlank ∨ ∃ (before : Text) (sign : CodePoint) (comment : Text),
    line = before ++ sign :: comment ∧ before.IsBlank ∧ sign ∈ signs

/-- A line that holds nothing is empty when trimmed, and one with a comment begins with a sign. -/
theorem IsFiller.trim_eq {signs : List CodePoint} {line : Text} (h : IsFiller signs line)
    (hsigns : ∀ sign ∈ signs, sign.isBlank = false) :
    line.trim = [] ∨ ∃ sign ∈ signs, ∃ comment, line.trim = sign :: comment := by
  rcases h with hblank | ⟨before, sign, comment, rfl, hbefore, hsign⟩
  · exact .inl (trim_of_isBlank hblank)
  · obtain ⟨rest, hrest⟩ := exists_trim_eq_cons hbefore (hsigns sign hsign) comment
    exact .inr ⟨sign, hsign, rest, hrest⟩

end Fillers

end ConfigNamespace.Text
