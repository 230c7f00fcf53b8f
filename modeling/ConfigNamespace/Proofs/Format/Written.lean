import ConfigNamespace.Format.Properties
import ConfigNamespace.Proofs.Text.Lines
import ConfigNamespace.Proofs.Text.Percent
import ConfigNamespace.Proofs.Text.Utf8

/-!
# Written keys and values

A key or a value is written in a flat document with backslashes before the signs that mean something
there. The reader goes over what is written in several ways: it trims lines, joins them, searches for
the separator and takes escapes out. What each of these makes of a written text follows from what it
makes of one written character, of which there are three forms.
-/

namespace ConfigNamespace.Properties

/-- The signs that are written with a backslash before them. -/
def escapedSigns : List CodePoint :=
  [.backslash, CodePoint.ofChar '=', CodePoint.ofChar ':', CodePoint.ofChar '#',
    CodePoint.ofChar '!', CodePoint.ofChar ' ']

/-- The letters that are written after a backslash for a tab and for three line ends. -/
def letters : List (CodePoint × CodePoint) :=
  [(CodePoint.ofChar '\t', CodePoint.ofChar 't'), (CodePoint.ofChar '\n', CodePoint.ofChar 'n'),
    (CodePoint.ofChar '\r', CodePoint.ofChar 'r'), (CodePoint.ofNat 0x0C, CodePoint.ofChar 'f')]

/-- A number in four hexadecimal digits. -/
def fourDigits (n : Nat) : Text :=
  [upperHexDigit (n / 0x1000), upperHexDigit (n / 0x100 % 0x10), upperHexDigit (n / 0x10 % 0x10),
    upperHexDigit (n % 0x10)]

/-- A character as it is written: blanks by letter or number, signs with a backslash, and all others
as they are. -/
def writtenChar (c : CodePoint) : Text :=
  if c ∈ escapedSigns then [.backslash, c]
  else
    match letters.lookup c with
    | some letter => [.backslash, letter]
    | none =>
      if c.isBlank then .backslash :: CodePoint.ofChar 'u' :: fourDigits c.val else [c]

/-- A text as it is written. -/
def written (s : Text) : Text := s.flatMap writtenChar

/-- The ways in which a character is written. -/
inductive IsWritten (c : CodePoint) : Text → Prop
  /-- With a backslash before a character that stands for it. -/
  | escaped {e : CodePoint} (hu : e ≠ CodePoint.ofChar 'u') (hstands : Properties.escaped e = c)
      (hend : e.isLineEnd = false) (hsurrogate : e.isSurrogate = false)
      (hbackslash : e = .backslash ↔ c = .backslash)
      (hblank : e.isBlank = true ↔ c = CodePoint.ofChar ' ') : IsWritten c [.backslash, e]
  /-- By its number. -/
  | number (hblank : c.isBlank = true) (hspace : c ≠ CodePoint.ofChar ' ') :
    IsWritten c (.backslash :: CodePoint.ofChar 'u' :: fourDigits c.val)
  /-- As it is. -/
  | self (hsign : c ∉ escapedSigns) (hblank : c.isBlank = false) : IsWritten c [c]

/-- A character is written in one of the ways in which characters are written. -/
theorem isWritten (c : CodePoint) : IsWritten c (writtenChar c) := by
  unfold writtenChar
  split
  next hsign =>
    simp only [escapedSigns, List.mem_cons, List.not_mem_nil, or_false] at hsign
    rcases hsign with rfl | rfl | rfl | rfl | rfl | rfl
    all_goals
      exact .escaped (by decide) (by decide) (by decide) (by decide) (by decide) (by decide)
  next hsign =>
    split
    next letter hletter =>
      obtain ⟨before, after, hsplit, -⟩ := List.lookup_eq_some_iff.mp hletter
      have hmem : (c, letter) ∈ letters := by
        rw [hsplit]
        exact List.mem_append_right _ List.mem_cons_self
      simp only [letters, List.mem_cons, List.not_mem_nil, or_false, Prod.mk.injEq] at hmem
      rcases hmem with ⟨rfl, rfl⟩ | ⟨rfl, rfl⟩ | ⟨rfl, rfl⟩ | ⟨rfl, rfl⟩
      all_goals
        exact .escaped (by decide) (by decide) (by decide) (by decide) (by decide) (by decide)
    · split
      next hblank =>
        refine .number hblank ?_
        rintro rfl
        exact hsign (by decide)
      next hblank => exact .self hsign (Bool.eq_false_iff.mpr hblank)

section Digits

/-- What a reader makes of a hexadecimal digit: it is read as what it was written for, and is nothing
that ends a line, separates or escapes. -/
private theorem upperHexDigit_spec : ∀ n < 0x10, (upperHexDigit n).hexDigit? = some n ∧
    (upperHexDigit n).isBlank = false ∧ isSeparator (upperHexDigit n) = false ∧
    upperHexDigit n ≠ .backslash ∧ (upperHexDigit n).isSurrogate = false := by
  decide

/-- The digits of a number below 65536 are four hexadecimal ones. -/
private theorem fourDigits_eq {n : Nat} (h : n < 0x10000) : ∃ a < 0x10, ∃ b < 0x10, ∃ c < 0x10,
    ∃ d < 0x10, fourDigits n =
      [upperHexDigit a, upperHexDigit b, upperHexDigit c, upperHexDigit d] ∧
      ((a * 0x10 + b) * 0x10 + c) * 0x10 + d = n :=
  ⟨n / 0x1000, by omega, n / 0x100 % 0x10, by omega, n / 0x10 % 0x10, by omega, n % 0x10, by omega,
    rfl, by omega⟩

/-- Blanks have numbers of four digits. -/
private theorem val_lt_of_isBlank {c : CodePoint} (h : c.isBlank = true) : c.val < 0x10000 := by
  simp only [CodePoint.isBlank, Bool.or_eq_true, Bool.and_eq_true, decide_eq_true_eq,
    beq_iff_eq] at h
  omega

end Digits

section Characters

/-- What is written for a character holds no line ends. -/
theorem isLineEnd_of_mem_writtenChar {c a : CodePoint} (h : a ∈ writtenChar c) :
    a.isLineEnd = false := by
  have hblank : a.isBlank = false → a.isLineEnd = false := fun hblank =>
    Bool.eq_false_iff.mpr fun hend => by simp [CodePoint.isBlank_of_isLineEnd hend] at hblank
  have hwritten := isWritten c
  generalize writtenChar c = t at h hwritten
  cases hwritten with
  | escaped _ _ hend _ _ _ =>
    simp only [List.mem_cons, List.not_mem_nil, or_false] at h
    rcases h with rfl | rfl
    · decide
    · exact hend
  | number hc _ =>
    obtain ⟨x, hx, y, hy, z, hz, w, hw, hdigits, -⟩ := fourDigits_eq (val_lt_of_isBlank hc)
    simp only [hdigits, List.mem_cons, List.not_mem_nil, or_false] at h
    rcases h with rfl | rfl | rfl | rfl | rfl | rfl
    · decide
    · decide
    · exact hblank (upperHexDigit_spec x hx).2.1
    · exact hblank (upperHexDigit_spec y hy).2.1
    · exact hblank (upperHexDigit_spec z hz).2.1
    · exact hblank (upperHexDigit_spec w hw).2.1
  | self _ hc =>
    obtain rfl := List.mem_singleton.mp h
    exact hblank hc

/-- What is written for a character holds no surrogate if the character is none. -/
theorem isSurrogate_of_mem_writtenChar {c a : CodePoint} (hc : c.isSurrogate = false)
    (h : a ∈ writtenChar c) : a.isSurrogate = false := by
  have hwritten := isWritten c
  generalize writtenChar c = t at h hwritten
  cases hwritten with
  | escaped _ _ _ hsurrogate _ _ =>
    simp only [List.mem_cons, List.not_mem_nil, or_false] at h
    rcases h with rfl | rfl
    · decide
    · exact hsurrogate
  | number hblank _ =>
    obtain ⟨x, hx, y, hy, z, hz, w, hw, hdigits, -⟩ := fourDigits_eq (val_lt_of_isBlank hblank)
    simp only [hdigits, List.mem_cons, List.not_mem_nil, or_false] at h
    rcases h with rfl | rfl | rfl | rfl | rfl | rfl
    · decide
    · decide
    · exact (upperHexDigit_spec x hx).2.2.2.2
    · exact (upperHexDigit_spec y hy).2.2.2.2
    · exact (upperHexDigit_spec z hz).2.2.2.2
    · exact (upperHexDigit_spec w hw).2.2.2.2
  | self _ _ =>
    obtain rfl := List.mem_singleton.mp h
    exact hc

/-- What is written for a character begins with nothing that is trimmed away or begins a comment. -/
theorem exists_writtenChar_eq_cons (c : CodePoint) : ∃ a t, writtenChar c = a :: t ∧
    a.isBlank = false ∧ a ≠ CodePoint.ofChar '#' ∧ a ≠ CodePoint.ofChar '!' := by
  have hwritten := isWritten c
  generalize writtenChar c = t at hwritten
  cases hwritten with
  | escaped _ _ _ _ _ _ => exact ⟨_, _, rfl, by decide⟩
  | number _ _ => exact ⟨_, _, rfl, by decide⟩
  | self hsign hblank =>
    refine ⟨_, _, rfl, hblank, ?_, ?_⟩
    · rintro rfl
      exact hsign (by decide)
    · rintro rfl
      exact hsign (by decide)

/-- What is written for a character ends with a blank only if that is a space. -/
theorem exists_writtenChar_eq_concat {c : CodePoint} (h : c ≠ CodePoint.ofChar ' ') :
    ∃ t a, writtenChar c = t ++ [a] ∧ a.isBlank = false := by
  have hwritten := isWritten c
  generalize writtenChar c = t at hwritten
  cases hwritten with
  | @escaped e _ _ _ _ _ hblank =>
    exact ⟨[.backslash], e, rfl, Bool.eq_false_iff.mpr (mt hblank.mp h)⟩
  | number hc _ =>
    obtain ⟨x, _, y, _, z, _, w, hw, hdigits, -⟩ := fourDigits_eq (val_lt_of_isBlank hc)
    rw [hdigits]
    exact ⟨[_, _, _, _, _], _, rfl, (upperHexDigit_spec w hw).2.1⟩
  | self _ hblank => exact ⟨[], c, rfl, hblank⟩

/-- A character that does not separate belongs to the key. -/
theorem breakAtSeparator?_cons {flag : Bool} {c : CodePoint}
    (h : flag = true ∨ isSeparator c = false) (s : Text) : breakAtSeparator? flag (c :: s) =
      (breakAtSeparator? (c = .backslash) s).map fun parts => (c :: parts.1, parts.2) := by
  rw [breakAtSeparator?, if_neg (by rcases h with h | h <;> simp [h])]
  rcases breakAtSeparator? (c = .backslash) s with _ | ⟨before, separator, after⟩ <;> rfl

/-- What is written for a character holds no separator, and makes the next character an escaped one
if it is a backslash. -/
theorem breakAtSeparator?_writtenChar (flag : Bool) (c : CodePoint) (s : Text) :
    breakAtSeparator? flag (writtenChar c ++ s) = (breakAtSeparator? (c = .backslash) s).map
      fun parts => (writtenChar c ++ parts.1, parts.2) := by
  have hwritten := isWritten c
  generalize writtenChar c = t at hwritten
  cases hwritten with
  | escaped _ _ _ _ hbackslash _ =>
    rw [List.cons_append, List.cons_append, List.nil_append,
      breakAtSeparator?_cons (.inr (by decide)), breakAtSeparator?_cons (.inl (by decide)),
      Option.map_map]
    simp only [hbackslash]
    rfl
  | number hblank _ =>
    have hc : c ≠ .backslash := by
      rintro rfl
      exact absurd hblank (by decide)
    obtain ⟨x, hx, y, hy, z, hz, w, hw, hdigits, -⟩ := fourDigits_eq (val_lt_of_isBlank hblank)
    rw [hdigits]
    simp only [List.cons_append, List.nil_append]
    rw [breakAtSeparator?_cons (.inr (by decide)), breakAtSeparator?_cons (.inl (by decide)),
      breakAtSeparator?_cons (.inr (upperHexDigit_spec x hx).2.2.1),
      breakAtSeparator?_cons (.inr (upperHexDigit_spec y hy).2.2.1),
      breakAtSeparator?_cons (.inr (upperHexDigit_spec z hz).2.2.1),
      breakAtSeparator?_cons (.inr (upperHexDigit_spec w hw).2.2.1)]
    simp only [Option.map_map, (upperHexDigit_spec w hw).2.2.2.1, hc]
    rfl
  | self hsign hblank =>
    refine breakAtSeparator?_cons (.inr ?_) s
    simp only [isSeparator, Bool.or_eq_false_iff, decide_eq_false_iff_not, hblank, and_true]
    constructor
    · rintro rfl
      exact hsign (by decide)
    · rintro rfl
      exact hsign (by decide)

/-- What is written for a character is read as that character. -/
theorem unescape?_writtenChar (c : CodePoint) (s : Text) :
    unescape? (writtenChar c ++ s) = (unescape? s).map (c :: ·) := by
  have hwritten := isWritten c
  generalize writtenChar c = t at hwritten
  cases hwritten with
  | escaped hu hstands _ _ _ _ =>
    rw [List.cons_append, List.cons_append, List.nil_append, unescape?.eq_def]
    dsimp only
    rw [if_pos rfl, if_neg hu, hstands]
  | number hblank _ =>
    obtain ⟨x, hx, y, hy, z, hz, w, hw, hdigits, hvalue⟩ := fourDigits_eq (val_lt_of_isBlank hblank)
    have hfour : fourDigits? (upperHexDigit x) (upperHexDigit y) (upperHexDigit z)
        (upperHexDigit w) = some c.val := by
      rw [fourDigits?, (upperHexDigit_spec x hx).1, (upperHexDigit_spec y hy).1,
        (upperHexDigit_spec z hz).1, (upperHexDigit_spec w hw).1]
      exact congrArg some hvalue
    rw [hdigits]
    simp only [List.cons_append, List.nil_append]
    rw [unescape?, if_pos rfl, if_pos rfl, hfour]
    cases unescape? s with
    | none => rfl
    | some out => exact congrArg (fun a => some (a :: out)) (CodePoint.ofNat_eq rfl)
  | self hsign _ =>
    have hc : c ≠ .backslash := by
      rintro rfl
      exact hsign (by decide)
    rw [List.singleton_append, unescape?.eq_def]
    dsimp only
    rw [if_neg hc]

end Characters

section Texts

/-- What is written for a text that is not empty begins with nothing that is trimmed away or begins a
comment. -/
theorem exists_written_eq_cons {s : Text} (h : s ≠ []) : ∃ a t, written s = a :: t ∧
    a.isBlank = false ∧ a ≠ CodePoint.ofChar '#' ∧ a ≠ CodePoint.ofChar '!' := by
  obtain ⟨c, s, rfl⟩ := List.exists_cons_of_ne_nil h
  obtain ⟨a, t, hc, ha⟩ := exists_writtenChar_eq_cons c
  exact ⟨a, t ++ written s, by rw [written, List.flatMap_cons, hc]; rfl, ha⟩

/-- The blanks of a written text are not at its start. -/
theorem trimStart_written (s : Text) : (written s).trimStart = written s := by
  by_cases h : s = []
  · subst h
    rfl
  · obtain ⟨a, t, hwritten, ha, -⟩ := exists_written_eq_cons h
    rw [hwritten, Text.trimStart_cons ha]

/-- A longer text is written part by part. -/
theorem written_append (s t : Text) : written (s ++ t) = written s ++ written t :=
  List.flatMap_append

/-- What is written for a text holds no separator. Whether the next character is an escaped one
depends on the last character of the text alone, if there is one. -/
theorem breakAtSeparator?_written (flag : Bool) (s t : Text) :
    breakAtSeparator? flag (written s ++ t) =
      (breakAtSeparator? ((s.getLast?.map fun c => decide (c = .backslash)).getD flag) t).map
        fun parts => (written s ++ parts.1, parts.2) := by
  induction s generalizing flag with
  | nil => exact Option.map_id'.symm
  | cons c s ih =>
    have hsplit : written (c :: s) = writtenChar c ++ written s := List.flatMap_cons
    have hflag : (s.getLast?.map fun c => decide (c = .backslash)).getD (decide (c = .backslash)) =
        ((c :: s).getLast?.map fun c => decide (c = .backslash)).getD flag := by
      rw [List.getLast?_cons]
      cases s.getLast? <;> rfl
    rw [hsplit, List.append_assoc, breakAtSeparator?_writtenChar, ih, hflag, Option.map_map]
    simp only [Function.comp_def, List.append_assoc]

/-- What is written for a text is read as that text. -/
theorem unescape?_written_append (s t : Text) :
    unescape? (written s ++ t) = (unescape? t).map (s ++ ·) := by
  induction s with
  | nil => exact Option.map_id'.symm
  | cons c s ih =>
    have hsplit : written (c :: s) = writtenChar c ++ written s := List.flatMap_cons
    rw [hsplit, List.append_assoc, unescape?_writtenChar, ih, Option.map_map]
    rfl

/-- What was written is read back. -/
theorem unescape?_written (s : Text) : unescape? (written s) = some s := by
  have h := unescape?_written_append s []
  simpa [unescape?] using h

/-- A backslash at the end of a line counts unless there is one before it that counts. -/
theorem isContinued_concat (s : Text) (c : CodePoint) :
    isContinued (s ++ [c]) = (decide (c = .backslash) && !isContinued s) := by
  unfold isContinued trailingBackslashes
  rw [List.reverse_append, List.reverse_singleton, List.singleton_append]
  by_cases hc : c = .backslash
  · rw [List.takeWhile_cons_of_pos (by simp [hc]), List.length_cons]
    simp only [hc, decide_true, Bool.true_and]
    rw [← decide_not, decide_eq_decide]
    omega
  · rw [List.takeWhile_cons_of_neg (by simp [hc])]
    simp [hc]

/-- What is written for a character does not make a line go on. -/
theorem isContinued_append_writtenChar {s : Text} (h : isContinued s = false) (c : CodePoint) :
    isContinued (s ++ writtenChar c) = false := by
  have hwritten := isWritten c
  generalize writtenChar c = t at hwritten
  cases hwritten with
  | @escaped e _ _ _ _ _ _ =>
    have hsplit : s ++ [.backslash, e] = s ++ [.backslash] ++ [e] := by simp
    rw [hsplit, isContinued_concat, isContinued_concat, h]
    simp
  | number hblank _ =>
    obtain ⟨x, _, y, _, z, _, w, hw, hdigits, -⟩ := fourDigits_eq (val_lt_of_isBlank hblank)
    have hsplit : s ++ .backslash :: CodePoint.ofChar 'u' :: fourDigits c.val =
        s ++ [.backslash, CodePoint.ofChar 'u', upperHexDigit x, upperHexDigit y,
          upperHexDigit z] ++ [upperHexDigit w] := by simp [hdigits]
    rw [hsplit, isContinued_concat]
    simp [(upperHexDigit_spec w hw).2.2.2.1]
  | self hsign _ =>
    have hc : c ≠ .backslash := by
      rintro rfl
      exact hsign (by decide)
    rw [isContinued_concat]
    simp [hc]

/-- What is written for a text does not make a line go on. -/
theorem isContinued_append_written {s : Text} (h : isContinued s = false) (t : Text) :
    isContinued (s ++ written t) = false := by
  induction t generalizing s with
  | nil => simpa [written] using h
  | cons c t ih =>
    have hsplit : written (c :: t) = writtenChar c ++ written t := List.flatMap_cons
    rw [hsplit, ← List.append_assoc]
    exact ih (isContinued_append_writtenChar h c)

/-- What was written has no line end in it. -/
theorem isLineEnd_of_mem_written {s : Text} {a : CodePoint} (h : a ∈ written s) :
    a.isLineEnd = false := by
  obtain ⟨c, -, ha⟩ := List.mem_flatMap.mp h
  exact isLineEnd_of_mem_writtenChar ha

/-- A scalar text is written as a scalar text. -/
theorem isScalar_written {s : Text} (h : s.IsScalar) : (written s).IsScalar := by
  intro a ha
  obtain ⟨c, hc, ha⟩ := List.mem_flatMap.mp ha
  exact isSurrogate_of_mem_writtenChar (h c hc) ha

end Texts

end ConfigNamespace.Properties
