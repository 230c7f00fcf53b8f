import ConfigNamespace.Text.Case

/-!
# What is in lower case stays so

Writing a text in lower case leaves letters that are their own lower case, so doing it again changes
nothing, and a text in lower case at the end of another one stays as it is when that is written in
lower case.
-/

namespace ConfigNamespace

/-- Whether no letter of a row moves to a letter of another one, as the ends of the rows show or, where
both take every second letter, that they begin with letters of different parity. -/
def CaseRow.misses (row other : CaseRow) : Bool :=
  let first := (row.first + row.shift).toNat
  let last := (row.last + row.shift).toNat
  Nat.blt last other.first || Nat.blt other.last first ||
    (0 ≤ row.first + row.shift && Nat.beq other.step 2 && Nat.beq ((first + other.first) % 2) 1 &&
      (Nat.beq row.step 2 || Nat.beq first last))

/-- A row changes a number exactly if the number is in its range and on its step. -/
theorem CaseRow.image?_eq_some_iff {row : CaseRow} {n m : Nat} : row.image? n = some m ↔
    row.first ≤ n ∧ n ≤ row.last ∧ (n - row.first) % row.step = 0 ∧ (n + row.shift).toNat = m := by
  unfold image?
  split <;> simp_all

/-- A row that misses another one leaves alone what the other changes to. -/
theorem CaseRow.image?_eq_none_of_misses {row other : CaseRow} (h : row.misses other = true) {n m : Nat}
    (hm : row.image? n = some m) : other.image? m = none := by
  obtain ⟨hfirst, hlast, hstep, hmoved⟩ := image?_eq_some_iff.mp hm
  refine Option.eq_none_iff_forall_not_mem.mpr fun m' hm' => ?_
  obtain ⟨hfirst', hlast', hstep', -⟩ := image?_eq_some_iff.mp hm'
  simp only [misses, Bool.or_eq_true, Bool.and_eq_true, Nat.blt_eq, Nat.beq_eq,
    decide_eq_true_eq] at h
  rcases h with (h | h) | ⟨⟨⟨hpos, htwo⟩, hparity⟩, htwo' | hsingle⟩
  · omega
  · omega
  · rw [htwo] at hstep'
    rw [htwo'] at hstep
    omega
  · rw [htwo] at hstep'
    omega

/-- The letter whose lower case has several letters, as a row. -/
def dottedRow : CaseRow := ⟨0x130, 0x130, 1, 0⟩

/-- The rows lead to no letters that have another lower case. -/
theorem misses_of_mem_lowerRows {row other : CaseRow} (h : row ∈ lowerRows)
    (hother : other ∈ dottedRow :: lowerRows) : row.misses other = true := by
  have hall : (lowerRows.all fun row =>
      (dottedRow :: lowerRows).all fun other => row.misses other) = true := by decide +kernel
  exact List.all_eq_true.mp (List.all_eq_true.mp hall row h) other hother

namespace CodePoint

/-- Whether a letter is its own lower case. -/
def IsLower (c : CodePoint) : Prop := c.lower = [c]

instance (c : CodePoint) : Decidable c.IsLower := inferInstanceAs (Decidable (_ = _))

/-- The Greek capital sigma is not its own lower case. -/
theorem IsLower.ne_sigma {c : CodePoint} (h : c.IsLower) : c.val ≠ 0x3A3 := by
  intro hsigma
  obtain rfl : c = ofNat 0x3A3 := CodePoint.ext hsigma
  exact absurd h (by decide +kernel)

/-- A letter that is in no row and has no sequence is its own lower case. -/
theorem isLower_of_rows {c : CodePoint}
    (h : ∀ row ∈ dottedRow :: lowerRows, row.image? c.val = none) : c.IsLower := by
  rw [IsLower, lower]
  split
  · rw [if_neg]
    intro hcapital
    have hnone := h ⟨0x41, 0x5A, 1, 32⟩ (.tail _ (.head _))
    simp [CaseRow.image?, hcapital, Nat.mod_one] at hnone
  · have hdotted : c.val ≠ 0x130 := by
      intro heq
      have hnone := h dottedRow (.head _)
      rw [heq] at hnone
      cases hnone
    have hsequence : lowerSequences.lookup c.val = none := by
      rw [lowerSequences, List.lookup_cons, beq_eq_false_iff_ne.mpr hdotted]
      rfl
    rw [otherCase, hsequence]
    dsimp only
    rw [List.findSome?_eq_none_iff.mpr fun row hrow => h row (.tail _ hrow)]

/-- What letters move to is its own lower case. -/
theorem isLower_of_image? {row : CaseRow} (hrow : row ∈ lowerRows) {n m : Nat}
    (hm : row.image? n = some m) : (ofNat m).IsLower := by
  unfold ofNat
  split
  · exact isLower_of_rows fun other hother =>
      CaseRow.image?_eq_none_of_misses (misses_of_mem_lowerRows hrow hother) hm
  · decide +kernel

/-- The lower case of a letter is its own lower case. -/
theorem isLower_of_mem_lower {c d : CodePoint} (h : d ∈ c.lower) : d.IsLower := by
  unfold lower at h
  split at h
  next hascii =>
    rw [List.mem_singleton.mp h]
    split
    next hcapital =>
      have hmoved : CaseRow.image? ⟨0x41, 0x5A, 1, 32⟩ c.val = some (c.val + 0x20) :=
        CaseRow.image?_eq_some_iff.mpr ⟨hcapital.1, hcapital.2, Nat.mod_one _, rfl⟩
      exact isLower_of_image? (.head _) hmoved
    next hcapital => rw [IsLower, lower, if_pos hascii, if_neg hcapital]
  next hascii =>
    unfold otherCase at h
    split at h
    next others hothers =>
      rw [lowerSequences, List.lookup_cons] at hothers
      split at hothers
      · cases hothers
        have hchecked : ∀ n ∈ [0x69, 0x307], (ofNat n).IsLower := by decide +kernel
        obtain ⟨n, hn, rfl⟩ := List.mem_map.mp h
        exact hchecked n hn
      · cases hothers
    next hsequence =>
      split at h
      next other hother =>
        obtain ⟨row, hrow, hmoved⟩ := List.exists_of_findSome?_eq_some hother
        rw [List.mem_singleton.mp h]
        exact isLower_of_image? hrow hmoved
      next hnone =>
        rw [List.mem_singleton.mp h, IsLower, lower, if_neg hascii, otherCase, hsequence]
        dsimp only
        rw [hnone]

end CodePoint

namespace Text

/-- Whether a text is in lower case. -/
def IsLower (s : Text) : Prop := ∀ c ∈ s, c.IsLower

/-- A text in lower case stays as it is. -/
theorem lowerAfter_of_isLower {s : Text} (h : IsLower s) (before : Text) : lowerAfter before s = s := by
  induction s generalizing before with
  | nil => rfl
  | cons c s ih =>
    have hc : c.lower = [c] := h c (.head _)
    have hs := ih (fun d hd => h d (.tail _ hd)) (c :: before)
    rw [lowerAfter, if_neg (CodePoint.IsLower.ne_sigma hc), hc, hs, List.singleton_append]

/-- A text in lower case stays at the end. -/
theorem suffix_lowerAfter {s t : Text} (h : IsLower t) (before : Text) :
    t <:+ lowerAfter before (s ++ t) := by
  induction s generalizing before with
  | nil => exact ⟨[], (lowerAfter_of_isLower h before).symm⟩
  | cons c s ih => exact (ih (c :: before)).trans (List.suffix_append _ _)

/-- A text that was put in lower case is in lower case. -/
theorem isLower_lowerAfter (before s : Text) : IsLower (lowerAfter before s) := by
  induction s generalizing before with
  | nil => exact nofun
  | cons c s ih =>
    intro d hd
    rcases List.mem_append.mp hd with hd | hd
    · split at hd
      · rw [List.mem_singleton.mp hd]
        split <;> decide +kernel
      · exact CodePoint.isLower_of_mem_lower hd
    · exact ih _ d hd

/-- What was written in lower case is in lower case. -/
theorem isLower_toLower (s : Text) : IsLower s.toLower := isLower_lowerAfter [] s

/-- A text in lower case at the end of another one is at the end of its lower case. -/
theorem suffix_toLower_append (s : Text) {t : Text} (h : IsLower t) : t <:+ (s ++ t).toLower :=
  suffix_lowerAfter h []

end Text

end ConfigNamespace
