import ConfigNamespace.Text.Encoding

/-!
# Reading UTF-8 back

A text without surrogates has a form in bytes, and reading these bytes gives the text again. The bytes
of a character tell by the first of them how many they are, so that characters can be read one after
another, whatever follows.
-/

namespace ConfigNamespace

/-- Whether a text holds no surrogates. -/
def Text.IsScalar (s : Text) : Prop := ∀ c ∈ s, c.isSurrogate = false

instance (s : Text) : Decidable s.IsScalar := List.decidableBAll _ _

/-- What follows in a scalar text is a scalar text, and its first character is a scalar. -/
theorem Text.IsScalar.of_cons {c : CodePoint} {s : Text} (h : IsScalar (c :: s)) :
    c.isSurrogate = false ∧ IsScalar s :=
  ⟨h c List.mem_cons_self, fun a ha => h a (List.mem_cons_of_mem _ ha)⟩

private theorem toNat_ofNat_of_lt {n : Nat} (h : n < 0x100) : (UInt8.ofNat n).toNat = n := by
  rw [UInt8.toNat_ofNat']
  exact Nat.mod_eq_of_lt h

/-- A byte that goes on with a character tells six bits of its number. -/
private theorem toNat_continuation (n : Nat) :
    (UInt8.ofNat (0x80 + n % 0x40)).toNat = 0x80 + n % 0x40 := toNat_ofNat_of_lt (by omega)

/-- The code point of the number of a code point. -/
theorem CodePoint.ofNat_eq {c : CodePoint} {n : Nat} (h : n = c.val) : CodePoint.ofNat n = c := by
  subst h
  exact dif_pos c.isLt

/-- The bytes of a character are read as that character, whatever follows. -/
theorem utf8Step_utf8 {c : CodePoint} (hc : c.isSurrogate = false) (rest : List UInt8) :
    ∃ first more, c.utf8 = first :: more ∧
      utf8Step first (more ++ rest) = .character c (more.length + 1) := by
  have hlt := c.isLt
  have hscalar : c.val < 0xD800 ∨ 0xE000 ≤ c.val := by
    simp only [CodePoint.isSurrogate, Bool.and_eq_false_iff, decide_eq_false_iff_not] at hc
    omega
  unfold CodePoint.utf8
  split
  next hone =>
    refine ⟨_, _, rfl, ?_⟩
    unfold utf8Step
    rw [toNat_ofNat_of_lt (by omega), if_pos hone, CodePoint.ofNat_eq rfl]
    rfl
  split
  next hone htwo =>
    refine ⟨_, _, rfl, ?_⟩
    have hfirst : (UInt8.ofNat (0xC0 + c.val / 0x40)).toNat = 0xC0 + c.val / 0x40 :=
      toNat_ofNat_of_lt (by omega)
    unfold utf8Step
    simp only [List.cons_append, List.nil_append, isContinuation, continuationBits, hfirst,
      toNat_continuation]
    rw [if_neg (by omega), if_neg (by omega), if_pos (by omega), if_pos (by simp; omega),
      CodePoint.ofNat_eq (c := c) (by omega)]
    rfl
  split
  next hone htwo hthree =>
    refine ⟨_, _, rfl, ?_⟩
    have hfirst : (UInt8.ofNat (0xE0 + c.val / 0x1000)).toNat = 0xE0 + c.val / 0x1000 :=
      toNat_ofNat_of_lt (by omega)
    unfold utf8Step
    simp only [List.cons_append, List.nil_append, secondSuits, isContinuation, continuationBits,
      hfirst, toNat_continuation]
    rw [if_neg (by omega), if_neg (by omega), if_neg (by omega), if_pos (by omega),
      if_neg (by simp; omega), if_neg (by simp; omega), CodePoint.ofNat_eq (c := c) (by omega)]
    rfl
  next hone htwo hthree =>
    refine ⟨_, _, rfl, ?_⟩
    have hfirst : (UInt8.ofNat (0xF0 + c.val / 0x40000)).toNat = 0xF0 + c.val / 0x40000 :=
      toNat_ofNat_of_lt (by omega)
    unfold utf8Step
    simp only [List.cons_append, List.nil_append, secondSuits, isContinuation, continuationBits,
      hfirst, toNat_continuation]
    rw [if_neg (by omega), if_neg (by omega), if_neg (by omega), if_neg (by omega),
      if_pos (by omega), if_neg (by simp; omega), if_neg (by simp; omega), if_neg (by simp; omega),
      CodePoint.ofNat_eq (c := c) (by omega)]
    rfl

/-- The bytes that belong to the character read before are passed over. -/
theorem decodeUtf8From_skip (more rest : List UInt8) (position : Nat) :
    decodeUtf8From position more.length (more ++ rest) =
      decodeUtf8From (position + more.length) 0 rest := by
  induction more generalizing position with
  | nil => rfl
  | cons b more ih =>
    rw [List.length_cons, List.cons_append, decodeUtf8From, ih, Nat.add_assoc, Nat.add_comm 1]

/-- The bytes of a text without surrogates are read as that text. -/
theorem decodeUtf8From_utf8 {s : Text} (hs : s.IsScalar) (position : Nat) :
    decodeUtf8From position 0 s.utf8 = .ok s := by
  induction s generalizing position with
  | nil => rfl
  | cons c s ih =>
    obtain ⟨hc, hs⟩ := hs.of_cons
    obtain ⟨first, more, hbytes, hstep⟩ := utf8Step_utf8 hc (Text.utf8 s)
    have hsplit : Text.utf8 (c :: s) = first :: (more ++ Text.utf8 s) := by
      simp [Text.utf8, hbytes]
    rw [hsplit, decodeUtf8From, hstep]
    dsimp only
    rw [Nat.add_sub_cancel, decodeUtf8From_skip, ih hs]

/-- Two texts without surrogates have the same bytes only if they are the same. -/
theorem Text.IsScalar.utf8_injective {s t : Text} (hs : s.IsScalar) (ht : t.IsScalar)
    (h : s.utf8 = t.utf8) : s = t := by
  have hread := decodeUtf8From_utf8 hs 0
  rw [h, decodeUtf8From_utf8 ht 0] at hread
  exact (Except.ok.inj hread).symm

end ConfigNamespace
