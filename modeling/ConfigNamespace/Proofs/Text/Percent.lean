import ConfigNamespace.Proofs.Text.Utf8
import ConfigNamespace.Text.Percent

/-!
# Laws of percent encoding

An encoded name consists of percent signs and of characters that stand for themselves in a URL. Dots
are encoded by dots, and by nothing else. A name can be told from its code, because no code of a byte
begins that of another one.
-/

namespace ConfigNamespace

/-- The percent sign. -/
abbrev percentSign : CodePoint := CodePoint.ofNat 0x25

/-- Hexadecimal digits are unreserved. -/
theorem isUnreserved_upperHexDigit : ∀ n < 16, isUnreserved (upperHexDigit n).val := by
  decide

/-- The number of a byte is that of the character that stands for it. -/
theorem val_ofNat_toNat (b : UInt8) : (CodePoint.ofNat b.toNat).val = b.toNat := by
  have hb := b.toNat_lt
  have hlt : b.toNat < 0x110000 := by omega
  simp [CodePoint.ofNat, hlt]

/-- An encoded byte consists of percent signs and of characters that stand for themselves. -/
theorem unreserved_of_mem_percentByte {b : UInt8} {c : CodePoint} (h : c ∈ percentByte b) :
    isUnreserved c.val ∨ c = percentSign := by
  have hb := b.toNat_lt
  unfold percentByte at h
  split at h
  · next hself =>
    rw [List.mem_singleton.mp h, val_ofNat_toNat]
    exact .inl hself
  · simp only [List.mem_cons, List.not_mem_nil, or_false] at h
    rcases h with rfl | rfl | rfl
    · exact .inr rfl
    · exact .inl (isUnreserved_upperHexDigit _ (by omega))
    · exact .inl (isUnreserved_upperHexDigit _ (by omega))

/-- An encoded name consists of percent signs and of characters that stand for themselves. -/
theorem unreserved_of_mem_percentEncode {name : Text} {c : CodePoint}
    (h : c ∈ percentEncode name) : isUnreserved c.val ∨ c = percentSign := by
  obtain ⟨b, -, hc⟩ := List.mem_flatMap.mp h
  exact unreserved_of_mem_percentByte hc

/-- There is no slash in an encoded name. -/
theorem slash_not_mem_percentEncode (name : Text) : CodePoint.ofChar '/' ∉ percentEncode name := by
  intro hmem
  exact absurd (unreserved_of_mem_percentEncode hmem) (by decide)

/-- A name is encoded character by character. -/
theorem percentEncode_cons (c : CodePoint) (name : Text) :
    percentEncode (c :: name) = c.utf8.flatMap percentByte ++ percentEncode name := by
  simp [percentEncode, Text.utf8]

/-- Two names are encoded one after the other. -/
theorem percentEncode_append (name other : Text) :
    percentEncode (name ++ other) = percentEncode name ++ percentEncode other := by
  simp [percentEncode, Text.utf8]

/-- Only a dot is encoded by dots. -/
private theorem toNat_eq_of_percentByte_dots {b : UInt8}
    (h : ∀ a ∈ percentByte b, a = CodePoint.ofChar '.') : b.toNat = 0x2E := by
  unfold percentByte at h
  split at h
  · have hdot := h _ List.mem_cons_self
    rw [← val_ofNat_toNat, hdot]
    rfl
  · exact absurd (h percentSign List.mem_cons_self) (by decide)

private theorem eq_dot_of_utf8 {c : CodePoint} (h : ∀ b ∈ c.utf8, b.toNat = 0x2E) :
    c = CodePoint.ofChar '.' := by
  obtain ⟨n, hn⟩ := c
  apply CodePoint.ext
  change n = 0x2E
  unfold CodePoint.utf8 at h
  dsimp only at h
  split at h
  · have hfirst := h _ List.mem_cons_self
    rw [UInt8.toNat_ofNat'] at hfirst
    omega
  -- The first byte of a longer character is no dot.
  · exfalso
    split at h
    · have hfirst := h _ List.mem_cons_self
      rw [UInt8.toNat_ofNat'] at hfirst
      omega
    · split at h
      all_goals
        have hfirst := h _ List.mem_cons_self
        rw [UInt8.toNat_ofNat'] at hfirst
        omega

/-- A name that is encoded by dots alone consists of them. -/
theorem eq_of_percentEncode_dots {name : Text}
    (h : ∀ a ∈ percentEncode name, a = CodePoint.ofChar '.') : percentEncode name = name := by
  induction name with
  | nil => rfl
  | cons c name ih =>
    rw [percentEncode_cons] at h ⊢
    obtain rfl : c = CodePoint.ofChar '.' := by
      refine eq_dot_of_utf8 fun b hb => toNat_eq_of_percentByte_dots fun a ha => ?_
      exact h a (List.mem_append_left _ (List.mem_flatMap.mpr ⟨b, hb, ha⟩))
    rw [ih fun a ha => h a (List.mem_append_right _ ha)]
    rfl

/-- Only the empty name is encoded as the empty text. -/
theorem percentEncode_ne_nil {name : Text} (h : name ≠ []) : percentEncode name ≠ [] := by
  intro hnil
  have hdots : percentEncode name = name := eq_of_percentEncode_dots (by simp [hnil])
  exact h (hdots.symm.trans hnil)

/-- Hexadecimal digits are told apart. -/
theorem upperHexDigit_injective : ∀ m < 16, ∀ n < 16, upperHexDigit m = upperHexDigit n → m = n := by
  decide

/-- The code of a byte tells the byte, whatever follows. -/
theorem percentByte_append_inj {a b : UInt8} {rest others : Text}
    (h : percentByte a ++ rest = percentByte b ++ others) : a = b ∧ rest = others := by
  have ha := a.toNat_lt
  have hb := b.toNat_lt
  -- The percent sign does not stand for itself, so the first character tells how long the code is.
  have hself {c : UInt8} (hc : isUnreserved c.toNat = true) :
      CodePoint.ofNat c.toNat ≠ percentSign := by
    intro heq
    have hsign : isUnreserved percentSign.val = true := by rw [← heq, val_ofNat_toNat, hc]
    exact absurd hsign (by decide)
  unfold percentByte at h
  split at h <;> split at h
  · obtain ⟨hsame, hrest⟩ := List.cons.inj h
    refine ⟨UInt8.toNat_inj.mp ?_, hrest⟩
    rw [← val_ofNat_toNat, hsame, val_ofNat_toNat]
  next hunreserved _ => exact absurd (List.cons.inj h).1 (hself hunreserved)
  next _ hunreserved => exact absurd (List.cons.inj h).1.symm (hself hunreserved)
  · obtain ⟨-, h⟩ := List.cons.inj h
    obtain ⟨hhigh, h⟩ := List.cons.inj h
    obtain ⟨hlow, hrest⟩ := List.cons.inj h
    have hdiv := upperHexDigit_injective _ (by omega) _ (by omega) hhigh
    have hmod := upperHexDigit_injective _ (by omega) _ (by omega) hlow
    exact ⟨UInt8.toNat_inj.mp (by omega), hrest⟩

/-- A byte is not encoded as the empty text. -/
theorem percentByte_ne_nil (b : UInt8) : percentByte b ≠ [] := by
  unfold percentByte
  split <;> exact List.cons_ne_nil _ _

/-- Bytes can be told from their codes, one after another. -/
theorem flatMap_percentByte_injective {bytes others : List UInt8}
    (h : bytes.flatMap percentByte = others.flatMap percentByte) : bytes = others := by
  induction bytes generalizing others with
  | nil =>
    cases others with
    | nil => rfl
    | cons b others => exact absurd (List.append_eq_nil_iff.mp h.symm).1 (percentByte_ne_nil b)
  | cons a bytes ih =>
    cases others with
    | nil => exact absurd (List.append_eq_nil_iff.mp h).1 (percentByte_ne_nil a)
    | cons b others =>
      obtain ⟨rfl, hrest⟩ := percentByte_append_inj h
      rw [ih hrest]

/-- Two names without surrogates are encoded alike only if they are the same. -/
theorem percentEncode_injective {name other : Text} (hname : name.IsScalar) (hother : other.IsScalar)
    (h : percentEncode name = percentEncode other) : name = other :=
  hname.utf8_injective hother (flatMap_percentByte_injective h)

end ConfigNamespace
