import ConfigNamespace.Text.Search

/-!
# Laws of splitting

Splitting at one character and joining with it undo each other. The pieces of two texts with the
character between them are those of the first text followed by those of the second, which is what
the laws of keys and of paths rest on.
-/

namespace ConfigNamespace.Text

/-- A text begins with one character exactly if that is its first. -/
theorem startsWith_singleton (a c : CodePoint) (s : Text) :
    startsWith (a :: s) [c] = decide (a = c) := by
  by_cases h : c = a
  · simp [startsWith, dropStart?, h]
  · simp [startsWith, dropStart?, h, Ne.symm h]

/-- What follows the start of a text makes up the text with it. -/
theorem dropStart?_eq_some_iff {start s rest : Text} :
    dropStart? start s = some rest ↔ s = start ++ rest := by
  induction start generalizing s with
  | nil => simp [dropStart?]
  | cons a start ih =>
    cases s with
    | nil => simp [dropStart?]
    | cons b s =>
      by_cases h : a = b
      · simp [dropStart?, h, ih]
      · simp [dropStart?, h, Ne.symm h]

/-- A text begins with what it is a continuation of. -/
theorem startsWith_iff {s start : Text} : startsWith s start = true ↔ start <+: s := by
  rw [startsWith, Option.isSome_iff_exists]
  simp only [dropStart?_eq_some_iff]
  exact exists_congr fun rest => eq_comm

/-- A text ends with what stands at its end. -/
theorem endsWith_iff {s final : Text} : endsWith s final = true ↔ final <:+ s := by
  rw [endsWith, startsWith_iff, List.reverse_prefix]

/-- A text holds a part that stands anywhere in it. -/
theorem contains_iff {part s : Text} : contains part s = true ↔ part <:+: s := by
  induction s with
  | nil => rw [contains, startsWith_iff, List.prefix_nil, List.infix_nil]
  | cons c s ih => rw [contains, Bool.or_eq_true, startsWith_iff, ih, List.infix_cons_iff]

/-- The empty text is one empty piece. -/
@[simp] theorem pieces_nil (separator : Text) : pieces separator [] = [[]] := by
  simp [pieces, piecesFrom]

/-- The rest of a separator that was found is passed over. -/
theorem piecesFrom_eq_pieces_drop (separator : Text) (skip : Nat) (s : Text) :
    piecesFrom separator skip s = pieces separator (s.drop skip) := by
  induction s generalizing skip with
  | nil => cases skip <;> simp [pieces, piecesFrom]
  | cons c s ih =>
    cases skip with
    | zero => rfl
    | succ skip => exact ih skip

/-- A separator at the start cuts off an empty piece. -/
theorem pieces_separator_append {separator : Text} (hseparator : separator ≠ []) (s : Text) :
    pieces separator (separator ++ s) = [] :: pieces separator s := by
  obtain ⟨c, rest, rfl⟩ := List.exists_cons_of_ne_nil hseparator
  have hstart : startsWith (c :: rest ++ s) (c :: rest) = true :=
    startsWith_iff.mpr (List.prefix_append _ s)
  rw [pieces, List.cons_append, piecesFrom, ← List.cons_append, if_pos hstart,
    piecesFrom_eq_pieces_drop, List.length_cons, Nat.add_sub_cancel, List.drop_left]

/-- A character at which no separator begins belongs to the first piece. -/
theorem pieces_cons_of_not_isPrefix {separator s : Text} {c : CodePoint}
    (h : ¬separator <+: c :: s) : pieces separator (c :: s) = consFirst c (pieces separator s) := by
  rw [pieces, piecesFrom, if_neg (mt startsWith_iff.mp h), pieces]

/-- A text without the separator is one piece. -/
theorem pieces_of_not_isInfix {separator s : Text} (h : ¬separator <:+: s) :
    pieces separator s = [s] := by
  induction s with
  | nil => exact pieces_nil separator
  | cons c s ih =>
    rw [List.infix_cons_iff, not_or] at h
    rw [pieces_cons_of_not_isPrefix h.1, ih h.2]
    rfl

/-- A separator in front makes an empty first piece. -/
theorem pieces_cons_self (c : CodePoint) (s : Text) : pieces [c] (c :: s) = [] :: pieces [c] s :=
  pieces_separator_append (List.cons_ne_nil c []) s

/-- Any other character in front goes to the first piece. -/
theorem pieces_cons_of_ne {a c : CodePoint} (h : a ≠ c) (s : Text) :
    pieces [c] (a :: s) = consFirst a (pieces [c] s) :=
  pieces_cons_of_not_isPrefix fun hstart => h (List.cons_prefix_cons.mp hstart).1.symm

/-- A text without a character is one piece for it. -/
theorem pieces_eq_singleton {c : CodePoint} {s : Text} (h : c ∉ s) : pieces [c] s = [s] :=
  pieces_of_not_isInfix fun hpart => h (hpart.subset List.mem_cons_self)

/-- There is a first piece once a character is put in front. -/
theorem consFirst_ne_nil (c : CodePoint) (ps : List Text) : consFirst c ps ≠ [] := by
  cases ps <;> simp [consFirst]

/-- A character goes in front of the first piece, whatever pieces follow. -/
theorem consFirst_append (c : CodePoint) {ps : List Text} (h : ps ≠ []) (qs : List Text) :
    consFirst c (ps ++ qs) = consFirst c ps ++ qs := by
  cases ps with
  | nil => exact absurd rfl h
  | cons p ps => rfl

/-- There is always a piece, however much is skipped. -/
theorem piecesFrom_ne_nil (separator : Text) (skip : Nat) (s : Text) :
    piecesFrom separator skip s ≠ [] := by
  fun_induction piecesFrom separator skip s with
  | case1 => exact List.cons_ne_nil _ _
  | case2 _ _ _ ih => exact ih
  | case3 => exact List.cons_ne_nil _ _
  | case4 => exact consFirst_ne_nil _ _

/-- There is always a piece. -/
theorem pieces_ne_nil (c : CodePoint) (s : Text) : pieces [c] s ≠ [] := piecesFrom_ne_nil [c] 0 s

/-- The pieces of two texts with the separator between them. -/
theorem pieces_append_cons (c : CodePoint) (s t : Text) :
    pieces [c] (s ++ c :: t) = pieces [c] s ++ pieces [c] t := by
  induction s with
  | nil => simp [pieces_cons_self]
  | cons a s ih =>
    by_cases h : a = c
    · rw [h, List.cons_append, pieces_cons_self, pieces_cons_self, ih, List.cons_append]
    · rw [List.cons_append, pieces_cons_of_ne h, pieces_cons_of_ne h, ih,
        consFirst_append a (pieces_ne_nil c s)]

/-- The first piece of what begins without the separator begins with it. -/
theorem pieces_append_of_not_mem {c : CodePoint} {s : Text} (h : c ∉ s) (t : Text) :
    ∃ p ps, pieces [c] t = p :: ps ∧ pieces [c] (s ++ t) = (s ++ p) :: ps := by
  induction s with
  | nil =>
    obtain ⟨p, ps, hps⟩ := List.exists_cons_of_ne_nil (pieces_ne_nil c t)
    exact ⟨p, ps, hps, hps⟩
  | cons a s ih =>
    rw [List.mem_cons, not_or] at h
    obtain ⟨p, ps, ht, hst⟩ := ih h.2
    refine ⟨p, ps, ht, ?_⟩
    rw [List.cons_append, pieces_cons_of_ne (Ne.symm h.1), hst]
    rfl

/-- No piece holds the separator, and its characters come from the text. -/
theorem mem_of_mem_pieces {c a : CodePoint} {s p : Text} (hp : p ∈ pieces [c] s) (ha : a ∈ p) :
    a ∈ s ∧ a ≠ c := by
  induction s generalizing p with
  | nil =>
    rw [pieces_nil, List.mem_singleton] at hp
    simp [hp] at ha
  | cons b s ih =>
    by_cases h : b = c
    · rw [h, pieces_cons_self, List.mem_cons] at hp
      rcases hp with rfl | hp
      · simp at ha
      · exact ⟨List.mem_cons_of_mem _ (ih hp ha).1, (ih hp ha).2⟩
    · rw [pieces_cons_of_ne h] at hp
      cases hs : pieces [c] s with
      | nil => exact absurd hs (pieces_ne_nil c s)
      | cons q qs =>
        rw [hs, consFirst, List.mem_cons] at hp
        rcases hp with rfl | hp
        · rcases List.mem_cons.mp ha with rfl | ha
          · exact ⟨List.mem_cons_self, h⟩
          · have hq := ih (p := q) (by simp [hs]) ha
            exact ⟨List.mem_cons_of_mem _ hq.1, hq.2⟩
        · have hq := ih (p := p) (by simp [hs, hp]) ha
          exact ⟨List.mem_cons_of_mem _ hq.1, hq.2⟩

/-- The first of several pieces is followed by a separator. -/
theorem joinWith_cons (separator p : Text) {ps : List Text} (h : ps ≠ []) :
    joinWith separator (p :: ps) = p ++ separator ++ joinWith separator ps := by
  cases ps with
  | nil => exact absurd rfl h
  | cons q qs => rfl

/-- One more piece is joined to the end. -/
theorem joinWith_append_singleton (separator q : Text) {ps : List Text} (h : ps ≠ []) :
    joinWith separator (ps ++ [q]) = joinWith separator ps ++ separator ++ q := by
  induction ps with
  | nil => exact absurd rfl h
  | cons p ps ih =>
    by_cases hps : ps = []
    · simp [hps, joinWith]
    · rw [List.cons_append, joinWith_cons _ _ (by simp), ih hps, joinWith_cons _ _ hps]
      simp only [List.append_assoc]

/-- Joining is not empty if the first piece is not. -/
theorem joinWith_ne_nil (separator : Text) {p : Text} (h : p ≠ []) (ps : List Text) :
    joinWith separator (p :: ps) ≠ [] := by
  by_cases hps : ps = []
  · simpa [hps, joinWith] using h
  · simp [joinWith_cons _ _ hps, h]

/-- What is joined consists of the pieces and the separator. -/
theorem mem_of_mem_joinWith {separator : Text} {ps : List Text} {a : CodePoint}
    (h : a ∈ joinWith separator ps) : a ∈ separator ∨ ∃ p ∈ ps, a ∈ p := by
  induction ps with
  | nil => simp [joinWith] at h
  | cons p ps ih =>
    by_cases hps : ps = []
    · subst hps
      exact .inr ⟨p, List.mem_cons_self, h⟩
    · rw [joinWith_cons _ _ hps, List.mem_append, List.mem_append] at h
      rcases h with (h | h) | h
      · exact .inr ⟨p, List.mem_cons_self, h⟩
      · exact .inl h
      · rcases ih h with h | ⟨q, hq, h⟩
        · exact .inl h
        · exact .inr ⟨q, List.mem_cons_of_mem _ hq, h⟩

/-- What is joined ends in the last piece. -/
theorem joinWith_eq_append (separator : Text) {ps : List Text} (h : ps ≠ []) :
    ∃ before, joinWith separator ps = before ++ ps.getLast h := by
  induction ps with
  | nil => exact absurd rfl h
  | cons p ps ih =>
    by_cases hps : ps = []
    · subst hps
      exact ⟨[], rfl⟩
    · obtain ⟨before, hbefore⟩ := ih hps
      refine ⟨p ++ separator ++ before, ?_⟩
      rw [joinWith_cons _ _ hps, hbefore, List.getLast_cons hps]
      simp only [List.append_assoc]

/-- What is joined goes on when the last piece does and further ones follow. -/
theorem exists_joinWith_append (separator p more : Text) (before after : List Text) :
    ∃ rest, joinWith separator (before ++ (p ++ more) :: after) =
      joinWith separator (before ++ [p]) ++ rest := by
  induction before with
  | nil =>
    cases after with
    | nil => exact ⟨more, rfl⟩
    | cons q after =>
      refine ⟨more ++ separator ++ joinWith separator (q :: after), ?_⟩
      simp only [List.nil_append, joinWith, List.append_assoc]
  | cons q before ih =>
    obtain ⟨rest, hrest⟩ := ih
    refine ⟨rest, ?_⟩
    rw [List.cons_append, List.cons_append, joinWith_cons _ _ (by simp), joinWith_cons _ _ (by simp),
      hrest]
    simp only [List.append_assoc]

/-- Pieces without the separator are those of the text that they are joined to. -/
theorem pieces_joinWith {c : CodePoint} {ps : List Text} (hne : ps ≠ [])
    (h : ∀ p ∈ ps, c ∉ p) : pieces [c] (joinWith [c] ps) = ps := by
  induction ps with
  | nil => exact absurd rfl hne
  | cons p ps ih =>
    have hp := pieces_eq_singleton (h p List.mem_cons_self)
    by_cases hps : ps = []
    · simpa [hps, joinWith] using hp
    · rw [joinWith_cons [c] p hps, List.append_assoc, List.singleton_append, pieces_append_cons, hp,
        ih hps fun q hq => h q (List.mem_cons_of_mem _ hq), List.singleton_append]

/-- Pieces without the separator are told by what they are joined to. -/
theorem joinWith_injective {c : CodePoint} {ps qs : List Text} (hps : ps ≠ []) (hqs : qs ≠ [])
    (h : ∀ p ∈ ps, c ∉ p) (h' : ∀ q ∈ qs, c ∉ q) (heq : joinWith [c] ps = joinWith [c] qs) :
    ps = qs := by
  rw [← pieces_joinWith hps h, heq, pieces_joinWith hqs h']

/-- A text is what its pieces are joined to. -/
theorem joinWith_pieces (c : CodePoint) (s : Text) : joinWith [c] (pieces [c] s) = s := by
  induction s with
  | nil => simp [joinWith]
  | cons a s ih =>
    by_cases h : a = c
    · rw [h, pieces_cons_self, joinWith_cons _ _ (pieces_ne_nil c s), ih]
      rfl
    · rw [pieces_cons_of_ne h]
      obtain ⟨p, ps, hps⟩ := List.exists_cons_of_ne_nil (pieces_ne_nil c s)
      rw [hps] at ih ⊢
      rw [consFirst, ← ih]
      cases ps <;> rfl

/-- Texts without the separator are those that they are joined to, with or without one at the end. -/
theorem pieces_eq_iff {c : CodePoint} {ps : List Text} (hne : ps ≠ []) (h : ∀ p ∈ ps, c ∉ p)
    {s : Text} : pieces [c] s = ps ↔ s = joinWith [c] ps := by
  constructor
  · rintro rfl
    exact (joinWith_pieces c s).symm
  · rintro rfl
    exact pieces_joinWith hne h

/-- Joining non-empty pieces makes a text that is as long as there are pieces. -/
theorem length_le_length_joinWith (separator : Text) {ps : List Text} (h : ∀ p ∈ ps, p ≠ []) :
    ps.length ≤ (joinWith separator ps).length := by
  induction ps with
  | nil => simp
  | cons p ps ih =>
    have hp : 1 ≤ p.length := List.length_pos_iff.mpr (h p List.mem_cons_self)
    by_cases hps : ps = []
    · simpa [hps, joinWith] using hp
    · have hrest := ih fun q hq => h q (List.mem_cons_of_mem _ hq)
      rw [joinWith_cons _ _ hps]
      simp only [List.length_append, List.length_cons]
      omega

/-- A text without the character is not broken. -/
theorem breakAt?_eq_none {c : CodePoint} {s : Text} (h : c ∉ s) : breakAt? c s = none := by
  induction s with
  | nil => rfl
  | cons a s ih =>
    rw [List.mem_cons, not_or] at h
    rw [breakAt?, if_neg (Ne.symm h.1), ih h.2]
    rfl

/-- A text is broken at the first such character. -/
theorem breakAt?_append_cons {c : CodePoint} {s : Text} (h : c ∉ s) (t : Text) :
    breakAt? c (s ++ c :: t) = some (s, t) := by
  induction s with
  | nil => simp [breakAt?]
  | cons a s ih =>
    rw [List.mem_cons, not_or] at h
    rw [List.cons_append, breakAt?, if_neg (Ne.symm h.1), ih h.2]
    rfl

/-- What a text is broken into makes it up with the character between. -/
theorem eq_append_cons_of_breakAt? {c : CodePoint} {s before after : Text}
    (h : breakAt? c s = some (before, after)) : s = before ++ c :: after := by
  induction s generalizing before with
  | nil => cases h
  | cons a s ih =>
    rw [breakAt?] at h
    split at h
    next ha =>
      cases h
      rw [ha, List.nil_append]
    next =>
      obtain ⟨⟨front, rest⟩, hbroken, hparts⟩ := Option.map_eq_some_iff.mp h
      cases hparts
      rw [ih hbroken, List.cons_append]

section Occurrences

variable {part s t rest : Text}

/-- What follows the last occurrence follows it in every text that ends so. -/
theorem afterLast?_append_of_eq_some (h : afterLast? part t = some rest) (s : Text) :
    afterLast? part (s ++ t) = some rest := by
  induction s with
  | nil => exact h
  | cons c s ih => rw [List.cons_append, afterLast?, ih]

/-- What follows the last occurrence makes up a text with it and what stands before. -/
theorem exists_eq_append_of_afterLast? (h : afterLast? part s = some rest) :
    ∃ before, s = before ++ part ++ rest := by
  induction s with
  | nil => cases h
  | cons c s ih =>
    rw [afterLast?] at h
    cases hlater : afterLast? part s with
    | some later =>
      rw [hlater] at h
      obtain ⟨before, hbefore⟩ := ih (hlater.trans h)
      exact ⟨c :: before, by rw [List.cons_append, List.cons_append, ← hbefore]⟩
    | none =>
      rw [hlater] at h
      exact ⟨[], dropStart?_eq_some_iff.mp h⟩

/-- Nothing follows a text exactly if it does not occur. -/
theorem afterLast?_eq_none_iff (hpart : part ≠ []) : afterLast? part s = none ↔ ¬part <:+: s := by
  induction s with
  | nil => simp [afterLast?, hpart]
  | cons c s ih =>
    rw [afterLast?, List.infix_cons_iff, not_or, ← ih, ← startsWith_iff, startsWith]
    cases afterLast? part s <;> simp

/-- After an occurrence, the last one is found among those that begin later, if there are any. -/
theorem afterLast?_append_part (hpart : part ≠ []) (s t : Text) :
    afterLast? part (s ++ part ++ t) = some ((afterLast? part (part ++ t).tail).getD t) := by
  rw [List.append_assoc]
  refine afterLast?_append_of_eq_some ?_ s
  obtain ⟨c, part, rfl⟩ := List.exists_cons_of_ne_nil hpart
  rw [List.cons_append, afterLast?, List.tail_cons]
  cases afterLast? (c :: part) (part ++ t) with
  | some later => rfl
  | none => exact dropStart?_eq_some_iff.mpr rfl

/-- An occurrence is the last one exactly if none begins later. -/
theorem afterLast?_append_part_eq_iff (hpart : part ≠ []) (s t : Text) :
    afterLast? part (s ++ part ++ t) = some t ↔ ¬part <:+: (part ++ t).tail := by
  rw [afterLast?_append_part hpart, ← afterLast?_eq_none_iff hpart, Option.some_inj]
  cases hlater : afterLast? part (part ++ t).tail with
  | none => simp
  | some later =>
    -- What follows a later occurrence is shorter.
    obtain ⟨before, hbefore⟩ := exists_eq_append_of_afterLast? hlater
    have hlength := congrArg List.length hbefore
    have hpos := List.length_pos_iff.mpr hpart
    simp only [List.length_tail, List.length_append] at hlength
    simp only [Option.getD_some, reduceCtorEq, iff_false]
    rintro rfl
    omega

/-- What stands last in joined pieces is the last of them exactly if there is no other, or no occurrence
of the separator begins after the start of the one before it. -/
theorem afterLast?_joinWith_eq_iff (hpart : part ≠ []) (ps : List Text) {p : Text}
    (hp : ¬part <:+: p) :
    (afterLast? part (joinWith part (ps ++ [p]))).getD (joinWith part (ps ++ [p])) = p ↔
      ps = [] ∨ ¬part <:+: (part ++ p).tail := by
  by_cases hps : ps = []
  · have hnone : afterLast? part p = none := (afterLast?_eq_none_iff hpart).mpr hp
    simp [hps, joinWith, hnone]
  · rw [joinWith_append_singleton _ _ hps, ← afterLast?_append_part_eq_iff hpart (joinWith part ps),
      afterLast?_append_part hpart, Option.getD_some, Option.some_inj]
    simp [hps]

/-- What follows the last occurrence of a character that occurs before. -/
theorem afterLast?_append_cons (c : CodePoint) (s t : Text) :
    afterLast? [c] (s ++ c :: t) = some ((afterLast? [c] t).getD t) := by
  simpa using afterLast?_append_part (List.cons_ne_nil c []) s t

/-- Nothing follows a character that does not occur. -/
theorem afterLast?_eq_none {c : CodePoint} (h : c ∉ s) : afterLast? [c] s = none :=
  (afterLast?_eq_none_iff (List.cons_ne_nil c [])).mpr fun hpart => h (hpart.subset List.mem_cons_self)

/-- What stands last in joined pieces without the separator is the last of them. -/
theorem afterLast?_joinWith {c : CodePoint} {ps : List Text} (h : ∀ p ∈ ps, c ∉ p) :
    (afterLast? [c] (joinWith [c] ps)).getD (joinWith [c] ps) = ps.getLastD [] := by
  rcases List.eq_nil_or_concat ps with rfl | ⟨before, last, rfl⟩
  · rfl
  · have hlast : ¬[c] <:+: last := fun hpart => h last (by simp) (hpart.subset List.mem_cons_self)
    rw [List.concat_eq_append, List.getLastD_concat]
    exact (afterLast?_joinWith_eq_iff (List.cons_ne_nil c []) before hlast).mpr (.inr hlast)

/-- Whether the start of a text is its end as well, without being all of it. -/
def OverlapsItself (part : Text) : Prop := ∃ u, u ≠ [] ∧ u ≠ part ∧ u <+: part ∧ u <:+ part

/-- One character does not overlap itself. -/
theorem not_overlapsItself_singleton (c : CodePoint) : ¬OverlapsItself [c] := by
  rintro ⟨u, hne, hother, ⟨rest, hrest⟩, -⟩
  rcases List.append_eq_singleton_iff.mp hrest with ⟨hu, -⟩ | ⟨hu, -⟩
  · exact hne hu
  · exact hother hu

/-- Only a text that overlaps itself begins again before it ends. -/
theorem overlapsItself_of_isInfix (hpart : part ≠ []) (h : part <:+: (part ++ t).tail)
    (ht : ¬part <:+: t) : OverlapsItself part := by
  rw [List.tail_append_of_ne_nil hpart, List.infix_append_iff_ne_nil] at h
  have hshort {u : Text} (hu : u <:+: part.tail) : u ≠ part := by
    rintro rfl
    have hlength := hu.length_le
    have hpos := List.length_pos_iff.mpr hpart
    rw [List.length_tail] at hlength
    omega
  rcases h with hwithin | hafter | ⟨u, rest, hu, -, hsplit, hend, -⟩
  · exact absurd rfl (hshort hwithin)
  · exact absurd hafter ht
  · exact ⟨u, hu, hshort hend.isInfix, ⟨rest, hsplit.symm⟩, hend.trans (List.tail_suffix part)⟩

end Occurrences

/-- A text that ends otherwise has nothing to trim. -/
theorem trimEndChar_append {c : CodePoint} (s : Text) {t : Text} (ht : t ≠ []) (h : c ∉ t) :
    trimEndChar c (s ++ t) = s ++ t := by
  have hhead : t.reverse.head (by simpa using ht) ≠ c := by
    intro heq
    exact h (List.mem_reverse.mp (heq ▸ List.head_mem _))
  obtain ⟨a, rest, hreverse⟩ := List.exists_cons_of_ne_nil (l := t.reverse) (by simpa using ht)
  simp only [hreverse, List.head_cons] at hhead
  rw [trimEndChar, List.reverse_append, hreverse, List.cons_append,
    List.dropWhile_cons_of_neg (by simpa using hhead), ← List.cons_append, ← hreverse]
  simp

/-- A text does not end with a character that its last part lacks. -/
theorem endsWith_append {c : CodePoint} (s : Text) {t : Text} (ht : t ≠ []) (h : c ∉ t) :
    endsWith (s ++ t) [c] = false := by
  obtain ⟨a, rest, hreverse⟩ := List.exists_cons_of_ne_nil (l := t.reverse) (by simpa using ht)
  have ha : a ∈ t := List.mem_reverse.mp (hreverse ▸ List.mem_cons_self)
  rw [endsWith, List.reverse_append, hreverse, List.cons_append, List.reverse_singleton,
    startsWith_singleton]
  exact decide_eq_false fun heq => h (heq ▸ ha)

/-- A text ends with the character that was put at its end. -/
theorem endsWith_append_self (c : CodePoint) (s : Text) : endsWith (s ++ [c]) [c] = true := by
  rw [endsWith, List.reverse_append, List.reverse_singleton, List.singleton_append,
    startsWith_singleton]
  exact decide_eq_true rfl

/-- One more character to trim changes nothing. -/
theorem trimEndChar_append_self (c : CodePoint) (s : Text) :
    trimEndChar c (s ++ [c]) = trimEndChar c s := by
  simp [trimEndChar]

/-- Where a character does not occur, nothing is replaced. -/
theorem replaceChar_of_not_mem {c : CodePoint} (replacement : Text) {s : Text} (h : c ∉ s) :
    replaceChar c replacement s = s := by
  induction s with
  | nil => rfl
  | cons a s ih =>
    rw [List.mem_cons, not_or] at h
    obtain ⟨ha, hs⟩ := h
    change (if a = c then replacement else [a]) ++ replaceChar c replacement s = a :: s
    rw [if_neg (Ne.symm ha), ih hs]
    rfl

/-- Characters are replaced part by part. -/
theorem replaceChar_append (c : CodePoint) (replacement s t : Text) :
    replaceChar c replacement (s ++ t) = replaceChar c replacement s ++ replaceChar c replacement t :=
  List.flatMap_append

/-- Replacing a character changes nothing where it is replaced by itself or does not occur. -/
theorem replaceChar_eq_self {c d : CodePoint} {s : Text} (h : c ∈ s → d = c) :
    replaceChar c [d] s = s := by
  induction s with
  | nil => rfl
  | cons a s ih =>
    rw [replaceChar, List.flatMap_cons, ← replaceChar, ih fun hs => h (List.mem_cons_of_mem _ hs)]
    by_cases ha : a = c
    · rw [if_pos ha, h (ha ▸ List.mem_cons_self), ha, List.singleton_append]
    · rw [if_neg ha, List.singleton_append]

end ConfigNamespace.Text
