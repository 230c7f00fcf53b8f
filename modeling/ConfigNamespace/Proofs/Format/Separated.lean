import Mathlib.Data.List.Forall2
import ConfigNamespace.Proofs.Format.Spelled

/-!
# Separators in flat documents

A key and its value are told apart by an equals sign, by a colon or by blanks alone, and blanks may
stand around each of them. The reader takes the first character that separates, which may be a blank
before the sign that was meant; it then takes that sign as well. So all these lines are read as the same
declaration, as long as the value does not begin with a sign that the reader could take for the
separator.
-/

namespace ConfigNamespace.Properties

/-- The signs that stand between a key and a value. -/
def separatorSigns : List CodePoint := [CodePoint.ofChar '=', CodePoint.ofChar ':']

/-- Whether a key can stand in a line as it is. -/
structure IsPlainKey (key : Text) : Prop where
  /-- A key is not empty. -/
  ne_nil : key ≠ []
  /-- A blank ends a key. -/
  unblank : ∀ c ∈ key, c.isBlank = false
  /-- A sign ends a key. -/
  unsigned : ∀ c ∈ key, c ∉ separatorSigns
  /-- A backslash escapes what follows it. -/
  backslash_not_mem : CodePoint.backslash ∉ key
  /-- A key does not begin as a comment. -/
  head_not_mem : ∀ c ∈ key.head?, c ∉ commentSigns

/-- Whether a value can stand in a line as it is. -/
structure IsPlainValue (value : Text) : Prop where
  /-- A backslash escapes what follows it, or joins the next line. -/
  backslash_not_mem : CodePoint.backslash ∉ value
  /-- A value stands on one line. -/
  unbroken : value.IsUnbroken
  /-- Blanks around a value do not belong to it. -/
  trimmed : value.IsTrimmed
  /-- A sign at the start of a value could be taken for the separator. -/
  head_not_mem : ∀ c ∈ value.head?, c ∉ separatorSigns

instance (key : Text) : Decidable (IsPlainKey key) :=
  decidable_of_iff (key ≠ [] ∧ (∀ c ∈ key, c.isBlank = false) ∧ (∀ c ∈ key, c ∉ separatorSigns) ∧
      CodePoint.backslash ∉ key ∧ ∀ c ∈ key.head?, c ∉ commentSigns)
    ⟨fun ⟨h₁, h₂, h₃, h₄, h₅⟩ => ⟨h₁, h₂, h₃, h₄, h₅⟩, fun ⟨h₁, h₂, h₃, h₄, h₅⟩ => ⟨h₁, h₂, h₃, h₄, h₅⟩⟩

instance (value : Text) : Decidable (IsPlainValue value) :=
  decidable_of_iff (CodePoint.backslash ∉ value ∧ value.IsUnbroken ∧ value.IsTrimmed ∧
      ∀ c ∈ value.head?, c ∉ separatorSigns)
    ⟨fun ⟨h₁, h₂, h₃, h₄⟩ => ⟨h₁, h₂, h₃, h₄⟩, fun ⟨h₁, h₂, h₃, h₄⟩ => ⟨h₁, h₂, h₃, h₄⟩⟩

/-- Whether a text is a run of blanks within a line. -/
def IsGap (s : Text) : Prop := s.IsBlank ∧ s.IsUnbroken

instance (s : Text) : Decidable (IsGap s) := instDecidableAnd

/-- The ways to tell a value from the key before it, with the blanks around what tells them apart. -/
inductive Separates (value : Text) : Text → Prop
  /-- A sign. -/
  | sign {left right : Text} {sign : CodePoint} (hsign : sign ∈ separatorSigns) (hleft : IsGap left)
    (hright : IsGap right) : Separates value (left ++ sign :: (right ++ value))
  /-- Blanks alone, of which a value that is empty needs none. -/
  | blanks {left : Text} (hleft : IsGap left) (hgap : left = [] → value = []) :
    Separates value (left ++ value)

/-- The ways to write a key and a value on a line, with blanks around them. -/
inductive Separated (key value : Text) : Text → Prop
  /-- The blanks before the key and after the value. -/
  | intro {before rest after : Text} (hbefore : IsGap before) (hrest : Separates value rest)
    (hafter : IsGap after) : Separated key value (before ++ key ++ rest ++ after)

section Parts

variable {key value rest : Text}

/-- The signs separate, are no blanks and do not end a line. -/
theorem separatorSigns_spec : ∀ sign ∈ separatorSigns,
    isSeparator sign = true ∧ sign.isBlank = false ∧ sign.isLineEnd = false := by
  decide

/-- A text without backslashes has no escapes. -/
theorem unescape?_of_not_mem {s : Text} (h : CodePoint.backslash ∉ s) : unescape? s = some s := by
  induction s with
  | nil => rfl
  | cons c s ih =>
    obtain ⟨hc, hs⟩ := not_or.mp (mt List.mem_cons.mpr h)
    rw [unescape?.eq_def]
    dsimp only
    rw [if_neg (Ne.symm hc), ih hs]
    rfl

/-- A text without backslashes does not go on in the next line. -/
theorem isContinued_of_not_mem {s : Text} (h : CodePoint.backslash ∉ s) : isContinued s = false := by
  rcases List.eq_nil_or_concat s with rfl | ⟨s, c, rfl⟩
  · rfl
  · have hc : c ≠ .backslash := by
      rintro rfl
      exact h (by simp)
    rw [List.concat_eq_append, isContinued_concat, decide_eq_false hc, Bool.false_and]

/-- A text that begins with no blank is not trimmed there. -/
theorem trimStart_of_head {s : Text} (h : ∀ c ∈ s.head?, c.isBlank = false) : s.trimStart = s := by
  cases s with
  | nil => rfl
  | cons c s => exact Text.trimStart_cons (h c rfl) s

/-- Blanks before a trimmed value are trimmed away. -/
theorem trimStart_gap (hvalue : IsPlainValue value) {gap : Text} (hgap : IsGap gap) :
    Text.trimStart (gap ++ value) = value := by
  rw [Text.trimStart_append hgap.1, trimStart_of_head hvalue.trimmed.1]

/-- The first separator is not before the end of a key. -/
theorem breakAtSeparator?_append (hkey : IsPlainKey key) (s : Text) :
    breakAtSeparator? false (key ++ s) =
      (breakAtSeparator? false s).map fun parts => (key ++ parts.1, parts.2) := by
  have hnone : ∀ c ∈ key, isSeparator c = false ∧ c ≠ .backslash := by
    intro c hc
    have hsigns : c ≠ CodePoint.ofChar '=' ∧ c ≠ CodePoint.ofChar ':' := by
      simpa [separatorSigns] using hkey.unsigned c hc
    refine ⟨?_, fun heq => hkey.backslash_not_mem (heq ▸ hc)⟩
    simp [isSeparator, hsigns, hkey.unblank c hc]
  clear hkey
  induction key with
  | nil => exact Option.map_id'.symm
  | cons c key ih =>
    obtain ⟨hseparator, hbackslash⟩ := hnone c List.mem_cons_self
    rw [List.cons_append, breakAtSeparator?_cons (.inr hseparator), decide_eq_false hbackslash,
      ih fun a ha => hnone a (List.mem_cons_of_mem _ ha), Option.map_map]
    rfl

/-- A line is broken at the first character after the key. -/
theorem breakAtSeparator?_key (hkey : IsPlainKey key) {c : CodePoint} (hc : isSeparator c = true)
    (s : Text) : breakAtSeparator? false (key ++ c :: s) = some (key, c, s) := by
  rw [breakAtSeparator?_append hkey, breakAtSeparator?, if_pos (by simp [hc])]
  simp

/-- Whatever separates them, a key and a value are split. -/
theorem splitLine_append (hkey : IsPlainKey key) (hvalue : IsPlainValue value)
    (hrest : Separates value rest) : splitLine (key ++ rest) = (key, value) := by
  cases hrest with
  | @sign left right sign hsign hleft hright =>
    obtain ⟨hmeant, hunblank, -⟩ := separatorSigns_spec sign hsign
    cases left with
    | nil =>
      rw [List.nil_append, splitLine, breakAtSeparator?_key hkey hmeant]
      dsimp only
      rw [trimStart_gap hvalue hright, if_neg (by simp [hunblank])]
    | cons b left =>
      -- The blank is taken for the separator, and then the sign that was meant is taken with it.
      have hb : b.isBlank = true := hleft.1 b List.mem_cons_self
      have hnext : Text.trimStart (left ++ sign :: (right ++ value)) = sign :: (right ++ value) := by
        rw [Text.trimStart_append fun c hc => hleft.1 c (List.mem_cons_of_mem _ hc),
          Text.trimStart_cons hunblank]
      rw [List.cons_append, splitLine, breakAtSeparator?_key hkey (by simp [isSeparator, hb])]
      dsimp only
      rw [hnext, if_pos hb]
      dsimp only
      rw [if_pos (by simpa [separatorSigns] using hsign), trimStart_gap hvalue hright]
  | @blanks left hleft hgap =>
    cases left with
    | nil =>
      obtain rfl := hgap rfl
      have hnone : breakAtSeparator? false (key ++ []) = none := by
        rw [breakAtSeparator?_append hkey]
        rfl
      rw [List.append_nil] at hnone
      rw [List.nil_append, List.append_nil, splitLine, hnone]
    | cons b left =>
      have hb : b.isBlank = true := hleft.1 b List.mem_cons_self
      have hgap : IsGap left := ⟨fun c hc => hleft.1 c (List.mem_cons_of_mem _ hc),
        fun c hc => hleft.2 c (List.mem_cons_of_mem _ hc)⟩
      rw [List.cons_append, splitLine, breakAtSeparator?_key hkey (by simp [isSeparator, hb])]
      dsimp only
      rw [trimStart_gap hvalue hgap, if_pos hb]
      cases value with
      | nil => rfl
      | cons c value =>
        have hc : c ∉ separatorSigns := hvalue.head_not_mem c rfl
        exact if_neg (by simpa [separatorSigns] using hc)

end Parts

section Lines

variable {key value line : Text}

/-- Trimming takes the blanks around a key and a value away. Where the value is empty, those go too
that stand after the key or the sign, and what is left still separates them. -/
theorem Separated.exists_trim_eq (h : Separated key value line) (hkey : IsPlainKey key)
    (hvalue : IsPlainValue value) : ∃ rest, Separates value rest ∧ line.trim = key ++ rest := by
  obtain @⟨before, rest, after, hbefore, hrest, hafter⟩ := h
  have hfirst (s : Text) : ∀ c ∈ (key ++ s).head?, c.isBlank = false := by
    obtain ⟨c, k, rfl⟩ := List.exists_cons_of_ne_nil hkey.ne_nil
    intro a ha
    obtain rfl : c = a := by simpa using ha
    exact hkey.unblank c List.mem_cons_self
  have hlast : ∀ c ∈ key.getLast?, c.isBlank = false := fun c hc =>
    hkey.unblank c (List.mem_of_getLast? hc)
  by_cases hempty : value = []
  · subst hempty
    cases hrest with
    | @sign left right sign hsign hleft hright =>
      have htrimmed : Text.IsTrimmed (key ++ (left ++ [sign])) := by
        refine ⟨hfirst _, fun c hc => ?_⟩
        obtain rfl : sign = c := by simpa using hc
        exact (separatorSigns_spec sign hsign).2.1
      refine ⟨left ++ sign :: ([] ++ []), .sign hsign hleft ⟨Text.isBlank_nil, by decide⟩, ?_⟩
      have hsplit : before ++ key ++ (left ++ sign :: (right ++ [])) ++ after =
          before ++ (key ++ (left ++ [sign])) ++ (right ++ after) := by simp
      rw [hsplit, htrimmed.trim_append hbefore.1 (hright.1.append hafter.1)]
      rfl
    | @blanks left hleft _ =>
      have htrimmed : Text.IsTrimmed key := ⟨by simpa using hfirst [], hlast⟩
      refine ⟨[] ++ [], .blanks ⟨Text.isBlank_nil, by decide⟩ fun _ => rfl, ?_⟩
      have hsplit : before ++ key ++ (left ++ []) ++ after = before ++ key ++ (left ++ after) := by
        simp
      rw [hsplit, htrimmed.trim_append hbefore.1 (hleft.1.append hafter.1)]
      simp
  · have hend : ∃ front, rest = front ++ value := by
      cases hrest with
      | @sign left right sign _ _ _ => exact ⟨left ++ sign :: right, by simp⟩
      | @blanks left _ _ => exact ⟨left, rfl⟩
    have htrimmed : Text.IsTrimmed (key ++ rest) := by
      refine ⟨hfirst _, fun c hc => hvalue.trimmed.2 c ?_⟩
      obtain ⟨front, rfl⟩ := hend
      simpa [List.getLast?_append, List.getLast?_eq_some_getLast hempty] using hc
    refine ⟨rest, hrest, ?_⟩
    have hsplit : before ++ key ++ rest ++ after = before ++ (key ++ rest) ++ after := by simp
    rw [hsplit, htrimmed.trim_append hbefore.1 hafter.1]

/-- The line of a key and a value stands on one line. -/
theorem Separated.isUnbroken (h : Separated key value line) (hkey : IsPlainKey key)
    (hvalue : IsPlainValue value) : line.IsUnbroken := by
  obtain ⟨hbefore, hrest, hafter⟩ := h
  have hunbroken : Text.IsUnbroken key := Text.isUnbroken_of_forall hkey.unblank
  refine ((hbefore.2.append hunbroken).append ?_).append hafter.2
  cases hrest with
  | sign hsign hleft hright =>
    exact hleft.2.append (List.forall_mem_cons.mpr
      ⟨(separatorSigns_spec _ hsign).2.2, hright.2.append hvalue.unbroken⟩)
  | blanks hleft _ => exact hleft.2.append hvalue.unbroken

/-- A plain value is separated without a backslash. -/
theorem Separates.backslash_not_mem {rest : Text} (h : Separates value rest)
    (hvalue : IsPlainValue value) : CodePoint.backslash ∉ rest := by
  have hnone := hvalue.backslash_not_mem
  have hblank : CodePoint.backslash.isBlank = false := by decide
  cases h with
  | sign hsign hleft hright =>
    have hleft := hleft.1.not_mem hblank
    have hright := hright.1.not_mem hblank
    have hother : CodePoint.backslash ∉ separatorSigns := by decide
    simp only [List.mem_append, List.mem_cons, not_or]
    exact ⟨hleft, fun heq => hother (heq ▸ hsign), hright, hnone⟩
  | blanks hleft _ =>
    rw [List.mem_append, not_or]
    exact ⟨hleft.1.not_mem hblank, hnone⟩

/-- A line that begins with a key is not passed over. -/
theorem IsPlainKey.isPassedOver_append (hkey : IsPlainKey key) (rest : Text) :
    isPassedOver (key ++ rest) = false := by
  obtain ⟨c, k, rfl⟩ := List.exists_cons_of_ne_nil hkey.ne_nil
  have hc : c ∉ commentSigns := hkey.head_not_mem c rfl
  simpa [isPassedOver, commentSigns] using hc

/-- Where no line goes on, a line that is not passed over and does not go on declares what it does before
the lines that follow. -/
theorem declarationsOf_logicalLines_cons {number : Nat} {pair : Text × Text} {lines : List Text}
    {declared : List (Text × Text)} (hpassed : isPassedOver line.trim = false)
    (hcontinued : isContinued line.trim = false)
    (hdeclaration : declaration (number, line.trim) = .ok pair)
    (hlines : declarationsOf (logicalLines (number + 1) none lines) = .ok declared) :
    declarationsOf (logicalLines number none (line :: lines)) = .ok (pair :: declared) := by
  rw [logicalLines, if_neg (by simp [hpassed]), if_neg (by simp [hcontinued]), declarationsOf,
    hdeclaration, hlines]

/-- Where no line goes on, the line of a key and a value is a logical line of its own, and declares the
value under the key. -/
theorem Separated.declarationsOf_cons (h : Separated key value line) (hkey : IsPlainKey key)
    (hvalue : IsPlainValue value) {lines : List Text} {number : Nat} {declared : List (Text × Text)}
    (hlines : declarationsOf (logicalLines (number + 1) none lines) = .ok declared) :
    declarationsOf (logicalLines number none (line :: lines)) = .ok ((key, value) :: declared) := by
  obtain ⟨rest, hrest, htrim⟩ := h.exists_trim_eq hkey hvalue
  have hcontinued : isContinued line.trim = false := by
    refine isContinued_of_not_mem ?_
    rw [htrim, List.mem_append, not_or]
    exact ⟨hkey.backslash_not_mem, hrest.backslash_not_mem hvalue⟩
  have hdeclaration : declaration (number, line.trim) = .ok (key, value) := by
    rw [htrim, declaration]
    dsimp only
    rw [splitLine_append hkey hvalue hrest, if_neg hkey.ne_nil,
      unescape?_of_not_mem hkey.backslash_not_mem, unescape?_of_not_mem hvalue.backslash_not_mem]
  exact declarationsOf_logicalLines_cons (htrim ▸ hkey.isPassedOver_append rest) hcontinued hdeclaration
    hlines

end Lines

section Documents

/-- The lines of keys and values declare these, whatever separates them on each line. -/
theorem declarationsOf_separated {pairs : List (Text × Text)} {lines : List Text}
    (hlines : List.Forall₂ (fun pair line => Separated pair.1 pair.2 line) pairs lines)
    (hpairs : ∀ pair ∈ pairs, IsPlainKey pair.1 ∧ IsPlainValue pair.2) (number : Nat) :
    declarationsOf (logicalLines number none lines) = .ok pairs := by
  induction hlines generalizing number with
  | nil => rfl
  | cons hline _ ih =>
    obtain ⟨hkey, hvalue⟩ := hpairs _ List.mem_cons_self
    exact hline.declarationsOf_cons hkey hvalue
      (ih (fun pair hpair => hpairs pair (List.mem_cons_of_mem _ hpair)) (number + 1))

/-- The separators of flat documents are interchangeable. A line of a key and a value that can stand as
they are is read as exactly this key with this value, whether an equals sign, a colon or blanks alone
tell them apart and whatever blanks stand around them; the value may be empty or hold further
separators. -/
theorem parse_separated {key value line : Text} (hkey : IsPlainKey key)
    (hvalue : IsPlainValue value) (hline : Separated key value line) (delimiter : Text) :
    (line.IsScalar → (Parser.properties .utf8).parse delimiter line.utf8 =
        .ok [(key, .str value)]) ∧
      ∀ (encoding : Encoding) (content : List UInt8), encoding.decode content = .ok line →
        (Parser.properties encoding).parse delimiter content = .ok [(key, .str value)] := by
  have hlines : line.lines = [line] := by
    refine Text.lines_of_isUnbroken (hline.isUnbroken hkey hvalue) ?_
    obtain ⟨-, -, -⟩ := hline
    simp [hkey.ne_nil]
  have hdeclared : declarations line = .ok [(key, value)] := by
    rw [declarations, hlines]
    exact declarationsOf_separated (.cons hline .nil) (by simp [hkey, hvalue]) 1
  have hmapping : declaredMapping [(key, value)] = [(key, .str value)] :=
    (ofGrouped_groupDeclarations _).symm
  have hparse (encoding : Encoding) (content : List UInt8) (hdecode : encoding.decode content = .ok line) :
      (Parser.properties encoding).parse delimiter content = .ok [(key, .str value)] := by
    rw [← hmapping]
    exact parse_of_declarations hdeclared delimiter hdecode
  exact ⟨fun hscalar => hparse .utf8 _ (decodeUtf8From_utf8 hscalar 0), hparse⟩

/-- A value that holds further separators, after a colon with blanks of several kinds around it. -/
theorem parse_separated_colon :
    (Parser.properties .utf8).parse (text ".") (text "  a.b\t : c=d e: \t").utf8 =
      .ok [(text "a.b", .str (text "c=d e:"))] := by
  have hline : Separated (text "a.b") (text "c=d e:")
      (text "  " ++ text "a.b" ++ (text "\t " ++ CodePoint.ofChar ':' :: (text " " ++ text "c=d e:")) ++
        text " \t") :=
    .intro (by decide) (.sign (by decide) (by decide) (by decide)) (by decide)
  have hread := (parse_separated (by decide) (by decide) hline (text ".")).1 (by decide)
  exact hread

end Documents

end ConfigNamespace.Properties
