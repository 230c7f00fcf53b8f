import ConfigNamespace.Key
import ConfigNamespace.Proofs.Text.Cut

/-!
# Laws of keys

The segments of a key are read back from the key that they make, also if some of them are left out. A
delimiter of several characters may overlap itself, and this is no exception: what counts is that each
segment goes up to the delimiter.

Where the delimiter is one character, the segments of two keys with the delimiter between them are
those of the first key followed by those of the second. This holds for the older notation as well,
where the scheme in front decides how the rest is read: a second key without colons and slashes of
its own has no part in that.
-/

namespace ConfigNamespace

section Delimiters

variable {delimiter key : Text} {segments : List Text}

/-- No segment of a key is empty. -/
theorem ne_nil_of_mem_keySegments {segment : Text} (h : segment ∈ keySegments delimiter key) :
    segment ≠ [] := by
  simpa using (List.mem_filter.mp h).2

/-- The delimiter does not occur in a segment of a key. -/
theorem not_isInfix_of_mem_keySegments {segment : Text} (hdelimiter : delimiter ≠ [])
    (h : segment ∈ keySegments delimiter key) : ¬delimiter <:+: segment :=
  (Text.Cuts.of_pieces hdelimiter key).not_isInfix segment (List.mem_filter.mp h).1

/-- Segments are read back from the key that they make, if this is cut into them. -/
theorem keySegments_joinKey_of_cuts (hdelimiter : delimiter ≠ [])
    (hsegments : ∀ segment ∈ segments, segment ≠ [])
    (hcuts : segments ≠ [] → Text.Cuts delimiter (joinKey delimiter segments) segments) :
    keySegments delimiter (joinKey delimiter segments) = segments := by
  by_cases hne : segments = []
  · subst hne
    simp [keySegments, joinKey, Text.joinWith]
  · rw [keySegments, (Text.pieces_eq_iff_cuts hdelimiter).mpr (hcuts hne), List.filter_eq_self]
    simpa using hsegments

/-- Some segments of a key in their order are read back from the key that they make. -/
theorem keySegments_joinKey_of_sublist (hdelimiter : delimiter ≠ [])
    (h : segments.Sublist (keySegments delimiter key)) :
    keySegments delimiter (joinKey delimiter segments) = segments := by
  have hcuts := Text.Cuts.of_pieces hdelimiter key
  exact keySegments_joinKey_of_cuts hdelimiter
    (fun segment hsegment => ne_nil_of_mem_keySegments (h.subset hsegment))
    (hcuts.joinWith_of_sublist (h.trans List.filter_sublist))

/-- Where the delimiter does not overlap itself, any segments without it are read back from the key
that they make. -/
theorem keySegments_joinKey_of_not_overlapsItself (hdelimiter : delimiter ≠ [])
    (hoverlaps : ¬Text.OverlapsItself delimiter)
    (h : ∀ segment ∈ segments, segment ≠ [] ∧ ¬delimiter <:+: segment) :
    keySegments delimiter (joinKey delimiter segments) = segments :=
  keySegments_joinKey_of_cuts hdelimiter (fun segment hsegment => (h segment hsegment).1)
    (Text.Cuts.joinWith_of_endsAt fun segment hsegment =>
      Text.endsAt_of_not_overlapsItself hdelimiter hoverlaps (h segment hsegment).2)

end Delimiters

variable {d : CodePoint}

/-- The empty key has no segments. -/
@[simp] theorem keySegments_nil (d : CodePoint) : keySegments [d] [] = [] := by
  simp [keySegments]

/-- The segments of two keys with the delimiter between them. -/
theorem keySegments_append (d : CodePoint) (s t : Text) :
    keySegments [d] (s ++ d :: t) = keySegments [d] s ++ keySegments [d] t := by
  simp only [keySegments, Text.pieces_append_cons, List.filter_append]

/-- A delimiter in front does not count. -/
theorem keySegments_cons_self (d : CodePoint) (s : Text) :
    keySegments [d] (d :: s) = keySegments [d] s := by
  simpa using keySegments_append d [] s

/-- A text without delimiters is a segment of its own. -/
theorem keySegments_eq_singleton {segment : Text} (hne : segment ≠ []) (hmem : d ∉ segment) :
    keySegments [d] segment = [segment] := by
  rw [keySegments, Text.pieces_eq_singleton hmem, List.filter_cons_of_pos (by simpa using hne),
    List.filter_nil]

/-- The segments of a key that begins with some. -/
theorem keySegments_joinKey_append {segments : List Text}
    (h : ∀ segment ∈ segments, segment ≠ [] ∧ d ∉ segment) (key : Text) :
    keySegments [d] (joinKey [d] (segments ++ [key])) = segments ++ keySegments [d] key := by
  induction segments with
  | nil => rfl
  | cons segment segments ih =>
    obtain ⟨⟨hne, hmem⟩, hrest⟩ := List.forall_mem_cons.mp h
    rw [List.cons_append, joinKey, Text.joinWith_cons _ _ (by simp), List.append_assoc,
      List.singleton_append, keySegments_append, keySegments_eq_singleton hne hmem]
    exact congrArg (segment :: ·) (ih hrest)

/-- The segments of a key that consists of some are these. -/
theorem keySegments_joinKey {segments : List Text}
    (h : ∀ segment ∈ segments, segment ≠ [] ∧ d ∉ segment) :
    keySegments [d] (joinKey [d] segments) = segments := by
  refine keySegments_joinKey_of_not_overlapsItself (List.cons_ne_nil d [])
    (Text.not_overlapsItself_singleton d) fun segment hsegment => ?_
  obtain ⟨hne, hmem⟩ := h segment hsegment
  exact ⟨hne, fun hpart => hmem (hpart.subset List.mem_cons_self)⟩

/-- A key that has segments is not empty, nor is it with further segments in front. -/
theorem joinKey_append_ne_nil {segments : List Text} {key : Text}
    (h : ∀ segment ∈ segments, segment ≠ [] ∧ d ∉ segment) (hkey : keySegments [d] key ≠ []) :
    joinKey [d] (segments ++ [key]) ≠ [] := by
  intro hnil
  have hsegments := keySegments_joinKey_append h key
  rw [hnil, keySegments_nil] at hsegments
  exact hkey (List.append_eq_nil_iff.mp hsegments.symm).2

/-- Slashes in front that stand for delimiters do not count. -/
theorem keySegments_replaceChar_trimStartChar (d : CodePoint) (s : Text) :
    keySegments [d] (Text.replaceChar '/' [d] (Text.trimStartChar '/' s)) =
      keySegments [d] (Text.replaceChar '/' [d] s) := by
  induction s with
  | nil => rfl
  | cons a s ih =>
    by_cases ha : a = '/'
    · have htrim : Text.trimStartChar '/' (a :: s) = Text.trimStartChar '/' s := by
        simp [Text.trimStartChar, ha]
      have hreplace : Text.replaceChar '/' [d] (a :: s) = d :: Text.replaceChar '/' [d] s := by
        simp [Text.replaceChar, ha]
      rw [htrim, hreplace, keySegments_cons_self, ih]
    · have htrim : Text.trimStartChar '/' (a :: s) = a :: s := by
        simp [Text.trimStartChar, ha]
      rw [htrim]

section Scheme

variable {key scheme rest : Text}

/-- A key without a scheme stays as it is. -/
theorem normalizeKey_of_none (h : splitScheme? key = none) : normalizeKey [d] key = key := by
  rw [normalizeKey, h]

/-- A scheme alone is its own path. -/
theorem normalizeKey_of_scheme (h : splitScheme? key = some (scheme, [])) :
    normalizeKey [d] key = scheme := by
  rw [normalizeKey, h]

/-- Before a slash, the scheme is the first segment, and slashes are delimiters. -/
theorem keySegments_normalizeKey_of_slash
    (h : splitScheme? key = some (scheme, CodePoint.ofChar '/' :: rest)) :
    keySegments [d] (normalizeKey [d] key) =
      keySegments [d] scheme ++ keySegments [d] (Text.replaceChar '/' [d] rest) := by
  have htrim := keySegments_replaceChar_trimStartChar d rest
  rw [normalizeKey, h]
  dsimp only
  rw [if_pos rfl]
  split
  · next hpath =>
    rw [hpath] at htrim
    rw [← htrim]
    simp [Text.replaceChar]
  · rw [List.append_assoc, List.singleton_append, keySegments_append, htrim]

/-- Before the delimiter, the scheme is the first segment. -/
theorem keySegments_normalizeKey_of_delimiter (h : splitScheme? key = some (scheme, d :: rest))
    (hd : d ≠ CodePoint.ofChar '/') :
    keySegments [d] (normalizeKey [d] key) = keySegments [d] scheme ++ keySegments [d] rest := by
  rw [normalizeKey, h]
  dsimp only
  rw [if_neg hd, if_pos (by simp [Text.startsWith_singleton]), keySegments_append]

/-- Before anything else, a colon is a character like any other. -/
theorem normalizeKey_of_other {c : CodePoint} (h : splitScheme? key = some (scheme, c :: rest))
    (hc : c ≠ CodePoint.ofChar '/') (hcd : c ≠ d) : normalizeKey [d] key = key := by
  rw [normalizeKey, h]
  dsimp only
  rw [if_neg hc, if_neg (by simp [Text.startsWith_singleton, hcd])]

end Scheme

/-- The first colon ends the scheme, if a scheme stands before it. -/
theorem splitScheme?_append_cons {s : Text} (h : CodePoint.ofChar ':' ∉ s) (rest : Text) :
    splitScheme? (s ++ CodePoint.ofChar ':' :: rest) =
      if isScheme s then some (s, rest) else none := by
  rw [splitScheme?, Text.breakAt?_append_cons h]

/-- Where there is no colon, there is no scheme. -/
theorem splitScheme?_of_not_mem {key : Text} (h : CodePoint.ofChar ':' ∉ key) :
    splitScheme? key = none := by
  rw [splitScheme?, Text.breakAt?_eq_none h]

/-- The segments of a key with a colon, when another key follows behind a delimiter. -/
private theorem keySegments_normalizeKey_append_of_colon {s rest k : Text}
    (hs : CodePoint.ofChar ':' ∉ s) (hslash : CodePoint.ofChar '/' ∈ k → d = CodePoint.ofChar '/') :
    keySegments [d] (normalizeKey [d] (s ++ CodePoint.ofChar ':' :: rest ++ d :: k)) =
      keySegments [d] (normalizeKey [d] (s ++ CodePoint.ofChar ':' :: rest)) ++
        keySegments [d] k := by
  have hshort := splitScheme?_append_cons hs rest
  have hlong := splitScheme?_append_cons hs (rest ++ d :: k)
  rw [← List.cons_append, ← List.append_assoc] at hlong
  by_cases hscheme : isScheme s = true
  · rw [if_pos hscheme] at hshort hlong
    have hreplace : Text.replaceChar '/' [d] (d :: k) = d :: k := by
      refine Text.replaceChar_eq_self fun hmem => ?_
      rcases List.mem_cons.mp hmem with hmem | hmem
      · exact hmem.symm
      · exact hslash hmem
    cases rest with
    | nil =>
      rw [normalizeKey_of_scheme hshort]
      by_cases hd : d = CodePoint.ofChar '/'
      · subst hd
        rw [keySegments_normalizeKey_of_slash hlong, Text.replaceChar_eq_self fun _ => rfl]
      · rw [keySegments_normalizeKey_of_delimiter hlong hd]
    | cons c rest =>
      rw [List.cons_append] at hlong
      by_cases hc : c = CodePoint.ofChar '/'
      · subst hc
        rw [keySegments_normalizeKey_of_slash hshort, keySegments_normalizeKey_of_slash hlong,
          Text.replaceChar_append, hreplace, keySegments_append, List.append_assoc]
      · by_cases hcd : c = d
        · subst hcd
          rw [keySegments_normalizeKey_of_delimiter hshort hc,
            keySegments_normalizeKey_of_delimiter hlong hc, keySegments_append, List.append_assoc]
        · rw [normalizeKey_of_other hshort hc hcd, normalizeKey_of_other hlong hc hcd,
            keySegments_append]
  · rw [if_neg hscheme] at hshort hlong
    rw [normalizeKey_of_none hshort, normalizeKey_of_none hlong, keySegments_append]

/-- The segments of two keys with the delimiter between them, where the second has no colons and
slashes but delimiters: normalizing first changes nothing in that. -/
theorem keySegments_normalizeKey_append {s k : Text}
    (hcolon : CodePoint.ofChar ':' ∈ k → d = CodePoint.ofChar ':')
    (hslash : CodePoint.ofChar '/' ∈ k → d = CodePoint.ofChar '/') :
    keySegments [d] (normalizeKey [d] (s ++ d :: k)) =
      keySegments [d] (normalizeKey [d] s) ++ keySegments [d] k := by
  by_cases hs : CodePoint.ofChar ':' ∈ s
  · obtain ⟨before, rest, rfl, hbefore⟩ := List.eq_append_cons_of_mem hs
    exact keySegments_normalizeKey_append_of_colon hbefore hslash
  · rw [normalizeKey_of_none (splitScheme?_of_not_mem hs)]
    by_cases hd : d = CodePoint.ofChar ':'
    · subst hd
      have hlong := splitScheme?_append_cons hs k
      by_cases hscheme : isScheme s = true
      · rw [if_pos hscheme] at hlong
        cases k with
        | nil => rw [normalizeKey_of_scheme hlong, keySegments_nil, List.append_nil]
        | cons c k =>
          have hc : c ≠ CodePoint.ofChar '/' := by
            intro hc
            have hcontra := hslash (hc ▸ List.mem_cons_self)
            exact absurd hcontra (by decide)
          by_cases hcd : c = CodePoint.ofChar ':'
          · subst hcd
            rw [keySegments_normalizeKey_of_delimiter hlong hc, keySegments_cons_self]
          · rw [normalizeKey_of_other hlong hc hcd, keySegments_append]
      · rw [if_neg hscheme] at hlong
        rw [normalizeKey_of_none hlong, keySegments_append]
    · have hlong : CodePoint.ofChar ':' ∉ s ++ d :: k := by
        rw [List.mem_append, List.mem_cons, not_or, not_or]
        exact ⟨hs, Ne.symm hd, fun hk => hd (hcolon hk)⟩
      rw [normalizeKey_of_none (splitScheme?_of_not_mem hlong), keySegments_append]

/-- A key without colons and slashes but delimiters has the same segments when it is normalized. -/
theorem keySegments_normalizeKey {k : Text}
    (hcolon : CodePoint.ofChar ':' ∈ k → d = CodePoint.ofChar ':')
    (hslash : CodePoint.ofChar '/' ∈ k → d = CodePoint.ofChar '/') :
    keySegments [d] (normalizeKey [d] k) = keySegments [d] k := by
  by_cases hk : CodePoint.ofChar ':' ∈ k
  · obtain rfl := hcolon hk
    obtain ⟨s, rest, rfl, hs⟩ := List.eq_append_cons_of_mem hk
    have hrest : CodePoint.ofChar '/' ∈ rest → CodePoint.ofChar ':' = CodePoint.ofChar '/' :=
      fun hmem => hslash (List.mem_append_right _ (List.mem_cons_of_mem _ hmem))
    rw [keySegments_normalizeKey_append (fun _ => rfl) hrest,
      normalizeKey_of_none (splitScheme?_of_not_mem hs), keySegments_append]
  · rw [normalizeKey_of_none (splitScheme?_of_not_mem hk)]

/-- Whether a name is that of a secret: in lower case, it holds one of six words. -/
def IsSecret (name : Text) : Prop :=
  ∃ word ∈ [text "secret", text "password", text "token", text "passwd", text "api_key",
    text "credential"], word <:+: name.toLower

/-- Whether a name looks secret is decided rightly. -/
theorem isSecretName_iff {name : Text} : isSecretName name = true ↔ IsSecret name := by
  simp only [isSecretName, List.any_eq_true, Text.contains_iff]
  rfl

end ConfigNamespace
