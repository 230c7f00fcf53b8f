import Mathlib.Data.List.Basic
import ConfigNamespace.Proofs.Text.Pieces

/-!
# Cutting at the leftmost occurrences

Splitting at a separator of any length is described here without the scan: a text is cut where the
separator occurs first, and what follows is cut likewise. Each piece but the last is then one in
which the separator does not begin even when it follows, and that is a matter of the piece alone. So
pieces may be left out, and those that remain are still the pieces of what they are joined to.
-/

namespace ConfigNamespace.Text

variable {separator p s : Text} {ps : List Text}

/-- Whether a text goes up to the separator when that follows: no occurrence begins in the text. Such
an occurrence would end before the last character of the separator. -/
def EndsAt (separator p : Text) : Prop := ¬separator <:+: p ++ separator.dropLast

/-- How a text is cut into pieces at the leftmost occurrences of a separator. -/
inductive Cuts (separator : Text) : Text → List Text → Prop
  /-- A text without the separator is one piece. -/
  | whole {s : Text} (h : ¬separator <:+: s) : Cuts separator s [s]
  /-- What stands before the first occurrence is a piece, and the text behind it is cut further. -/
  | cut {p s : Text} {ps : List Text} (h : EndsAt separator p) (hrest : Cuts separator s ps) :
    Cuts separator (p ++ separator ++ s) (p :: ps)

section Ends

/-- A separator is longer than what is left of it without its last character. -/
private theorem not_isInfix_dropLast (hseparator : separator ≠ []) :
    ¬separator <:+: separator.dropLast := by
  intro h
  have hlength := h.length_le
  have hpos := List.length_pos_iff.mpr hseparator
  rw [List.length_dropLast] at hlength
  omega

/-- A text that goes up to the separator does not hold it. -/
theorem EndsAt.not_isInfix (h : EndsAt separator p) : ¬separator <:+: p :=
  fun hpart => h (hpart.trans (List.prefix_append p _).isInfix)

/-- The empty text goes up to the separator. -/
theorem endsAt_nil (hseparator : separator ≠ []) : EndsAt separator [] :=
  not_isInfix_dropLast hseparator

/-- A text goes up to the separator exactly if the separator does not begin at its first character, and
its rest goes up to it. -/
theorem endsAt_cons_iff {c : CodePoint} :
    EndsAt separator (c :: p) ↔ ¬separator <+: c :: (p ++ separator.dropLast) ∧ EndsAt separator p := by
  rw [EndsAt, List.cons_append, List.infix_cons_iff, not_or, EndsAt]

/-- Before an occurrence that stands further on, another one begins only if it does so whatever
follows. -/
theorem isPrefix_cons_append_iff {c : CodePoint} :
    separator <+: c :: (p ++ separator ++ s) ↔ separator <+: c :: (p ++ separator.dropLast) := by
  have hshort : c :: (p ++ separator.dropLast) <+: c :: (p ++ separator ++ s) := by
    rw [List.cons_prefix_cons, List.append_assoc, List.prefix_append_right_inj]
    exact ⟨rfl, (List.dropLast_prefix separator).trans (List.prefix_append separator s)⟩
  refine ⟨fun h => List.prefix_of_prefix_length_le h hshort ?_, fun h => h.trans hshort⟩
  simp only [List.length_cons, List.length_append, List.length_dropLast]
  omega

/-- Where the separator does not overlap itself, every text without it goes up to it. -/
theorem endsAt_of_not_overlapsItself (hseparator : separator ≠ [])
    (hoverlaps : ¬OverlapsItself separator) (hp : ¬separator <:+: p) : EndsAt separator p := by
  intro h
  rw [List.infix_append_iff_ne_nil] at h
  rcases h with hwithin | hafter | ⟨u, v, hu, hv, hsplit, -, hbegin⟩
  · exact hp hwithin
  · exact not_isInfix_dropLast hseparator hafter
  · refine hoverlaps ⟨v, hv, ?_, hbegin.trans (List.dropLast_prefix separator), ⟨u, hsplit.symm⟩⟩
    rintro rfl
    exact not_isInfix_dropLast hseparator hbegin.isInfix

/-- A text that goes up to the separator is the first piece when the separator follows. -/
theorem pieces_append_separator_append (hseparator : separator ≠ []) (h : EndsAt separator p)
    (s : Text) : pieces separator (p ++ separator ++ s) = p :: pieces separator s := by
  induction p with
  | nil => exact pieces_separator_append hseparator s
  | cons c p ih =>
    obtain ⟨hstart, hrest⟩ := endsAt_cons_iff.mp h
    rw [List.cons_append, List.cons_append,
      pieces_cons_of_not_isPrefix (mt isPrefix_cons_append_iff.mp hstart), ih hrest]
    rfl

end Ends

namespace Cuts

/-- One more character in front belongs to the first piece, if no separator begins there. -/
theorem cons {c : CodePoint} (hstart : ¬separator <+: c :: s) (h : Cuts separator s ps) :
    Cuts separator (c :: s) (consFirst c ps) := by
  cases h with
  | whole h => exact .whole (by rw [List.infix_cons_iff, not_or]; exact ⟨hstart, h⟩)
  | cut h hrest =>
    exact .cut (endsAt_cons_iff.mpr ⟨mt isPrefix_cons_append_iff.mpr hstart, h⟩) hrest

/-- A text is cut into its pieces. The recursion follows the scan, which passes over one character or
over one occurrence of the separator. -/
theorem of_pieces (hseparator : separator ≠ []) (s : Text) : Cuts separator s (pieces separator s) := by
  by_cases hstart : separator <+: s
  · obtain ⟨rest, hrest⟩ := hstart
    rw [← hrest, pieces_separator_append hseparator]
    exact .cut (endsAt_nil hseparator) (of_pieces hseparator rest)
  · match s with
    | [] => exact pieces_nil separator ▸ .whole (by simpa using hseparator)
    | c :: s =>
      rw [pieces_cons_of_not_isPrefix hstart]
      exact cons hstart (of_pieces hseparator s)
termination_by s.length
decreasing_by
  · have hpos := List.length_pos_iff.mpr hseparator
    rw [← hrest, List.length_append]
    omega
  · exact Nat.lt_succ_self _

/-- A text is cut in one way only. -/
theorem pieces_eq (hseparator : separator ≠ []) (h : Cuts separator s ps) :
    pieces separator s = ps := by
  induction h with
  | whole h => exact pieces_of_not_isInfix h
  | cut h _ ih => rw [pieces_append_separator_append hseparator h, ih]

/-- The separator does not occur in a piece. -/
theorem not_isInfix (h : Cuts separator s ps) : ∀ p ∈ ps, ¬separator <:+: p := by
  induction h with
  | whole h => simpa using h
  | cut h _ ih => exact List.forall_mem_cons.mpr ⟨h.not_isInfix, ih⟩

/-- A text that goes up to the separator is one more piece in front of those that are joined. -/
theorem joinWith_cons (h : EndsAt separator p)
    (hps : ps ≠ [] → Cuts separator (joinWith separator ps) ps) :
    Cuts separator (joinWith separator (p :: ps)) (p :: ps) := by
  by_cases hlast : ps = []
  · subst hlast
    exact .whole h.not_isInfix
  · rw [Text.joinWith_cons _ _ hlast]
    exact .cut h (hps hlast)

/-- Texts that go up to the separator are the pieces of what they are joined to. -/
theorem joinWith_of_endsAt (h : ∀ p ∈ ps, EndsAt separator p) (hne : ps ≠ []) :
    Cuts separator (joinWith separator ps) ps := by
  induction ps with
  | nil => exact absurd rfl hne
  | cons p ps ih =>
    obtain ⟨hp, hps⟩ := List.forall_mem_cons.mp h
    exact joinWith_cons hp (ih hps)

/-- Some of the pieces in their order are the pieces of what they are joined to. The last piece may not
go up to the separator, but it stays the last if it is not left out. -/
theorem joinWith_of_sublist (h : Cuts separator s ps) {qs : List Text} (hqs : qs.Sublist ps)
    (hne : qs ≠ []) : Cuts separator (joinWith separator qs) qs := by
  induction h generalizing qs with
  | whole h =>
    obtain rfl := (List.sublist_singleton.mp hqs).resolve_left hne
    exact .whole h
  | cut h _ ih =>
    rcases List.sublist_cons_iff.mp hqs with hqs | ⟨rest, rfl, hrest⟩
    · exact ih hqs hne
    · exact joinWith_cons h (ih hrest)

end Cuts

/-- Pieces are what a text is cut into at the leftmost occurrences. -/
theorem pieces_eq_iff_cuts (hseparator : separator ≠ []) :
    pieces separator s = ps ↔ Cuts separator s ps :=
  ⟨fun h => h ▸ .of_pieces hseparator s, Cuts.pieces_eq hseparator⟩

end ConfigNamespace.Text
