import ConfigNamespace.Proofs.Text.Pieces
import Mathlib.Logic.Equiv.Basic

/-!
# Exchanging characters

Searching, splitting and joining do not tell one character from another: if the characters are
exchanged for others, none of them for the same, what is found is what was found before with the
characters exchanged. A text that is joined from pieces without two separators goes over from the one
to the other when the two are swapped, and then swapping is replacing.
-/

namespace ConfigNamespace.Text

section Map

variable {σ : CodePoint → CodePoint}

/-- Pieces are joined as before. -/
theorem joinWith_map (separator : Text) (ps : List Text) :
    joinWith (separator.map σ) (ps.map (List.map σ)) = (joinWith separator ps).map σ := by
  induction ps with
  | nil => rfl
  | cons p ps ih =>
    by_cases hps : ps = []
    · rw [hps]
      rfl
    · have hmap : ps.map (List.map σ) ≠ [] := by simpa using hps
      rw [List.map_cons, joinWith_cons _ _ hmap, joinWith_cons _ _ hps, ih, List.map_append,
        List.map_append]

/-- What follows a start is what followed it before. -/
theorem dropStart?_map (hσ : Function.Injective σ) (start s : Text) :
    dropStart? (start.map σ) (s.map σ) = (dropStart? start s).map (List.map σ) := by
  induction start generalizing s with
  | nil => rfl
  | cons a start ih =>
    cases s with
    | nil => rfl
    | cons b s =>
      simp only [List.map_cons, dropStart?, hσ.eq_iff]
      split
      · exact ih s
      · rfl

end Map

section Swap

variable {c d : CodePoint} {s : Text}

/-- Swapping two characters changes nothing where neither occurs. -/
theorem map_swap_eq_self (hc : c ∉ s) (hd : d ∉ s) : s.map (Equiv.swap c d) = s := by
  refine (List.map_congr_left fun a ha => ?_).trans (List.map_id s)
  exact Equiv.swap_apply_of_ne_of_ne (fun h => hc (h ▸ ha)) fun h => hd (h ▸ ha)

/-- Where the second of two characters does not occur, swapping them is replacing the first. -/
theorem map_swap_eq_replaceChar (hd : d ∈ s → c = d) :
    s.map (Equiv.swap c d) = replaceChar c [d] s := by
  induction s with
  | nil => rfl
  | cons a s ih =>
    have hcons : replaceChar c [d] (a :: s) = (if a = c then [d] else [a]) ++ replaceChar c [d] s :=
      List.flatMap_cons
    rw [List.map_cons, ih fun hs => hd (List.mem_cons_of_mem _ hs), hcons]
    by_cases ha : a = c
    · rw [if_pos ha, ha, Equiv.swap_apply_left, List.singleton_append]
    · by_cases had : a = d
      · exact absurd (had.trans (hd (had ▸ List.mem_cons_self)).symm) ha
      · rw [if_neg ha, Equiv.swap_apply_of_ne_of_ne ha had, List.singleton_append]

end Swap

end ConfigNamespace.Text
