import ConfigNamespace.Proofs.Key
import ConfigNamespace.Proofs.Lookup.Handles
import ConfigNamespace.Proofs.World.Merged

/-!
# What a walk leaves of a key

A walk ends with some segments left, and these are joined to the key that the document is asked for.
They are the last segments of those that the walk was given. What is left of a key is therefore read
back from the key for the document, whatever the delimiter is: one that overlaps itself, too, cuts
what it was joined to just where it was put.
-/

namespace ConfigNamespace

variable {delimiter : Text} {segments rest : List Text}

/-- A walk leaves the last of its segments. -/
theorem Locator.suffix_of_walk {l : Locator} {path : Text} {found : Option ResourceHandle}
    (h : (l.walk delimiter path segments).MayGive (found, rest)) : rest <:+ segments := by
  have hfallBack {path : Text} {segments : List Text}
      (h : (l.fallBack path segments).MayGive (found, rest)) : rest <:+ segments := by
    obtain ⟨located, -, h⟩ := h.of_bind
    cases located with
    | none =>
      cases Operation.eq_of_mayGive_pure h
      exact List.suffix_rfl
    | some located =>
      obtain ⟨_, -, h⟩ := h.of_bind
      cases Operation.eq_of_mayGive_pure h
      exact List.suffix_rfl
  induction segments generalizing path with
  | nil => exact hfallBack h
  | cons segment segments ih =>
    obtain ⟨_, -, h⟩ := h.of_bind
    split at h
    · exact (ih h).trans (List.suffix_cons segment segments)
    · obtain ⟨_, -, h⟩ := h.of_bind
      cases Operation.eq_of_mayGive_pure h
      exact List.suffix_cons segment rest
    · exact hfallBack h

/-- A key is cut into segments that are not empty and do not hold the delimiter, and any last segments
of it are read back from the key that they make. So the key that a walk leaves for the document
denotes just the segments that are left of the key, also if the walk began with segments from
elsewhere and passed those. Where it did not pass all of them, they too are read back, if they are
segments for the delimiter and that does not overlap itself. -/
theorem splitKey_joinKey_remainder (hdelimiter : delimiter ≠ []) (key : Text) :
    ∃ segments, splitKey delimiter key = .ok segments ∧
      (∀ segment ∈ segments, segment ≠ [] ∧ ¬delimiter <:+: segment) ∧
      (∀ rest, rest <:+ segments → splitKey delimiter (joinKey delimiter rest) = .ok rest) ∧
      ∀ (l : Locator) (path : Text) (before rest : List Text) (found : Option ResourceHandle),
        (l.walk delimiter path (before ++ segments)).MayGive (found, rest) →
          rest <:+ before ++ segments ∧
          (rest.length ≤ segments.length ∨ ¬Text.OverlapsItself delimiter ∧
              (∀ segment ∈ before, segment ≠ [] ∧ ¬delimiter <:+: segment) →
            splitKey delimiter (joinKey delimiter rest) = .ok rest) := by
  have hsplit (key : Text) : splitKey delimiter key = .ok (keySegments delimiter key) := by
    rw [splitKey, if_neg hdelimiter]
  have hmem : ∀ segment ∈ keySegments delimiter key, segment ≠ [] ∧ ¬delimiter <:+: segment :=
    fun segment hsegment => ⟨ne_nil_of_mem_keySegments hsegment,
      not_isInfix_of_mem_keySegments hdelimiter hsegment⟩
  have hsuffix (rest : List Text) (h : rest <:+ keySegments delimiter key) :
      splitKey delimiter (joinKey delimiter rest) = .ok rest := by
    rw [hsplit, keySegments_joinKey_of_sublist hdelimiter h.sublist]
  refine ⟨_, hsplit key, hmem, hsuffix, fun l path before rest found hfound => ?_⟩
  have hrest := Locator.suffix_of_walk hfound
  refine ⟨hrest, ?_⟩
  rintro (hlength | ⟨hoverlaps, hbefore⟩)
  · exact hsuffix rest (List.suffix_of_suffix_length_le hrest (List.suffix_append before _) hlength)
  · rw [hsplit, keySegments_joinKey_of_not_overlapsItself hdelimiter hoverlaps]
    intro segment hsegment
    rcases List.mem_append.mp (hrest.subset hsegment) with hsegment | hsegment
    · exact hbefore segment hsegment
    · exact hmem segment hsegment

/-- Two dots overlap themselves, and a third one belongs to the segment behind them. A walk to a document
in a directory leaves two segments of such a key, and they are read back. -/
theorem splitKey_joinKey_remainder_dots :
    let l : Locator := ⟨.localPath, .default, .twofold⟩
    let found : Option ResourceHandle := some ⟨.localPath, text "M/app.ini"⟩
    text ".." ≠ [] ∧ Text.OverlapsItself (text "..") ∧
      splitKey (text "..") (text "app..k...y") = .ok [text "app", text "k", text ".y"] ∧
      (l.walk (text "..") [] [text "M", text "app", text "k", text ".y"]).MayGive
        (found, [text "k", text ".y"]) ∧
      splitKey (text "..") (text "k...y") = .ok [text "k", text ".y"] := by
  intro l found
  have hdots : text ".." ≠ [] := by decide
  have hoverlaps : Text.OverlapsItself (text "..") :=
    ⟨text ".", by decide, by decide, ⟨text ".", rfl⟩, ⟨text ".", rfl⟩⟩
  have hsplit : splitKey (text "..") (text "app..k...y") =
      .ok [text "app", text "k", text ".y"] := by rfl
  have hwalk : (l.walk (text "..") [] [text "M", text "app", text "k", text ".y"]).MayGive
      (found, [text "k", text ".y"]) := ⟨.empty, rfl⟩
  obtain ⟨segments, hsegments, -, -, hremainder⟩ :=
    splitKey_joinKey_remainder hdots (text "app..k...y")
  cases hsegments.symm.trans hsplit
  obtain ⟨-, hread⟩ := hremainder l [] [text "M"] _ found hwalk
  exact ⟨hdots, hoverlaps, hsplit, hwalk, hread (.inl (by decide))⟩

end ConfigNamespace
