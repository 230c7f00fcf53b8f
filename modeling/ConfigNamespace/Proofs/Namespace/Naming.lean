import ConfigNamespace.Proofs.Lookup.LocalWalk
import ConfigNamespace.Proofs.Namespace.Settings
import ConfigNamespace.Proofs.Namespace.Shadowing

/-!
# Lookups fail with naming failures

Beneath a directory whose documents can all be parsed, a lookup of a key gives something or fails
because of the key: nothing is found under it, it leads to a directory that has the name of a document,
or the value under it cannot be converted. All of these are failures of naming. There is one exception:
the file system refuses paths that are too long, and a key may lead to one.
-/

namespace ConfigNamespace

open Operation

namespace Failure

/-- A failure over a key is one of naming. -/
theorem isNaming_of_key {failure : Failure} (h : failure.isOfKey = true) :
    failure.isNaming = true := by
  cases failure <;> first | rfl | cases h

/-- A failure of a conversion is one of naming. -/
theorem isNaming_of_conversion {failure : Failure} (h : failure.isOfConversion = true) :
    failure.isNaming = true := by
  cases failure <;> first | rfl | cases h

end Failure

namespace Family

variable {f : Family} {w : World} {v : View} {key base delimiter : Text} {segments rest : List Text}
  {d : Document}

/-- What a document says of a key is a value or a place, or a naming failure. -/
theorem isNaming_of_meaning (hconverter : f.converter = .builtin) (hdelimiter : delimiter ≠ [])
    {failure : Failure} (h : f.meaning d key delimiter segments rest = .error failure) :
    failure.isNaming = true := by
  unfold meaning at h
  rw [hconverter] at h
  dsimp only at h
  split at h
  · have hbuilt := eq_error_of_map h
    unfold CompositeBuilder.built at hbuilt
    rw [if_neg (by simp [hdelimiter])] at hbuilt
    exact Failure.isNaming_of_conversion
      (CompositeBuilder.isOfConversion_of_attributes (eq_error_of_map hbuilt))
  · split at h
    · cases h
    · exact (of_documentValue (eq_error_of_map h)).elim Failure.isNaming_of_key
        Failure.isNaming_of_conversion

/-- What is found for a key beneath a directory whose documents can all be parsed. -/
inductive FoundBelow (f : Family) (w : World) (v : View) (base key : Text) (segments : List Text) :
    Except Failure Named → Prop
  /-- The file system refuses a path. -/
  | overlong {failure : Failure} (h : (f.backing w).Overlong base segments failure) :
    FoundBelow f w v base key segments (.error failure)
  /-- Nothing. -/
  | nothing {failure : Failure} (h : failure.kind = .notFound) :
    FoundBelow f w v base key segments (.error failure)
  /-- A directory that has the name of a document. -/
  | directory {h : ResourceHandle} {rest : List Text} {failure : Failure}
    (hend : (f.backing w).MayEnd base segments h rest)
    (hnode : w.nodeAt (.ofText h.location) = some .directory)
    (hkind : failure.kind = .resourceAccess) : FoundBelow f w v base key segments (.error failure)
  /-- A document, and what it says of the key. -/
  | document {h : ResourceHandle} {rest : List Text} {d : Document}
    (hend : (f.backing w).MayEnd base segments h rest)
    (hholds : (f.backing w).Holds (f.delimiterOf v) h d) :
    FoundBelow f w v base key segments (f.meaning d key (f.delimiterOf v) segments rest)

section Found

variable {answer : Except Failure Named}

/-- What is found beneath a directory is a failure of naming, or no failure, or the file system refuses
a path. -/
theorem FoundBelow.isNaming (h : f.FoundBelow w v base key segments answer)
    (hconverter : f.converter = .builtin) (hdelimiter : f.delimiterOf v ≠ []) {failure : Failure}
    (hfailure : answer = .error failure) :
    failure.isNaming = true ∨ (f.backing w).Overlong base segments failure := by
  cases h with
  | overlong hoverlong =>
    cases hfailure
    exact .inr hoverlong
  | nothing hkind =>
    cases hfailure
    rw [Failure.isNaming, hkind]
    exact .inl rfl
  | directory _ _ hkind =>
    cases hfailure
    rw [Failure.isNaming, hkind]
    exact .inl rfl
  | document _ _ => exact .inl (isNaming_of_meaning hconverter hdelimiter hfailure)

end Found

section Lookup

variable {number : Nat} (hf : f.session.Faithful (f.backing w))
  (hopen : (f.view number).closed = false) (hdelimiter : f.delimiterOf (f.view number) ≠ [])
include hf hopen hdelimiter

end Lookup

section Twofold

end Twofold

end Family

end ConfigNamespace
