import ConfigNamespace.Proofs.Lookup.Failing
import ConfigNamespace.Proofs.Namespace.Scope

/-!
# How lookups fail

Where the settings of a namespace can be used, and nothing but what comes with the library parses and
converts, a lookup fails because the namespace is closed, because nothing is found, because a document
cannot be read, or because a value cannot be converted.
-/

namespace ConfigNamespace

open Operation

namespace Failure

/-- Whether a value cannot be converted to its type. -/
def isOfConversion : Failure → Bool
  | unknownType _ | refusedByConverter _ _ _ | repeatedType _ _ => true
  | _ => false

/-- Whether nothing is found under a key, or the key cannot be looked up. -/
def isOfKey : Failure → Bool
  | closed | keyNotText _ | noSegment _ | notConfigured _ | notInDocument _ _ => true
  | _ => false

/-- Whether a lookup may fail in a way, where nothing but what comes with the library is used. -/
def isOfLookup (failure : Failure) : Bool :=
  failure.isOfKey || failure.isOfReading || failure.isOfConversion

/-- A failure over a key is one of lookups. -/
theorem isOfLookup_of_key {failure : Failure} (h : failure.isOfKey = true) :
    failure.isOfLookup = true := by rw [isOfLookup, h, Bool.true_or, Bool.true_or]

/-- A failure of reading is one of lookups. -/
theorem isOfLookup_of_reading {failure : Failure} (h : failure.isOfReading = true) :
    failure.isOfLookup = true := by rw [isOfLookup, h, Bool.or_true, Bool.true_or]

/-- A failure of a conversion is one of lookups. -/
theorem isOfLookup_of_conversion {failure : Failure} (h : failure.isOfConversion = true) :
    failure.isOfLookup = true := by rw [isOfLookup, h, Bool.or_true]

end Failure

namespace TypeConverter

/-- A converter that comes with the library refuses a text by a failure that is reported as a
refusal. -/
theorem refusesValue_of_builtin {name raw : Text} {converter : Converter} {failure : Failure}
    (hconverter : builtin.converter? name = some converter)
    (h : converter (.str raw) = .error failure) : failure.kind.refusesValue = true := by
  obtain ⟨group, hgroup, hmem⟩ := List.mem_flatMap.mp (Keyed.mem_of_get? hconverter)
  obtain ⟨_, -, heq⟩ := List.mem_map.mp hmem
  obtain rfl : group.1 = converter := (Prod.mk.inj heq).2
  simp only [builtinGroups, List.mem_cons, List.not_mem_nil, or_false] at hgroup
  rcases hgroup with rfl | rfl | rfl | rfl | rfl | rfl | rfl | rfl
  · cases h
  · dsimp only [Converter.integer, Converter.ofReader] at h
    split at h <;> cases h
    rfl
  · dsimp only [Converter.double, Converter.ofReader] at h
    split at h <;> cases h
    rfl
  · dsimp only [Converter.truth, Converter.ofReader] at h
    split at h
    · cases h
    · split at h <;> cases h
      rfl
  · dsimp only [Converter.decimal, Converter.ofReader] at h
    split at h <;> cases h
    rfl
  · dsimp only [Converter.date, Converter.ofReader] at h
    split at h <;> cases h
    rfl
  · dsimp only [Converter.dateTime, Converter.ofReader] at h
    split at h <;> cases h
    rfl
  · cases h

/-- A text is converted, or its refusal is reported. -/
theorem isOfConversion_of_apply {name typeName raw : Text} {converter : Converter}
    {failure : Failure} (hconverter : builtin.converter? name = some converter)
    (h : apply converter typeName (.str raw) = .error failure) : failure.isOfConversion = true := by
  unfold apply at h
  split at h
  · cases h
  next hrefused =>
    rw [if_pos (refusesValue_of_builtin hconverter hrefused)] at h
    cases h
    rfl

/-- Where texts are converted in turn, a failure is one of a conversion. -/
theorem isOfConversion_of_applyAll {name typeName : Text} {raws : List Text}
    {converter : Converter} {failure : Failure}
    (hconverter : builtin.converter? name = some converter)
    (h : applyAll converter typeName (raws.map Value.str) = .error failure) :
    failure.isOfConversion = true := by
  induction raws with
  | nil => cases h
  | cons raw raws ih =>
    rw [List.map_cons, applyAll] at h
    split at h
    next hrefused =>
      cases h
      exact isOfConversion_of_apply hconverter hrefused
    · exact ih (eq_error_of_map h)

/-- What a document holds is converted, or that fails as conversions do. -/
theorem isOfConversion_of_convert {value : DocumentValue} {typeName : Text} {failure : Failure}
    (h : builtin.convert value.toValue typeName = .error failure) :
    failure.isOfConversion = true := by
  unfold convert at h
  split at h
  · cases h
    rfl
  next hconverter =>
    cases value with
    | single raw => exact isOfConversion_of_apply hconverter h
    | several raws =>
      exact isOfConversion_of_applyAll hconverter (eq_error_of_map h)

end TypeConverter

namespace CompositeBuilder

/-- Building a composite fails because an attribute cannot be converted. -/
theorem isOfConversion_of_attributes {b : CompositeBuilder} {entries sources : Keyed DocumentValue}
    {delimiter : Text} {failure : Failure}
    (h : b.attributes .builtin entries delimiter sources = .error failure) :
    failure.isOfConversion = true := by
  induction sources with
  | nil => cases h
  | cons source sources ih =>
    unfold attributes at h
    split at h
    next hattribute =>
      cases h
      unfold attributeOf at hattribute
      split at hattribute
      · split at hattribute
        · cases hattribute
        · exact TypeConverter.isOfConversion_of_convert hattribute
      · cases hattribute
    · exact ih (eq_error_of_map h)

/-- Building a composite fails over conversions alone. -/
theorem build_fails {b : CompositeBuilder} {d : Document} {key delimiter : Text}
    (hdelimiter : delimiter ≠ []) :
    (b.build .builtin d key delimiter).FailsOnly fun failure => failure.isOfConversion = true := by
  refine .ite (fun hempty => ?_) fun _ => ?_
  · simp [hdelimiter] at hempty
  · refine .bind (.ofExcept fun _ => isOfConversion_of_attributes) fun _ _ => ?_
    exact .bind nofun fun _ _ => .pure _

end CompositeBuilder

namespace Family

/-- What a lookup may fail with. -/
abbrev FailsOfLookup {α : Type} (op : Operation Session α) : Prop :=
  op.FailsOnly fun failure => failure.isOfLookup = true

/-- A value of a document is not there, or it cannot be converted. -/
theorem of_documentValue {d : Document} {key remainder delimiter : Text} {failure : Failure}
    (h : documentValue .builtin d key remainder delimiter = .error failure) :
    failure.isOfKey = true ∨ failure.isOfConversion = true := by
  unfold documentValue at h
  split at h
  · cases h
    exact .inl rfl
  · split at h
    · cases h
    · cases h
      exact .inr rfl
    · exact .inr (TypeConverter.isOfConversion_of_convert h)

section Fails

variable {f : Family} {w : World} {v : View} (hparsers : f.parsers.IsBuiltin)
  (hconverter : f.converter = .builtin) (hdelimiter : f.delimiterOf v ≠ [])
  (hroot : ∃ parts, readRoot (f.rootOf v) = .ok parts)
include hconverter hdelimiter

/-- Naming what a document holds fails as lookups do. -/
theorem named_fails (d : Document) (key : Text) (segments rest : List Text) :
    FailsOfLookup (f.named d key (f.delimiterOf v) segments rest) := by
  unfold named
  rw [hconverter]
  refine .ite (fun _ => .bind ?_ fun _ _ => .pure _) fun _ => .ite (fun _ => .pure _) fun _ => ?_
  · exact (CompositeBuilder.build_fails hdelimiter).onPart.mono fun _ =>
      Failure.isOfLookup_of_conversion
  · refine .bind (.ofExcept fun _ hvalue => ?_) fun _ _ => .pure _
    exact (of_documentValue hvalue).elim Failure.isOfLookup_of_key Failure.isOfLookup_of_conversion

include hparsers hroot

/-- Finding what segments name fails as lookups do. -/
theorem find_fails (key : Text) (segments : List Text) :
    FailsOfLookup (f.find w v key segments) := by
  obtain ⟨parts, hparts⟩ := hroot
  unfold find
  refine .ite (fun _ => .bind (.throw rfl) fun _ hthrown => ?_) fun _ => ?_
  · obtain ⟨_, hthrown⟩ := hthrown
    cases hthrown
  · refine .bind (.ofExcept fun _ hunread => ?_) fun place _ => ?_
    · rw [hparts] at hunread
      cases hunread
    · refine .bind ((Locator.walk_fails hparsers _ _ _).mono fun _ =>
        Failure.isOfLookup_of_reading) fun found _ => ?_
      obtain ⟨_ | handle, rest⟩ := found
      · exact .throw rfl
      · exact .bind ((Locator.load_fails hparsers _ _).mono fun _ => Failure.isOfLookup_of_reading)
          fun d _ => named_fails hconverter hdelimiter d key segments rest

/-- Seeking a key fails as lookups do. -/
theorem seek_fails (key : Value) : FailsOfLookup (f.seek w v key) := by
  have hsegments (key : Text) :
      FailsOfLookup (Operation.ofExcept (segmentsOf (f.delimiterOf v) key)) := by
    rw [segmentsOf_eq hdelimiter]
    exact .pure _
  refine .ite (fun _ => .bind nofun fun _ _ => .throw rfl) fun _ => ?_
  split
  · exact .bind (hsegments []) fun _ _ => .pure _
  · split
    · exact .bind nofun fun _ _ => .pure _
    · refine .ite (fun _ => .pure _) fun _ => .ite (fun _ => .pure _) fun _ => ?_
      exact .bind (hsegments _) fun _ _ => find_fails hparsers hconverter hdelimiter hroot _ _
  · exact .throw rfl

end Fails

/-- A lookup whose reply is a failure fails in one of these ways. -/
theorem isOfLookup_of_reply {f : Family} {w : World} {number : Nat} {key : Value} {failure : Failure}
    (hparsers : f.parsers.IsBuiltin) (hconverter : f.converter = .builtin)
    (hdelimiter : f.delimiterOf (f.view number) ≠ [])
    (hroot : ∃ parts, readRoot (f.rootOf (f.view number)) = .ok parts)
    (h : reply (lookup w number key) f = .fails failure) : failure.isOfLookup = true := by
  rw [reply_of_settle (outcome_lookup f w number key)] at h
  cases hfound : ((f.seek w (f.view number) key).outcome f.session).1 with
  | error raised =>
    rw [hfound] at h
    cases h
    exact seek_fails hparsers hconverter hdelimiter hroot key _ _ hfound
  | ok named =>
    rw [hfound] at h
    cases named <;> cases h

end Family

end ConfigNamespace
