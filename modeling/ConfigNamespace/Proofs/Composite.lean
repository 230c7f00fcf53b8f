import ConfigNamespace.Proofs.Key
import ConfigNamespace.Proofs.Namespace.Find

/-!
# Names of composites

A composite is named after the last segment of its key. Segments are cut from the left, and the name is
cut off from the right, after the last occurrence of the delimiter. A delimiter that overlaps itself may
begin once more before it ends, and then the name is shorter than the segment; nothing else can part
the two.
-/

namespace ConfigNamespace.CompositeBuilder

open Operation

section Names

variable {delimiter key : Text} {segments all : List Text}

/-- The last segment of segments that are joined is the last of them exactly if they are no two, or the
delimiter does not begin again after the start of the one before it. -/
theorem lastSegment_joinKey_eq_iff (hdelimiter : delimiter ≠ []) (hne : segments ≠ [])
    (hlast : ¬delimiter <:+: segments.getLast hne) :
    lastSegment delimiter (joinKey delimiter segments) = segments.getLast hne ↔
      segments.length = 1 ∨ ¬delimiter <:+: (delimiter ++ segments.getLast hne).tail := by
  obtain ⟨before, last, rfl⟩ := (List.eq_nil_or_concat segments).resolve_left hne
  simp only [List.concat_eq_append, List.getLast_append_singleton] at hlast ⊢
  have hlength : (before ++ [last]).length = 1 ↔ before = [] := by simp
  rw [hlength]
  exact Text.afterLast?_joinWith_eq_iff hdelimiter before hlast

/-- Composites are named after the last segment. Let some last segments of a key be joined. A composite
that is built under them has them as its path, and its name is the last of them exactly if there is no
other, or the delimiter before it does not begin again before it ends. So it is for every delimiter that
does not overlap itself. -/
theorem name_of_build {b : CompositeBuilder} {converter : TypeConverter} {d : Document}
    (hsplit : splitKey delimiter key = .ok all) (hsuffix : segments <:+ all) (hne : segments ≠ [])
    {log : Log} {c : Composite Value}
    (h : ((b.build converter d (joinKey delimiter segments) delimiter).outcome log).1 = .ok c) :
    c.path = joinKey delimiter segments ∧
      (c.name = segments.getLast hne ↔
        segments.length = 1 ∨ ¬delimiter <:+: (delimiter ++ segments.getLast hne).tail) ∧
      (¬Text.OverlapsItself delimiter → c.name = segments.getLast hne) := by
  have hdelimiter : delimiter ≠ [] := by
    rintro rfl
    cases hsplit
  rw [splitKey, if_neg hdelimiter] at hsplit
  cases hsplit
  have hlast : ¬delimiter <:+: segments.getLast hne :=
    not_isInfix_of_mem_keySegments hdelimiter (hsuffix.subset (List.getLast_mem hne))
  have hbuilt : c.path = joinKey delimiter segments ∧
      c.name = lastSegment delimiter (joinKey delimiter segments) := by
    rw [outcome_build, built, if_neg (by simp [hdelimiter])] at h
    cases hattributes : b.attributes converter (sources d (joinKey delimiter segments) delimiter)
        delimiter (sources d (joinKey delimiter segments) delimiter) with
    | error failure =>
      rw [hattributes] at h
      cases h
    | ok attributes =>
      rw [hattributes] at h
      cases h
      exact ⟨rfl, rfl⟩
  have hname := lastSegment_joinKey_eq_iff hdelimiter hne hlast
  rw [← hbuilt.2] at hname
  refine ⟨hbuilt.1, hname, fun hoverlaps => hname.mpr (.inr fun hagain => ?_)⟩
  exact hoverlaps (Text.overlapsItself_of_isInfix hdelimiter hagain hlast)

end Names

/-- The document of a composite under a key, marked for the given delimiter. -/
def marked (delimiter key : Text) : Document :=
  ⟨⟨.localPath, text "app.properties"⟩, [(typeKey delimiter key, .single (text "composite"))]⟩

/-- Two dots are a delimiter that overlaps itself, and yet the name is the last segment where no third
dot follows. -/
theorem name_of_build_dots :
    ∃ c, (((⟨text "composite"⟩ : CompositeBuilder).build .builtin (marked (text "..") (text ".x..y"))
          (text ".x..y") (text "..")).outcome []).1 = .ok c ∧
      splitKey (text "..") (text "w...x..y") = .ok [text "w", text ".x", text "y"] ∧
      c.path = text ".x..y" ∧ c.name = text "y" := by
  obtain ⟨c, hbuild⟩ : ∃ c, (((⟨text "composite"⟩ : CompositeBuilder).build .builtin
      (marked (text "..") (text ".x..y")) (text ".x..y") (text "..")).outcome []).1 = .ok c :=
    ⟨_, rfl⟩
  have hsplit : splitKey (text "..") (text "w...x..y") = .ok [text "w", text ".x", text "y"] := by rfl
  have hsuffix : [text ".x", text "y"] <:+ [text "w", text ".x", text "y"] := ⟨[text "w"], rfl⟩
  obtain ⟨hpath, hname, -⟩ := name_of_build hsplit hsuffix (by simp) hbuild
  exact ⟨c, hbuild, hsplit, hpath, hname.mpr (.inr (by decide))⟩

/-- A third dot after a delimiter of two belongs to the last segment, but the name begins after it. -/
theorem not_name_of_build : ¬ ∀ (b : CompositeBuilder) (d : Document) (delimiter key : Text)
    (all segments : List Text) (c : Composite Value),
    splitKey delimiter key = .ok all → segments <:+ all → segments ≠ [] →
      ((b.build .builtin d (joinKey delimiter segments) delimiter).outcome []).1 = .ok c →
        some c.name = segments.getLast? := by
  intro hnamed
  let segments : List Text := [text "x", text ".y"]
  obtain ⟨c, hbuild, hname⟩ : ∃ c, (((⟨text "composite"⟩ : CompositeBuilder).build .builtin
      (marked (text "..") (text "x...y")) (joinKey (text "..") segments) (text "..")).outcome []).1 =
        .ok c ∧ c.name = text "y" := ⟨_, rfl, rfl⟩
  have hlast := hnamed _ _ _ (text "x...y") segments segments c (by rfl) List.suffix_rfl (by simp [segments])
    hbuild
  rw [hname] at hlast
  exact absurd hlast (by decide)

end ConfigNamespace.CompositeBuilder
