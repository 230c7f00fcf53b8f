import ConfigNamespace.Proofs.Lookup.Confinement
import ConfigNamespace.Proofs.Namespace.History
import ConfigNamespace.Proofs.World.Merged

/-!
# Lookups stay beneath the root

Whatever a key is, under whatever delimiter, a lookup looks at nothing but resources beneath the base
of the root that counts in the namespace: their names are plain segments of the namespace and of the
key, and only the last one may have an extension or be the default document.
-/

namespace ConfigNamespace

open Operation

namespace Family

/-- Whether a handle is one that a lookup of a key may look at: a confined one, for the root and the
delimiter that count in the namespace. -/
def Beneath (f : Family) (v : View) (key : Text) (h : ResourceHandle) : Prop :=
  ∃ segments p base, segmentsOf (f.delimiterOf v) key = .ok segments ∧
    readRoot (f.rootOf v) = .ok (p, base) ∧
    Confined p base f.parsers.order (v.segments ++ segments) h

section Looks

variable {f : Family} (hextensions : ∀ extension ∈ f.parsers.order, ∀ c ∈ extension,
    c ≠ CodePoint.ofChar '/' ∧ c ≠ CodePoint.backslash)
include hextensions

/-- Finding a key looks at confined resources alone. -/
theorem findKey_follows (w : World) (v : View) (key : Text) :
    (f.findKey w v key).Follows (visiting (f.Beneath v key)) := by
  refine .bind (.ofExcept _) fun segments hsegments => ?_
  refine .ite (fun _ => .bind (.throw _) fun _ hthrown => ?_) fun _ => ?_
  · obtain ⟨_, hthrown⟩ := hthrown
    cases hthrown
  refine .bind (.ofExcept _) fun place hplace => ?_
  obtain ⟨p, base⟩ := place
  have hbeneath (h : ResourceHandle)
      (hconfined : Confined p base f.parsers.order (v.segments ++ segments) h) :
      f.Beneath v key h :=
    ⟨segments, p, base, eq_ok_of_mayGive_ofExcept hsegments, eq_ok_of_mayGive_ofExcept hplace,
      hconfined⟩
  have hpassed : ∀ name ∈ ([] : List Text), isPlainSegment name = true := by simp
  have hwalk : (((f.backing w).locator p).walk (f.delimiterOf v) base
      (v.segments ++ segments)).Follows
        (visiting (Confined p base f.parsers.order (v.segments ++ segments))) :=
    Locator.walk_follows hextensions (f.delimiterOf v) rfl hpassed
  refine .bind (visiting_mono hbeneath hwalk) fun found hfound => ?_
  obtain ⟨_ | handle, rest⟩ := found
  · exact .throw _
  · have hconfined : Confined p base f.parsers.order (v.segments ++ segments) handle :=
      Locator.confined_of_walk hextensions rfl hpassed hfound
    refine .bind (Locator.load_follows (hbeneath handle hconfined) _) fun d _ => ?_
    refine .ite (fun _ => .bind (fun _ => visiting_of_eq rfl) fun _ _ => .pure _) fun _ => ?_
    exact .ite (fun _ => .pure _) fun _ => .bind (.ofExcept _) fun _ _ => .pure _

/-- Seeking a key looks at confined resources alone, and only if the key is a text. -/
theorem seek_follows (w : World) (v : View) (key : Value) :
    (f.seek w v key).Follows
      (visiting fun h => ∃ written, key = .str written ∧ f.Beneath v written h) := by
  refine .ite (fun _ => .bind (fun _ => visiting_of_eq rfl) fun _ _ => .throw _) fun _ => ?_
  split
  · exact .bind (.ofExcept _) fun _ _ => .pure _
  · split
    · exact .bind (fun _ => visiting_of_eq rfl) fun _ _ => .pure _
    · refine .ite (fun _ => .pure _) fun _ => .ite (fun _ => .pure _) fun _ => ?_
      exact visiting_mono (fun h hbeneath => ⟨_, rfl, hbeneath⟩) (findKey_follows hextensions w v _)
  · exact .throw _

end Looks

/-- A lookup is confined: with extensions that hold no separators, whatever it looks at lies beneath
the base of the root that counts in the namespace. From the base, plain names lead there, and these
are segments of the namespace and of the key, but for an extension of the last one or the default
document. Encoded for a URL, the names are still plain, and no reserved character is left in
them. -/
theorem lookup_confined (f : Family) (w : World) (number : Nat) (key : Value)
    (hextensions : ∀ extension ∈ f.parsers.order, ∀ c ∈ extension,
      c ≠ CodePoint.ofChar '/' ∧ c ≠ CodePoint.backslash) :
    ∃ new, ((lookup w number key).outcome f).2.session.visits = f.session.visits ++ new ∧
      ∀ visit ∈ new, ∃ written segments p base names, key = .str written ∧
        segmentsOf (f.delimiterOf (f.view number)) written = .ok segments ∧
        readRoot (f.rootOf (f.view number)) = .ok (p, base) ∧
        Candidate f.parsers.order ((f.view number).segments ++ segments) names ∧
        (∀ name ∈ names, isPlainSegment name = true ∧
          isPlainSegment (percentEncode name) = true ∧
          ∀ c ∈ percentEncode name, isUnreserved c.val = true ∨ c = percentSign) ∧
        visit.handle = ⟨p, p.place base names⟩ := by
  rw [outcome_lookup, session_settle]
  obtain ⟨new, hnew, hbeneath⟩ := seek_follows hextensions w (f.view number) key f.session
  refine ⟨new, hnew, fun visit hvisit => ?_⟩
  obtain ⟨written, hkey, segments, p, base, hsegments, hroot, names, hcandidate, hplain, hhandle⟩ :=
    hbeneath visit hvisit
  refine ⟨written, segments, p, base, names, hkey, hsegments, hroot, hcandidate, ?_, hhandle⟩
  intro name hname
  refine ⟨hplain name hname, isPlainSegment_percentEncode (hplain name hname), ?_⟩
  exact fun c hc => unreserved_of_mem_percentEncode hc

/-- In the twofold world, with the extensions that come with the library. -/
theorem lookup_confined_twofold :
    let f := opened (.at (some (text "M")) []) .default
    ∃ new, ((lookup .twofold 0 (.str (text "app.k"))).outcome f).2.session.visits =
        f.session.visits ++ new ∧
      ∀ visit ∈ new, ∃ written segments p base names, Value.str (text "app.k") = .str written ∧
        segmentsOf (f.delimiterOf (f.view 0)) written = .ok segments ∧
        readRoot (f.rootOf (f.view 0)) = .ok (p, base) ∧
        Candidate f.parsers.order ((f.view 0).segments ++ segments) names ∧
        (∀ name ∈ names, isPlainSegment name = true ∧
          isPlainSegment (percentEncode name) = true ∧
          ∀ c ∈ percentEncode name, isUnreserved c.val = true ∨ c = percentSign) ∧
        visit.handle = ⟨p, p.place base names⟩ :=
  lookup_confined _ _ _ _ (by decide)

end Family

end ConfigNamespace
