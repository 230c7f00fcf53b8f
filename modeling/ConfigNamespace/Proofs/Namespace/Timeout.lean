import ConfigNamespace.Proofs.Lookup.Recovery
import ConfigNamespace.Proofs.Lookup.Timeout
import ConfigNamespace.Proofs.Namespace.History
import Mathlib.Tactic.ByContra

/-!
# Timeouts are not masked

A lookup at servers fails with the first request that is not answered in time. All that it leaves of
itself is in the session, and there it makes no difference: once the pages answer, the same lookup
gives what it would give had there been no timeout.
-/

namespace ConfigNamespace

open Operation

namespace Family

variable {f : Family} {w : World} {number : Nat}

/-- Equal results are settled in the same way, whatever else the sessions hold. -/
theorem settle_congr {s : Session} {v : View} {found found' : Except Failure Named × Session}
    (h : found.1 = found'.1) :
    (settle { f with session := s } v found).1 = (f.settle v found').1 ∧
      (settle { f with session := s } v found).2.views = (f.settle v found').2.views := by
  obtain ⟨result, t⟩ := found
  obtain ⟨result', t'⟩ := found'
  obtain rfl : result = result' := h
  rcases result with failure | value | segments <;> exact ⟨rfl, rfl⟩

/-- A key that is not a text, or an empty one, is not looked for anywhere. -/
theorem seek_follows_fixing_requests (f : Family) (w : World) (v : View) {key : Value}
    (hkey : ∀ c rest, key ≠ .str (c :: rest)) :
    (f.seek w v key).Follows (.fixing Session.requests) := by
  refine .ite (fun _ => .bind (fun _ => rfl) fun _ _ => .throw _) fun _ => ?_
  split
  · exact .bind (.ofExcept _) fun _ _ => .pure _
  next text hempty =>
    obtain ⟨c, rest, rfl⟩ := List.exists_cons_of_ne_nil hempty
    exact absurd rfl (hkey c rest)
  · exact .throw _

/-- A lookup at servers, whatever its session holds: a request that is not answered in time is the
last one, and the lookup fails with this timeout. So does asking for the key. Nothing of the family
changes but the session. When the pages answer, the same lookup gives what it would give had it not
been tried before. -/
theorem timeout_not_masked {base : Text}
    (hremote : readRoot (f.rootOf (f.view number)) = .ok (.remote, base)) (key : Value) :
    ∃ made, ((lookup w number key).outcome f).2.session.requests = f.session.requests ++ made ∧
      ∀ r ∈ made, w.TimesOut r → ∃ s : Session,
        (∃ before, made = before ++ [r] ∧ ∀ earlier ∈ before, ¬w.TimesOut earlier) ∧
        r.overdue.kind = .resolutionTimeout ∧
        (lookup w number key).outcome f = (.error r.overdue, { f with session := s }) ∧
        (has w number key).outcome f = (.error r.overdue, { f with session := s }) ∧
        ∀ w', w.RecoversTo w' →
          let again := (lookup w' number key).outcome { f with session := s }
          let fresh := (lookup w' number key).outcome f
          again.1 = fresh.1 ∧ again.2.views = fresh.2.views := by
  have hlooks : (f.backing w).Looks (f.seek w (f.view number) key) := .seek hremote key
  have hlookup := outcome_lookup f w number key
  have hheeded := hlooks.heeds f.session
  rcases hfound : (f.seek w (f.view number) key).outcome f.session with ⟨result, s⟩
  rw [hfound] at hlookup hheeded
  cases hheeded with
  | answered made hmade hall =>
    refine ⟨made, ?_, fun r hr hlate => absurd hlate (hall r hr)⟩
    rw [hlookup, session_settle]
    exact hmade
  | overdue before r hmade hbefore hlast =>
    refine ⟨before ++ [r], by rw [hlookup]; exact hmade, ?_⟩
    intro late hlate htimeout
    obtain rfl : late = r := by
      rcases List.mem_append.mp hlate with hlate | hlate
      · exact absurd htimeout (hbefore late hlate)
      · exact List.mem_singleton.mp hlate
    -- a request was made, so that the key is one that is looked for
    obtain ⟨c, rest, rfl⟩ : ∃ c rest, key = .str (c :: rest) := by
      by_contra hother
      simp only [not_exists] at hother
      have hnone : ((f.seek w (f.view number) key).outcome f.session).2.requests = _ :=
        seek_follows_fixing_requests f w (f.view number) hother f.session
      rw [hfound, show s.requests = _ from hmade] at hnone
      simp at hnone
    refine ⟨s, ⟨before, rfl, hbefore⟩, rfl, hlookup, has_of_lookup_error hlookup nofun, ?_⟩
    intro w' hrecovers again fresh
    have hlearned : (learning (f.backing w')).Allows f.session s := by
      have hlearning := hlooks.learning hrecovers f.session
      rwa [hfound] at hlearning
    have hlooks' : (f.backing w').Looks (f.seek w' (f.view number) (.str (c :: rest))) :=
      .seek hremote _
    have hsame := (hlooks'.indifferent f.session s hlearned).1
    have hagain := outcome_lookup { f with session := s } w' number (.str (c :: rest))
    have hfresh := outcome_lookup f w' number (.str (c :: rest))
    rw [show again = _ from hagain, show fresh = _ from hfresh]
    exact settle_congr hsame

/-- A server with a page that is no document of the name, and a document that is slow. -/
def slowWorld : World :=
  .ofPages [
    (text "http://h/app", ⟨.status 200, .status 200, Text.utf8 (text "a=1\n")⟩),
    (text "http://h/app.properties",
      ⟨.timeout, .status 200, Text.utf8 (text "host=example\n")⟩)]

/-- The server when the document is slow no more. -/
def promptWorld : World :=
  slowWorld.putPage (text "http://h/app.properties")
    ⟨.status 200, .status 200, Text.utf8 (text "host=example\n")⟩

/-- The namespace at the server with the slow document. -/
def slowFamily : Family := opened (.at (some (text "http://h")) []) .default

/-- At the server with the slow document: the page is loaded before the timeout, and found in the
cache when the document answers. -/
theorem timeout_not_masked_slowWorld :
    let out := (lookup slowWorld 0 (.str (text "app.host"))).outcome slowFamily
    readRoot (slowFamily.rootOf (slowFamily.view 0)) = .ok (.remote, text "http://h") ∧
      (∃ r ∈ out.2.session.requests, slowWorld.TimesOut r ∧ out.1 = .error r.overdue) ∧
      out.2.session.cache.size = 1 ∧
      slowWorld.RecoversTo promptWorld ∧
      ((lookup promptWorld 0 (.str (text "app.host"))).outcome out.2).1.toOption.bind Value.text? =
        some (text "example") := by
  have hremote :
      readRoot (slowFamily.rootOf (slowFamily.view 0)) = .ok (.remote, text "http://h") := rfl
  have hlate : ∃ r ∈ ((lookup slowWorld 0 (.str (text "app.host"))).outcome
      slowFamily).2.session.requests, slowWorld.TimesOut r := by decide +kernel
  have hcached : ((lookup slowWorld 0 (.str (text "app.host"))).outcome
      slowFamily).2.session.cache.size = 1 := by decide +kernel
  have hfresh : ((lookup promptWorld 0 (.str (text "app.host"))).outcome
      slowFamily).1.toOption.bind Value.text? = some (text "example") := by decide +kernel
  have hrecovers : slowWorld.RecoversTo promptWorld :=
    World.recoversTo_putPage (.inl rfl) (.inr ⟨rfl, rfl⟩)
  obtain ⟨made, hmade, hall⟩ := timeout_not_masked (w := slowWorld) hremote (.str (text "app.host"))
  obtain ⟨r, hrequest, htimeout⟩ := hlate
  have hmem : r ∈ made := by
    rw [hmade] at hrequest
    simpa [slowFamily, opened, Session.empty] using hrequest
  obtain ⟨s, -, -, hout, -, hagain⟩ := hall r hmem htimeout
  have hsame := (hagain promptWorld hrecovers).1
  rw [hout] at hrequest hcached
  intro out
  have hstop : out = (.error r.overdue, { slowFamily with session := s }) := hout
  rw [hstop]
  refine ⟨hremote, ⟨r, hrequest, htimeout, rfl⟩, hcached, hrecovers, ?_⟩
  dsimp only
  rw [hsame]
  exact hfresh

end Family

end ConfigNamespace
