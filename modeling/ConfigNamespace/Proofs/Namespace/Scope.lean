import ConfigNamespace.Proofs.Key
import ConfigNamespace.Proofs.Namespace.Reply

/-!
# Namespaces that lookups make

A namespace that was made for a key stands for that key: what a further key names in it is what both
keys together, with the delimiter between them, name in the namespace that it was made from. Both
lookups walk down the same segments, so they can only differ in the wording of failures, which show
the key.
-/

namespace ConfigNamespace

open Operation

/-- Outcomes that agree lead to replies that are alike. -/
theorem Reply.alike_ofNamed {same : Composite Value → Composite Value → Prop} (v v' : View)
    {found found' : Except Failure Named} (h : Agree (· = ·) found found') :
    Alike same (ofNamed v found) (ofNamed v' found') := by
  cases h with
  | error h => exact .fails h
  | @ok named _ h =>
    subst h
    cases named with
    | value value => exact .gives value
    | place segments => exact .makes rfl

namespace Family

/-- A key that is no entry and no setting of an open namespace is sought beneath its root. -/
theorem seek_eq_findKey {f : Family} {w : World} {v : View} {key : Text} (hopen : v.closed = false)
    (hkey : key ≠ []) (hunbound : v.entries.get? key = none) (hreserved : key ∉ reservedKeys) :
    f.seek w v (.str key) = f.findKey w v key := by
  obtain ⟨c, key, rfl⟩ := List.exists_cons_of_ne_nil hkey
  simp only [reservedKeys, List.mem_cons, List.not_mem_nil, or_false, not_or] at hreserved
  rw [seek, if_neg (by simp [hopen]), hunbound]
  · dsimp only
    rw [if_neg hreserved.1, if_neg hreserved.2]
  · exact hkey

/-- A key is found by its segments. -/
theorem findKey_eq_find {f : Family} {w : World} {v : View} {key : Text} {segments : List Text}
    (h : segmentsOf (f.delimiterOf v) key = .ok segments) :
    f.findKey w v key = f.find w v key (v.segments ++ segments) := by
  unfold findKey
  rw [h]
  rfl

/-- The segments of a key where the delimiter is not empty. -/
theorem segmentsOf_eq {delimiter : Text} (h : delimiter ≠ []) (key : Text) :
    segmentsOf delimiter key = .ok (keySegments delimiter (normalizeKey delimiter key)) := by
  rw [segmentsOf, splitKey, if_neg h]

/-- In what a document names, the text of the key only counts for the wording of failures. -/
theorem named_rewords (f : Family) (d : Document) (key key' delimiter : Text)
    (segments rest : List Text) :
    (f.named d key delimiter segments rest).Rewords (f.named d key' delimiter segments rest) := by
  refine .ite (.refl _) (.ite (.refl _) ?_)
  unfold documentValue
  cases d.get? (joinKey delimiter rest) with
  | none => exact .throw rfl
  | some value => exact .refl _

/-- What segments name depends on the root and the delimiter of a namespace alone, and the text of
the key only counts for the wording of failures. -/
theorem find_rewords (f : Family) (w : World) {v v' : View}
    (hoverrides : v'.overrides = v.overrides) (key key' : Text) (segments : List Text) :
    (f.find w v' key' segments).Rewords (f.find w v key segments) := by
  have hroot : f.rootOf v' = f.rootOf v := by rw [rootOf, rootOf, hoverrides]
  have hdelimiter : f.delimiterOf v' = f.delimiterOf v := by
    rw [delimiterOf, delimiterOf, hoverrides]
  unfold find
  rw [hroot, hdelimiter]
  refine .ite (.throw rfl) (.bind _ fun place => .bind _ fun found => ?_)
  obtain ⟨_ | handle, rest⟩ := found
  · exact .throw rfl
  · exact .bind _ fun d => named_rewords f d _ _ _ _ _

/-- A document names no place but the one that the segments lead to. -/
theorem segments_of_named {f : Family} {d : Document} {key delimiter : Text}
    {segments rest place : List Text}
    (h : (f.named d key delimiter segments rest).MayGive (.place place)) : place = segments := by
  unfold named at h
  dsimp only at h
  split at h
  · obtain ⟨c, -, h⟩ := h.of_bind
    cases eq_of_mayGive_pure h
  · split at h
    · cases eq_of_mayGive_pure h
      rfl
    · obtain ⟨value, -, h⟩ := h.of_bind
      cases eq_of_mayGive_pure h

/-- The place that segments name is these segments. -/
theorem segments_of_find {f : Family} {w : World} {v : View} {key : Text}
    {segments place : List Text} (h : (f.find w v key segments).MayGive (.place place)) :
    place = segments := by
  unfold find at h
  split at h
  · obtain ⟨_, hthrown, -⟩ := h.of_bind
    obtain ⟨_, hthrown⟩ := hthrown
    cases hthrown
  · obtain ⟨⟨protocol, base⟩, -, h⟩ := h.of_bind
    obtain ⟨⟨_ | handle, rest⟩, -, h⟩ := h.of_bind
    · obtain ⟨_, hthrown⟩ := h
      cases hthrown
    · obtain ⟨d, -, h⟩ := h.of_bind
      exact segments_of_named h

/-- A place that a key names has the segments of the namespace, followed by those of the key. -/
theorem segments_of_seek {f : Family} {w : World} {v : View} {key : Text} {place : List Text}
    (h : (f.seek w v (.str key)).MayGive (.place place)) :
    v.closed = false ∧ ∃ segments, segmentsOf (f.delimiterOf v) key = .ok segments ∧
      place = v.segments ++ segments := by
  unfold seek at h
  split at h
  · obtain ⟨_, -, hthrown⟩ := h.of_bind
    obtain ⟨_, hthrown⟩ := hthrown
    cases hthrown
  · next hclosed =>
    refine ⟨by simpa using hclosed, ?_⟩
    cases key with
    | nil =>
      obtain ⟨segments, hsegments, h⟩ := h.of_bind
      cases eq_of_mayGive_pure h
      exact ⟨segments, eq_ok_of_mayGive_ofExcept hsegments, rfl⟩
    | cons c key =>
      dsimp only at h
      split at h
      · obtain ⟨_, -, h⟩ := h.of_bind
        cases eq_of_mayGive_pure h
      · split at h
        · cases eq_of_mayGive_pure h
        · split at h
          · cases eq_of_mayGive_pure h
          · obtain ⟨segments, hsegments, h⟩ := h.of_bind
            exact ⟨segments, eq_ok_of_mayGive_ofExcept hsegments, segments_of_find h⟩

/-- Whether a namespace was made for a key: it is new, and was given for the key by a lookup or for
the key as a path. -/
inductive Makes (w : World) (f : Family) (number : Nat) (key : Text) (g : Family) (made : Nat) : Prop
  /-- A lookup of the key gave a namespace that was not there before. -/
  | lookup (h : (lookup w number (.str key)).outcome f = (.ok (.view made), g))
    (hnew : f.views.length ≤ made) (hmade : made < g.views.length)
  /-- A namespace was asked for. -/
  | scope (h : (scope number (.str key)).outcome f = (.ok made, g))

/-- A namespace that was made for a key has the settings of the one that it was made from, no
entries, and the segments of both. -/
theorem Makes.view_eq {w : World} {f g : Family} {number made : Nat} {key : Text}
    (h : Makes w f number key g made) :
    (f.view number).closed = false ∧ made < g.views.length ∧
      ∃ segments, segmentsOf (f.delimiterOf (f.view number)) key = .ok segments ∧
        g.view made = viewBelow (f.view number) ((f.view number).segments ++ segments) := by
  cases h with
  | lookup h hnew hmade =>
    rw [outcome_lookup] at h
    rcases hfound : (f.seek w (f.view number) (.str key)).outcome f.session with
      ⟨failure | named, s⟩
    · rw [hfound] at h
      cases h
    · rw [hfound] at h
      cases named with
      | value value =>
        cases h
        exact absurd hmade (Nat.not_lt.mpr hnew)
      | place segments =>
        cases h
        obtain ⟨hopen, segments', hsegments, rfl⟩ := segments_of_seek ⟨f.session, by rw [hfound]⟩
        exact ⟨hopen, hmade, segments', hsegments, view_append_length f _ s⟩
  | scope h =>
    cases hclosed : (f.view number).closed with
    | true =>
      unfold Family.scope at h
      rw [outcome_bind_error (outcome_refuseClosed_of_closed hclosed _)] at h
      cases h
    | false =>
      rw [outcome_scope hclosed] at h
      cases hsegments : segmentsOf (f.delimiterOf (f.view number)) key with
      | error failure =>
        rw [hsegments] at h
        cases h
      | ok segments =>
        rw [hsegments] at h
        cases h
        exact ⟨rfl, by simp, segments, rfl, view_append_length f _ f.session⟩

/-- Making a namespace is browsing. -/
theorem Makes.browses {w : World} {f g : Family} {number made : Nat} {key : Text}
    (h : Makes w f number key g made) : Browses w f g := by
  cases h with
  | lookup h _ _ =>
    have hstep := Browse.lookup (w := w) (f := f) number (.str key)
    rw [h] at hstep
    exact .single hstep
  | scope h =>
    have hstep := Browse.scope (w := w) (f := f) number (.str key)
    rw [h] at hstep
    exact .single hstep

/-- A lookup that finds nothing among the entries and settings replies what the segments of the key
name beneath the root. -/
theorem reply_lookup_eq_find {w : World} {f : Family} (hf : f.session.Faithful (f.backing w))
    {number : Nat} {key : Text} {segments : List Text} (hopen : (f.view number).closed = false)
    (hkey : key ≠ []) (hunbound : (f.view number).entries.get? key = none)
    (hreserved : key ∉ reservedKeys)
    (hsegments : segmentsOf (f.delimiterOf (f.view number)) key = .ok segments) :
    reply (lookup w number (.str key)) f = .ofNamed (f.view number)
      (f.find w (f.view number) key ((f.view number).segments ++ segments)).answer := by
  rw [reply_lookup hf, seek_eq_findKey hopen hkey hunbound hreserved, findKey_eq_find hsegments]

/-- Namespaces compose. Let a namespace be made for one key, whatever was done to the family before.
A further key in it, which has no colons and slashes but delimiters, is answered as both keys with
the delimiter between them are answered in the namespace that it was made from, as long as
nothing is written in between: the segments of both keys are those of the one after those of the
other. -/
theorem lookup_in_made_alike {w : World} {f g g' h : Family} (hf : Reachable w f)
    {number made : Nat} (hnumber : number < f.views.length) {d : CodePoint}
    (hd : f.delimiterOf (f.view number) = [d]) {first second : Text}
    (hmade : Makes w f number first h made) (hsecond : second ≠ [])
    (hcolon : CodePoint.ofChar ':' ∈ second → d = CodePoint.ofChar ':')
    (hslash : CodePoint.ofChar '/' ∈ second → d = CodePoint.ofChar '/')
    (hreserved : second ∉ reservedKeys) (hreserved' : first ++ d :: second ∉ reservedKeys)
    (hunbound : (f.view number).entries.get? (first ++ d :: second) = none)
    (hg : Browses w h g) (hg' : Browses w f g') :
    Reply.Alike (· = ·) (reply (lookup w made (.str second)) g)
        (reply (lookup w number (.str (first ++ d :: second))) g') ∧
      keySegments [d] (normalizeKey [d] (first ++ d :: second)) =
        keySegments [d] (normalizeKey [d] first) ++ keySegments [d] second := by
  have hjoined := keySegments_normalizeKey_append (s := first) hcolon hslash
  refine ⟨?_, hjoined⟩
  obtain ⟨hopen, hlt, segments, hsegments, hview⟩ := hmade.view_eq
  have hfh := hmade.browses.allows
  have hfaithful := hf.faithful
  -- Browsing further changes neither reply, so both lookups may follow the making at once.
  rw [reply_lookup_of_browsed (hfh.1.faithful hfaithful) hg.allows hlt,
    reply_lookup_of_browsed hfaithful hg'.allows hnumber,
    ← reply_lookup_of_browsed hfaithful hfh hnumber]
  have hfaithful' := hfh.1.faithful hfaithful
  have hsame : h.view number = f.view number := view_eq_of_prefix hfh.2 hnumber
  have hdelimiter (v : View) (hv : v.overrides = (f.view number).overrides) :
      h.delimiterOf v = [d] := by
    rw [delimiterOf, hv, hfh.1.environment_eq]
    exact hd
  have hne : [d] ≠ [] := List.cons_ne_nil _ _
  rw [hd, segmentsOf_eq hne, Except.ok.injEq] at hsegments
  have hthere : reply (lookup w made (.str second)) h = .ofNamed (h.view made)
      (h.find w (h.view made) second
        ((f.view number).segments ++ segments ++ keySegments [d] second)).answer := by
    have hstart : (h.view made).segments = (f.view number).segments ++ segments := by
      rw [hview]; rfl
    rw [← hstart]
    refine reply_lookup_eq_find hfaithful' ?_ hsecond ?_ hreserved ?_
    · rw [hview]; rfl
    · rw [hview]; rfl
    · rw [hdelimiter _ (by rw [hview]; rfl), segmentsOf_eq hne,
        keySegments_normalizeKey hcolon hslash]
  have hhere : reply (lookup w number (.str (first ++ d :: second))) h = .ofNamed (f.view number)
      (h.find w (f.view number) (first ++ d :: second)
        ((f.view number).segments ++ segments ++ keySegments [d] second)).answer := by
    rw [← hsame] at hopen hunbound
    rw [reply_lookup_eq_find hfaithful' hopen (by simp) hunbound hreserved' (segmentsOf_eq ?_ _)]
    all_goals rw [hsame, hdelimiter _ rfl]
    · rw [hjoined, hsegments, List.append_assoc]
    · exact hne
  rw [hthere, hhere, hview]
  exact Reply.alike_ofNamed _ _ (find_rewords h w (by rfl) _ _ _ _).1

/-- In the twofold world, where a namespace is made for the document. -/
theorem lookup_in_made_twofold :
    let f := opened (.at (some (text "M")) []) .default
    let h := ((lookup .twofold 0 (.str (text "app"))).outcome f).2
    Reply.Alike (· = ·) (reply (lookup .twofold 1 (.str (text "k"))) h)
        (reply (lookup .twofold 0 (.str (text "app" ++ CodePoint.ofChar '.' :: text "k"))) f) ∧
      keySegments [CodePoint.ofChar '.'] (normalizeKey [CodePoint.ofChar '.']
          (text "app" ++ CodePoint.ofChar '.' :: text "k")) =
        keySegments [CodePoint.ofChar '.'] (normalizeKey [CodePoint.ofChar '.'] (text "app")) ++
          keySegments [CodePoint.ofChar '.'] (text "k") := by
  intro f h
  have hmade : Makes .twofold f 0 (text "app") h 1 := .lookup rfl (by decide) (by decide)
  exact lookup_in_made_alike (reachable_opened _ _ _) (by decide) rfl hmade (by decide) (by decide)
    (by decide) (by decide) (by decide) rfl .refl .refl

end Family

end ConfigNamespace
