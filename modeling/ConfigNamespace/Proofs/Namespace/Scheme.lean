import ConfigNamespace.Proofs.Namespace.Scope

/-!
# Keys with a scheme

A path whose first segment is the name of a scheme can be written in an older way as well, with a colon
behind the scheme and with delimiters or slashes between the further segments. However it is written,
the key has the same segments. So a lookup finds the same, unless one of the keys is bound to a value
of its own or names a setting.
-/

namespace ConfigNamespace

/-- The ways to write segments with slashes: one or more between two segments, and any number before
the first and behind the last. -/
inductive Slashed : (segments : List Text) → Text → Prop
  /-- Nothing is left to write. -/
  | nil : Slashed [] []
  /-- A further slash. -/
  | slash {segments : List Text} {s : Text} (h : Slashed segments s) :
    Slashed segments (CodePoint.ofChar '/' :: s)
  /-- The last segment. -/
  | last (segment : Text) : Slashed [segment] segment
  /-- A segment with a slash behind it. -/
  | segment {segments : List Text} {s : Text} (segment : Text) (h : Slashed segments s) :
    Slashed (segment :: segments) (segment ++ CodePoint.ofChar '/' :: s)

/-- The ways to write a scheme and the segments behind it as a key, for a delimiter. -/
inductive SchemeKey (d : CodePoint) (scheme : Text) : (segments : List Text) → Text → Prop
  /-- The scheme is a segment like the others. -/
  | plain (segments : List Text) : SchemeKey d scheme segments (joinKey [d] (scheme :: segments))
  /-- A colon alone. -/
  | colon : SchemeKey d scheme [] (scheme ++ [CodePoint.ofChar ':'])
  /-- A colon before the delimiter. -/
  | delimiter (segments : List Text) :
    SchemeKey d scheme segments (scheme ++ CodePoint.ofChar ':' :: d :: joinKey [d] segments)
  /-- A colon before slashes. -/
  | slashes {segments : List Text} {s : Text} (h : Slashed segments s) :
    SchemeKey d scheme segments (scheme ++ CodePoint.ofChar ':' :: CodePoint.ofChar '/' :: s)

/-- Whether a text can be written as a segment behind a scheme, for a delimiter. -/
def IsPathSegment (d : CodePoint) (segment : Text) : Prop :=
  segment ≠ [] ∧ d ∉ segment ∧ CodePoint.ofChar '/' ∉ segment ∧ CodePoint.ofChar ':' ∉ segment

instance (d : CodePoint) (segment : Text) : Decidable (IsPathSegment d segment) :=
  instDecidableAnd

section Keys

variable {d : CodePoint} {scheme : Text} {segments : List Text}

/-- The name of a scheme is not empty, and holds no slash and no colon. -/
theorem isScheme_spec (h : isScheme scheme = true) :
    scheme ≠ [] ∧ CodePoint.ofChar '/' ∉ scheme ∧ CodePoint.ofChar ':' ∉ scheme := by
  cases scheme with
  | nil => cases h
  | cons c s =>
    rw [isScheme, Bool.and_eq_true, List.all_eq_true] at h
    have hmem : ∀ a ∈ c :: s, isSchemeChar a = true := by
      refine List.forall_mem_cons.mpr ⟨?_, h.2⟩
      simp [isSchemeChar, h.1]
    exact ⟨List.cons_ne_nil c s, fun hslash => absurd (hmem _ hslash) (by decide),
      fun hcolon => absurd (hmem _ hcolon) (by decide)⟩

/-- With delimiters for its slashes, what is written has the segments that it was written for. -/
theorem Slashed.keySegments_eq {s : Text} (h : Slashed segments s)
    (hsegments : ∀ segment ∈ segments, IsPathSegment d segment) :
    keySegments [d] (Text.replaceChar '/' [d] s) = segments := by
  have hself (segment : Text) (hsegment : IsPathSegment d segment) :
      Text.replaceChar '/' [d] segment = segment :=
    Text.replaceChar_eq_self fun hmem => absurd hmem hsegment.2.2.1
  have hslash (s : Text) : Text.replaceChar '/' [d] (CodePoint.ofChar '/' :: s) =
      d :: Text.replaceChar '/' [d] s := by
    simp [Text.replaceChar]
  induction h with
  | nil => exact keySegments_nil d
  | slash _ ih => rw [hslash, keySegments_cons_self, ih hsegments]
  | last segment =>
    have hsegment := hsegments segment List.mem_cons_self
    rw [hself segment hsegment, keySegments_eq_singleton hsegment.1 hsegment.2.1]
  | segment segment _ ih =>
    obtain ⟨hsegment, hrest⟩ := List.forall_mem_cons.mp hsegments
    rw [Text.replaceChar_append, hself segment hsegment, hslash, keySegments_append, ih hrest,
      keySegments_eq_singleton hsegment.1 hsegment.2.1, List.singleton_append]

/-- A key that consists of a scheme and segments holds a colon or a slash only as its delimiter. -/
theorem eq_of_mem_joinKey {c : CodePoint} (hc : ∀ segment ∈ scheme :: segments, c ∉ segment)
    (hmem : c ∈ joinKey [d] (scheme :: segments)) : d = c := by
  rcases Text.mem_of_mem_joinWith hmem with hd | ⟨segment, hsegment, hin⟩
  · exact (List.mem_singleton.mp hd).symm
  · exact absurd hin (hc segment hsegment)

/-- However a scheme and segments are written as a key, these are its segments. -/
theorem SchemeKey.keySegments_eq {key : Text} (h : SchemeKey d scheme segments key)
    (hscheme : isScheme scheme = true) (hd : d ∉ scheme)
    (hsegments : ∀ segment ∈ segments, IsPathSegment d segment) :
    keySegments [d] (normalizeKey [d] key) = scheme :: segments := by
  obtain ⟨hne, hslash, hcolon⟩ := isScheme_spec hscheme
  have hfirst : keySegments [d] scheme = [scheme] := keySegments_eq_singleton hne hd
  have hplain : ∀ segment ∈ segments, segment ≠ [] ∧ d ∉ segment := fun segment hsegment =>
    ⟨(hsegments segment hsegment).1, (hsegments segment hsegment).2.1⟩
  have hsplit (rest : Text) :
      splitScheme? (scheme ++ CodePoint.ofChar ':' :: rest) = some (scheme, rest) := by
    rw [splitScheme?_append_cons hcolon, if_pos hscheme]
  cases h with
  | plain =>
    have hcolons : ∀ segment ∈ scheme :: segments, CodePoint.ofChar ':' ∉ segment :=
      List.forall_mem_cons.mpr ⟨hcolon, fun segment hsegment => (hsegments segment hsegment).2.2.2⟩
    have hslashes : ∀ segment ∈ scheme :: segments, CodePoint.ofChar '/' ∉ segment :=
      List.forall_mem_cons.mpr ⟨hslash, fun segment hsegment => (hsegments segment hsegment).2.2.1⟩
    rw [keySegments_normalizeKey (eq_of_mem_joinKey hcolons) (eq_of_mem_joinKey hslashes),
      keySegments_joinKey (List.forall_mem_cons.mpr ⟨⟨hne, hd⟩, hplain⟩)]
  | colon => rw [normalizeKey_of_scheme (hsplit []), hfirst]
  | delimiter =>
    by_cases hslashed : d = CodePoint.ofChar '/'
    · -- The delimiter is the slash, which stands for itself.
      subst hslashed
      rw [keySegments_normalizeKey_of_slash (hsplit _), Text.replaceChar_eq_self fun _ => rfl,
        keySegments_joinKey hplain, hfirst, List.singleton_append]
    · rw [keySegments_normalizeKey_of_delimiter (hsplit _) hslashed, keySegments_joinKey hplain,
        hfirst, List.singleton_append]
  | slashes hslashed =>
    rw [keySegments_normalizeKey_of_slash (hsplit _), hslashed.keySegments_eq hsegments, hfirst,
      List.singleton_append]

/-- A key with a scheme is not empty. -/
theorem SchemeKey.ne_nil {key : Text} (h : SchemeKey d scheme segments key)
    (hscheme : isScheme scheme = true) : key ≠ [] := by
  have hne := (isScheme_spec hscheme).1
  cases h with
  | plain => exact Text.joinWith_ne_nil _ hne _
  | colon | delimiter | slashes => simp

end Keys

namespace Family

/-- Two keys with the same segments that are neither bound nor settings are answered alike, as long as
nothing is written in between. -/
theorem lookup_alike_of_segmentsOf {w : World} {f g g' : Family} (hf : Reachable w f) {number : Nat}
    (hnumber : number < f.views.length) {key key' : Text} {segments : List Text}
    (hsegments : segmentsOf (f.delimiterOf (f.view number)) key = .ok segments)
    (hsegments' : segmentsOf (f.delimiterOf (f.view number)) key' = .ok segments)
    (hkey : key ≠ []) (hkey' : key' ≠ [])
    (hunbound : (f.view number).entries.get? key = none)
    (hunbound' : (f.view number).entries.get? key' = none)
    (hreserved : key ∉ reservedKeys) (hreserved' : key' ∉ reservedKeys)
    (hg : Browses w f g) (hg' : Browses w f g') :
    Reply.Alike (· = ·) (reply (lookup w number (.str key)) g)
      (reply (lookup w number (.str key')) g') := by
  have hfaithful := hf.faithful
  -- Browsing changes neither reply, so both lookups may be carried out at once.
  rw [reply_lookup_of_browsed hfaithful hg.allows hnumber,
    reply_lookup_of_browsed hfaithful hg'.allows hnumber]
  cases hclosed : (f.view number).closed with
  | true =>
    have hseek (key : Value) : (f.seek w (f.view number) key).answer = .error .closed := by
      unfold seek
      rw [hclosed]
      rfl
    rw [reply_lookup hfaithful, reply_lookup hfaithful, hseek, hseek]
    exact .fails rfl
  | false =>
    rw [reply_lookup_eq_find hfaithful hclosed hkey hunbound hreserved hsegments,
      reply_lookup_eq_find hfaithful hclosed hkey' hunbound' hreserved' hsegments']
    exact Reply.alike_ofNamed _ _ (find_rewords f w rfl _ _ _ _).1

/-- A scheme and the segments behind it can be written in several ways, with delimiters or with slashes
and with or without a colon. All these keys have the scheme and the segments as their segments. So, in a
namespace with this delimiter, a lookup answers them alike where they are neither bound nor settings,
whatever was done to the family before and as long as nothing is written in between. -/
theorem schemeKey_alike {d : CodePoint} {scheme : Text} {segments : List Text}
    (hscheme : isScheme scheme = true) (hd : d ∉ scheme)
    (hsegments : ∀ segment ∈ segments, IsPathSegment d segment) :
    (∀ key, SchemeKey d scheme segments key → segmentsOf [d] key = .ok (scheme :: segments)) ∧
      ∀ {w : World} {f g g' : Family} {number : Nat} {key key' : Text},
        SchemeKey d scheme segments key → SchemeKey d scheme segments key' → Reachable w f →
        number < f.views.length → f.delimiterOf (f.view number) = [d] →
        (f.view number).entries.get? key = none → (f.view number).entries.get? key' = none →
        key ∉ reservedKeys → key' ∉ reservedKeys → Browses w f g → Browses w f g' →
        Reply.Alike (· = ·) (reply (lookup w number (.str key)) g)
          (reply (lookup w number (.str key')) g') := by
  have hsplit : ∀ key, SchemeKey d scheme segments key →
      segmentsOf [d] key = .ok (scheme :: segments) := fun key hkey => by
    rw [segmentsOf_eq (List.cons_ne_nil d []), hkey.keySegments_eq hscheme hd hsegments]
  refine ⟨hsplit, ?_⟩
  intro w f g g' number key key' hkey hkey' hf hnumber hdelimiter hunbound hunbound' hreserved
    hreserved' hg hg'
  exact lookup_alike_of_segmentsOf hf hnumber (by rw [hdelimiter, hsplit key hkey])
    (by rw [hdelimiter, hsplit key' hkey']) (hkey.ne_nil hscheme) (hkey'.ne_nil hscheme) hunbound
    hunbound' hreserved hreserved' hg hg'

/-- In the twofold world, with slashes before and behind a segment, and with the delimiter alone. -/
theorem schemeKey_alike_twofold :
    let f := opened (.at (some (text "M")) []) .default
    segmentsOf (text ".") (text "app://k/") = .ok [text "app", text "k"] ∧
      Reply.Alike (· = ·) (reply (lookup .twofold 0 (.str (text "app://k/"))) f)
        (reply (lookup .twofold 0 (.str (text "app.k"))) f) := by
  intro f
  have hslashes : SchemeKey (CodePoint.ofChar '.') (text "app") [text "k"] (text "app://k/") :=
    .slashes (.slash (.segment (text "k") .nil))
  have hplain : SchemeKey (CodePoint.ofChar '.') (text "app") [text "k"] (text "app.k") :=
    .plain [text "k"]
  have halike := @schemeKey_alike (CodePoint.ofChar '.') (text "app") [text "k"] (by decide)
    (by decide) (by decide)
  exact ⟨halike.1 _ hslashes, halike.2 hslashes hplain (reachable_opened _ _ _) (by decide) rfl rfl
    rfl (by decide) (by decide) .refl .refl⟩

end Family

end ConfigNamespace
