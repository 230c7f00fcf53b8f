import ConfigNamespace.Proofs.Namespace.History
import ConfigNamespace.Proofs.World.Merged

/-!
# What lookups reply

A caller who looks up a key gets a failure, a value, or a namespace that was not there before, and can
tell namespaces apart by what they are but not by their numbers. Such a reply is determined by the
namespace, the environment, the parsers, the converters and the world. What earlier lookups left
behind does not count, and neither does the cache of documents.
-/

namespace ConfigNamespace

open Operation

/-- What a lookup replies. -/
inductive Reply
  /-- It fails. -/
  | fails (failure : Failure)
  /-- It gives a value, which may be a namespace that was there before. -/
  | gives (value : Value)
  /-- It makes a namespace that was not there before. -/
  | makes (v : View)

/-- The reply that what was found in a namespace leads to. -/
def Reply.ofNamed (v : View) : Except Failure Named → Reply
  | .error failure => .fails failure
  | .ok (.value value) => .gives value
  | .ok (.place segments) => .makes (Family.viewBelow v segments)

/-- Whether two replies are alike: they give the same value, or composites that are the same in a
given sense; they make namespaces that start from the same segments; or they fail in the same way,
whatever the wording. -/
inductive Reply.Alike (same : Composite Value → Composite Value → Prop) : Reply → Reply → Prop
  /-- The same value. -/
  | gives (value : Value) : Alike same (.gives value) (.gives value)
  /-- Composites that are the same in the given sense. -/
  | composite {c c' : Composite Value} (h : same c c') :
    Alike same (.gives (.composite c)) (.gives (.composite c'))
  /-- Namespaces that start from the same segments. -/
  | makes {v v' : View} (h : v.segments = v'.segments) : Alike same (.makes v) (.makes v')
  /-- Failures of the same kind. -/
  | fails {failure failure' : Failure} (h : failure.kind = failure'.kind) :
    Alike same (.fails failure) (.fails failure')

namespace Family

/-- What an operation replies that is carried out in a family. -/
def reply (op : Operation Family Value) (f : Family) : Reply :=
  match op.outcome f with
  | (.error failure, _) => .fails failure
  | (.ok (.view number), g) =>
    if f.views.length ≤ number ∧ number < g.views.length then .makes (g.view number)
    else .gives (.view number)
  | (.ok value, _) => .gives value

/-- A namespace is known by the same number for good. -/
theorem view_eq_of_prefix {f g : Family} (h : f.views <+: g.views) {number : Nat}
    (hnumber : number < f.views.length) : g.view number = f.view number := by
  obtain ⟨more, hmore⟩ := h
  simp only [view, ← hmore, List.getD_eq_getElem?_getD, List.getElem?_append_left hnumber]

/-- An added namespace is found under the next number. -/
theorem view_append_length (f : Family) (v : View) (s : Session) :
    ({ f with session := s, views := f.views ++ [v] } : Family).view f.views.length = v := by
  simp [view]

/-- What was found is replied, whatever the session holds then. -/
theorem reply_of_settle {op : Operation Family Value} {f : Family} {v : View}
    {found : Except Failure Named × Session} (h : op.outcome f = f.settle v found) :
    reply op f = .ofNamed v found.1 := by
  unfold reply
  rw [h]
  rcases found with ⟨failure | named, s⟩
  · rfl
  · cases named with
    | value value =>
      cases value with
      | view number =>
        have hnone : ¬(f.views.length ≤ number ∧ number < f.views.length) := by omega
        simp only [settle, if_neg hnone, Reply.ofNamed]
      | _ => rfl
    | place segments =>
      have hnew : f.views.length ≤ f.views.length ∧
          f.views.length < (f.views ++ [viewBelow v segments]).length := by simp
      simp only [settle, if_pos hnew, view_append_length, Reply.ofNamed]

/-- A lookup replies what seeking the key answers. -/
theorem reply_lookup {w : World} {f : Family} (hf : f.session.Faithful (f.backing w))
    (number : Nat) (key : Value) :
    reply (lookup w number key) f =
      .ofNamed (f.view number) (f.seek w (f.view number) key).answer := by
  rw [reply_of_settle (outcome_lookup f w number key), (isTransparent_seek f w _ key).outcome_eq hf]

/-- Seeking takes nothing from a family but its environment, parsers and converters. -/
theorem Backs.seek_eq {w : World} {f g : Family} (h : Backs w f g) (v : View) (key : Value) :
    g.seek w v key = f.seek w v key := by
  obtain ⟨environment, parsers, converter, views, session, deliveries⟩ := f
  obtain ⟨environment', parsers', converter', views', session', deliveries'⟩ := g
  obtain ⟨henvironment, hparsers, hconverter, -⟩ := h
  cases henvironment
  cases hparsers
  cases hconverter
  rfl

/-- A lookup replies the same after any browsing. -/
theorem reply_lookup_of_browsed {w : World} {f g : Family} (hf : f.session.Faithful (f.backing w))
    (h : (browsed w).Allows f g) {number : Nat} (hnumber : number < f.views.length)
    (key : Value) : reply (lookup w number key) g = reply (lookup w number key) f := by
  rw [reply_lookup (h.1.faithful hf), reply_lookup hf, view_eq_of_prefix h.2 hnumber, h.1.seek_eq]

/-- A lookup that is repeated reads no documents again. -/
theorem cache_eq_of_repeated {w : World} {f g : Family} (hf : f.session.Faithful (f.backing w))
    (h : (browsed w).Allows f g) {number : Nat} (hnumber : number < f.views.length) {key : Value}
    (hcache : g.session.cache = ((lookup w number key).outcome f).2.session.cache) :
    ((lookup w number key).outcome g).2.session.cache = g.session.cache := by
  have hg := h.1.faithful hf
  rw [h.1.backing_eq] at hg
  rw [outcome_lookup, session_settle, view_eq_of_prefix h.2 hnumber, h.1.seek_eq]
  rw [outcome_lookup, session_settle] at hcache
  exact (isTransparent_seek f w (f.view number) key).cache_eq_of_repeated hf hg hcache

/-- The family with the session as it is but for its documents, which are dropped. -/
def withoutDocuments (f : Family) : Family := { f with session := f.session.withCache .empty }

/-- Forgetting documents is allowed to those who browse. -/
theorem browsed_withoutDocuments (w : World) (f : Family) :
    (browsed w).Allows f f.withoutDocuments :=
  ⟨.of_session rfl rfl rfl fun hf => hf.withoutDocuments, List.prefix_rfl⟩

/-- The cache of documents is transparent. After any history, a lookup replies what it would reply
with no documents in the cache; when it is repeated, it replies the same again and neither parses a
document nor changes what the cache holds. -/
theorem lookup_cacheTransparent {w : World} {f : Family} (hf : Reachable w f) {number : Nat}
    (hnumber : number < f.views.length) (key : Value) :
    reply (lookup w number key) f = reply (lookup w number key) f.withoutDocuments ∧
      reply (lookup w number key) ((lookup w number key).outcome f).2 =
        reply (lookup w number key) f ∧
      ((lookup w number key).outcome ((lookup w number key).outcome f).2).2.session.cache =
        ((lookup w number key).outcome f).2.session.cache := by
  have hfaithful := hf.faithful
  have honce := lookup_follows (w := w) number key f
  refine ⟨?_, ?_, ?_⟩
  · exact (reply_lookup_of_browsed hfaithful (browsed_withoutDocuments w f) hnumber key).symm
  · exact reply_lookup_of_browsed hfaithful honce hnumber key
  · exact cache_eq_of_repeated hfaithful honce hnumber rfl

/-- In the twofold world, where a lookup made a namespace and left a document in the cache. -/
theorem lookup_cacheTransparent_twofold :
    let f := ((lookup .twofold 0 (.str (text "app"))).outcome
      (opened (.at (some (text "M")) []) .default)).2
    let key := Value.str (text "k")
    reply (lookup .twofold 1 key) f = reply (lookup .twofold 1 key) f.withoutDocuments ∧
      reply (lookup .twofold 1 key) ((lookup .twofold 1 key).outcome f).2 =
        reply (lookup .twofold 1 key) f ∧
      ((lookup .twofold 1 key).outcome ((lookup .twofold 1 key).outcome f).2).2.session.cache =
        ((lookup .twofold 1 key).outcome f).2.session.cache := by
  intro f key
  have hstep : Step .twofold (opened (.at (some (text "M")) []) .default) f :=
    .browse (.lookup 0 (.str (text "app")))
  exact lookup_cacheTransparent ((reachable_opened _ _ _).tail hstep) (by decide) key

end Family

end ConfigNamespace
