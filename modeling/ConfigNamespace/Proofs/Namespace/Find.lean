import ConfigNamespace.Namespace.Lookup
import ConfigNamespace.Proofs.Lookup.Transparent

/-!
# What a key names

A lookup does two things: it finds what the key names, which is a matter of the session alone, and
it adds a namespace to the family if the key names no value. The first part is an operation of its
own here. It is transparent, and beneath the root the text of the key only counts for its segments
and for the wording of failures.
-/

namespace ConfigNamespace

open Operation

namespace CompositeBuilder

/-- The composite under a key of a document, whatever stands in the log. -/
def built (b : CompositeBuilder) (converter : TypeConverter) (d : Document) (key delimiter : Text) :
    Except Failure (Composite Value) :=
  if key ≠ [] && delimiter = [] then .error .emptySeparator
  else
    (b.attributes converter (sources d key delimiter) delimiter (sources d key delimiter)).map
      fun attributes => ⟨lastSegment delimiter key, key,
        if key = [] then d.handle.location else d.handle.location ++ text "#" ++ key, attributes⟩

/-- Building a composite writes to the log and reads nothing from it. -/
theorem outcome_build (b : CompositeBuilder) (converter : TypeConverter) (d : Document)
    (key delimiter : Text) (log : Log) :
    ((b.build converter d key delimiter).outcome log).1 = b.built converter d key delimiter := by
  unfold build built
  by_cases hseparator : (key ≠ [] && delimiter = []) = true
  · rw [if_pos hseparator, if_pos hseparator]
    rfl
  · rw [if_neg hseparator, if_neg hseparator]
    cases hattributes : b.attributes converter (sources d key delimiter) delimiter
        (sources d key delimiter) with
    | error failure => simp only [hattributes, outcome_bind, outcome_ofExcept, Except.map]
    | ok attributes =>
      simp only [hattributes, outcome_bind, outcome_ofExcept, Except.map]
      rfl

/-- Building a composite tells what is built. -/
theorem build_tells (backing : Backing) (b : CompositeBuilder) (converter : TypeConverter)
    (d : Document) (key delimiter : Text) :
    (Session.onLog (b.build converter d key delimiter)).Tells backing
      (b.built converter d key delimiter) :=
  ⟨.of_outcome _ fun s => ⟨outcome_build b converter d key delimiter s.log, rfl, rfl⟩,
    outcome_build b converter d key delimiter _⟩

end CompositeBuilder

/-- What a key names. -/
inductive Named
  /-- A value. -/
  | value (v : Value)
  /-- A place where keys may go on: the segments that lead there. -/
  | place (segments : List Text)

namespace Family

/-- What the namespaces of a family share in a world. -/
def backing (f : Family) (w : World) : Backing := ⟨f.environment, f.parsers, w⟩

/-- What a document names that segments lead to, where the last ones are the rest of the key. -/
def named (f : Family) (d : Document) (key delimiter : Text) (segments rest : List Text) :
    Operation Session Named :=
  let remainder := joinKey delimiter rest
  let builder : CompositeBuilder := ⟨f.environment.compositeMarker⟩
  if builder.isComposite d remainder delimiter then
    return .value (.composite (← Session.onLog (builder.build f.converter d remainder delimiter)))
  else if rest = [] then pure (.place segments)
  else return .value (← Operation.ofExcept (documentValue f.converter d key remainder delimiter))

/-- What segments name beneath the root of a namespace. -/
def find (f : Family) (w : World) (v : View) (key : Text) (segments : List Text) :
    Operation Session Named := do
  if segments = [] then
    throw (.noSegment key)
  let (protocol, base) ← Operation.ofExcept (readRoot (f.rootOf v))
  match ← ((f.backing w).locator protocol).walk (f.delimiterOf v) base segments with
  | (none, _) => throw (.notConfigured key)
  | (some handle, rest) =>
    let d ← ((f.backing w).locator protocol).load handle (f.delimiterOf v)
    f.named d key (f.delimiterOf v) segments rest

/-- What a key names beneath the root of a namespace. -/
def findKey (f : Family) (w : World) (v : View) (key : Text) : Operation Session Named := do
  let segments ← Operation.ofExcept (segmentsOf (f.delimiterOf v) key)
  f.find w v key (v.segments ++ segments)

/-- What a key names in a namespace. -/
def seek (f : Family) (w : World) (v : View) (key : Value) : Operation Session Named :=
  if v.closed then do
    Session.note .error .resolver (text "Attempted " ++ text "lookup" ++ text " after close.")
    throw .closed
  else
    match key with
    | .str [] => do
      let segments ← Operation.ofExcept (segmentsOf (f.delimiterOf v) [])
      pure (.place (v.segments ++ segments))
    | .str key =>
      match v.entries.get? key with
      | some value => do
        Session.note .debug .resolver
          (text "Lookup " ++ key.quoted ++ text " served from direct entries")
        pure (.value value)
      | none =>
        if key = rootKey then pure (.value (((f.rootOf v).map Value.str).getD .none))
        else if key = delimiterKey then pure (.value (.str (f.delimiterOf v)))
        else f.findKey w v key
    | other => throw (.keyNotText other.typeName)

/-- The family after a key was found in a namespace: a value is given as it is, and for a place a
namespace is added. -/
def settle (f : Family) (v : View) :
    Except Failure Named × Session → Except Failure Value × Family
  | (.error failure, s) => (.error failure, { f with session := s })
  | (.ok (.value value), s) => (.ok value, { f with session := s })
  | (.ok (.place segments), s) =>
    (.ok (.view f.views.length), { f with session := s, views := f.views ++ [viewBelow v segments] })

/-- What is settled has the session of what was found. -/
theorem session_settle (f : Family) (v : View) (found : Except Failure Named × Session) :
    (f.settle v found).2.session = found.2 := by
  rcases found with ⟨failure | named, s⟩
  · rfl
  · cases named <;> rfl

/-- What follows an operation on the session settles what is found if it does after each result. -/
private theorem outcome_bind_onSession {α : Type} {f : Family} {v : View}
    {op : Operation Session α} {next : α → Operation Family Value}
    {found : α → Operation Session Named}
    (h : ∀ a s, (next a).outcome { f with session := s } = f.settle v ((found a).outcome s))
    (s : Session) : (onSession op >>= next).outcome { f with session := s } =
      f.settle v ((op >>= found).outcome s) := by
  rcases hop : op.outcome s with ⟨failure | a, t⟩
  · have hsession : (onSession op).outcome { f with session := s } =
        (.error failure, { f with session := t }) := by
      simp only [onSession, outcome_onPart, hop]
    rw [outcome_bind_error hsession, outcome_bind_error hop]
    rfl
  · have hsession : (onSession op).outcome { f with session := s } =
        (.ok a, { f with session := t }) := by
      simp only [onSession, outcome_onPart, hop]
    rw [outcome_bind_ok hsession, outcome_bind_ok hop]
    exact h a t

/-- What a document names is settled as what was found. -/
private theorem outcome_named (f : Family) (v : View) (d : Document) (key : Text)
    (segments rest : List Text) (s : Session) :
    (if CompositeBuilder.isComposite ⟨f.environment.compositeMarker⟩ d
          (joinKey (f.delimiterOf v) rest) (f.delimiterOf v) then
        composite d (joinKey (f.delimiterOf v) rest) (f.delimiterOf v)
      else if rest = [] then return .view (← addView (viewBelow v segments))
      else Operation.ofExcept (documentValue f.converter d key (joinKey (f.delimiterOf v) rest)
        (f.delimiterOf v)) : Operation Family Value).outcome { f with session := s } =
      f.settle v ((f.named d key (f.delimiterOf v) segments rest).outcome s) := by
  unfold named
  dsimp only
  by_cases hcomposite : CompositeBuilder.isComposite ⟨f.environment.compositeMarker⟩ d
    (joinKey (f.delimiterOf v) rest) (f.delimiterOf v) = true
  · rw [if_pos hcomposite, if_pos hcomposite]
    unfold composite
    rw [outcome_bind_ok (outcome_get _)]
    exact outcome_bind_onSession (fun _ _ => rfl) s
  · rw [if_neg hcomposite, if_neg hcomposite]
    by_cases hrest : rest = []
    · rw [if_pos hrest, if_pos hrest]
      rfl
    · rw [if_neg hrest, if_neg hrest]
      cases hvalue : documentValue f.converter d key (joinKey (f.delimiterOf v) rest)
        (f.delimiterOf v) <;> rfl

/-- Resolving a key settles what it names beneath the root. -/
theorem outcome_resolve (f : Family) (w : World) (v : View) (key : Text) :
    (resolve w v key).outcome f = f.settle v ((f.findKey w v key).outcome f.session) := by
  unfold resolve findKey find
  rw [outcome_bind_ok (outcome_get f)]
  dsimp only
  cases hsegments : segmentsOf (f.delimiterOf v) key with
  | error failure => rfl
  | ok segments =>
    rw [outcome_bind_ok (outcome_ofExcept _ _), outcome_bind_ok (outcome_ofExcept _ _)]
    by_cases hempty : v.segments ++ segments = []
    · rw [if_pos hempty, if_pos hempty]
      rfl
    · rw [if_neg hempty, if_neg hempty]
      cases hroot : readRoot (f.rootOf v) with
      | error failure => rfl
      | ok place =>
        obtain ⟨protocol, base⟩ := place
        rw [outcome_bind_ok (outcome_ofExcept _ _), outcome_bind_ok (outcome_ofExcept _ _)]
        refine outcome_bind_onSession (f := f) (fun found s => ?_) f.session
        obtain ⟨_ | handle, rest⟩ := found
        · rfl
        · exact outcome_bind_onSession (outcome_named f v · key _ rest) s

/-- A closed namespace refuses, and nothing but a record is left of it. -/
theorem outcome_refuseClosed_of_closed {f : Family} {number : Nat}
    (h : (f.view number).closed = true) (operation : String) :
    (refuseClosed number operation).outcome f =
      (.error .closed, ((note .error (text "Attempted " ++ text operation ++
        text " after close.")).outcome f).2) := by
  unfold refuseClosed
  rw [outcome_bind_ok (outcome_get f), if_pos h]
  rfl

/-- An open namespace refuses nothing. -/
theorem outcome_refuseClosed_of_open {f : Family} {number : Nat}
    (h : (f.view number).closed = false) (operation : String) :
    (refuseClosed number operation).outcome f = (.ok (), f) := by
  unfold refuseClosed
  rw [outcome_bind_ok (outcome_get f), if_neg (by simp [h])]
  rfl

/-- What it takes to make a namespace for a path. -/
theorem outcome_scope {f : Family} {number : Nat} (h : (f.view number).closed = false)
    (path : Text) :
    (scope number (.str path)).outcome f =
      match segmentsOf (f.delimiterOf (f.view number)) path with
      | .error failure => (.error failure, f)
      | .ok segments => (.ok f.views.length, { f with views := f.views ++
          [viewBelow (f.view number) ((f.view number).segments ++ segments)] }) := by
  unfold scope
  rw [outcome_bind_ok (outcome_refuseClosed_of_open h _), outcome_bind_ok (outcome_get f)]
  dsimp only
  cases hsegments : segmentsOf (f.delimiterOf (f.view number)) path <;> rfl

/-- A lookup settles what the key names. -/
theorem outcome_lookup (f : Family) (w : World) (number : Nat) (key : Value) :
    (lookup w number key).outcome f =
      f.settle (f.view number) ((f.seek w (f.view number) key).outcome f.session) := by
  unfold lookup seek
  cases hclosed : (f.view number).closed with
  | true =>
    rw [outcome_bind_error (outcome_refuseClosed_of_closed hclosed _), if_pos rfl]
    rfl
  | false =>
    rw [outcome_bind_ok (outcome_refuseClosed_of_open hclosed _), if_neg Bool.false_ne_true]
    cases key with
    | str key =>
      cases key with
      | nil =>
        dsimp only
        rw [outcome_bind, outcome_scope hclosed]
        cases hsegments : segmentsOf (f.delimiterOf (f.view number)) [] <;> rfl
      | cons c key =>
        dsimp only
        rw [outcome_bind_ok (outcome_get f)]
        cases (f.view number).entries.get? (c :: key) with
        | some value => rfl
        | none =>
          dsimp only
          by_cases hroot : c :: key = rootKey
          · rw [if_pos hroot, if_pos hroot]
            rfl
          · rw [if_neg hroot, if_neg hroot]
            by_cases hdelimiter : c :: key = delimiterKey
            · rw [if_pos hdelimiter, if_pos hdelimiter]
              rfl
            · rw [if_neg hdelimiter, if_neg hdelimiter]
              exact outcome_resolve f w _ _
    | _ => rfl

/-- Asking for a key fails as a lookup of it does, unless nothing is found. -/
theorem has_of_lookup_error {w : World} {f g : Family} {number : Nat} {c : CodePoint}
    {rest : Text} {failure : Failure}
    (h : (lookup w number (.str (c :: rest))).outcome f = (.error failure, g))
    (hkind : failure.kind ≠ .notFound) :
    (has w number (.str (c :: rest))).outcome f = (.error failure, g) := by
  have hattempt : (lookup w number (.str (c :: rest))).attempt.outcome f =
      (.ok (.error failure), g) := by rw [outcome_attempt, h]
  unfold has
  rw [outcome_bind_ok hattempt]
  dsimp only
  rw [if_neg hkind, outcome_throw]

/-- What a document names that segments lead to, whatever the session holds. -/
def meaning (f : Family) (d : Document) (key delimiter : Text) (segments rest : List Text) :
    Except Failure Named :=
  let remainder := joinKey delimiter rest
  let builder : CompositeBuilder := ⟨f.environment.compositeMarker⟩
  if builder.isComposite d remainder delimiter then
    (builder.built f.converter d remainder delimiter).map fun c => .value (.composite c)
  else if rest = [] then .ok (.place segments)
  else (documentValue f.converter d key remainder delimiter).map .value

/-- What a document is taken to name is its meaning. -/
theorem named_tells (b : Backing) (f : Family) (d : Document) (key delimiter : Text)
    (segments rest : List Text) :
    (f.named d key delimiter segments rest).Tells b (f.meaning d key delimiter segments rest) := by
  unfold named meaning
  dsimp only
  split
  · exact (CompositeBuilder.build_tells b _ _ _ _ _).map _
  · split
    · exact .pure _
    · exact (Tells.ofExcept rfl).map _

/-- Finding what segments name is transparent. -/
theorem isTransparent_find (f : Family) (w : World) (v : View) (key : Text)
    (segments : List Text) : (f.find w v key segments).IsTransparent (f.backing w) := by
  refine .ite (fun _ => .bind (.throw _) fun _ hthrown => by cases hthrown) fun _ => ?_
  refine .bind (.ofExcept _) fun place _ => ?_
  obtain ⟨protocol, base⟩ := place
  refine .bind (Locator.isTransparent_walk _ _ _) fun found hfound => ?_
  obtain ⟨_ | handle, rest⟩ := found
  · exact .throw _
  · obtain ⟨path, name, hchild⟩ := Locator.child_of_walk (mayGive_of_answer hfound)
    obtain rfl := Locator.protocol_of_child hchild
    exact .bind (Locator.isTransparent_load _ _) fun d _ => (named_tells _ _ _ _ _ _ _).isTransparent

/-- What is found beneath the root, by where the walk ends. -/
theorem answer_find {f : Family} {w : World} {v : View} {key base : Text} {p : Protocol}
    {segments rest : List Text} {found : Option ResourceHandle} (hne : segments ≠ [])
    (hroot : readRoot (f.rootOf v) = .ok (p, base))
    (hwalk : (((f.backing w).locator p).walk (f.delimiterOf v) base segments).answer =
      .ok (found, rest)) :
    (f.find w v key segments).answer =
      found.elim (.error (.notConfigured key)) fun h =>
        (((f.backing w).locator h.protocol).load h (f.delimiterOf v)).answer.bind
          fun d => f.meaning d key (f.delimiterOf v) segments rest := by
  have hwalk' : (((f.backing w).locator p).walk (f.delimiterOf v) base segments).Tells
      (f.backing w) (.ok (found, rest)) := ⟨Locator.isTransparent_walk _ _ _, hwalk⟩
  unfold find
  rw [if_neg hne]
  cases found with
  | none => exact (Tells.bind (.ofExcept hroot) (.bind hwalk' (.throw _))).answer_eq
  | some h =>
    obtain ⟨path, name, hchild⟩ := Locator.child_of_walk (mayGive_of_answer hwalk)
    obtain rfl := Locator.protocol_of_child hchild
    have hload := Locator.isTransparent_load (b := f.backing w) h (f.delimiterOf v)
    rw [Option.elim_some]
    cases hdocument : (((f.backing w).locator h.protocol).load h (f.delimiterOf v)).answer with
    | error failure =>
      refine (Tells.bind (.ofExcept hroot) (.bind hwalk' ?_)).answer_eq
      exact .bind_error ⟨hload, hdocument⟩
    | ok d =>
      refine (Tells.bind (.ofExcept hroot) (.bind hwalk' ?_)).answer_eq
      exact .bind ⟨hload, hdocument⟩ (named_tells _ _ _ _ _ _ _)

/-- Seeking is transparent. -/
theorem isTransparent_seek (f : Family) (w : World) (v : View) (key : Value) :
    (f.seek w v key).IsTransparent (f.backing w) := by
  refine .ite (fun _ => .bind (.note _ _ _) fun _ _ => .throw _) fun _ => ?_
  split
  · exact .bind (.ofExcept _) fun _ _ => .pure _
  · split
    · exact .bind (.note _ _ _) fun _ _ => .pure _
    · refine .ite (fun _ => .pure _) fun _ => .ite (fun _ => .pure _) fun _ => ?_
      exact .bind (.ofExcept _) fun _ _ => isTransparent_find _ _ _ _ _
  · exact .throw _

end Family

end ConfigNamespace
