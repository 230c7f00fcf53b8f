import ConfigNamespace.Namespace.Basic
import ConfigNamespace.Namespace.Walk

/-!
# Lookup

A key is looked up among the entries of a namespace first, then among its settings, and then in the
documents beneath the root. There it names a value, a composite, or a further namespace where a
document ends the key.
-/

namespace ConfigNamespace

namespace Family

/-- The segments that a key adds to those of a namespace. -/
def segmentsOf (delimiter key : Text) : Except Failure (List Text) :=
  splitKey delimiter (normalizeKey delimiter key)

/-- Makes a namespace that starts from further segments. -/
def scope (number : Nat) (path : Value) : Operation Family Nat := do
  refuseClosed number "scoped"
  let f ← get
  let v := f.view number
  match path with
  | .str path =>
    let segments ← Operation.ofExcept (segmentsOf (f.delimiterOf v) path)
    addView (viewBelow v (v.segments ++ segments))
  | other => throw (.notText other.typeName)

/-- The value of a document under a key that is no composite: converted to its type, if it has
one. -/
def documentValue (converter : TypeConverter) (d : Document) (key remainder delimiter : Text) :
    Except Failure Value :=
  match d.get? remainder with
  | none => .error (.notInDocument key d.handle.location)
  | some value =>
    match d.get? (typeKey delimiter remainder) with
    | none => .ok value.toValue
    | some (.several _) =>
      .error (.repeatedType d.handle.location (typeKey delimiter remainder))
    | some (.single typeName) => converter.convert value.toValue typeName

/-- Builds the composite that a document holds under a key. -/
def composite (d : Document) (remainder delimiter : Text) : Operation Family Value := do
  let f ← get
  let builder : CompositeBuilder := ⟨f.environment.compositeMarker⟩
  let built ← onSession (Session.onLog (builder.build f.converter d remainder delimiter))
  pure (.composite built)

/-- What a key names beneath the root of a namespace. -/
def resolve (w : World) (v : View) (key : Text) : Operation Family Value := do
  let f ← get
  let delimiter := f.delimiterOf v
  let segments := v.segments ++ (← Operation.ofExcept (segmentsOf delimiter key))
  if segments = [] then
    throw (.noSegment key)
  let (protocol, base) ← Operation.ofExcept (readRoot (f.rootOf v))
  let locator : Locator := ⟨Locator.backendFor f.environment protocol, f.parsers, w⟩
  match ← onSession (locator.walk delimiter base segments) with
  | (none, _) => throw (.notConfigured key)
  | (some handle, rest) =>
    let d ← onSession (locator.load handle delimiter)
    let remainder := joinKey delimiter rest
    let builder : CompositeBuilder := ⟨f.environment.compositeMarker⟩
    if builder.isComposite d remainder delimiter then composite d remainder delimiter
    else if rest = [] then return .view (← addView (viewBelow v segments))
    else Operation.ofExcept (documentValue f.converter d key remainder delimiter)

/-- The value under a key. -/
def lookup (w : World) (number : Nat) (key : Value) : Operation Family Value := do
  refuseClosed number "lookup"
  match key with
  | .str [] => return .view (← scope number (.str []))
  | .str key =>
    let f ← get
    let v := f.view number
    match v.entries.get? key with
    | some value => do
      note .debug (text "Lookup " ++ key.quoted ++ text " served from direct entries")
      pure value
    | none =>
      if key = rootKey then pure (((f.rootOf v).map Value.str).getD .none)
      else if key = delimiterKey then pure (.str (f.delimiterOf v))
      else resolve w v key
  | other => throw (.keyNotText other.typeName)

/-- Whether there is a value under a key. -/
def has (w : World) (number : Nat) (key : Value) : Operation Family Bool :=
  match key with
  | .str (c :: key) => do
    match ← (lookup w number (.str (c :: key))).attempt with
    | .ok _ => pure true
    | .error failure => if failure.kind = .notFound then pure false else throw failure
  | _ => pure false

end Family

end ConfigNamespace
