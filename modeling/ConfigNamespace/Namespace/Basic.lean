import ConfigNamespace.Composite
import ConfigNamespace.Environment
import ConfigNamespace.Hook
import ConfigNamespace.Lookup.Locator

/-!
# Namespaces

A namespace sees the resources of an environment from some segments on, and shadows them by entries
of its own. Namespaces come in families: a lookup may answer with a further namespace that shares
the environment, the parsers, the converters and the documents of the first one, but has its own
entries, settings and hooks. A namespace of a family is known by its number.
-/

namespace ConfigNamespace

/-- A change of a namespace, as hooks are told of it. -/
inductive Change
  /-- A value was put under a new key. -/
  | bind (key : Text) (value : Value)
  /-- A value was put under a key. -/
  | rebind (key : Text) (value : Value)
  /-- A key was taken away. -/
  | unbind (key : Text)
  /-- A value was moved from one key to another. -/
  | rename (key newKey : Text)

namespace Change

/-- The name of a change. -/
def action : Change → String
  | bind _ _ => "bind"
  | rebind _ _ => "rebind"
  | unbind _ => "unbind"
  | rename _ _ => "rename"

/-- The key that a change is about. -/
def key : Change → Text
  | bind key _ => key
  | rebind key _ => key
  | unbind key => key
  | rename key _ => key

/-- The value that a change puts under its key. -/
def value? : Change → Option Value
  | bind _ v => some v
  | rebind _ v => some v
  | _ => none

/-- A change as a mapping. -/
def toValue (c : Change) : Value :=
  .ofEntries ([(text "action", .str (text c.action)), (text "key", .str c.key)] ++
    (match c with
    | bind _ v | rebind _ v => [(text "value", v)]
    | unbind _ => []
    | rename _ newKey => [(text "new_key", .str newKey)]))

end Change

/-- What may be asked of a namespace that changes it. Keys may be any values, because they are
judged by the namespace. -/
inductive Write
  /-- Puts a value under a key that is not bound. -/
  | bind (key value : Value)
  /-- Puts a value under a key. -/
  | rebind (key value : Value)
  /-- Takes a key away. -/
  | unbind (key : Value)
  /-- Moves a value from one key to another. -/
  | rename (old new : Value)
  /-- Closes the namespace. -/
  | close

/-- The settings that a namespace has of its own. -/
structure Overrides where
  /-- The root, if it is set here; it may be set to none. -/
  root : Option (Option Text)
  /-- The delimiter, if it is set here. -/
  delimiter : Option Text
  deriving DecidableEq

namespace Overrides

/-- No settings. -/
def none : Overrides := ⟨Option.none, Option.none⟩

/-- The settings with a judged value under a reserved key. -/
def put (overrides : Overrides) (key : Text) (value : Value) : Overrides :=
  if key = rootKey then { overrides with root := some value.text? }
  else { overrides with delimiter := value.text? }

/-- Whether a setting is set. -/
def has (overrides : Overrides) (key : Text) : Bool :=
  if key = rootKey then overrides.root.isSome
  else key = delimiterKey && overrides.delimiter.isSome

/-- The settings without the one under a key. -/
def remove (overrides : Overrides) (key : Text) : Overrides :=
  if key = rootKey then { overrides with root := Option.none }
  else if key = delimiterKey then { overrides with delimiter := Option.none }
  else overrides

end Overrides

/-- A namespace. -/
structure View where
  /-- The segments that lookups start from. -/
  segments : List Text
  /-- The values that were put under keys, in order. -/
  entries : Keyed Value
  /-- The settings of its own. -/
  overrides : Overrides
  /-- What is told of changes. -/
  hooks : List (Hook Change Write)
  /-- What failing hooks mean. -/
  mode : FailureMode
  /-- Whether it was closed. -/
  closed : Bool
  /-- Whether closing it closes the archives of the family too. -/
  isOwner : Bool

instance : Inhabited View := ⟨⟨[], [], .none, [], .ignore, false, false⟩⟩

/-- A family of namespaces. -/
structure Family where
  /-- The environment that is shared. -/
  environment : Environment
  /-- The parsers of documents. -/
  parsers : ParserRegistry
  /-- The converters of values. -/
  converter : TypeConverter
  /-- The namespaces by number. -/
  views : List View
  /-- What lookups left behind. -/
  session : Session
  /-- What hooks were told. -/
  deliveries : List (Delivery Change)

namespace Family

/-- The namespace of a number. -/
def view (f : Family) (number : Nat) : View := f.views.getD number default

/-- A namespace spelled out. -/
def spelledView (f : Family) (number : Nat) : Text :=
  let v := f.view number
  text "<Namespace protocol=" ++ text f.environment.protocol.name ++ text " prefix=" ++
  (Text.joinWith (text "/") v.segments).quoted ++ text " entries=" ++
  Text.ofNat v.entries.length ++ text " closed=" ++ text (if v.closed then "True" else "False") ++
  text ">"

/-- Changes the namespace of a number. -/
def modifyView (number : Nat) (change : View → View) : Operation Family Unit :=
  modify fun f => { f with views := f.views.modify number change }

/-- An operation on the session. -/
def onSession {α : Type} (op : Operation Session α) : Operation Family α :=
  op.onPart Family.session fun f session => { f with session }

/-- Writes a record. -/
def note (level : LogLevel) (message : Text) : Operation Family Unit :=
  onSession (Session.note level .resolver message)

/-- Adds a namespace to the family. -/
def addView (v : View) : Operation Family Nat := do
  let number := (← get).views.length
  modify fun f => { f with views := f.views ++ [v] }
  pure number

/-- A further namespace with the settings of another one. -/
def viewBelow (parent : View) (segments : List Text) : View :=
  ⟨segments, [], parent.overrides, [], parent.mode, false, false⟩

/-- Refuses an operation on a closed namespace. -/
def refuseClosed (number : Nat) (operation : String) : Operation Family Unit := do
  if ((← get).view number).closed then
    note .error (text "Attempted " ++ text operation ++ text " after close.")
    throw .closed

/-- The root that counts in a namespace. -/
def rootOf (f : Family) (v : View) : Option Text := v.overrides.root.getD f.environment.root

/-- The delimiter that counts in a namespace. -/
def delimiterOf (f : Family) (v : View) : Text :=
  v.overrides.delimiter.getD f.environment.delimiter

end Family

end ConfigNamespace
