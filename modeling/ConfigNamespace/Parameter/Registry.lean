import ConfigNamespace.Keyed
import ConfigNamespace.Log
import ConfigNamespace.Parameter.Basic

/-!
# The registry of parameters

Parameters are registered under names that do not depend on case or on blanks around them. Further
names, their aliases, stand for them; the name of a parameter goes before an alias. Without leave to
override, neither a name nor an alias passes from one parameter to another.
-/

namespace ConfigNamespace

/-- Registered parameters. -/
structure ParameterRegistry where
  /-- The parameters by name. -/
  parameters : Keyed Parameter
  /-- The names that aliases stand for. -/
  aliases : Keyed Text

namespace ParameterRegistry

/-- The registry without parameters. -/
def empty : ParameterRegistry := ⟨[], []⟩

/-- The form of a name that counts. -/
def canonical (name : Text) : Text := name.trim.toUpper

/-- The parameter of a name that counts. -/
def parameter? (registry : ParameterRegistry) (name : Text) : Option Parameter :=
  registry.parameters.get? name

/-- The name that a name or alias stands for. -/
def resolve? (registry : ParameterRegistry) (name : Text) : Option Text :=
  let key := canonical name
  if (registry.parameter? key).isSome then some key else registry.aliases.get? key

/-- Whether a name or alias is known. -/
def has (registry : ParameterRegistry) (name : Text) : Bool := (registry.resolve? name).isSome

/-- The registered names, sorted. -/
def names (registry : ParameterRegistry) : List Text :=
  registry.parameters.keys.mergeSort Text.le

/-- The first alias that stands for another parameter already, with that parameter. -/
def conflict? (registry : ParameterRegistry) (key : Text) (aliases : List Text) :
    Option (Text × Text) :=
  aliases.findSome? fun name =>
    match registry.aliases.get? (canonical name) with
    | some other => if other = key then none else some (name, other)
    | none => none

/-- Adds a parameter and its aliases. -/
def insert (registry : ParameterRegistry) (p : Parameter) (aliases : List Text) :
    ParameterRegistry :=
  let key := canonical p.name
  ⟨Keyed.put key p registry.parameters,
    aliases.foldl (fun entries name => Keyed.put (canonical name) key entries) registry.aliases⟩

/-- Registers a parameter. -/
def register (registry : ParameterRegistry) (p : Parameter) (aliases : List Text)
    (override : Bool) : Operation Log ParameterRegistry := do
  let key := canonical p.name
  note .debug .params (text "Register called: name=" ++ p.name.quoted ++ text " canon=" ++
    key.quoted ++ text " override=" ++ text (if override then "True" else "False") ++
    text " aliases=" ++ roundBrackets (aliases.map Text.quoted))
  if !override && (registry.parameter? key).isSome then
    note .error .params (text "Register failed: " ++ key.quoted ++ text " already registered")
    throw (.duplicateParameter [(p.name, text "Parameter already registered.")])
  match if override then none else registry.conflict? key aliases with
  | some (name, other) =>
    note .error .params (text "Alias conflict: " ++ (canonical name).quoted ++
      text " already points to " ++ other.quoted)
    throw (.rejected [(name, text "Alias already used for " ++ other ++ text ".")] none)
  | none => pure (registry.insert p aliases)

/-- The name that a name or alias stands for; a failure if there is none. -/
def resolve (registry : ParameterRegistry) (name : Text) : Operation Log Text :=
  match registry.resolve? name with
  | some key => pure key
  | none => do
    note .error .params (text "Unknown environment param: " ++ name.quoted ++ text " | specs=" ++
      Text.ofNat registry.parameters.length ++ text " aliases=" ++
      Text.ofNat registry.aliases.length)
    throw (.rejected [(canonical name, text "Unknown environment parameter.")] none)

/-- The parameter of a name or alias; a failure if there is none. -/
def get (registry : ParameterRegistry) (name : Text) : Operation Log Parameter := do
  let key ← registry.resolve name
  match registry.parameter? key with
  | some p => pure p
  | none => throw (.missingKey key.quoted)

/-- The text that a value has to be to name a parameter. -/
def nameOf (views : Nat → Text) : Value → Except Failure Text
  | .str name => .ok name
  | v => .error (.rejected [(v.plain views, text "Parameter name must be a str.")] none)

end ParameterRegistry

/-- How a parameter is described when it is registered by name. -/
structure ParameterOptions where
  /-- The value that stands where none is given. -/
  default : Value
  /-- The types of its values; without them, that of the default. -/
  types : Option ParameterTypes
  /-- A further condition. -/
  validator : Option (Value → Except Failure Bool)
  /-- The bounds, as a row of two numbers. -/
  bounds : Option Value
  /-- The least length or number, instead of bounds. -/
  minLength : Option Quantity
  /-- What the parameter is for. -/
  description : Option Text
  /-- Whether it may be left without a value. -/
  allowsNone : Bool

namespace ParameterOptions

/-- The bounds that a row of two quantities is. -/
def readBounds : Value → Except Failure Bounds
  | .tuple [lower, upper] =>
    match Quantity.ofValue? lower, Quantity.ofValue? upper with
    | some lower, some upper => .ok ⟨lower, upper⟩
    | _, _ => .error .malformedBounds
  | _ => .error .malformedBounds

/-- The bounds that are described. -/
def resolvedBounds (options : ParameterOptions) : Except Failure (Option Bounds) :=
  match options.bounds, options.minLength with
  | none, none => .ok none
  | none, some least => .ok (some ⟨least, .infinity⟩)
  | some bounds, none => (readBounds bounds).map some
  | some bounds, some _ =>
    match readBounds bounds with
    | .ok _ => .error .boundsAndLength
    | .error failure => .error failure

/-- The types that are described. -/
def resolvedTypes (options : ParameterOptions) : ParameterTypes :=
  match options.types, options.default with
  | some types, _ => types
  | none, .none => .anyOf ["str", "int", "float", "bool", "tuple"]
  | none, default => .anyOf [default.typeName]

/-- The parameter that is described. -/
def toParameter (options : ParameterOptions) (name : Text) : Except Failure Parameter :=
  options.resolvedBounds.map fun bounds =>
    { name, default := options.default, types := options.resolvedTypes,
      validator := options.validator, bounds, description := options.description,
      allowsNone := options.allowsNone }

end ParameterOptions

end ConfigNamespace
