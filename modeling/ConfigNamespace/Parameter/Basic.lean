import ConfigNamespace.Value.Printer
import ConfigNamespace.Value.Quantity
import ConfigNamespace.Failure

/-!
# Parameters

A parameter of an environment says which values are acceptable for it: their types, their bounds
and a further condition. Bounds limit the length of texts and rows and the value of numbers. A
value that is not acceptable has a problem, and the first one found is reported.
-/

namespace ConfigNamespace

/-- The types that values of a parameter may have. -/
inductive ParameterTypes
  /-- Any of the types with these names. -/
  | anyOf (names : List String)
  /-- Something that is no type, so that no value can be judged. -/
  | unusable (name : Text)

/-- The type with a name; a name that is none of a type is unusable. -/
def ParameterTypes.ofName (name : String) : ParameterTypes :=
  if ["str", "int", "float", "bool", "list", "tuple", "dict", "NoneType"].elem name then
    anyOf [name]
  else unusable (text name)

/-- The names of the types that values may have. -/
def ParameterTypes.names : ParameterTypes → List Text
  | anyOf names => names.map text
  | unusable name => [name]

/-- A least and a greatest quantity. -/
structure Bounds where
  /-- The least quantity. -/
  lower : Quantity
  /-- The greatest quantity. -/
  upper : Quantity

/-- Whether a quantity lies within bounds. -/
def Bounds.hold (bounds : Bounds) (q : Quantity) : Bool := bounds.lower.le q && q.le bounds.upper

/-- Written bounds. -/
def Bounds.render (bounds : Bounds) : Text :=
  text "[" ++ bounds.lower.render ++ text ", " ++ bounds.upper.render ++ text "]"

/-- A parameter. -/
structure Parameter where
  /-- The name under which it was registered. -/
  name : Text
  /-- The value that stands where none is given. -/
  default : Value
  /-- The types of its values. -/
  types : ParameterTypes
  /-- A further condition, which may also fail. -/
  validator : Option (Value → Except Failure Bool)
  /-- The bounds of its values. -/
  bounds : Option Bounds
  /-- What it is for. -/
  description : Option Text
  /-- Whether it may be left without a value. -/
  allowsNone : Bool

/-- Why a value is not acceptable. -/
inductive ParameterProblem
  /-- There is no value. -/
  | missing
  /-- The value has none of the expected types. -/
  | wrongType (expected : List String) (actual : String)
  /-- The types are unusable. -/
  | unusableTypes (name : Text)
  /-- The length of a text or row is out of bounds. -/
  | lengthOutside (length : Nat) (bounds : Bounds)
  /-- A number is out of bounds. -/
  | outside (quantity : Quantity) (bounds : Bounds)
  /-- The condition does not hold. -/
  | refused
  /-- The condition fails. -/
  | failed (failure : Failure)

/-- The wording of a problem. -/
def ParameterProblem.message : ParameterProblem → Text
  | missing => text "must be set for the namespace"
  | wrongType expected actual =>
    text "expected " ++ Text.joinWith (text " or ") (expected.map text) ++ text ", got " ++
    text actual
  | unusableTypes name => text "unusable value_type " ++ name.quoted
  | lengthOutside length bounds =>
    text "length " ++ Text.ofNat length ++ text " outside " ++ bounds.render
  | outside quantity bounds => quantity.render ++ text " outside " ++ bounds.render
  | refused => text "rejected by validator"
  | failed failure => text "rejected by validator: " ++ failure.message

namespace Value

/-- Whether a value has the type of the given name. A truth value is an integer too. -/
def hasType (v : Value) (name : String) : Bool :=
  v.typeName == name || (v.typeName == "bool" && name == "int")

/-- The length of a text or row. -/
def length? : Value → Option Nat
  | .str s => some s.length
  | .list vs => some vs.length
  | .tuple vs => some vs.length
  | _ => Option.none

/-- The quantity of a value that is a number by its own type. -/
def measure? : Value → Option Quantity
  | .int i => some (.int i)
  | .double d => some (.double d)
  | _ => Option.none

end Value

namespace Parameter

/-- The problem with the type of a value. -/
def typeProblem? (p : Parameter) (v : Value) : Option ParameterProblem :=
  match p.types with
  | .unusable name => some (.unusableTypes name)
  | .anyOf names => if names.any v.hasType then none else some (.wrongType names v.typeName)

/-- The problem with the bounds of a value. -/
def boundsProblem? (p : Parameter) (v : Value) : Option ParameterProblem :=
  match p.bounds with
  | none => none
  | some bounds =>
    match v.length?, v.measure? with
    | some length, _ =>
      if bounds.hold (.int length) then none else some (.lengthOutside length bounds)
    | none, some q => if bounds.hold q then none else some (.outside q bounds)
    | none, none => none

/-- The problem with the further condition on a value. -/
def validatorProblem? (p : Parameter) (v : Value) : Option ParameterProblem :=
  match p.validator with
  | none => none
  | some validator =>
    match validator v with
    | .ok true => none
    | .ok false => some .refused
    | .error failure => some (.failed failure)

/-- The first problem with a value. -/
def problem? (p : Parameter) (v : Value) : Option ParameterProblem :=
  match v with
  | .none => if p.allowsNone then none else some .missing
  | v => p.typeProblem? v <|> p.boundsProblem? v <|> p.validatorProblem? v

/-- Refuses a value with a problem. -/
def validate (views : Nat → Text) (p : Parameter) (v : Value) : Except Failure Unit :=
  match p.problem? v with
  | none => .ok ()
  | some problem =>
    .error (.rejected [(p.name, problem.message)]
      (match v with
      | .none => none
      | v => some (p.name, v.plain views)))

/-- What a parameter says of itself, as a mapping. -/
def toValue (p : Parameter) : Value :=
  .ofEntries [
    (text "name", .str p.name), (text "default", p.default),
    (text "types", .ofTexts p.types.names),
    (text "bounds", (p.bounds.map fun bounds =>
      Value.tuple [bounds.lower.toValue, bounds.upper.toValue]).getD .none),
    (text "description", (p.description.map Value.str).getD .none),
    (text "allow_none", .bool p.allowsNone)]

end Parameter

end ConfigNamespace
