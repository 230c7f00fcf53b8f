import ConfigNamespace.Document.Basic
import ConfigNamespace.Keyed

/-!
# Conversion

Documents hold texts. A text is converted by the converter of a type, which is found by the name of
the type whatever its case and the blanks around it. A converter refuses a value by failing; a list
is converted part by part.
-/

namespace ConfigNamespace

/-- What makes a value of a type from a value, as a rule from a text. -/
abbrev Converter := Value → Except Failure Value

namespace Converter

/-- The converter that reads texts. Another value has no blanks around it that could be removed. -/
def ofReader (read : Text → Except Failure Value) : Converter
  | .str raw => read raw
  | v => .error (.noMethod v.typeName "strip")

/-- The text that shows a value plainly: a text as it is. -/
def asText : Converter := fun v => .ok (.str (v.plain fun _ => []))

/-- An integer in decimal digits. -/
def integer : Converter := ofReader fun raw =>
  match readInteger raw with
  | .ok i => .ok (.int i)
  | .error fault => .error (.conversion (.integer fault))

/-- A number in double precision. -/
def double : Converter := ofReader fun raw =>
  match Double.read? raw with
  | some d => .ok (.double d)
  | none => .error (.conversion (.double raw.trim))

/-- The words for what is true. -/
def trueWords : List Text := [text "true", text "yes", text "on", text "1"]

/-- The words for what is false. -/
def falseWords : List Text := [text "false", text "no", text "off", text "0"]

/-- A truth value. -/
def truth : Converter := ofReader fun raw =>
  let word := raw.trim.toLower
  if trueWords.elem word then .ok (.bool true)
  else if falseWords.elem word then .ok (.bool false)
  else .error (.conversion (.bool raw))

/-- A decimal number. -/
def decimal : Converter := ofReader fun raw =>
  match Decimal.read? raw.trim with
  | some d => .ok (.decimal d)
  | none => .error (.conversion (.decimal raw))

/-- A date. -/
def date : Converter := ofReader fun raw =>
  match Date.read raw.trim with
  | .ok d => .ok (.date d)
  | .error fault => .error (.conversion (.calendar fault))

/-- A date with a time of day. -/
def dateTime : Converter := ofReader fun raw =>
  match DateTime.read raw.trim with
  | .ok t => .ok (.dateTime t)
  | .error fault => .error (.conversion (.calendar fault))

/-- A file path. -/
def path : Converter := ofReader fun raw => .ok (.path (.ofText raw.trim))

end Converter

/-- Converters by the name of their type. -/
structure TypeConverter where
  /-- The converters. -/
  converters : Keyed Converter

namespace TypeConverter

/-- The types that come with the library, with their further names. -/
def builtinGroups : List (Converter × List String) := [
  (.asText, ["str", "string", "java.lang.string"]),
  (.integer, ["int", "integer", "long", "short", "byte", "java.lang.integer", "java.lang.long",
    "java.lang.short", "java.lang.byte", "java.math.biginteger"]),
  (.double, ["float", "double", "java.lang.float", "java.lang.double"]),
  (.truth, ["bool", "boolean", "java.lang.boolean"]),
  (.decimal, ["decimal", "java.math.bigdecimal"]),
  (.date, ["date"]),
  (.dateTime, ["datetime"]),
  (.path, ["path", "java.io.file"])]

/-- The converters that come with the library. -/
def builtin : TypeConverter :=
  ⟨builtinGroups.flatMap fun group => group.2.map fun name => (text name, group.1)⟩

/-- The form of a name that counts. -/
def canonical (name : Text) : Text := name.trim.toLower

/-- The converter of a type. -/
def converter? (c : TypeConverter) (name : Text) : Option Converter :=
  c.converters.get? (canonical name)

/-- Whether a type has a converter. -/
def supports (c : TypeConverter) (name : Text) : Bool := (c.converter? name).isSome

/-- Registers a converter. -/
def register (c : TypeConverter) (name : Text) (converter : Supplied Converter) (override : Bool) :
    Except Failure TypeConverter :=
  match converter with
  | .other _ => .error .converterNotCallable
  | .usable converter =>
    if canonical name = [] then .error .emptyTypeName
    else if c.supports name && !override then .error (.converterExists name)
    else .ok ⟨Keyed.put (canonical name) converter c.converters⟩

/-- Converts one value. The refusal of a converter is reported with the value and the type. -/
def apply (converter : Converter) (typeName : Text) (raw : Value) : Except Failure Value :=
  match converter raw with
  | .ok v => .ok v
  | .error failure =>
    if failure.kind.refusesValue then .error (.refusedByConverter raw typeName failure.message)
    else .error failure

/-- Converts values in turn. -/
def applyAll (converter : Converter) (typeName : Text) : List Value → Except Failure (List Value)
  | [] => .ok []
  | raw :: rest =>
    match apply converter typeName raw with
    | .error failure => .error failure
    | .ok v => (applyAll converter typeName rest).map (v :: ·)

/-- The parts of a value that is gone through one by one. -/
def partsOf : Value → Except Failure (List Value)
  | .list vs => .ok vs
  | .tuple vs => .ok vs
  | .dict entries => .ok (entries.map (·.1))
  | .bytes bs => .ok (bs.map fun b => .int b.toNat)
  | v => .error (.notIterable v.typeName)

/-- Converts a value to a type: a text at once, another value part by part. -/
def convert (c : TypeConverter) (raw : Value) (typeName : Text) : Except Failure Value :=
  match c.converter? typeName with
  | none => .error (.unknownType typeName)
  | some converter =>
    match raw with
    | .str _ => apply converter typeName raw
    | _ =>
      match partsOf raw with
      | .error failure => .error failure
      | .ok parts => (applyAll converter typeName parts).map Value.list

end TypeConverter

end ConfigNamespace
