import ConfigNamespace.Parameter.Builtin
import ConfigNamespace.Resource.Root
import ConfigNamespace.Value.Equality

/-!
# Environments

An environment configures a namespace. It is made from settings, which may hold any values: each is
judged by its parameter, all problems are reported together, and what is accepted has the types of
the fields below. Further values are kept untouched as extras.
-/

namespace ConfigNamespace

/-- The configuration of a namespace. -/
structure Environment where
  /-- Where resources begin. -/
  root : Option Text
  /-- The delimiter of keys. -/
  delimiter : Text
  /-- The seconds that a remote request may take. -/
  timeout : Quantity
  /-- The directories and archives of bundled resources; the one of the process without it. -/
  searchPath : Option (List Text)
  /-- The word that marks composites. -/
  compositeMarker : Text
  /-- Further values by key. -/
  extras : List (Value × Value)

/-- Values for the fields of an environment that are not judged yet. -/
structure Settings where
  /-- The root. -/
  root : Value
  /-- The delimiter. -/
  delimiter : Value
  /-- The timeout. -/
  timeout : Value
  /-- The search path. -/
  searchPath : Value
  /-- The word that marks composites. -/
  compositeMarker : Value
  /-- The extras. -/
  extras : Value

/-- The key of the root in a mapping of settings. -/
def rootKey : Text := text "config_tree.root"

/-- The key of the delimiter in a mapping of settings. -/
def delimiterKey : Text := text "config_tree.delimiter"

/-- The keys that belong to the configuration and not to entries. -/
def reservedKeys : List Text := [rootKey, delimiterKey]

namespace Settings

/-- The settings where nothing is given. -/
def default : Settings :=
  ⟨Parameter.root.default, Parameter.delimiter.default, Parameter.timeout.default,
    Parameter.searchPath.default, Parameter.compositeMarker.default, .dict []⟩

/-- The values of the settings with their parameters. -/
def judged (s : Settings) : List (Parameter × Value) := [
  (.root, s.root), (.delimiter, s.delimiter), (.timeout, s.timeout),
  (.searchPath, s.searchPath), (.compositeMarker, s.compositeMarker)]

/-- The problems of the settings. -/
def problems (s : Settings) : List (Text × Text) :=
  s.judged.filterMap fun entry =>
    (entry.1.problem? entry.2).map fun problem => (entry.1.name, problem.message)

/-- Replaces the setting of the given field. -/
def set (s : Settings) (field : Text) (value : Value) : Except Failure Settings :=
  if field = text "root" then .ok { s with root := value }
  else if field = text "delimiter" then .ok { s with delimiter := value }
  else if field = text "timeout" then .ok { s with timeout := value }
  else if field = text "search_path" then .ok { s with searchPath := value }
  else if field = text "composite_marker" then .ok { s with compositeMarker := value }
  else if field = text "extras" then .ok { s with extras := value }
  else .error (.unknownField field)

/-- Replaces several settings. -/
def setAll (s : Settings) : List (Text × Value) → Except Failure Settings
  | [] => .ok s
  | (field, value) :: rest =>
    match s.set field value with
    | .ok s => s.setAll rest
    | .error failure => .error failure

/-- The texts of a row of texts. -/
def textsOf : Value → Option (List Text)
  | .list vs => some (vs.filterMap Value.text?)
  | .tuple vs => some (vs.filterMap Value.text?)
  | _ => none

/-- The environment of settings that have no problems. -/
def toEnvironment (s : Settings) : Except Failure Environment :=
  match s.extras with
  | .dict extras => .ok {
      root := s.root.text?
      delimiter := s.delimiter.text?.getD []
      timeout := (Quantity.ofValue? s.timeout).getD (.whole 10)
      searchPath := textsOf s.searchPath
      compositeMarker := s.compositeMarker.text?.getD []
      extras }
  | other => .error (.notIterable other.typeName)

end Settings

namespace Environment

/-- The environment of the given settings. -/
def ofSettings (s : Settings) : Operation Log Environment := do
  if s.problems ≠ [] then
    note .error .environment (text "Environment rejected: " ++ shownErrors s.problems)
    throw (.rejected s.problems none)
  let _ ← Operation.ofExcept (readRoot s.root.text?)
  Operation.ofExcept s.toEnvironment

/-- The environment with the given fields, and what stands where nothing is given. -/
def ofFields (fields : List (Text × Value)) : Operation Log Environment := do
  ofSettings (← Operation.ofExcept (Settings.default.setAll fields))

/-- The settings of an environment. -/
def toSettings (e : Environment) : Settings :=
  ⟨(e.root.map Value.str).getD .none, .str e.delimiter, e.timeout.toValue,
    (e.searchPath.map Value.rowOfTexts).getD .none,
    .str e.compositeMarker, .dict e.extras⟩

/-- The environment with some fields replaced. -/
def replace (e : Environment) (fields : List (Text × Value)) : Operation Log Environment := do
  ofSettings (← Operation.ofExcept (e.toSettings.setAll fields))

/-- The key that a value is in a mapping of settings: a text may name a parameter, a row of bytes
names none, and anything else cannot be a key. -/
def settingName? : Value → Except Failure (Option Text)
  | .str name => .ok (some name)
  | .bytes _ => .ok none
  | v => .error (.noMethod v.typeName "strip")

/-- Splits a mapping into values for fields and extras. -/
def splitMapping : List (Value × Value) →
    Except Failure (List (Text × Value) × List (Value × Value))
  | [] => .ok ([], [])
  | (key, value) :: rest => do
    let name ← settingName? key
    let (fields, extras) ← splitMapping rest
    match name.bind ParameterRegistry.builtin.resolve? with
    | some name => .ok ((name.toLower, value) :: fields, extras)
    | none => .ok (fields, (key, value) :: extras)

/-- The order of shown keys. -/
def keyLe (a b : Value) : Bool :=
  match a, b with
  | .str a, .str b => Text.le a b
  | .bytes a, .bytes b => Text.le (a.map fun n => .ofNat n.toNat) (b.map fun n => .ofNat n.toNat)
  | _, _ => true

/-- Keys in the order in which they are shown. Texts and rows of bytes have none among each other. -/
def orderedKeys : List Value → Except Failure (List Value)
  | [] => .ok []
  | first :: rest =>
    match rest.find? fun key => key.typeName ≠ first.typeName with
    | some other => .error (.notOrdered other.typeName first.typeName)
    | none => .ok ((first :: rest).mergeSort keyLe)

/-- The environment of a mapping. Keys that name parameters, by whatever alias, are settings, and
all others are extras. -/
def ofMapping (mapping : List (Value × Value)) : Operation Log Environment := do
  let (fields, extras) ← Operation.ofExcept (splitMapping mapping)
  if extras ≠ [] then
    let shown ← Operation.ofExcept (orderedKeys (extras.map (·.1)))
    note .debug .environment
      (text "Environment extras kept as-is: " ++ (Value.list shown).spelled fun _ => [])
  ofFields (fields ++ [(text "extras", .dict extras)])

/-- The beginning of the names of variables that configure a namespace. -/
def variableStem : Text := text "CONFIG_TREE_"

/-- The fields that the variables of a process set. -/
def variableFields (given : Keyed Text) : Except Failure (List (Text × Value)) := do
  let lookup? (name : String) := given.get? (variableStem ++ text name)
  let field (name : String) (value : Option Value) : List (Text × Value) :=
    (value.map fun value => (text name, value)).toList
  let timeout ← match lookup? "TIMEOUT" with
    | none => pure none
    | some raw =>
      match Double.read? raw with
      | some d => pure (some (Value.double d))
      | none => .error (.rejected [(text "TIMEOUT", text "Not a number: " ++ raw.quoted)] none)
  let searchPath := (lookup? "SEARCH_PATH").map fun raw =>
    Value.rowOfTexts ((Text.pieces [':'] raw).filter (· ≠ []))
  pure (field "root" ((lookup? "ROOT").map Value.str) ++
    field "delimiter" ((lookup? "DELIMITER").map Value.str) ++ field "timeout" timeout ++
    field "search_path" searchPath)

/-- The environment of the variables of a process. -/
def ofVariables (given : Keyed Text) : Operation Log Environment := do
  ofFields (← Operation.ofExcept (variableFields given))

/-- Puts a value under a key of any type. -/
def putValue (key value : Value) : List (Value × Value) → List (Value × Value)
  | [] => [(key, value)]
  | (k, v) :: entries =>
    if k.same key then (k, value) :: entries else (k, v) :: putValue key value entries

/-- An environment as a mapping: the extras, then the settings. -/
def toMapping (e : Environment) : List (Value × Value) :=
  let s := e.toSettings
  let settings : List (Text × Value) := [
    (rootKey, s.root), (delimiterKey, s.delimiter), (text "config_tree.timeout", s.timeout),
    (text "config_tree.search_path", s.searchPath),
    (text "config_tree.composite_marker", s.compositeMarker)]
  settings.foldl (fun entries setting => putValue (.str setting.1) setting.2 entries) e.extras

/-- The protocol and base of the root; those of no root if it is not supported. -/
def rootParts (e : Environment) : Protocol × Text :=
  match readRoot e.root with
  | .ok parts => parts
  | .error _ => (.bundled, [])

/-- The protocol of the root. -/
def protocol (e : Environment) : Protocol := e.rootParts.1

/-- The base of the root. -/
def base (e : Environment) : Text := e.rootParts.2

end Environment

end ConfigNamespace
