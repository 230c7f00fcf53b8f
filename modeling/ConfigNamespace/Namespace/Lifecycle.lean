import ConfigNamespace.Namespace.Write

/-!
# Opening namespaces

A namespace is opened for an environment, which may be given as it is, as a mapping, or by the
variables of the process. It is the first of its family. What it sees of its environment includes
its own settings.
-/

namespace ConfigNamespace

/-- What a namespace is opened for. -/
inductive EnvironmentSource
  /-- The variables of the process. -/
  | processVariables
  /-- An environment. -/
  | environment (e : Environment)
  /-- A mapping of settings. -/
  | mapping (entries : List (Value × Value))

/-- The environment that a source stands for. -/
def EnvironmentSource.read (w : World) : EnvironmentSource → Operation Log Environment
  | processVariables => Environment.ofVariables w.processVariables
  | environment e => pure e
  | mapping entries => Environment.ofMapping entries

namespace Family

/-- Opens a namespace, the first of its family. -/
def create (w : World) (source : EnvironmentSource) (parsers : ParserRegistry)
    (converter : TypeConverter) (mode : Value) : Operation Log Family := do
  let e ← source.read w
  let mode ← Operation.ofExcept (FailureMode.read mode)
  ConfigNamespace.note .debug .resolver (text "Namespace created protocol=" ++ text e.protocol.name ++
    text " base=" ++ e.base.quoted ++ text " delimiter=" ++ e.delimiter.quoted)
  let first : View := ⟨[], [], .none, [], mode, false, true⟩
  pure ⟨e, parsers, converter, [first], .empty, []⟩

/-- The environment that a namespace sees. -/
def visibleEnvironment (number : Nat) : Operation Family (List (Value × Value)) := do
  refuseClosed number "environment"
  let f ← get
  let v := f.view number
  let e := { f.environment with root := f.rootOf v, delimiter := f.delimiterOf v }
  pure e.toMapping

end Family

end ConfigNamespace
