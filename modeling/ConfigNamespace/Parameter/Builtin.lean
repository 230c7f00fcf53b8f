import ConfigNamespace.Parameter.Registry

/-!
# The parameters of an environment

Five parameters configure a namespace: its root, the delimiter of its keys, the timeout of remote
requests, the search path of bundled resources, and the word that marks composites.
-/

namespace ConfigNamespace

namespace Parameter

/-- The root of the namespace. -/
def root : Parameter :=
  ⟨text "ROOT", .none, .anyOf ["str"], none, none,
    some (text "Namespace root: a path or scheme://path. None means bundled resources."), true⟩

/-- The delimiter of keys. -/
def delimiter : Parameter :=
  ⟨text "DELIMITER", .str (text "."), .anyOf ["str"], none, some ⟨.int 1, .infinity⟩,
    some (text "Separator between lookup key segments."), false⟩

/-- The timeout of a remote request. -/
def timeout : Parameter :=
  ⟨text "TIMEOUT", (Quantity.whole 10).toValue, .anyOf ["int", "float"], none,
    some ⟨.tenth, .whole 600⟩, some (text "Seconds allowed for a single remote fetch."), false⟩

/-- Whether all parts of a row are texts. -/
def allTexts : Value → Bool
  | .list vs => vs.all fun v => v.text?.isSome
  | .tuple vs => vs.all fun v => v.text?.isSome
  | _ => false

/-- The search path of bundled resources. -/
def searchPath : Parameter :=
  ⟨text "SEARCH_PATH", .none, .anyOf ["list", "tuple"], some fun v => .ok (allTexts v), none,
    some (text
      "Directories or zip archives searched for bundled resources. None means sys.path."), true⟩

/-- The word that marks composites. -/
def compositeMarker : Parameter :=
  ⟨text "COMPOSITE_MARKER", .str (text "composite"), .anyOf ["str"], none,
    some ⟨.int 1, .infinity⟩,
    some (text "Value of a \x60<key>.type\x60 entry that marks a composite resource."), false⟩

end Parameter

/-- The registry of the parameters of an environment. Each has two aliases: one for mappings of
settings, and its plain name. -/
def ParameterRegistry.builtin : ParameterRegistry :=
  let add (registry : ParameterRegistry) (p : Parameter) (name : String) : ParameterRegistry :=
    registry.insert p [text "config_tree." ++ text name, text name]
  add (add (add (add (add .empty .root "root") .delimiter "delimiter") .timeout "timeout")
    .searchPath "search_path") .compositeMarker "composite_marker"

end ConfigNamespace
