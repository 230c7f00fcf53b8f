import ConfigNamespace.Key
import ConfigNamespace.Operation

/-!
# The log

What the library does is written to a log. Each record names the part of the library that it comes
from. Values under names of secrets are never written out.
-/

namespace ConfigNamespace

/-- How much a record matters. -/
inductive LogLevel
  /-- Details of the work. -/
  | debug
  /-- Changes that were asked for. -/
  | info
  /-- Something that may be unintended. -/
  | warning
  /-- Something that failed. -/
  | error
  deriving DecidableEq, Repr

/-- The name of a level. -/
def LogLevel.name : LogLevel → String
  | .debug => "DEBUG"
  | .info => "INFO"
  | .warning => "WARNING"
  | .error => "ERROR"

/-- The level of the given name. -/
def LogLevel.ofName? (name : String) : Option LogLevel :=
  [debug, info, warning, error].find? (·.name == name)

/-- The place of a level among the levels. -/
def LogLevel.rank : LogLevel → Nat
  | .debug => 0
  | .info => 1
  | .warning => 2
  | .error => 3

/-- The parts of the library that write to the log. -/
inductive LogSource
  /-- The delivery of changes to hooks. -/
  | hooks
  /-- The registry of parameters. -/
  | params
  /-- Environments. -/
  | environment
  /-- The search for resources. -/
  | locator
  /-- The cache of documents. -/
  | documents
  /-- Composites. -/
  | composite
  /-- Namespaces. -/
  | resolver
  deriving DecidableEq, Repr

/-- The name of a source. -/
def LogSource.name : LogSource → String
  | .hooks => "config_tree.hooks"
  | .params => "config_tree.params"
  | .environment => "config_tree.environment"
  | .locator => "config_tree.locator"
  | .documents => "config_tree.documents"
  | .composite => "config_tree.composite"
  | .resolver => "config_tree.resolver"

/-- A record of the log. -/
structure LogRecord where
  /-- How much the record matters. -/
  level : LogLevel
  /-- Where it comes from. -/
  source : LogSource
  /-- What it says. -/
  message : Text
  deriving DecidableEq

/-- A log, from its oldest record to its newest. -/
abbrev Log := List LogRecord

/-- The records of a level and above. -/
def Log.from (level : LogLevel) (log : Log) : Log :=
  log.filter fun record => level.rank ≤ record.level.rank

/-- Writes a record. -/
def note (level : LogLevel) (source : LogSource) (message : Text) : Operation Log Unit :=
  modify fun log => log ++ [⟨level, source, message⟩]

/-- How the value under a name is shown in the log. -/
def redacted (views : Nat → Text) (name : Text) (value : Value) : Text :=
  if isSecretName name then text "***" else value.spelled views

end ConfigNamespace
