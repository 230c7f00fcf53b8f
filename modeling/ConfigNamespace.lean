import ConfigNamespace.Lock
import ConfigNamespace.Mapping
import ConfigNamespace.Namespace.Lifecycle
import ConfigNamespace.Namespace.Listing
import ConfigNamespace.Proofs.Namespace.Change
import ConfigNamespace.Proofs.Namespace.Write
import ConfigNamespace.Proofs.Namespace.Find
import ConfigNamespace.Proofs.Hook
import ConfigNamespace.Proofs.Namespace.History
import ConfigNamespace.Proofs.Key
import ConfigNamespace.Proofs.Namespace.Reply
import ConfigNamespace.Proofs.Namespace.Scope
import ConfigNamespace.Proofs.Resource.Place
import ConfigNamespace.Proofs.Lookup.Confinement
import ConfigNamespace.Proofs.Namespace.Confinement
import ConfigNamespace.Proofs.World.Node
import ConfigNamespace.Proofs.Lookup.Sight
import ConfigNamespace.Proofs.Lookup.TreeWalk
import ConfigNamespace.Proofs.Namespace.Mirrored
import ConfigNamespace.Proofs.Namespace.Isolation
import ConfigNamespace.Proofs.Namespace.Closed
import ConfigNamespace.Proofs.Namespace.Alike
import ConfigNamespace.Proofs.Namespace.Discreet
import ConfigNamespace.Proofs.Namespace.Replay
import ConfigNamespace.Proofs.Lookup.Stored
import ConfigNamespace.Proofs.Namespace.Stored
import ConfigNamespace.Proofs.Namespace.Attributes
import ConfigNamespace.Proofs.Document.Grouping
import ConfigNamespace.Proofs.Format.Properties
import ConfigNamespace.Proofs.Format.Spelled
import ConfigNamespace.Proofs.Format.Sections
import ConfigNamespace.Proofs.Namespace.Refusal
import ConfigNamespace.Proofs.Environment
import ConfigNamespace.Proofs.Namespace.Sound
import ConfigNamespace.Proofs.Lookup.Failing
import ConfigNamespace.Proofs.Namespace.Failing
import ConfigNamespace.Proofs.Namespace.Settings
import ConfigNamespace.Proofs.Namespace.Shadowing
import ConfigNamespace.Proofs.Lookup.CacheHistory
import ConfigNamespace.Proofs.Lock.Exclusion
import ConfigNamespace.Proofs.Lock.Passing
import ConfigNamespace.Proofs.Namespace.Timeout
import ConfigNamespace.Proofs.Document.Placed
import ConfigNamespace.Proofs.Markup.Element
import ConfigNamespace.Proofs.Document.Respelled
import ConfigNamespace.Proofs.Format.Structured
import ConfigNamespace.Proofs.Namespace.Delimiter
import ConfigNamespace.Proofs.Markup.Content
import ConfigNamespace.Proofs.Markup.Refusal
import ConfigNamespace.Proofs.Format.Reported
import ConfigNamespace.Proofs.Lookup.LocalWalk
import ConfigNamespace.Proofs.Namespace.Naming
import ConfigNamespace.Proofs.Environment.Limits
import ConfigNamespace.Proofs.Parameter.Registry
import ConfigNamespace.Proofs.Format.Registry
import ConfigNamespace.Proofs.Lookup.Descent
import ConfigNamespace.Proofs.Format.Separated
import ConfigNamespace.Proofs.Format.Concatenated
import ConfigNamespace.Proofs.Namespace.Scheme
import ConfigNamespace.Proofs.Namespace.HeadRefused
import ConfigNamespace.Proofs.Composite
import ConfigNamespace.Proofs.Format.Colon
import ConfigNamespace.Proofs.Format.Assigned
import ConfigNamespace.Proofs.Environment.Exported
import ConfigNamespace.Proofs.Namespace.Exported
import ConfigNamespace.Proofs.Lookup.Distinct
import ConfigNamespace.Proofs.Lookup.FirstFile
import ConfigNamespace.Proofs.Hook.Calls
import ConfigNamespace.Proofs.Parameter.Consistency
import ConfigNamespace.Proofs.Lookup.Remainder
import ConfigNamespace.Proofs.Document.Grouped
