import ConfigNamespace.Failure

/-!
# Roots

The root of a namespace says where its resources begin: a protocol and a base. Without a root,
resources are bundled and have an empty base; a root without a scheme is a local path.
-/

namespace ConfigNamespace

/-- The protocols by scheme. -/
def schemes : List (Text × Protocol) := [
  (text "file", .localPath), (text "classpath", .bundled), (text "bundle", .bundled),
  (text "http", .remote), (text "https", .remote)]

/-- The base of a root, for the part of it that follows the scheme. A remote base is the whole root,
so that names can be appended to it. -/
def rootBase (protocol : Protocol) (root rest : Text) : Text :=
  match protocol with
  | .localPath => rest
  | .bundled => Text.trimEndChar '/' (Text.trimStartChar '/' rest)
  | .remote => Text.trimEndChar '/' root

/-- The protocol and base of a root. -/
def readRoot : Option Text → Except Failure (Protocol × Text)
  | none => .ok (.bundled, [])
  | some root =>
    match Text.breakOn? (text "://") root with
    | none => .ok (.localPath, root)
    | some (scheme, rest) =>
      match schemes.lookup scheme.toLower with
      | none => .error (.unsupportedScheme scheme root)
      | some protocol => .ok (protocol, rootBase protocol root rest)

end ConfigNamespace
