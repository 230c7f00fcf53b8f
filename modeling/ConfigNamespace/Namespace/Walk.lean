import ConfigNamespace.Lookup.Locator

/-!
# Walking down a key

A walk goes from container to container as long as the segments of a key name one. It ends at the
first segment that names a document, which then holds the rest of the key, or falls back to the
default document of the container that it reached.
-/

namespace ConfigNamespace

/-- The name of the document that stands for what a container does not hold itself. -/
def defaultDocument : Text := text "default"

namespace Locator

/-- Falls back to the default document of a container. -/
def fallBack (l : Locator) (path : Text) (remainder : List Text) :
    Operation Session (Option ResourceHandle × List Text) := do
  let found ← l.locateDocument path defaultDocument
  match found with
  | some h =>
    let shown := (Value.ofTexts remainder).spelled fun _ => []
    Session.note .debug .resolver (text "Falling back to " ++ h.render ++ text " for remainder " ++
      shown)
  | none => pure ()
  pure (found, remainder)

/-- Walks down segments from a path, to a document and the rest of the segments. -/
def walk (l : Locator) (delimiter path : Text) :
    (segments : List Text) → Operation Session (Option ResourceHandle × List Text)
  | [] => l.fallBack path []
  | segment :: segments => do
    match ← l.probe path segment delimiter with
    | (.container, some found) => walk l delimiter found.location segments
    | (.leaf, some found) => do
      Session.note .debug .resolver (text "Segment " ++ segment.quoted ++ text " resolved to " ++
        found.render)
      pure (some found, segments)
    | _ => l.fallBack path (segment :: segments)

end Locator

end ConfigNamespace
