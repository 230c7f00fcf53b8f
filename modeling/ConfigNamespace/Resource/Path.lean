import ConfigNamespace.Text.Search

/-!
# File paths

A path is a list of names below its start. Empty names and single dots are dropped when a path is
read; double dots are kept, because what they mean depends on the file system.
-/

namespace ConfigNamespace

/-- A path of names. -/
structure ResourcePath where
  /-- How many slashes begin the path: none for a relative path, else one or two. -/
  slashes : Nat
  /-- The names from the start on. -/
  parts : List Text
  deriving DecidableEq

namespace ResourcePath

/-- The names of a written path. -/
def partsOf (s : Text) : List Text :=
  (Text.pieces ['/'] s).filter fun part => part ≠ [] ∧ part ≠ text "."

/-- Reads a path. Exactly two slashes at the front are kept, more stand for one. -/
def ofText (s : Text) : ResourcePath :=
  let leading := (List.takeWhile (fun c : CodePoint => c = '/') s).length
  ⟨if leading = 0 then 0 else if leading = 2 then 2 else 1, partsOf s⟩

/-- A written path; the empty one is a dot. -/
def render (p : ResourcePath) : Text :=
  if p.slashes = 0 ∧ p.parts = [] then text "."
  else List.replicate p.slashes (CodePoint.ofChar '/') ++ Text.joinWith ['/'] p.parts

/-- The path that leads along `p` and then along `q`; an absolute `q` stands alone. -/
def append (p q : ResourcePath) : ResourcePath :=
  if q.slashes = 0 then ⟨p.slashes, p.parts ++ q.parts⟩ else q

end ResourcePath

end ConfigNamespace
