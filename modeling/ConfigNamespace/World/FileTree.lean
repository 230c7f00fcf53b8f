import ConfigNamespace.Resource.Path
import ConfigNamespace.Text.Utf8

/-!
# File trees

A file tree is a file or a directory of named file trees. Paths are followed name by name: an absolute
one from the root of the file system, a relative one from a directory within it, with the directories
above at hand.
-/

namespace ConfigNamespace

/-- What a file holds. -/
inductive FileContent
  /-- Plain bytes. -/
  | bytes (bytes : List UInt8)
  /-- An archive: names with their contents, in the order of the archive. -/
  | archive (entries : List (Text × List UInt8))

/-- The bytes of a file. Of an archive only the signature matters here, followed by a byte that no
text holds. -/
def FileContent.toBytes : FileContent → List UInt8
  | bytes bs => bs
  | archive _ => [0x50, 0x4B, 0x03, 0x04, 0xFF]

/-- A file or a directory. -/
inductive FileTree
  /-- A file. -/
  | file (content : FileContent)
  /-- A directory with its entries by name. -/
  | directory (entries : List (Text × FileTree))

namespace FileTree

instance : Inhabited FileTree := ⟨directory []⟩

/-- The entries of a directory; a file has none. -/
def entries : FileTree → List (Text × FileTree)
  | file _ => []
  | directory entries => entries

/-- Whether a tree is a directory. -/
def isDirectory : FileTree → Bool
  | file _ => false
  | directory _ => true

/-- The entry of the given name. -/
def child? (t : FileTree) (name : Text) : Option FileTree := t.entries.lookup name

/-- Puts an entry under a name: in the place of the one before, or at the end. -/
def putEntry (name : Text) (t : FileTree) : List (Text × FileTree) → List (Text × FileTree)
  | [] => [(name, t)]
  | (n, old) :: rest => if n = name then (n, t) :: rest else (n, old) :: putEntry name t rest

/-- The tree with another one put at the given names. Directories on the way are made; a directory
that is put where there is one already changes nothing. -/
def put (new : FileTree) : (names : List Text) → FileTree → FileTree
  | [], old => if new.isDirectory && old.isDirectory then old else new
  | name :: names, old =>
    directory (putEntry name (put new names ((old.child? name).getD (directory []))) old.entries)

/-- The tree without what stands at the given names. -/
def delete : (names : List Text) → FileTree → FileTree
  | [], t => t
  | [name], t =>
    match t with
    | file content => file content
    | directory entries => directory (entries.filter fun entry => entry.1 ≠ name)
  | name :: names, t =>
    match t.child? name with
    | some below => directory (putEntry name (delete names below) t.entries)
    | none => t

/-- What stands at a path. -/
inductive Finding
  /-- Nothing. -/
  | missing
  /-- A tree. -/
  | found (t : FileTree)
  /-- No answer: a name or the path is too long. -/
  | tooLong

/-- The greatest number of bytes of a name. -/
def maxNameBytes : Nat := 255

/-- The greatest number of bytes of a path. -/
def maxPathBytes : Nat := 4095

/-- Follows names from a directory, whose parents are kept from the nearest on. Above the root there is
the root itself. -/
def follow : (parents : List FileTree) → FileTree → List Text → Finding
  | _, t, [] => .found t
  | parents, t, name :: names =>
    if !t.isDirectory then .missing
    else if name = text ".." then
      match parents with
      | [] => follow [] t names
      | parent :: parents => follow parents parent names
    else if maxNameBytes < (Text.utf8 name).length then .tooLong
    else
      match t.child? name with
      | some below => follow (t :: parents) below names
      | none => .missing

/-- Whether a code point may be in a path. The null character may not, and half of a surrogate pair
has no bytes. -/
def isOfPath (c : CodePoint) : Bool := c ≠ CodePoint.ofNat 0 && !c.isSurrogate

/-- What stands at a path that is followed from a directory below the given ones. A path with a code
point in it that may not be there leads nowhere. -/
def look (parents : List FileTree) (t : FileTree) (path : ResourcePath) : Finding :=
  if path.parts.any fun part => !part.all isOfPath then .missing
  else if maxPathBytes < (Text.utf8 path.render).length then .tooLong
  else follow parents t path.parts

end FileTree

/-- A directory around a tree: the name that the tree has in it, and its other entries. -/
structure Enclosure where
  /-- The name of the tree. -/
  name : Text
  /-- The other entries. -/
  others : List (Text × FileTree)

namespace FileTree

/-- The directory that encloses a tree. -/
def enclosed (t : FileTree) (e : Enclosure) : FileTree := directory ((e.name, t) :: e.others)

/-- The directories above a tree, from the nearest on. -/
def above : FileTree → List Enclosure → List FileTree
  | _, [] => []
  | t, e :: es => t.enclosed e :: above (t.enclosed e) es

/-- The root of the file system that a tree lies in. -/
def root : FileTree → List Enclosure → FileTree
  | t, [] => t
  | t, e :: es => root (t.enclosed e) es

end FileTree

end ConfigNamespace
