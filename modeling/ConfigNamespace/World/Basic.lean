import ConfigNamespace.Keyed
import ConfigNamespace.Value.Quantity
import ConfigNamespace.World.FileTree

/-!
# The world

Everything outside of the library that lookups can see: the file system with the working directory in
it, the search path and variables of the process, and the pages of servers with the session that asks
for them.
-/

namespace ConfigNamespace

/-- How a server answers a request. -/
inductive PageAnswer
  /-- With a status. -/
  | status (code : Nat)
  /-- Not in time. -/
  | timeout
  /-- Not at all. -/
  | refused
  deriving DecidableEq

/-- A page of a server. -/
structure Page where
  /-- The answer to a request for the head of the page. -/
  head : PageAnswer
  /-- The answer to a request for the page. -/
  get : PageAnswer
  /-- The content of the page. -/
  body : List UInt8

/-- The page that stands where there is none. -/
def Page.absent : Page := ⟨.status 404, .status 404, []⟩

/-- What lies outside of the library. -/
structure World where
  /-- The working directory. -/
  files : FileTree
  /-- The directories around the working directory, from the nearest to the root. -/
  enclosures : List Enclosure
  /-- The search path of the process. -/
  searchPath : List Text
  /-- The variables of the process. -/
  processVariables : Keyed Text
  /-- The pages of servers by address. -/
  pages : Keyed Page
  /-- What the session that asks for pages finds wrong with a timeout. Then it makes no request. -/
  timeoutFault? : Quantity → Option Text

namespace World

/-- A world of files alone, with the root for its working directory. -/
def ofFiles (files : FileTree) : World := ⟨files, [], [], [], [], fun _ => none⟩

/-- A world of pages alone, which a session asks for with any timeout. -/
def ofPages (pages : Keyed Page) : World := ⟨.directory [], [], [], [], pages, fun _ => none⟩

/-- The page at an address. -/
def page (w : World) (url : Text) : Page := (w.pages.get? url).getD .absent

/-- Where a path begins, with the directories above: at the working directory, or at the root if the
path is absolute. -/
def start (w : World) (path : ResourcePath) : List FileTree × FileTree :=
  if path.slashes = 0 then (w.files.above w.enclosures, w.files) else ([], w.files.root w.enclosures)

/-- What stands at a path. -/
def look (w : World) (path : ResourcePath) : FileTree.Finding :=
  FileTree.look (w.start path).1 (w.start path).2 path

/-- The world with a file tree put at a written path. -/
def putFile (w : World) (path : Text) (t : FileTree) : World :=
  { w with files := FileTree.put t (ResourcePath.partsOf path) w.files }

/-- The world without what stands at a written path. -/
def deleteFile (w : World) (path : Text) : World :=
  { w with files := w.files.delete (ResourcePath.partsOf path) }

/-- The world with another page at an address. -/
def putPage (w : World) (url : Text) (page : Page) : World :=
  { w with pages := Keyed.put url page w.pages }

end World

end ConfigNamespace
