import ConfigNamespace.Document.Basic

/-!
# The cache of documents

A document is kept under its handle and the delimiter that it was parsed for. The cache also counts
how many documents were parsed.
-/

namespace ConfigNamespace

/-- What a document is kept under. -/
structure CacheKey where
  /-- Where the document lives. -/
  handle : ResourceHandle
  /-- The delimiter that it was parsed for. -/
  delimiter : Text
  deriving DecidableEq

/-- Parsed documents. -/
structure DocumentCache where
  /-- The documents, each key once. -/
  documents : List (CacheKey × Document)
  /-- How many documents were parsed so far. -/
  parseCount : Nat

namespace DocumentCache

/-- The cache that nothing was parsed for. -/
def empty : DocumentCache := ⟨[], 0⟩

/-- The document under a key. -/
def get? (c : DocumentCache) (key : CacheKey) : Option Document := c.documents.lookup key

/-- The cache with one more parsed document. -/
def add (c : DocumentCache) (key : CacheKey) (d : Document) : DocumentCache :=
  ⟨c.documents.filter (fun entry => entry.1 ≠ key) ++ [(key, d)], c.parseCount + 1⟩

/-- The cache without the documents of a handle. -/
def invalidate (c : DocumentCache) (handle : ResourceHandle) : DocumentCache :=
  { c with documents := c.documents.filter fun entry => entry.1.handle ≠ handle }

/-- The cache without documents. -/
def clear (c : DocumentCache) : DocumentCache := { c with documents := [] }

/-- Whether some document of a handle is kept. -/
def has (c : DocumentCache) (handle : ResourceHandle) : Bool :=
  c.documents.any fun entry => entry.1.handle = handle

/-- How many documents are kept. -/
def size (c : DocumentCache) : Nat := c.documents.length

end DocumentCache

end ConfigNamespace
