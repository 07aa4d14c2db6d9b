import Excerpt.Document

/-! Sources of documents. -/
namespace Excerpt

abbrev Source := Url → Except DocumentError Document

abbrev Files := Bytes → Except ReadFault Bytes

namespace Files

def decode (content : Except ReadFault Bytes) : Except ReadFault String := do
  match Text.ofUtf8? (← content) with
  | some text => .ok text
  | none => .error .notUtf8

def readText (files : Files) (path : Bytes) : Except ReadFault String := decode (files path)

def toDocument (url : Url) (path : Bytes) : Except ReadFault String → Except DocumentError Document
  | .ok text => .ok (.ofText url (Language.ofPath path) text)
  | .error .missing => .error (.notFound url)
  | .error fault => .error (.unreadable url fault)

/-- The source that opens every URL with a local path, whatever its scheme. -/
def source (files : Files) : Source := fun url =>
  match url.localPath? with
  | none => .error (.unsupported url)
  | some path => toDocument url path (files.readText path)

end Files

/-- Documents held in memory, one for each URL. -/
structure Shelf where
  documents : List Document := []
  deriving Repr

namespace Shelf

/-- Puts a document on the shelf, in place of one with its URL. -/
def insert (shelf : Shelf) (document : Document) : Shelf :=
  ⟨document :: shelf.documents.filter (·.url ≠ document.url)⟩

def size (shelf : Shelf) : Nat := shelf.documents.length

def isEmpty (shelf : Shelf) : Bool := shelf.documents.isEmpty

def source (shelf : Shelf) : Source := fun url =>
  match shelf.documents.find? (·.url = url) with
  | some document => .ok document
  | none => .error (.notFound url)

end Shelf

end Excerpt
