import Excerpt.Language
import Excerpt.Text.Line

/-! Documents: texts by line, known by their URLs. -/
namespace Excerpt

inductive ReadFault where
  | missing
  | isDirectory
  | notDirectory
  | notUtf8
  /-- A name on the path, or the path itself, is too long. -/
  | nameTooLong
  /-- The path holds a zero octet. -/
  | zeroOctet
  /-- Any other error of the system, by its message. -/
  | system (message : String)
  deriving Repr, DecidableEq

def ReadFault.message : ReadFault → String
  | .missing => "No such file or directory (os error 2)"
  | .isDirectory => "Is a directory (os error 21)"
  | .notDirectory => "Not a directory (os error 20)"
  | .notUtf8 => "stream did not contain valid UTF-8"
  | .nameTooLong => "File name too long (os error 36)"
  | .zeroOctet => "file name contained an unexpected NUL byte"
  | .system message => message

inductive DocumentError where
  | notFound (url : Url)
  /-- The URL names nothing that could be opened. -/
  | unsupported (url : Url)
  | invalidPath (path : String)
  | unreadable (url : Url) (fault : ReadFault)
  deriving Repr, DecidableEq

def DocumentError.message : DocumentError → String
  | .notFound url => "Document not found: " ++ url.print
  | .unsupported url => "Unsupported document URI: " ++ url.print
  | .invalidPath path => "Not a usable file path: " ++ path
  | .unreadable url fault => "Failed to read " ++ url.print ++ ": " ++ fault.message

/-- A text by line, with its URL and language. -/
structure Document where
  url : Url
  languageId : String
  lines : List String
  deriving Repr, DecidableEq

namespace Document

def ofText (url : Url) (languageId text : String) : Document :=
  ⟨url, languageId, Text.splitLines text⟩

def urlOfPath (workDir : Bytes) (path : String) : Except DocumentError Url :=
  match LocalPath.url? workDir (Text.utf8 path) with
  | some url => .ok url
  | none => .error (.invalidPath path)

/-- The document of a text at a path, in the language that the path tells. -/
def ofPath (workDir : Bytes) (path text : String) : Except DocumentError Document := do
  return ofText (← urlOfPath workDir path) (Language.ofPath (Text.utf8 path)) text

def line? (document : Document) (n : Nat) : Option String := document.lines[n]?

def lineCount (document : Document) : Nat := document.lines.length

end Document

end Excerpt
