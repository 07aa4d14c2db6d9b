import Excerpt.Url.Basic

/-! Paths of files on this machine. A path is a sequence of octets, divided by slashes. -/
namespace Excerpt.LocalPath

def slash : UInt8 := 0x2F

def dot : UInt8 := 0x2E

def nameLimit : Nat := 255

def pathLimit : Nat := 4095

/-- The components of a path: empty ones and single dots say nothing, double dots are kept. -/
def components (path : Bytes) : List Bytes :=
  (path.splitOn slash).filter fun component => component != [] && component != [dot]

def isAbsolute (path : Bytes) : Bool := path.head? == some slash

/-- The components of a path made absolute against a working directory. -/
def absolute (workDir path : Bytes) : List Bytes :=
  if isAbsolute path then components path else components workDir ++ components path

def urlOfComponents (components : List Bytes) : Url :=
  let segments := match components with
    | [] => [""]
    | components => components.map (Url.percentEncode .component)
  { scheme := "file", authority := some {}, path := .rooted segments }

/-- The file URL of a path; the empty path has none. -/
def url? (workDir path : Bytes) : Option Url :=
  if path.isEmpty then none else some (urlOfComponents (absolute workDir path))

def fileName? (path : Bytes) : Option Bytes :=
  (components path).getLast?.filter fun name => name != [dot, dot]

/-- What follows the last dot of the file name, unless that dot is its first character. -/
def extension? (path : Bytes) : Option Bytes :=
  match fileName? path with
  | none => none
  | some name =>
    match name.reverse.span (· != dot) with
    | (ext, _ :: _ :: _) => some ext.reverse
    | _ => none

end Excerpt.LocalPath
