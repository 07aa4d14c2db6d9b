import Excerpt.Url.Basic
import Excerpt.Url.Host

/-! Reading URLs into their normal form. -/
namespace Excerpt.Url

/-- A letter and a colon or bar. -/
def isDriveLetter : List Char → Bool
  | [letter, mark] => letter.isAlpha && (mark == ':' || mark == '|')
  | _ => false

inductive SchemeKind where
  | file
  /-- A scheme of the web, with its usual port. -/
  | special (port : Nat)
  | general
  deriving Repr, DecidableEq

namespace SchemeKind

def ofScheme : String → SchemeKind
  | "file" => .file
  | "http" | "ws" => .special 80
  | "https" | "wss" => .special 443
  | "ftp" => .special 21
  | _ => .general

def isGeneral : SchemeKind → Bool
  | .general => true
  | _ => false

/-- Whether a character divides segments: a backslash does so unless the scheme is general. -/
def isSlash (kind : SchemeKind) (c : Char) : Bool :=
  c == '/' || (c == '\\' && !kind.isGeneral)

def endsAuthority (kind : SchemeKind) (c : Char) : Bool :=
  kind.isSlash c || c == '?' || c == '#'

end SchemeKind

def trimControls (cs : List Char) : List Char :=
  let outer (c : Char) := c.toNat ≤ 0x20
  ((cs.dropWhile outer).reverse.dropWhile outer).reverse

/-- Tabs and line ends, which may break a URL anywhere. -/
def isBreak (c : Char) : Bool := c == '\t' || c == '\n' || c == '\r'

def unbroken (cs : List Char) : List Char := cs.filter (!isBreak ·)

/-- Whether a text, last character first, ends in a letter and a colon. -/
def endsInDriveLetter : List Char → Bool
  | ':' :: letter :: _ => letter.isAlpha
  | _ => false

/-- A text without breaks, but for those that count after a drive letter: between a letter with a
colon and a character that goes on with the segment, one stays as a tab. -/
def driveBreaks (cs : List Char) : List Char :=
  ((cs.splitOnP isBreak).foldl (fun joined piece =>
    let goesOn := piece.head?.any (!SchemeKind.file.endsAuthority ·)
    piece.reverse ++ (if goesOn && endsInDriveLetter joined then '\t' :: joined else joined))
    []).reverse

/-- The scheme of a text, in lower case, and what follows its colon. -/
def scheme? (cs : List Char) : Option (String × List Char) :=
  let isPart (c : Char) := c.isAlphanum || c == '+' || c == '-' || c == '.' || isBreak c
  match cs, cs.dropWhile isPart with
  | c :: _, ':' :: rest =>
    if c.isAlpha then
      some (String.ofList ((unbroken (cs.takeWhile isPart)).map Char.toLower), rest)
    else none
  | _, _ => none

def isDot (segment : String) : Bool := segment ∈ [".", "%2e", "%2E"]

def isDoubleDot (segment : String) : Bool :=
  segment ∈ ["..", ".%2e", ".%2E", "%2e.", "%2E.", "%2e%2e", "%2e%2E", "%2E%2e", "%2E%2E"]

/-- Whether a segment stays under a double dot: it is a drive letter, or one before a backslash. -/
def isAnchored (segment : String) : Bool :=
  match segment.toList with
  | letter :: mark :: rest =>
    isDriveLetter [letter, mark] && (rest.isEmpty || rest.head? == some '\\')
  | _ => false

def encodeSegment (segment : List Char) : String :=
  percentEncode .path (Text.utf8 (String.ofList (unbroken segment)))

/-- The drive letter at the start of a segment that a break divides from the rest, and the rest. -/
def brokenDrive? : List Char → Option (String × List Char)
  | letter :: ':' :: '\t' :: rest => some (String.ofList [letter, ':'], rest)
  | _ => none

/-- A path as far as its dot segments are resolved. -/
structure Resolved where
  /-- The segments, last first. -/
  before : List String := []
  /-- The first segment is a drive letter. -/
  hasDrive : Bool := false

namespace Resolved

def push (path : Resolved) (segment : String) : Resolved :=
  { path with before := segment :: path.before }

/-- Leaves out the last segment unless it stays. -/
def pop (path : Resolved) : Resolved :=
  match path.before with
  | [] => path
  | segment :: before => if isAnchored segment then path else { path with before }

/-- Adds the first segment of a file path. A drive letter is written with a colon. What a break
divides from one is a segment of its own, and is taken as it is. -/
def addFirst (segment : List Char) : Resolved :=
  match brokenDrive? segment, unbroken segment with
  | some (drive, rest), _ => { before := [encodeSegment rest, drive] }
  | none, [letter, mark] =>
    if isDriveLetter [letter, mark] then ⟨[String.ofList [letter, ':']], true⟩
    else { before := [encodeSegment segment] }
  | none, _ => { before := [encodeSegment segment] }

/-- Adds a segment. A dot segment at the end of a path leaves an empty one. -/
def add (kind : SchemeKind) (isLast : Bool) (path : Resolved) (segment : List Char) : Resolved :=
  let text := encodeSegment segment
  if isDoubleDot text then (if isLast then path.pop.push "" else path.pop)
  else if isDot text then (if isLast then path.push "" else path)
  else
    match kind, path.before with
    | .file, [] => addFirst segment
    | _, _ => path.push text

def addAll (kind : SchemeKind) : Resolved → List (List Char) → Resolved
  | path, [] => path
  | path, [segment] => path.add kind true segment
  | path, segment :: rest => (path.add kind false segment).addAll kind rest

end Resolved

def resolve (kind : SchemeKind) (path : List Char) : Resolved :=
  Resolved.addAll kind {} (path.splitOnP kind.isSlash)

def segments (kind : SchemeKind) (path : List Char) : List String :=
  (resolve kind path).before.reverse

/-- Segments without the empty ones at the start; no segments at all are one empty segment. -/
def dropEmpty (segments : List String) : List String :=
  match segments.dropWhile String.isEmpty with
  | [] => [""]
  | segments => segments

def splitPath (cs : List Char) : List Char × List Char :=
  cs.span fun c => !(c == '?' || c == '#')

def queryAndFragment (kind : SchemeKind) (cs : List Char) : Option String × Option String :=
  let encode (reserved : Reserved) (cs : List Char) :=
    percentEncode reserved (Text.utf8 (String.ofList cs))
  let (query, rest) := match unbroken cs with
    | '?' :: cs =>
      let (query, rest) := cs.span (· != '#')
      (some (encode (if kind.isGeneral then .query else .specialQuery) query), rest)
    | cs => (none, cs)
  (query, match rest with
    | '#' :: fragment => some (encode .fragment fragment)
    | _ => none)

def assemble (scheme : String) (authority : Option Authority) (path : Path) (rest : List Char) :
    Url :=
  let (query, fragment) := queryAndFragment (.ofScheme scheme) rest
  { scheme, authority, path, query, fragment }

/-- User name and password: the first colon divides them, and is left out before no password. -/
def userinfo (cs : List Char) : String :=
  let encode (cs : List Char) := percentEncode .userinfo (Text.utf8 (String.ofList cs))
  match cs.span (· != ':') with
  | (user, _ :: c :: password) => encode user ++ ":" ++ encode (c :: password)
  | (user, _) => encode user

/-- The parts of an authority before and after its last `@`. -/
def splitUserinfo (cs : List Char) : Option (List Char) × List Char :=
  match cs.reverse.span (· != '@') with
  | (_, []) => (none, cs)
  | (host, _ :: user) => (some user.reverse, host.reverse)

/-- The host at the start of a text, and the rest, which starts at a colon outside brackets. -/
def spanHost : (bracketed : Bool) → List Char → List Char × List Char
  | _, [] => ([], [])
  | bracketed, c :: cs =>
    if c == ':' && !bracketed then ([], c :: cs)
    else
      let bracketed := if c == '[' then true else if c == ']' then false else bracketed
      let (host, rest) := spanHost bracketed cs
      (c :: host, rest)

/-- The port at the start of a text and the rest, which starts at a backslash if at all. The usual
port of a scheme is left out. -/
def parsePort (kind : SchemeKind) (cs : List Char) :
    Except ParseError (Option Nat × List Char) :=
  let (digits, rest) := cs.span Char.isDigit
  match (Text.numeral? 10 digits).filter (· < UInt16.size), rest with
  | none, _ => .error .invalidPort
  | some _, c :: _ =>
    if c != '\\' then .error .invalidPort else .ok (port digits, rest)
  | some _, [] => .ok (port digits, [])
where
  port (digits : List Char) : Option Nat :=
    if digits.isEmpty then none
    else (Text.numeral? 10 digits).filter fun port => kind != .special port

/-- Reads the host and port of an authority, and what of it belongs to the path. -/
def parseHostPort (kind : SchemeKind) (user : String) (cs : List Char) :
    Except ParseError (Authority × List Char) := do
  let (hostText, rest) := spanHost false cs
  if hostText.isEmpty && !kind.isGeneral then throw .emptyHost
  let host ← if kind.isGeneral then Host.parseName hostText else Host.parseDomain hostText
  if host.isEmpty && (rest.head? == some ':' || !kind.isGeneral) then throw .emptyHost
  let (port, rest) ← match rest with
    | ':' :: rest => parsePort kind rest
    | rest => pure (none, rest)
  if host.isEmpty && !user.isEmpty then throw .emptyHost
  return ({ userinfo := user, host, port }, rest)

/-- The path after an authority, and what follows it. Only in a general scheme may it be missing. -/
def pathAfterAuthority (kind : SchemeKind) (cs : List Char) : Path × List Char :=
  let (path, rest) := splitPath cs
  match path with
  | [] => (.rooted (if kind.isGeneral then [] else [""]), rest)
  | c :: after => (.rooted (segments kind (if kind.isSlash c then after else path)), rest)

def parseAuthority (scheme : String) (cs : List Char) : Except ParseError Url := do
  let kind := SchemeKind.ofScheme scheme
  let (text, rest) := cs.span fun c => !kind.endsAuthority c
  let (user, hostPort) := splitUserinfo text
  if user == some [] && hostPort.isEmpty && !rest.isEmpty then throw .emptyHost
  let (authority, path) ← parseHostPort kind ((user.map userinfo).getD "") hostPort
  let (path, rest) := pathAfterAuthority kind (path ++ rest)
  return assemble scheme (some authority) path rest

def localFile (path : List Char) (rest : List Char) : Url :=
  assemble "file" (some {}) (.rooted (dropEmpty (segments .file path))) rest

/-- Reads a file URL after its scheme and two slashes. A drive letter is no host, and a path that
starts with one has none. -/
def parseFileHost (cs : List Char) : Except ParseError Url := do
  let (hostText, afterHost) := cs.span fun c => !SchemeKind.file.endsAuthority c
  let hostText := unbroken hostText
  if hostText.isEmpty || isDriveLetter hostText then
    let (path, rest) := splitPath cs
    return localFile path rest
  let host ← Host.parseDomain hostText
  let (path, rest) := splitPath afterHost
  if host == "localhost" then return localFile path rest
  let resolved := resolve .file (path.drop 1)
  let host := if resolved.hasDrive then "" else host
  return assemble "file" (some { host }) (.rooted (dropEmpty resolved.before.reverse)) rest

def parseFile (cs : List Char) : Except ParseError Url :=
  match cs with
  | c :: d :: rest =>
    if SchemeKind.file.isSlash c && SchemeKind.file.isSlash d then parseFileHost rest
    else oneSlash cs
  | cs => oneSlash cs
where
  oneSlash (cs : List Char) : Except ParseError Url :=
    let (path, rest) := splitPath cs
    match path with
    | c :: after => .ok (localFile (if SchemeKind.file.isSlash c then after else path) rest)
    | [] => .ok (localFile [] rest)

def parseGeneral (scheme : String) (cs : List Char) : Except ParseError Url :=
  match cs with
  | '/' :: '/' :: rest => parseAuthority scheme rest
  | _ =>
    let (path, rest) := splitPath cs
    match path with
    | '/' :: path => .ok (assemble scheme none (.rooted (segments .general path)) rest)
    | path =>
      let text := percentEncode .opaquePath (Text.utf8 (String.ofList path))
      .ok (assemble scheme none (.bare text) rest)

def parse (text : String) : Except ParseError Url :=
  match scheme? (trimControls text.toList) with
  | none => .error .relative
  | some (scheme, rest) =>
    match SchemeKind.ofScheme scheme with
    | .file => parseFile (driveBreaks rest)
    | .special _ => parseAuthority scheme ((unbroken rest).dropWhile (SchemeKind.special 0).isSlash)
    | .general => parseGeneral scheme (unbroken rest)

end Excerpt.Url
