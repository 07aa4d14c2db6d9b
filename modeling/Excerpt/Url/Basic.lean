import Excerpt.Url.Percent

/-! URLs in their normal form, and the local paths that they name. -/
namespace Excerpt

/-- Who serves a URL. All texts are percent-encoded. -/
structure Url.Authority where
  /-- User name and password, empty when there are none. -/
  userinfo : String := ""
  host : String := ""
  port : Option Nat := none
  deriving Repr, DecidableEq

inductive Url.Path where
  /-- A text without structure, as in `mailto:someone`. -/
  | bare (text : String)
  /-- Segments, each after a slash. -/
  | rooted (segments : List String)
  deriving Repr, DecidableEq

/-- A URL in normal form. -/
structure Url where
  scheme : String
  authority : Option Url.Authority := none
  path : Url.Path
  query : Option String := none
  fragment : Option String := none
  deriving Repr, DecidableEq

namespace Url

def Authority.print (authority : Authority) : String :=
  "//" ++ (if authority.userinfo.isEmpty then "" else authority.userinfo ++ "@") ++
    authority.host ++ (match authority.port with
      | none => ""
      | some port => ":" ++ toString port)

def Path.print : Path → String
  | .bare text => text
  | .rooted segments => String.join (segments.map ("/" ++ ·))

/-- What stands between a scheme without authority and a path that starts with two slashes, which
would otherwise read as an authority. -/
def guard : Option Authority → Path → String
  | none, .rooted ("" :: _ :: _) => "/."
  | _, _ => ""

def print (url : Url) : String :=
  url.scheme ++ ":" ++ ((url.authority.map Authority.print).getD "") ++
    guard url.authority url.path ++ url.path.print ++
    ((url.query.map ("?" ++ ·)).getD "") ++ ((url.fragment.map ("#" ++ ·)).getD "")

instance : ToString Url := ⟨print⟩

def isLocal (url : Url) : Bool :=
  match url.authority with
  | none => true
  | some authority => authority.host == "" || authority.host == "localhost"

def joinSegments (segments : List String) : Bytes :=
  segments.flatMap fun segment => 0x2F :: percentDecode segment

/-- Whether octets end in a letter and a colon or bar, after at least one more. -/
def endsInDrive (bytes : Bytes) : Bool :=
  match bytes.reverse with
  | last :: letter :: _ :: _ =>
    (last == 0x3A || last == 0x7C) && (Char.ofNat letter.toNat).isAlpha
  | _ => false

/-- The local path that a URL names, whatever its scheme. A drive letter at the end gets a slash. -/
def localPath? (url : Url) : Option Bytes :=
  match url.path with
  | .bare _ | .rooted [] => none
  | .rooted segments =>
    if url.isLocal then
      let bytes := joinSegments segments
      some (if endsInDrive bytes then bytes ++ [0x2F] else bytes)
    else none

/-- A URL for readers: its local path, or else its text. -/
def display (url : Url) : String :=
  match url.localPath? with
  | some path => Text.ofUtf8Lossy path
  | none => url.print

end Url

end Excerpt
