import Excerpt.Anchor.Basic
import Excerpt.Json.Reader
import Excerpt.Url.Parser

/-! Anchors as JSON values, and responses to a request for definitions. Every structure is written
as an object and may also be given as the array of its fields. -/
namespace Excerpt

namespace Position

def toJson (position : Position) : Json :=
  .object [("line", .uint32 position.line), ("character", .uint32 position.character)]

def ofFields? (line character : Json) : Option Position := do
  return ⟨← line.uint32?, ← character.uint32?⟩

def ofJson? : Json → Option Position
  | .array [line, character] => ofFields? line character
  | .object members => do
    match ← Json.fields? ["line", "character"] members with
    | [some line, some character] => ofFields? line character
    | _ => none
  | _ => none

end Position

namespace Range

def toJson (range : Range) : Json :=
  .object [("start", range.start.toJson), ("end", range.stop.toJson)]

def ofFields? (start stop : Json) : Option Range := do
  return ⟨← Position.ofJson? start, ← Position.ofJson? stop⟩

def ofJson? : Json → Option Range
  | .array [start, stop] => ofFields? start stop
  | .object members => do
    match ← Json.fields? ["start", "end"] members with
    | [some start, some stop] => ofFields? start stop
    | _ => none
  | _ => none

/-- A range that may be missing or null. -/
def ofOptional? : Option Json → Option (Option Range)
  | none | some .null => some none
  | some value => (ofJson? value).map some

end Range

def Url.ofJson? : Json → Option Url
  | .string text => (Url.parse text).toOption
  | _ => none

namespace Location

def toJson (location : Location) : Json :=
  .object [("uri", .string location.url.print), ("range", location.range.toJson)]

def ofFields? (url range : Json) : Option Location := do
  return ⟨← Url.ofJson? url, ← Range.ofJson? range⟩

def ofJson? : Json → Option Location
  | .array [url, range] => ofFields? url range
  | .object members => do
    match ← Json.fields? ["uri", "range"] members with
    | [some url, some range] => ofFields? url range
    | _ => none
  | _ => none

end Location

namespace Link

/-- The object of a link, without an origin where there is none. -/
def toJson (link : Link) : Json :=
  .record [
    ("originSelectionRange", link.origin.map Range.toJson),
    ("targetUri", some (.string link.targetUrl.print)),
    ("targetRange", some link.targetRange.toJson),
    ("targetSelectionRange", some link.targetSelection.toJson)]

def ofFields? (origin : Option Json) (url range selection : Json) : Option Link := do
  return {
    origin := ← Range.ofOptional? origin
    targetUrl := ← Url.ofJson? url
    targetRange := ← Range.ofJson? range
    targetSelection := ← Range.ofJson? selection }

def fieldNames : List String :=
  ["originSelectionRange", "targetUri", "targetRange", "targetSelectionRange"]

def ofJson? : Json → Option Link
  | .array [origin, url, range, selection] => ofFields? (some origin) url range selection
  | .object members => do
    match ← Json.fields? fieldNames members with
    | [origin, some url, some range, some selection] => ofFields? origin url range selection
    | _ => none
  | _ => none

end Link

namespace Anchor

def toJson : Anchor → Json
  | .link l => l.toJson
  | .location l => l.toJson

/-- The anchor that a value stands for: a link if it fits one, or else a location. -/
def ofJson? (value : Json) : Option Anchor :=
  match Link.ofJson? value with
  | some l => some (.link l)
  | none => (Location.ofJson? value).map .location

def list? : Json → Option (List Anchor)
  | .array items => items.mapM ofJson?
  | _ => none

/-- The anchors of a response, which is null, a list of anchors or a single anchor. -/
def ofResponse? (value : Json) : Option (List Anchor) :=
  match value with
  | .null => some []
  | value => match list? value with
    | some anchors => some anchors
    | none => (ofJson? value).map fun anchor => [anchor]

/-- Reads a response. What is wrong inside the value comes before what follows it. -/
def parseResponse (text : String) : Except Json.Fault (List Anchor) := do
  let (value, rest) ← Json.read .keep text.toList
  let some anchors := ofResponse? value | .error .mismatch
  Json.readEnd rest
  return anchors

end Anchor

end Excerpt
