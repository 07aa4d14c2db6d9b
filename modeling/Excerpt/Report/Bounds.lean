import Excerpt.Aggregation
import Excerpt.Report.Format

/-! The report on where the blocks at some anchors start and end. Tables count lines from 1, JSON
counts them from 0. -/
namespace Excerpt.Report

structure BoundsEntry where
  /-- The local path of the document, or its URL. -/
  uri : String
  anchorLine : UInt32
  found : Bool := false
  firstLine : Option UInt32 := none
  lastLine : Option UInt32 := none
  /-- Why the document cannot be opened. -/
  error : Option String := none
  deriving Repr, DecidableEq

namespace BoundsEntry

def ofAnchor (source : Source) (cues : Cues) (viewing : Document) (anchor : Anchor) : BoundsEntry :=
  let target := anchor.target
  let entry : BoundsEntry := { uri := target.url.display, anchorLine := target.range.start.line }
  match anchor.block source cues viewing with
  | .ok block =>
    if block.isEmpty then entry
    else
      { entry with
        found := true
        firstLine := some block.firstLine
        lastLine := some block.lastLine }
  | .error e => { entry with error := some e.message }

def outcome (colors : Bool) (entry : BoundsEntry) : String :=
  match entry.firstLine, entry.lastLine, entry.error with
  | some first, some last, _ =>
    "lines " ++ toString (first + 1) ++ "-" ++ toString (last + 1) ++ " (" ++
      toString (last - first + 1) ++ " lines)"
  | _, _, some error => Emphasis.red.paint colors error
  | _, _, none => Emphasis.dim.paint colors "no block"

def row (colors : Bool) (entry : BoundsEntry) : String :=
  "  " ++ Emphasis.yellow.paint colors (entry.uri ++ ":" ++ toString (entry.anchorLine + 1)) ++
    " " ++ Emphasis.dim.paint colors "->" ++ " " ++ entry.outcome colors ++ "\n"

def toJson (entry : BoundsEntry) : Json :=
  .record [
    ("uri", some (.string entry.uri)),
    ("anchor_line", some (.uint32 entry.anchorLine)),
    ("found", some (.bool entry.found)),
    ("first_line", entry.firstLine.map .uint32),
    ("last_line", entry.lastLine.map .uint32),
    ("error", entry.error.map .string)]

end BoundsEntry

structure Bounds where
  file : String
  entries : List BoundsEntry
  deriving Repr, DecidableEq

namespace Bounds

def ofAnchors (source : Source) (cues : Cues) (viewing : Document) (file : String)
    (anchors : List Anchor) : Bounds :=
  ⟨file, anchors.map (.ofAnchor source cues viewing)⟩

def table (colors : Bool) (report : Bounds) : String :=
  Emphasis.bold.paint colors "Definition blocks in" ++ " " ++
    Emphasis.cyan.paint colors report.file ++ "\n" ++
    String.ofList (List.replicate 60 '-') ++ "\n" ++
    (if report.entries.isEmpty then Emphasis.dim.paint colors "  No anchors given.\n"
      else String.join (report.entries.map (·.row colors)))

def toJson (report : Bounds) : Json :=
  .object [("file", .string report.file), ("bounds", .array (report.entries.map (·.toJson)))]

def render (style : Style) (colors : Bool) (report : Bounds) : String :=
  style.render (report.table colors) report.toJson

end Bounds

end Excerpt.Report
