import Excerpt.Aggregation
import Excerpt.Anchor.Json
import Excerpt.Report.Format

/-! The report on the definitions at some anchors: their blocks and their markup. -/
namespace Excerpt

namespace Block

def toJson (block : Block) : Json :=
  .object [
    ("uri", .string block.url.print),
    ("first_line", .uint32 block.firstLine),
    ("last_line", .uint32 block.lastLine),
    ("indent", .uint32 block.indent),
    ("text", .string block.text)]

def fieldNames : List String := ["uri", "first_line", "last_line", "indent", "text"]

def ofFields? : List Json → Option Block
  | [url, firstLine, lastLine, indent, text] => do
    return ⟨← Url.ofJson? url, ← firstLine.uint32?, ← lastLine.uint32?, ← indent.uint32?,
      ← text.string?⟩
  | _ => none

/-- The block that a value stands for, an object or the array of its fields. -/
def ofJson? : Json → Option Block
  | .array items => ofFields? items
  | .object members => do ofFields? (← (← Json.fields? fieldNames members).mapM id)
  | _ => none

end Block

namespace Report

structure Definitions where
  file : String
  languageId : String
  blocks : List Block
  /-- The markup of all blocks, empty when there are none. -/
  markup : String
  deriving Repr, DecidableEq

namespace Definitions

def toJson (report : Definitions) : Json :=
  .object [
    ("file", .string report.file),
    ("language_id", .string report.languageId),
    ("blocks", .array (report.blocks.map (·.toJson))),
    ("markup", .string report.markup)]

/-- As a table the report is its markup. -/
def render (style : Style) (report : Definitions) : String :=
  style.render report.markup report.toJson

end Definitions

end Report

end Excerpt
