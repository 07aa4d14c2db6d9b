import Excerpt.Anchor.Basic
import Excerpt.Block
import Excerpt.Highlight
import Excerpt.Source

/-! The definitions at several anchors, joined into one text. -/
namespace Excerpt

/-- The block at an anchor. An anchor into the document being viewed does not open it again. -/
def Anchor.block (source : Source) (cues : Cues) (viewing : Document) (anchor : Anchor) :
    Except DocumentError Block :=
  let target := anchor.target
  if target.url = viewing.url then .ok (.extract cues viewing target.range)
  else do return .extract cues (← source target.url) target.range

/-- The blocks at some anchors, in their order, and the language of the document being viewed. -/
structure Aggregation where
  languageId : String
  blocks : List Block
  deriving Repr, DecidableEq

namespace Aggregation

/-- The block at an anchor, if there is one that is not empty. -/
def block? (source : Source) (cues : Cues) (viewing : Document) (anchor : Anchor) : Option Block :=
  match anchor.block source cues viewing with
  | .ok block => if block.isEmpty then none else some block
  | .error _ => none

/-- The blocks at some anchors, without the empty ones and those that cannot be opened. -/
def collect (source : Source) (cues : Cues) (viewing : Document) (anchors : List Anchor) :
    Aggregation :=
  ⟨viewing.languageId, anchors.filterMap (block? source cues viewing)⟩

/-- Why anchors were left out, in their order. -/
def failures (source : Source) (cues : Cues) (viewing : Document) (anchors : List Anchor) :
    List DocumentError :=
  anchors.filterMap fun anchor =>
    match anchor.block source cues viewing with
    | .ok _ => none
    | .error e => some e

def isEmpty (aggregation : Aggregation) : Bool := aggregation.blocks.isEmpty

/-- All blocks, with an empty line between them. -/
def combined (aggregation : Aggregation) : String :=
  "\n".intercalate (aggregation.blocks.map Block.text)

/-- The markup of all blocks. A highlighter is not asked when there are none. -/
def highlight (highlighter : Highlighter) (aggregation : Aggregation) :
    Except HighlightError String :=
  if aggregation.isEmpty then .ok ""
  else highlighter aggregation.languageId aggregation.combined

def render (source : Source) (cues : Cues) (highlighter : Highlighter) (viewing : Document)
    (anchors : List Anchor) : Except HighlightError String :=
  (collect source cues viewing anchors).highlight highlighter

end Aggregation

end Excerpt
