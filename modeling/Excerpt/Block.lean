import Excerpt.Anchor.Basic
import Excerpt.Cues.Basic
import Excerpt.Document

/-! Blocks: the texts of definitions, taken out of their documents. The lines of a definition are
recovered from indentation and the edges of lines: the lines attached above its head, and its body
below. -/
namespace Excerpt

open Text (Shape shape? dropColumns)

/-- The lines of a block, both ends included, and the number of columns to cut from each. -/
structure Bounds where
  firstLine : Nat
  lastLine : Nat
  indent : Nat
  deriving Repr, DecidableEq

namespace Bounds

def lineCount (bounds : Bounds) : Nat := bounds.lastLine - bounds.firstLine + 1

/-- Whether a line belongs to the definition below it: it is not blank, no less indented, and starts
with a marker. -/
def attachable (cues : Cues) (indent : Nat) : Option Shape → Bool
  | none => false
  | some shape => indent ≤ shape.column && cues.isPrefixMarker shape.first

/-- The first line of the unbroken run of attached lines that ends above `head`. -/
def scanUp (cues : Cues) (indent : Nat) (shapes : List (Option Shape)) (head : Nat) : Nat :=
  head - ((shapes.take head).reverse.takeWhile (attachable cues indent)).length

inductive Verdict where
  /-- The line is passed over. -/
  | skip
  /-- The line belongs to the block. -/
  | keep
  /-- The line belongs to the block and puts the scan inside it. -/
  | enter
  /-- The line ends the block and belongs to it. -/
  | close
  /-- The line ends the block and is not part of it. -/
  | stop
  deriving Repr, DecidableEq

/-- The verdict on a line. Inside the block a line at the base column ends it unless it starts with
a continuation; a less indented line always does. -/
def verdict (cues : Cues) (indent : Nat) (inside : Bool) : Option Shape → Verdict
  | none => .skip
  | some shape =>
    if shape.column < indent then .stop
    else if inside && shape.column == indent then
      if cues.isContinuation shape.first then .keep
      else if cues.isCloser shape.first then .close
      else .stop
    else if indent < shape.column || cues.opensBlock shape.first shape.last then .enter
    else .keep

/-- The last line of the block after a scan of the lines numbered from `n`, where `last` is the last
line found so far. -/
def scanDown (cues : Cues) (indent : Nat) :
    (inside : Bool) → (last n : Nat) → List (Option Shape) → Nat
  | _, last, _, [] => last
  | inside, last, n, line :: below =>
    match verdict cues indent inside line with
    | .skip => scanDown cues indent inside last (n + 1) below
    | .keep => scanDown cues indent inside (max last n) (n + 1) below
    | .enter => scanDown cues indent true (max last n) (n + 1) below
    | .close => max last n
    | .stop => last

/-- Whether a head line is a declaration without a body. -/
def isDeclaration (cues : Cues) : Option Shape → Bool
  | none => false
  | some shape => cues.isDeclarationTerminator shape.last

/-- The last line of the block whose head is line `head`, at least `seed`. -/
def bodyEnd (cues : Cues) (indent : Nat) (shapes : List (Option Shape)) (head seed : Nat) : Nat :=
  let below := shapes.drop head
  scanDown cues indent (isDeclaration cues (below.head?.join)) seed head below

/-- The block around the start of a range, in a document given by the shapes of its lines; none when
the range starts past the last line. A blank head line counts as one at column 0. -/
def ofShapes? (cues : Cues) (shapes : List (Option Shape)) (range : Range) : Option Bounds :=
  let head := range.start.line.toNat
  match shapes[head]? with
  | none => none
  | some shape =>
    let indent := (shape.map Shape.column).getD 0
    let seed := min (max range.lastCoveredLine.toNat head) (shapes.length - 1)
    some {
      firstLine := scanUp cues indent shapes head
      lastLine := bodyEnd cues indent shapes head seed
      indent }

def find? (cues : Cues) (lines : List String) (range : Range) : Option Bounds :=
  ofShapes? cues (lines.map shape?) range

/-- The lines of a block, dedented. -/
def slice (bounds : Bounds) (lines : List String) : List String :=
  ((lines.drop bounds.firstLine).take bounds.lineCount).map (dropColumns bounds.indent)

/-- The text of a block: its dedented lines, each ended by a newline. -/
def text (bounds : Bounds) (lines : List String) : String :=
  String.intercalate "\n" (bounds.slice lines) ++ "\n"

end Bounds

/-- The text of the block at a line of a text, under the usual cues; empty past the last line. -/
def blockText (text : String) (line : UInt32) : String :=
  let lines := Text.splitLines text
  match Bounds.find? {} lines (Range.atLine line) with
  | none => ""
  | some bounds => bounds.text lines

/-- The text of a definition. The text is empty when nothing was found; the numbers then mean
nothing. -/
structure Block where
  url : Url
  firstLine : UInt32 := 0
  lastLine : UInt32 := 0
  indent : UInt32 := 0
  text : String := ""
  deriving Repr, DecidableEq

namespace Block

def isEmpty (block : Block) : Bool := block.text.isEmpty

/-- The block around the start of a range of a document; the empty block past its last line. -/
def extract (cues : Cues) (document : Document) (range : Range) : Block :=
  match Bounds.find? cues document.lines range with
  | some bounds =>
    { url := document.url
      firstLine := bounds.firstLine.toUInt32
      lastLine := bounds.lastLine.toUInt32
      indent := bounds.indent.toUInt32
      text := bounds.text document.lines }
  | none => { url := document.url }

end Block

end Excerpt
