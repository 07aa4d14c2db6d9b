import Excerpt.Url.Basic

/-! Anchors: places at which definitions begin. Positions and ranges of a document are counted from
zero in lines and columns of 32 bits. -/
namespace Excerpt

/-- A place between two characters of a line. -/
structure Position where
  line : UInt32
  character : UInt32
  deriving Repr, DecidableEq, Inhabited

/-- A stretch of a document. Nothing requires the end to come after the start. -/
structure Range where
  start : Position
  stop : Position
  deriving Repr, DecidableEq, Inhabited

namespace Range

/-- The empty range at the start of a line. -/
def atLine (line : UInt32) : Range :=
  ⟨⟨line, 0⟩, ⟨line, 0⟩⟩

/-- The range of all characters of the lines `first` to `last`, and of at least `first`. -/
def lines (first last : UInt32) : Range :=
  ⟨⟨first, 0⟩, ⟨max last first + 1, 0⟩⟩

/-- The last line that holds a character of the range: an end in column 0 of a later line does not
cover that line. -/
def lastCoveredLine (range : Range) : UInt32 :=
  if range.start.line < range.stop.line ∧ range.stop.character = 0 then range.stop.line - 1
  else max range.stop.line range.start.line

end Range

structure Location where
  url : Url
  range : Range
  deriving Repr, DecidableEq

/-- A range of a document that a place elsewhere refers to. -/
structure Link where
  /-- The place that refers. -/
  origin : Option Range := none
  targetUrl : Url
  targetRange : Range
  /-- The part of the target to be shown as selected. -/
  targetSelection : Range
  deriving Repr, DecidableEq

/-- A place at which a definition begins. -/
inductive Anchor where
  | link (l : Link)
  | location (l : Location)
  deriving Repr, DecidableEq

def Anchor.target : Anchor → Location
  | .link l => ⟨l.targetUrl, l.targetRange⟩
  | .location l => l

end Excerpt
