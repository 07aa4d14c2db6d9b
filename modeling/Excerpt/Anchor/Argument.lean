import Excerpt.Anchor.Basic
import Excerpt.Document
import Excerpt.Text.Line
import Excerpt.Text.Ascii

/-! Anchors as typed by a user: `LINE`, `LINE-END`, `PATH:LINE` or `PATH:LINE-END`, counted from 1.
-/
namespace Excerpt

inductive AnchorArgument.ParseError where
  | invalidLine (text : String)
  | zeroLine
  | invertedRange (first last : UInt32)
  | emptyPath
  deriving Repr, DecidableEq

def AnchorArgument.ParseError.message : AnchorArgument.ParseError → String
  | .invalidLine text => "'" ++ text ++ "' is not a line number"
  | .zeroLine => "line numbers start at 1"
  | .invertedRange first last =>
    "end line " ++ toString last ++ " is before start line " ++ toString first
  | .emptyPath => "missing path before ':'"

/-- An anchor as typed. -/
structure AnchorArgument where
  /-- The file, none for the document being viewed. -/
  path : Option String
  first : UInt32
  last : Option UInt32
  deriving Repr, DecidableEq

namespace AnchorArgument

/-- The number that one or more decimal digits spell in 32 bits. -/
def number? (digits : List Char) : Option UInt32 :=
  if digits.isEmpty || !digits.all Char.isDigit then none
  else
    let value := Text.decimalValue digits
    if value < UInt32.size then some value.toUInt32 else none

/-- Reads a line number, with blanks around it and a plus sign before it if need be. -/
def parseLine (text : List Char) : Except ParseError UInt32 :=
  let digits := match Text.trim text with
    | '+' :: digits => digits
    | digits => digits
  match number? digits with
  | none => .error (.invalidLine (String.ofList text))
  | some 0 => .error .zeroLine
  | some line => .ok line

/-- Reads one line number, or two around the first dash. -/
def parseLines (text : List Char) : Except ParseError (UInt32 × Option UInt32) :=
  match text.span (· != '-') with
  | (_, []) => do return (← parseLine text, none)
  | (before, _ :: after) => do
    let first ← parseLine before
    let last ← parseLine after
    if last < first then .error (.invertedRange first last) else return (first, some last)

/-- The parts of a text before and after its last colon. -/
def splitLastColon? (text : List Char) : Option (List Char × List Char) :=
  match text.reverse.span (· != ':') with
  | (_, []) => none
  | (after, _ :: before) => some (before.reverse, after.reverse)

def parse (text : String) : Except ParseError AnchorArgument :=
  match splitLastColon? text.toList with
  | some ([], _) => .error .emptyPath
  | some (path, lines) => do
    let (first, last) ← parseLines lines
    return ⟨some (String.ofList path), first, last⟩
  | none => do
    let (first, last) ← parseLines text.toList
    return ⟨none, first, last⟩

/-- The range of the lines, counted from 0. -/
def range (argument : AnchorArgument) : Range :=
  match argument.last with
  | some last => .lines (argument.first - 1) (last - 1)
  | none => .atLine (argument.first - 1)

/-- The anchor, where one without a path points into the document at `viewing`. -/
def toAnchor (workDir : Bytes) (viewing : Url) (argument : AnchorArgument) :
    Except DocumentError Anchor := do
  let url ← match argument.path with
    | some path => Document.urlOfPath workDir path
    | none => pure viewing
  return .location ⟨url, argument.range⟩

end AnchorArgument

end Excerpt
