import Excerpt.Json.Printer
import Excerpt.Text.Ascii

/-! How results are printed: as a table for readers or as JSON for programs. -/
namespace Excerpt.Report

inductive Format where
  | table
  | json
  deriving Repr, DecidableEq

namespace Format

structure Unknown where
  name : String
  deriving Repr, DecidableEq

def Unknown.message (unknown : Unknown) : String :=
  "Unknown output format: '" ++ unknown.name ++ "'"

def name : Format → String
  | .table => "table"
  | .json => "json"

/-- The format with exactly the given name. -/
def ofName? : String → Option Format
  | "table" => some .table
  | "json" => some .json
  | _ => none

/-- The format with the given name, in any case. -/
def parse (text : String) : Except Unknown Format :=
  match ofName? (Text.lowerCase text) with
  | some format => .ok format
  | none => .error ⟨text⟩

end Format

structure Style where
  format : Format
  /-- JSON goes on one line. -/
  compact : Bool := false
  deriving Repr, DecidableEq

def Style.json (style : Style) (value : Json) : String :=
  if style.compact then value.compact else value.pretty

def Style.render (style : Style) (table : String) (value : Json) : String :=
  match style.format with
  | .table => table
  | .json => style.json value

/-- What is printed of a rendering: it ends in a newline unless it is empty. -/
def printed (rendering : String) : String :=
  if rendering.isEmpty || rendering.toList.getLast? = some '\n' then rendering
  else rendering ++ "\n"

inductive Emphasis where
  | bold
  | dim
  | red
  | yellow
  | cyan
  deriving Repr, DecidableEq

def Emphasis.escape : Emphasis → String
  | .bold => "\x1b[1m"
  | .dim => "\x1b[2m"
  | .red => "\x1b[31m"
  | .yellow => "\x1b[33m"
  | .cyan => "\x1b[36m"

def endEscape : String := "\x1b[0m"

/-- A text with an emphasis, if there are to be any. The emphasis starts anew where the text itself
ends it. -/
def Emphasis.paint (colors : Bool) (emphasis : Emphasis) (text : String) : String :=
  if colors then
    emphasis.escape ++ text.replace endEscape (endEscape ++ emphasis.escape) ++ endEscape
  else text

end Excerpt.Report
