/-! Manuals: what a command does and takes, laid out in columns of limited width. A summary gives
one line to each option, the full manual a paragraph. -/
namespace Excerpt.CommandLine

structure Manual.Entry where
  label : String
  help : String
  /-- What the full manual says instead. -/
  more : Option String := none
  /-- The values that an option takes, and what they mean. -/
  choices : List (String × String) := []
  deriving Repr, DecidableEq

structure Manual.Section where
  heading : String
  entries : List Manual.Entry
  /-- The full manual, too, gives one line to each entry. -/
  isBrief : Bool := false
  deriving Repr, DecidableEq

structure Manual where
  about : String
  /-- What the full manual says instead, in paragraphs. -/
  more : Option (List String) := none
  usage : String
  sections : List Manual.Section
  examples : List String := []
  /-- Whether there is a full manual besides the summary. -/
  isLong : Bool := true
  deriving Repr, DecidableEq

namespace Manual

def pageWidth : Nat := 100

/-- Fills lines of the given width with words, where `line` is begun. -/
def fill (width : Nat) (line : String) : List String → List String
  | [] => [line]
  | word :: words =>
    if line.length + 1 + word.length ≤ width then fill width (line ++ " " ++ word) words
    else line :: fill width word words

def wrap (width : Nat) (text : String) : List String :=
  match text.splitOn " " with
  | [] => []
  | word :: words => fill width word words

def spaces (n : Nat) : String := String.ofList (List.replicate n ' ')

/-- The lines of a text that starts at a column. -/
def indented (column : Nat) (text : String) : String :=
  ("\n" ++ spaces column).intercalate (wrap (pageWidth - column) text)

def choiceList : List (String × String) → String
  | [] => ""
  | choices => " [possible values: " ++ ", ".intercalate (choices.map Prod.fst) ++ "]"

/-- A line, or several, with the label of an entry in a column of its own. -/
def Entry.summary (width : Nat) (entry : Entry) : String :=
  "  " ++ entry.label ++ spaces (width - entry.label.length) ++ "  " ++
    indented (width + 4) (entry.help ++ choiceList entry.choices)

def paragraphColumn : Nat := 10

/-- The values that an option takes, one to a line, with their meanings in a column. -/
def choiceLines (choices : List (String × String)) : List String :=
  let width := (choices.map (·.1.length)).foldl max 0
  choices.map fun (name, meaning) =>
    "- " ++ name ++ ": " ++ spaces (width - name.length) ++ meaning

def Entry.full (entry : Entry) : String :=
  let newline := "\n" ++ spaces paragraphColumn
  "  " ++ entry.label ++ newline ++ indented paragraphColumn (entry.more.getD entry.help) ++
    (if entry.choices.isEmpty then ""
      else "\n" ++ newline ++ newline.intercalate ("Possible values:" :: choiceLines entry.choices))

def Section.summary (part : Section) : String :=
  let width := (part.entries.map (·.label.length)).foldl max 0
  part.heading ++ ":\n" ++ "\n".intercalate (part.entries.map (Entry.summary width))

def Section.full (part : Section) : String :=
  if part.isBrief then part.summary
  else part.heading ++ ":\n" ++ "\n\n".intercalate (part.entries.map Entry.full)

def footer (manual : Manual) : List String :=
  if manual.examples.isEmpty then []
  else ["\n".intercalate ("Examples:" :: manual.examples.map ("  " ++ ·))]

def summary (manual : Manual) : String :=
  "\n\n".intercalate
    (indented 0 manual.about :: ("Usage: " ++ manual.usage) ::
      manual.sections.map Section.summary ++ manual.footer) ++ "\n"

def full (manual : Manual) : String :=
  if manual.isLong then
    "\n\n".intercalate
      ((manual.more.getD [manual.about]).map (indented 0) ++ ("Usage: " ++ manual.usage) ::
        manual.sections.map Section.full ++ manual.footer) ++ "\n"
  else manual.summary

end Manual

end Excerpt.CommandLine
