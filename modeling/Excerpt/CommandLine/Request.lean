import Excerpt.Anchor.Argument
import Excerpt.CommandLine.Manual
import Excerpt.CommandLine.Options
import Excerpt.Highlight
import Excerpt.Report.Format

/-! What a command line asks for. -/
namespace Excerpt.CommandLine

def programName : String := "defview"

def version : String := "0.1.0"

structure Flags where
  verbose : Bool := false
  quiet : Bool := false
  format : Option Report.Format := none
  compact : Bool := false
  deriving Repr, DecidableEq

/-- The flags of a command take precedence over those before it. -/
def Flags.merge (outer inner : Flags) : Flags where
  verbose := outer.verbose || inner.verbose
  quiet := outer.quiet || inner.quiet
  format := inner.format.or outer.format
  compact := outer.compact || inner.compact

structure Targets where
  /-- The file being viewed. -/
  file : String
  arguments : List AnchorArgument := []
  /-- A file with a response, `-` for standard input. -/
  response : Option String := none
  deriving Repr, DecidableEq

inductive Command where
  | definitions (targets : Targets) (markup : Option Markup) (theme : Option String)
  | bounds (targets : Targets)
  deriving Repr, DecidableEq

inductive Request where
  | text (t : String)
  /-- Nothing but options: the overview of what could be asked for. -/
  | overview (flags : Flags)
  | run (flags : Flags) (command : Command)
  deriving Repr, DecidableEq

def commonEntries : List Manual.Entry :=
  [{ label := "-v, --verbose", help := "Enable verbose output (debug logging)" },
   { label := "-q, --quiet", help := "Only log errors" },
   { label := "    --format <FORMAT>"
     help := "Output format (overrides config default)"
     choices := [("table", "Human-readable format (default)"),
       ("json", "JSON format for machine consumption")] },
   { label := "    --compact", help := "Single-line JSON output" }]

def manualEntries : List Manual.Entry :=
  [{ label := "-h, --help"
     help := "Print help (see more with '--help')"
     more := some "Print help (see a summary with '-h')" },
   { label := "-V, --version", help := "Print version" }]

def optionSections (entries : List Manual.Entry) : List Manual.Section :=
  [⟨"Options", entries ++ manualEntries, false⟩, ⟨"Options", commonEntries, false⟩]

def programManual : Manual where
  about := "Show whole definitions for go-to-definition results"
  more := some ["Peek at whole definitions from the command line.",
    "Give a file and one or more anchor lines (or a definition response as JSON) and DefView " ++
      "prints each complete definition, highlighted in the file's language."]
  usage := "defview [OPTIONS] [COMMAND]"
  sections :=
    { heading := "Commands"
      isBrief := true
      entries :=
        [{ label := "show"
           help := "Extract and highlight the definitions at the given anchors [alias: s]" },
         { label := "bounds"
           help := "Print the line range of the block at each anchor [alias: b]" },
         { label := "help"
           help := "Print this message or the help of the given subcommand(s)" }] } ::
    optionSections []
  examples :=
    ["defview show src/main.py 12          Definition at line 12",
     "defview show app.cs 40 lib/Util.cs:8 Local and cross-file anchors",
     "defview show app.ts --anchors-json -  Anchors from a definition response on stdin",
     "defview bounds src/lib.rs 3-5        Where does the block start and end?"]

def helpManual : Manual where
  about := "Print this message or the help of the given subcommand(s)"
  usage := "defview help [COMMAND]..."
  sections :=
    [{ heading := "Arguments"
       entries := [{ label := "[COMMAND]...", help := "Print help for the subcommand(s)" }] }]
  isLong := false

def commonOptions : List OptionSpec :=
  [⟨"verbose", some 'v', false⟩, ⟨"quiet", some 'q', false⟩, ⟨"format", none, true⟩,
   ⟨"compact", none, false⟩, ⟨"help", some 'h', false⟩, ⟨"version", some 'V', false⟩]

inductive Verb where
  | definitions
  | bounds
  deriving Repr, DecidableEq

namespace Verb

def ofName? : String → Option Verb
  | "show" | "s" => some .definitions
  | "bounds" | "b" => some .bounds
  | _ => none

def name : Verb → String
  | .definitions => "show"
  | .bounds => "bounds"

def arguments : Manual.Section where
  heading := "Arguments"
  entries :=
    [{ label := "<FILE>", help := "File the definitions are viewed from" },
     { label := "[ANCHORS]..."
       help := "Anchors: LINE, LINE-END, PATH:LINE or PATH:LINE-END (1-based)" }]

def responseEntry : Manual.Entry where
  label := "    --anchors-json <PATH>"
  help := "Read anchors from a definition response (JSON file, or - for stdin)"

def manual : Verb → Manual
  | .definitions =>
    { about := "Extract and highlight the definitions at the given anchors"
      usage := "defview show [OPTIONS] <FILE> [ANCHORS]..."
      sections := arguments :: optionSections
        [responseEntry,
         { label := "-m, --markup <MARKUP>"
           help := "Markup to produce (defaults to ansi on a terminal, plain otherwise)"
           choices := [("ansi", "24-bit ANSI escapes for terminals"),
             ("html", "Self-contained `<pre>` block with inline styles"),
             ("plain", "No highlighting")] },
         { label := "-t, --theme <THEME>", help := "Highlighting theme" }] }
  | .bounds =>
    { about := "Print the line range of the block at each anchor"
      usage := "defview bounds [OPTIONS] <FILE> [ANCHORS]..."
      sections := arguments :: optionSections [responseEntry] }

def options : Verb → List OptionSpec
  | .definitions => commonOptions ++
    [⟨"anchors-json", none, true⟩, ⟨"markup", some 'm', true⟩, ⟨"theme", some 't', true⟩]
  | .bounds => commonOptions ++ [⟨"anchors-json", none, true⟩]

end Verb

/-- What has been read of the options and words of a command. -/
structure Draft where
  flags : Flags := {}
  file : Option String := none
  arguments : List AnchorArgument := []
  response : Option String := none
  markup : Option Markup := none
  theme : Option String := none
  /-- Names of the options that were given. -/
  given : List String := []

/-- Reading ends early with an error, or with a text that was asked for. -/
inductive Halt where
  | error (e : UsageError)
  | text (t : String)

namespace Draft

/-- Sets an option, which may be given once. -/
def setOption (draft : Draft) (name : String) (value : Option String) : Except Halt Draft := do
  if name ∈ draft.given then throw (.error (.repeated name))
  let draft := { draft with given := name :: draft.given }
  let value := value.getD ""
  match name with
  | "verbose" => return { draft with flags := { draft.flags with verbose := true } }
  | "quiet" => return { draft with flags := { draft.flags with quiet := true } }
  | "compact" => return { draft with flags := { draft.flags with compact := true } }
  | "format" =>
    match Report.Format.ofName? value with
    | some format => return { draft with flags := { draft.flags with format := some format } }
    | none => throw (.error (.invalidValue name value))
  | "markup" =>
    match Markup.ofName? value with
    | some markup => return { draft with markup := some markup }
    | none => throw (.error (.invalidValue name value))
  | "theme" => return { draft with theme := some value }
  | "anchors-json" => return { draft with response := some value }
  | _ => throw (.error (.unknownOption name))

/-- Adds a word: the file, then anchors. -/
def addWord (draft : Draft) (word : String) : Except Halt Draft :=
  match draft.file with
  | none =>
    if word.isEmpty then throw (.error (.invalidValue "FILE" word))
    else return { draft with file := some word }
  | some _ =>
    match AnchorArgument.parse word with
    | .ok argument => return { draft with arguments := draft.arguments ++ [argument] }
    | .error _ => throw (.error (.invalidValue "ANCHORS" word))

/-- Adds an option or a word. Where the version or the manual is asked for, reading ends: the long
name asks for the full manual. -/
def addToken (title : String) (manual : Manual) (draft : Draft) : Token → Except Halt Draft
  | .option "version" .. => throw (.text (title ++ " " ++ version ++ "\n"))
  | .option "help" _ isLong => throw (.text (if isLong then manual.full else manual.summary))
  | .option name value _ => draft.setOption name value
  | .word word => draft.addWord word

/-- The command that a draft amounts to: it needs a file, and anchors of either kind. -/
def toCommand (verb : Verb) (draft : Draft) : Except UsageError Command := do
  let some file := draft.file | throw (.missingArgument "FILE")
  if draft.arguments.isEmpty && draft.response.isNone then throw (.missingArgument "ANCHORS")
  let targets : Targets := ⟨file, draft.arguments, draft.response⟩
  return match verb with
    | .definitions => .definitions targets draft.markup draft.theme
    | .bounds => .bounds targets

end Draft

namespace Request

def parseCommand (verb : Verb) (words : List String) : Except Halt (Flags × Command) := do
  let read := Tokens.read verb.options false words
  let title := programName ++ "-" ++ verb.name
  let draft ← read.tokens.foldlM (Draft.addToken title verb.manual) {}
  if let some e := read.error then throw (.error e)
  return (draft.flags, ← (draft.toCommand verb).mapError .error)

/-- Reads the words after the command for manuals: commands, of which none holds another. -/
def parseHelp : List String → Except UsageError String
  | [] => .ok programManual.full
  | name :: names =>
    match Verb.ofName? name, names with
    | some verb, [] => .ok verb.manual.full
    | none, [] => if name == "help" then .ok helpManual.full else .error (.unknownCommand name)
    | _, name :: _ => .error (.unknownCommand name)

/-- Reads the options before a command, and the command. An option that is pending before the
command is looked at after all that follows. -/
def parseTop (words : List String) : Except Halt Request := do
  let read := Tokens.read commonOptions true words
  let draft ← read.tokens.foldlM (Draft.addToken programName programManual) {}
  if let some e := read.error then throw (.error e)
  match read.command with
  | none => return .overview draft.flags
  | some ("help", names) => throw (.text (← (parseHelp names).mapError .error))
  | some (name, words) =>
    let some verb := Verb.ofName? name | throw (.error (.unknownCommand name))
    let (inner, command) ← parseCommand verb words
    let draft ← read.pending.toList.foldlM (Draft.addToken programName programManual) draft
    return .run (draft.flags.merge inner) command

def parse (words : List String) : Except UsageError Request :=
  match parseTop words with
  | .ok request => .ok request
  | .error (.text t) => .ok (.text t)
  | .error (.error e) => .error e

end Request

end Excerpt.CommandLine
