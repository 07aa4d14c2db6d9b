import Excerpt.Anchor.Resolve
import Excerpt.CommandLine.Request
import Excerpt.Preferences
import Excerpt.Report.Bounds
import Excerpt.Report.Definitions

/-! Running a command line. All that is read from outside comes through a `Host`, in any monad. -/
namespace Excerpt.CommandLine

/-- What a run may ask of the outside. -/
structure Host (m : Type → Type) where
  workDir : Bytes
  read : Bytes → m (Except ReadFault Bytes)
  input : m Bytes
  /-- The output goes to a terminal. -/
  isTerminal : Bool := false
  /-- Tables are in colour unless the user prefers otherwise. -/
  isColored : Bool := false
  engine : SyntaxEngine := .bare

structure Outcome where
  exit : Nat := 0
  output : String := ""
  warnings : List String := []
  /-- Something was logged for debugging. -/
  isLogged : Bool := false
  /-- The error that ended the run and what caused it, outermost first. -/
  errors : List String := []
  deriving Repr, DecidableEq

/-- What a command prints and warns of, or the error that ends it and its causes. -/
abbrev Result := Except (List String) (String × List String)

def documentChain (e : DocumentError) : List String :=
  e.message :: match e with
    | .unreadable _ fault => [fault.message]
    | _ => []

namespace Host

variable {m : Type → Type} [Monad m] (host : Host m)

def openUrl (url : Url) : m (Except DocumentError Document) :=
  match url.localPath? with
  | none => return .error (.unsupported url)
  | some path => return Files.toDocument url path (Files.decode (← host.read path))

def openFile (file : String) : m (Except (List String) Document) :=
  match Document.urlOfPath host.workDir file with
  | .error e => return .error [e.message]
  | .ok url => return (← host.openUrl url).mapError fun e =>
    ("Failed to open file: " ++ file) :: documentChain e

/-- The anchors that a response holds, none where there is no response. -/
def readResponse : Option String → m (Except AnchorsError (List Anchor))
  | none => return .ok []
  | some "-" => return Anchor.ofInput (Files.decode (.ok (← host.input)))
  | some path => return Anchor.ofFile path (Files.decode (← host.read (Text.utf8 path)))

/-- The source of the documents that some anchors point to, all opened beforehand. -/
def fetch (viewing : Document) (anchors : List Anchor) : m Source := do
  let urls := (anchors.map (·.target.url)).filter (· ≠ viewing.url)
  let opened ← urls.mapM fun url => return (url, ← host.openUrl url)
  return fun url => (List.lookup url opened).getD (.error (.notFound url))

/-- Opens the file being viewed, and finds the anchors and their documents. -/
def prepare (targets : Targets) :
    m (Except (List String) (Document × List Anchor × Source)) := do
  match ← host.openFile targets.file with
  | .error chain => return .error chain
  | .ok viewing =>
    let response ← host.readResponse targets.response
    match Anchor.resolve host.workDir viewing.url targets.arguments response with
    | .error e => return .error e.chain
    | .ok anchors => return .ok (viewing, anchors, ← host.fetch viewing anchors)

end Host

/-- The kind of markup: as asked for, or as preferred, or plain except on a coloured terminal. -/
def chooseMarkup (asked : Option Markup) (preferences : Preferences) (format : Report.Format)
    (colors : Bool) : Markup :=
  (asked.or preferences.markup).getD (if format = .json ∨ !colors then .plain else .ansi)

/-- How to print: as asked for, or as preferred if that is known, or as a table. -/
def chooseStyle (flags : Flags) (preferences : Preferences) : Report.Style where
  format := (flags.format.or
    (preferences.format.bind fun name => (Report.Format.parse name).toOption)).getD .table
  compact := flags.compact

def printDefinitions (style : Report.Style) (preferences : Preferences) (file : String)
    (markup : Markup) (themeName : String) (engine : SyntaxEngine) (viewing : Document)
    (anchors : List Anchor) (source : Source) : Result := do
  let highlighter ← (markup.highlighter themeName engine).mapError fun e => [e.message]
  let aggregation := Aggregation.collect source preferences.cues viewing anchors
  let text ← (aggregation.highlight highlighter).mapError fun e =>
    ["Failed to highlight definitions", e.message]
  let report : Report.Definitions := ⟨file, aggregation.languageId, aggregation.blocks, text⟩
  let failures := Aggregation.failures source preferences.cues viewing anchors
  return (Report.printed (report.render style),
    failures.map fun e => "skipping definition: " ++ e.message)

def printBounds (style : Report.Style) (colors : Bool) (preferences : Preferences) (file : String)
    (viewing : Document) (anchors : List Anchor) (source : Source) : Result :=
  let report := Report.Bounds.ofAnchors source preferences.cues viewing file anchors
  .ok (Report.printed (report.render style colors), [])

variable {m : Type → Type} [Monad m]

def Command.run (host : Host m) (flags : Flags) (preferences : Preferences) :
    Command → m Result
  | .definitions targets markup theme => do
    let style := chooseStyle flags preferences
    let colors := preferences.color.getD host.isTerminal
    let markup := chooseMarkup markup preferences style.format colors
    let themeName := theme.getD preferences.themeName
    return (← host.prepare targets).bind fun (viewing, anchors, source) =>
      printDefinitions style preferences targets.file markup themeName host.engine viewing anchors
        source
  | .bounds targets => do
    let style := chooseStyle flags preferences
    let colors := preferences.color.getD host.isColored
    return (← host.prepare targets).bind fun (viewing, anchors, source) =>
      printBounds style colors preferences targets.file viewing anchors source

/-- The outcome of a command. Nothing but errors is logged when that is asked for. -/
def Outcome.ofResult (flags : Flags) (warnings : List String) (result : Result) : Outcome :=
  let visible (warnings : List String) := if flags.quiet then [] else warnings
  let isLogged := flags.verbose && !flags.quiet
  match result with
  | .ok (output, more) => { output, warnings := visible (warnings ++ more), isLogged }
  | .error errors => { exit := 1, warnings := visible warnings, isLogged, errors }

def Host.preferences (host : Host m) : m (Preferences × List String) := do
  let file := Files.decode (← host.read (Text.utf8 Preferences.fileName))
  let (preferences, warning) := Preferences.load file
  return (preferences, warning.toList)

def run (host : Host m) (words : List String) : m Outcome := do
  match Request.parse words with
  | .error e => return { exit := 2, errors := [e.message] }
  | .ok (.text output) => return { output }
  | .ok (.overview flags) =>
    let (_, warnings) ← host.preferences
    let warnings := if flags.quiet then [] else warnings
    return { output := programManual.summary ++ "\n", warnings }
  | .ok (.run flags command) =>
    let (preferences, warnings) ← host.preferences
    return .ofResult flags warnings (← command.run host flags preferences)

end Excerpt.CommandLine
