/-! Options on a command line: `--name value`, `--name=value`, `-n value`, `-nvalue` and `-n=value`.
Short flags may share a dash, and `--` ends the options. -/
namespace Excerpt.CommandLine

inductive UsageError where
  | unknownOption (text : String)
  | unknownCommand (name : String)
  | repeated (name : String)
  | missingValue (name : String)
  | unexpectedValue (name : String)
  | invalidValue (name value : String)
  | missingArgument (name : String)
  deriving Repr, DecidableEq

def UsageError.message : UsageError → String
  | .unknownOption text => "unexpected argument '" ++ text ++ "' found"
  | .unknownCommand name => "unrecognized subcommand '" ++ name ++ "'"
  | .repeated name => "the argument '--" ++ name ++ "' cannot be used multiple times"
  | .missingValue name => "a value is required for '--" ++ name ++ "' but none was supplied"
  | .unexpectedValue name => "unexpected value for '--" ++ name ++ "' found"
  | .invalidValue name value => "invalid value '" ++ value ++ "' for '" ++ name ++ "'"
  | .missingArgument name => "the required argument " ++ name ++ " was not provided"

structure OptionSpec where
  name : String
  short : Option Char := none
  takesValue : Bool := false
  deriving Repr, DecidableEq

inductive Token where
  /-- An option, with its value if it takes one, and whether it was given by its long name. -/
  | option (name : String) (value : Option String) (isLong : Bool := true)
  | word (text : String)
  deriving Repr, DecidableEq

/-- Whether a word after an option that takes a value can be that value. -/
def isValue (word : String) : Bool :=
  match word.toList with
  | '-' :: _ :: _ => false
  | _ => true

/-- What a group of short options holds: tokens, and the option at its end that has its value in the
next word. -/
def readShorts (specs : List OptionSpec) :
    List Char → List Token × Except UsageError (Option OptionSpec)
  | [] => ([], .ok none)
  | c :: cs =>
    match specs.find? fun spec => spec.short == some c with
    | none => ([], .error (.unknownOption (String.ofList ['-', c])))
    | some spec =>
      if spec.takesValue then
        match cs with
        | [] => ([], .ok (some spec))
        | '=' :: value => ([.option spec.name (some (String.ofList value)) false], .ok none)
        | value => ([.option spec.name (some (String.ofList value)) false], .ok none)
      else
        let (tokens, last) := readShorts specs cs
        (.option spec.name none false :: tokens, last)

def readLong (specs : List OptionSpec) (cs : List Char) :
    List Token × Except UsageError (Option OptionSpec) :=
  let (name, rest) := cs.span (· != '=')
  let name := String.ofList name
  match specs.find? fun spec => spec.name == name, rest with
  | none, _ => ([], .error (.unknownOption ("--" ++ name)))
  | some spec, [] =>
    if spec.takesValue then ([], .ok (some spec)) else ([.option name none], .ok none)
  | some spec, _ :: value =>
    if spec.takesValue then ([.option name (some (String.ofList value))], .ok none)
    else ([], .error (.unexpectedValue name))

def readDashed (specs : List OptionSpec) :
    List Char → List Token × Except UsageError (Option OptionSpec)
  | '-' :: cs => readLong specs cs
  | cs => readShorts specs cs

/-- A command line as far as it could be read. -/
structure Tokens where
  tokens : List Token
  /-- An option right before the command whose value was a word of its own. -/
  pending : Option Token := none
  /-- The command, and the words after it, which were not read. -/
  command : Option (String × List String) := none
  error : Option UsageError := none

namespace Tokens

def prepend (front : List Token) (tokens : Tokens) : Tokens :=
  { tokens with tokens := front ++ tokens.tokens }

/-- Adds an option in front whose value was a word of its own. -/
def prependPending (token : Token) (tokens : Tokens) : Tokens :=
  match tokens.tokens, tokens.pending, tokens.command with
  | [], none, some _ => { tokens with pending := some token }
  | _, _, _ => tokens.prepend [token]

/-- Reads a command line. Where `toCommand` is set it is read up to the first word, which names the
command, and no word may follow the end of the options. -/
def read (specs : List OptionSpec) (toCommand : Bool) : List String → Tokens
  | [] => { tokens := [] }
  | word :: words =>
    match word.toList with
    | ['-', '-'] =>
      if toCommand then { tokens := [], error := words.head?.map .unknownOption }
      else { tokens := words.map .word }
    | '-' :: c :: cs =>
      match readDashed specs (c :: cs), words with
      | (front, .error e), _ => { tokens := front, error := some e }
      | (front, .ok none), words => (read specs toCommand words).prepend front
      | (front, .ok (some spec)), value :: words =>
        if isValue value then
          let token := .option spec.name (some value)
          ((read specs toCommand words).prependPending token).prepend front
        else { tokens := front, error := some (.missingValue spec.name) }
      | (front, .ok (some spec)), [] => { tokens := front, error := some (.missingValue spec.name) }
    | _ =>
      if toCommand then { tokens := [], command := some (word, words) }
      else (read specs toCommand words).prepend [.word word]

end Tokens

end Excerpt.CommandLine
