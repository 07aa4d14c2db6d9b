import Excerpt.Cues.Json
import Excerpt.Highlight
import Excerpt.Source
import Excerpt.Toml.Reader

/-! Preferences, kept in a file of the working directory. -/
namespace Excerpt

structure Preferences where
  cues : Cues := {}
  /-- The name of a format, which need not be known. -/
  format : Option String := none
  color : Option Bool := none
  markup : Option Markup := none
  theme : Option String := none
  deriving Repr, DecidableEq

namespace Preferences

def fileName : String := ".defviewrc.toml"

def themeName (preferences : Preferences) : String := preferences.theme.getD Theme.usual

/-- The values of some fields: those of a table by their names, those of an array by their places. A
date or time counts as a table without any of them. -/
def fields? (names : List String) : Toml → Option (List (Option Toml))
  | .table _ entries => some (names.map fun name => Toml.get? name entries)
  | .array items => some (names.zipIdx.map fun (_, i) => items[i]?)
  | .tables items => some (names.zipIdx.map fun (_, i) => items[i]?.map (.table .header))
  | .dateTime => some (names.map fun _ => none)
  | _ => none

def optional? {α : Type} (read : Toml → Option α) : Option Toml → Option (Option α)
  | none => some none
  | some value => (read value).map some

def string? : Toml → Option String
  | .string value => some value
  | _ => none

def boolean? : Toml → Option Bool
  | .boolean value => some value
  | _ => none

def char? (value : Toml) : Option Char := do
  match (← string? value).toList with
  | [c] => some c
  | _ => none

def chars? : Toml → Option (List Char)
  | .array items => items.mapM char?
  | _ => none

def isEmpty : Toml → Bool
  | .array [] | .table _ [] => true
  | _ => false

/-- A kind of markup, by its name or as the only key of a table that gives it nothing. -/
def markup? : Toml → Option Markup
  | .string value => Markup.ofName? value
  | .table _ [(name, value)] => if isEmpty value then Markup.ofName? name else none
  | _ => none

def ofSection {α : Type} (otherwise : α) (read : Toml → Option α) (key : String)
    (entries : Toml.Entries) : Option α :=
  match Toml.get? key entries with
  | none => some otherwise
  | some value => read value

def cues? (value : Toml) : Option Cues := do
  return Cues.ofLists (← (← fields? Cues.fieldNames value).mapM (optional? chars?))

def output? (value : Toml) : Option (Option String × Option Bool × Option Markup) := do
  match ← fields? ["format", "color", "markup"] value with
  | [format, color, markup] =>
    return (← optional? string? format, ← optional? boolean? color, ← optional? markup? markup)
  | _ => none

def theme? (value : Toml) : Option (Option String) := do
  match ← fields? ["theme"] value with
  | [theme] => optional? string? theme
  | _ => none

/-- The preferences that a document states. Keys without meaning are passed over. -/
def ofToml? (entries : Toml.Entries) : Option Preferences := do
  let cues ← ofSection {} cues? "extractor" entries
  let (format, color, markup) ← ofSection (none, none, none) output? "output" entries
  let theme ← ofSection none theme? "highlight" entries
  return { cues, format, color, markup, theme }

def parse? (text : String) : Option Preferences := (Toml.parse? text).bind ofToml?

/-- The preferences in a file, and a warning about a file that is there and cannot be used. What
cannot be used counts as no preferences at all. -/
def load (file : Except ReadFault String) : Preferences × Option String :=
  match file with
  | .error .missing | .error .notDirectory => ({}, none)
  | .error _ => ({}, some ("Failed to read " ++ fileName))
  | .ok text =>
    match parse? text with
    | some preferences => (preferences, none)
    | none => ({}, some ("Failed to parse " ++ fileName))

end Preferences

end Excerpt
