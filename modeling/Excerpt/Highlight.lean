import Excerpt.Text.Ascii

/-! Highlighters: from the text of a definition to markup for display. -/
namespace Excerpt

inductive HighlightError where
  | unknownTheme (name : String)
  | render (message : String)
  deriving Repr, DecidableEq

def HighlightError.message : HighlightError → String
  | .unknownTheme name => "Unknown theme: " ++ name
  | .render message => "Highlighting failed: " ++ message

/-- Turns a text in a language into markup. -/
abbrev Highlighter := (languageId code : String) → Except HighlightError String

structure Color where
  red : UInt8
  green : UInt8
  blue : UInt8
  deriving Repr, DecidableEq

def Color.hex (color : Color) : String :=
  String.ofList ('#' :: [color.red, color.green, color.blue].flatMap fun share =>
    [Text.lowerHex (share.toNat / 16), Text.lowerHex (share.toNat % 16)])

/-- The colours of plain text under a theme. -/
structure Theme where
  name : String
  foreground : Color
  background : Color
  deriving Repr, DecidableEq

namespace Theme

def all : List Theme :=
  [⟨"InspiredGitHub", ⟨0x32, 0x32, 0x32⟩, ⟨0xff, 0xff, 0xff⟩⟩,
   ⟨"Solarized (dark)", ⟨0x83, 0x94, 0x96⟩, ⟨0x00, 0x2b, 0x36⟩⟩,
   ⟨"Solarized (light)", ⟨0x65, 0x7b, 0x83⟩, ⟨0xfd, 0xf6, 0xe3⟩⟩,
   ⟨"base16-eighties.dark", ⟨0xd3, 0xd0, 0xc8⟩, ⟨0x2d, 0x2d, 0x2d⟩⟩,
   ⟨"base16-mocha.dark", ⟨0xd0, 0xc8, 0xc6⟩, ⟨0x3b, 0x32, 0x28⟩⟩,
   ⟨"base16-ocean.dark", ⟨0xc0, 0xc5, 0xce⟩, ⟨0x2b, 0x30, 0x3b⟩⟩,
   ⟨"base16-ocean.light", ⟨0x4f, 0x5b, 0x66⟩, ⟨0xef, 0xf1, 0xf5⟩⟩]

def usual : String := "base16-ocean.dark"

def find (name : String) : Except HighlightError Theme :=
  match all.find? (·.name == name) with
  | some theme => .ok theme
  | none => .error (.unknownTheme name)

end Theme

/-- A part of a line in one colour. -/
structure Piece where
  color : Color
  text : String
  deriving Repr, DecidableEq

namespace Highlighter

def plain : Highlighter := fun _ code => .ok code

/-- The lines of a text, each with the newline that ends it. -/
def linesWithEnds : List Char → List (List Char)
  | [] => []
  | c :: cs =>
    if c = '\n' then ['\n'] :: linesWithEnds cs
    else match linesWithEnds cs with
      | [] => [[c]]
      | line :: lines => (c :: line) :: lines

def codeLines (code : String) : List String := (linesWithEnds code.toList).map String.ofList

def colorEscape (color : Color) : String :=
  "\x1b[38;2;" ++ toString color.red.toNat ++ ";" ++ toString color.green.toNat ++ ";" ++
    toString color.blue.toNat ++ "m"

def resetEscape : String := "\x1b[0m"

def ansiPiece (piece : Piece) : String := colorEscape piece.color ++ piece.text

/-- A text with the reset at its end, before a final newline. -/
def withReset (text : List Char) : List Char :=
  if text.getLast? = some '\n' then text.dropLast ++ resetEscape.toList ++ ['\n']
  else text ++ resetEscape.toList

def ansiLines (lines : List (List Piece)) : String :=
  String.ofList (withReset (lines.flatten.flatMap fun piece => (ansiPiece piece).toList))

def escapeHtml : Char → List Char
  | '&' => "&amp;".toList
  | '<' => "&lt;".toList
  | '>' => "&gt;".toList
  | '"' => "&quot;".toList
  | '\'' => "&#39;".toList
  | c => [c]

def htmlPiece (piece : Piece) : String :=
  "<span style=\"color:" ++ piece.color.hex ++ ";\">" ++
    String.ofList (piece.text.toList.flatMap escapeHtml) ++ "</span>"

end Highlighter

/-- What takes code apart by the rules of its language. The rules for a language are known by a
name. -/
structure SyntaxEngine where
  /-- The rules for a file extension or a language, if there are any. -/
  byToken? : (token : String) → Option String
  byName? : (name : String) → Option String
  plainText : String
  /-- The pieces of a line, with the newline that ends it, below some others; or what went wrong. -/
  cut : (rules : String) → Theme → (above : List String) → (line : String) →
    Except String (List Piece)
  html : (rules : String) → Theme → (code : String) → Except String String

namespace SyntaxEngine

/-- The engine that knows no language: each line is one piece. -/
def bare : SyntaxEngine where
  byToken? _ := none
  byName? _ := none
  plainText := "Plain Text"
  cut _ theme _ line := .ok [⟨theme.foreground, line⟩]
  html _ theme code :=
    .ok ("<pre style=\"background-color:" ++ theme.background.hex ++ ";\">\n" ++
      String.join ((Highlighter.codeLines code).map fun line =>
        Highlighter.htmlPiece ⟨theme.foreground, line⟩) ++ "</pre>\n")

/-- The token for a language: a file extension where engines do not know the language by its own
name. -/
def token : (languageId : String) → String
  | "csharp" => "cs"
  | "shellscript" => "sh"
  | "javascriptreact" | "typescript" | "typescriptreact" => "js"
  | "python" | "gdscript" => "py"
  | "rust" => "rs"
  | "markdown" => "md"
  | "plaintext" => "txt"
  | "objective-c" => "m"
  | languageId => languageId

/-- The rules for a language; those of plain text for an unknown one. -/
def find (engine : SyntaxEngine) (languageId : String) : String :=
  ((engine.byToken? (token languageId)).or (engine.byName? languageId)).getD engine.plainText

/-- The pieces of lines below some others, unless one of them cannot be cut. -/
def cutLines (engine : SyntaxEngine) (rules : String) (theme : Theme) :
    (above lines : List String) → Except String (List (List Piece))
  | _, [] => .ok []
  | above, line :: below => do
    let pieces ← engine.cut rules theme above line
    return pieces :: (← engine.cutLines rules theme (above ++ [line]) below)

end SyntaxEngine

namespace Highlighter

def ansi (engine : SyntaxEngine) (theme : Theme) : Highlighter := fun languageId code => do
  let lines ← (engine.cutLines (engine.find languageId) theme [] (codeLines code)).mapError .render
  return ansiLines lines

def html (engine : SyntaxEngine) (theme : Theme) : Highlighter := fun languageId code =>
  (engine.html (engine.find languageId) theme code).mapError .render

end Highlighter

inductive Markup where
  | ansi
  | html
  | plain
  deriving Repr, DecidableEq

namespace Markup

def ofName? : String → Option Markup
  | "ansi" => some .ansi
  | "html" => some .html
  | "plain" => some .plain
  | _ => none

def name : Markup → String
  | .ansi => "ansi"
  | .html => "html"
  | .plain => "plain"

/-- The highlighter for a kind of markup; plain markup needs no theme. -/
def highlighter (markup : Markup) (themeName : String) (engine : SyntaxEngine := .bare) :
    Except HighlightError Highlighter :=
  match markup with
  | .plain => .ok .plain
  | .ansi => return .ansi engine (← Theme.find themeName)
  | .html => return .html engine (← Theme.find themeName)

end Markup

end Excerpt
