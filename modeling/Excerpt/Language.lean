import Excerpt.LocalPath
import Excerpt.Text.Ascii

/-! Language identifiers, which label a text for a highlighter. -/
namespace Excerpt.Language

def plainText : String := "plaintext"

/-- The language that a file extension in lower case stands for. -/
def ofLowerExtension? : String → Option String
  | "py" | "pyw" | "pyi" => some "python"
  | "js" | "mjs" | "cjs" => some "javascript"
  | "jsx" => some "javascriptreact"
  | "ts" | "mts" | "cts" => some "typescript"
  | "tsx" => some "typescriptreact"
  | "cs" => some "csharp"
  | "go" => some "go"
  | "rs" => some "rust"
  | "java" => some "java"
  | "kt" | "kts" => some "kotlin"
  | "rb" => some "ruby"
  | "php" => some "php"
  | "swift" => some "swift"
  | "c" | "h" => some "c"
  | "cpp" | "hpp" | "cc" | "cxx" | "hh" => some "cpp"
  | "gd" => some "gdscript"
  | "lua" => some "lua"
  | "hs" => some "haskell"
  | "scala" => some "scala"
  | "yaml" | "yml" => some "yaml"
  | "json" => some "json"
  | "toml" => some "toml"
  | "md" => some "markdown"
  | "sql" => some "sql"
  | "sh" | "bash" | "zsh" => some "shellscript"
  | _ => none

/-- The language that a file extension stands for, in any case. -/
def ofExtension? (ext : String) : Option String := ofLowerExtension? (Text.lowerCase ext)

def ofPath (path : Bytes) : String :=
  (((LocalPath.extension? path).bind Text.ofUtf8?).bind ofExtension?).getD plainText

end Excerpt.Language
