import Excerpt.Text.Ascii
import Excerpt.Toml.Scalar

/-! Reading TOML documents. -/
namespace Excerpt.Toml

abbrev Reader (α : Type) := List Char → Option (α × List Char)

/-- Nesting of this many arrays and tables between braces is refused, and so are keys of this many
parts. -/
def nestingLimit : Nat := 80

def skipBlanks (cs : List Char) : List Char :=
  cs.dropWhile fun c => c == ' ' || c == '\t'

def isPrintable (c : Char) : Bool := c == '\t' || (0x20 ≤ c.toNat && c.toNat != 0x7F)

def skipComment : List Char → List Char
  | '#' :: cs => cs.dropWhile isPrintable
  | cs => cs

def newline? : List Char → Option (List Char)
  | '\n' :: cs => some cs
  | '\r' :: '\n' :: cs => some cs
  | _ => none

/-- The text after the end of a statement: a comment if there is one, then a line end or the end. -/
def endOfLine? (cs : List Char) : Option (List Char) :=
  match skipComment (skipBlanks cs) with
  | [] => some []
  | rest => newline? rest

def skipLines : (fuel : Nat) → List Char → List Char
  | 0, cs => cs
  | fuel + 1, cs =>
    let rest := skipBlanks cs
    match skipComment rest with
    | [] => []
    | afterComment => match newline? afterComment with
      | some after => skipLines fuel after
      | none => rest

/-- The character with a code point, which surrogates have none. -/
def scalarValue? (n : Nat) : Option Char :=
  if n.isValidChar then some (Char.ofNat n) else none

def readEscape : Reader Char
  | 'b' :: cs => some ('\x08', cs)
  | 't' :: cs => some ('\t', cs)
  | 'n' :: cs => some ('\n', cs)
  | 'f' :: cs => some ('\x0c', cs)
  | 'r' :: cs => some ('\r', cs)
  | '"' :: cs => some ('"', cs)
  | '\\' :: cs => some ('\\', cs)
  | 'u' :: cs => hex 4 cs
  | 'U' :: cs => hex 8 cs
  | _ => none
where
  hex (n : Nat) (cs : List Char) : Option (Char × List Char) := do
    if cs.length < n then failure
    return (← scalarValue? (← Text.numeral? 16 (cs.take n)), cs.drop n)

/-- Reads the rest of a text of one line, which ends in `quote`. Backslashes mean something between
double quotes only. -/
def readQuoted (quote : Char) : (fuel : Nat) → (done : List Char) → Reader String
  | 0, _, _ => none
  | _ + 1, _, [] => none
  | fuel + 1, done, c :: cs =>
    if c = quote then some (String.ofList done.reverse, cs)
    else if c = '\\' && quote = '"' then do
      let (e, rest) ← readEscape cs
      readQuoted quote fuel (e :: done) rest
    else if isPrintable c then readQuoted quote fuel (c :: done) cs
    else none

/-- The text after a backslash, if that ends its line: the blanks and line ends that follow. -/
def lineJoin? (cs : List Char) : Option (List Char) := do
  let after ← newline? (skipBlanks cs)
  return skipBreaks after.length after
where
  skipBreaks : (fuel : Nat) → List Char → List Char
    | 0, cs => cs
    | fuel + 1, cs =>
      let rest := skipBlanks cs
      match newline? rest with
      | some after => skipBreaks fuel after
      | none => rest

/-- Reads the rest of a text of several lines, which ends in three quotes. Up to two more quotes
before those belong to the text. -/
def readLong (quote : Char) : (fuel : Nat) → (done : List Char) → Reader String
  | 0, _, _ => none
  | _ + 1, _, [] => none
  | fuel + 1, done, c :: cs =>
    if c = quote then
      let run := ((c :: cs).takeWhile (· == quote)).length
      let rest := (c :: cs).dropWhile (· == quote)
      if 5 < run then none
      else if 3 ≤ run then
        some (String.ofList (List.replicate (run - 3) quote ++ done).reverse, rest)
      else readLong quote fuel (List.replicate run quote ++ done) rest
    else if c = '\\' && quote = '"' then
      match lineJoin? cs with
      | some rest => readLong quote fuel done rest
      | none => do
        let (e, rest) ← readEscape cs
        readLong quote fuel (e :: done) rest
    else match newline? (c :: cs) with
      | some rest => readLong quote fuel ('\n' :: done) rest
      | none => if isPrintable c then readLong quote fuel (c :: done) cs else none

/-- Reads a text after its opening quote. A line end right after three quotes is left out. -/
def readText (quote : Char) (cs : List Char) : Option (String × List Char) :=
  match cs with
  | a :: b :: rest =>
    if a = quote && b = quote then
      readLong quote (rest.length + 1) [] ((newline? rest).getD rest)
    else readQuoted quote (cs.length + 1) [] cs
  | cs => readQuoted quote (cs.length + 1) [] cs

def isBareKeyChar (c : Char) : Bool := c.isAlphanum || c == '_' || c == '-'

def readSimpleKey : Reader String
  | '"' :: cs => readQuoted '"' (cs.length + 1) [] cs
  | '\'' :: cs => readQuoted '\'' (cs.length + 1) [] cs
  | cs =>
    match cs.span isBareKeyChar with
    | ([], _) => none
    | (key, rest) => some (String.ofList key, rest)

def readKey : (fuel : Nat) → (done : List String) → Reader (List String)
  | 0, _, _ => none
  | fuel + 1, done, cs => do
    let (key, rest) ← readSimpleKey (skipBlanks cs)
    match skipBlanks rest with
    | '.' :: rest => readKey fuel (key :: done) rest
    | rest =>
      let path := (key :: done).reverse
      if nestingLimit ≤ path.length then none else some (path, rest)

def isWordChar (c : Char) : Bool := c.isAlphanum || c ∈ ['+', '-', '.', '_', ':']

/-- Reads a number, a date or a word. A blank may divide a date from a time. -/
def readScalar : Reader Toml := fun cs =>
  let (word, rest) := cs.span isWordChar
  match rest with
  | ' ' :: c :: more =>
    if isDate word && c.isDigit then
      let (time, rest) := (c :: more).span isWordChar
      if isZonedTime time then some (.dateTime, rest) else none
    else (scalar? word).map (·, rest)
  | rest => (scalar? word).map (·, rest)

mutual

/-- Reads a value, in which `depth` more levels may be opened. -/
def readValue : (fuel depth : Nat) → Reader Toml
  | 0, _, _ => none
  | fuel + 1, depth, cs =>
    match cs with
    | '"' :: rest => (readText '"' rest).map fun (text, rest) => (.string text, rest)
    | '\'' :: rest => (readText '\'' rest).map fun (text, rest) => (.string text, rest)
    | '[' :: rest => if depth ≤ 1 then none else readItems fuel (depth - 1) [] rest
    | '\x7b' :: rest =>
      if depth ≤ 1 then none
      else match skipBlanks rest with
        | '\x7d' :: rest => some (.table .inline [], rest)
        | rest => readPairs fuel (depth - 1) [] rest
    | cs => readScalar cs

/-- Reads the rest of an array, of which `done`, last first, are read. A comma may follow the last
item. -/
def readItems : (fuel depth : Nat) → (done : List Toml) → Reader Toml
  | 0, _, _, _ => none
  | fuel + 1, depth, done, cs =>
    match skipLines cs.length cs with
    | ']' :: rest => some (.array done.reverse, rest)
    | rest => do
      let (item, rest) ← readValue fuel depth rest
      match skipLines rest.length rest with
      | ',' :: rest => readItems fuel depth (item :: done) rest
      | ']' :: rest => return (.array (item :: done).reverse, rest)
      | _ => failure

/-- Reads the rest of a table between braces, all on one line. -/
def readPairs : (fuel depth : Nat) → (entries : Entries) → Reader Toml
  | 0, _, _, _ => none
  | fuel + 1, depth, entries, cs => do
    let (path, rest) ← readKey (cs.length + 1) [] cs
    match rest with
    | '=' :: rest =>
      let (value, rest) ← readValue fuel depth (skipBlanks rest)
      let key ← path.getLast?
      let entries ← insertValue path.dropLast key value entries
      match skipBlanks rest with
      | ',' :: rest => readPairs fuel depth entries rest
      | '\x7d' :: rest => return (.table .inline entries, rest)
      | _ => failure
    | _ => failure

end

/-- Reads a header after its first bracket: its keys, and whether the brackets are double. -/
def readHeader (cs : List Char) : Option ((List String × Bool) × List Char) := do
  let (isItem, cs) := match cs with
    | '[' :: cs => (true, cs)
    | cs => (false, cs)
  let (path, rest) ← readKey (cs.length + 1) [] cs
  match isItem, rest with
  | true, ']' :: ']' :: rest => return ((path, true), rest)
  | false, ']' :: rest => return ((path, false), rest)
  | _, _ => failure

def readPair (cs : List Char) : Option ((List String × String × Toml) × List Char) := do
  let (path, rest) ← readKey (cs.length + 1) [] cs
  match rest with
  | '=' :: rest =>
    let (value, rest) ← readValue (rest.length + 1) nestingLimit (skipBlanks rest)
    return ((path.dropLast, ← path.getLast?, value), rest)
  | _ => failure

/-- Reads the statements of a document, where `root` holds the sections before the one being read.
-/
def readStatements : (fuel : Nat) → (root : Entries) → (current : Section) → List Char →
    Option Entries
  | 0, _, _, _ => none
  | fuel + 1, root, current, cs =>
    match skipLines cs.length cs with
    | [] => insertSection root current
    | '[' :: rest => do
      let root ← insertSection root current
      let ((path, isItem), rest) ← readHeader rest
      readStatements fuel root ⟨path, isItem, []⟩ (← endOfLine? rest)
    | rest => do
      let (pair, rest) ← readPair rest
      readStatements fuel root { current with pairs := current.pairs ++ [pair] } (← endOfLine? rest)

/-- The entries of a document, which may start with a byte order mark. -/
def parse? (text : String) : Option Entries :=
  let cs := match text.toList with
    | '\uFEFF' :: cs => cs
    | cs => cs
  readStatements (cs.length + 1) [] ⟨[], false, []⟩ cs

end Excerpt.Toml
