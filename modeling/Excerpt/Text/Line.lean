/-! Lines of a text: where they break, where their content starts and ends among blanks, and how to
dedent them. -/
namespace Excerpt.Text

/-- First and last code point of each run of characters with the Unicode property White_Space, in
ascending order. -/
def blankRuns : List (Nat × Nat) :=
  [(0x09, 0x0D), (0x20, 0x20), (0x85, 0x85), (0xA0, 0xA0), (0x1680, 0x1680),
   (0x2000, 0x200A), (0x2028, 0x2029), (0x202F, 0x202F), (0x205F, 0x205F), (0x3000, 0x3000)]

def isBlank (c : Char) : Bool :=
  blankRuns.any fun run => run.1 ≤ c.toNat && c.toNat ≤ run.2

def trim (s : List Char) : List Char :=
  ((s.dropWhile isBlank).reverse.dropWhile isBlank).reverse

def dropReturn (piece : List Char) : List Char :=
  if piece.getLast? = some '\r' then piece.dropLast else piece

/-- The lines of a text. A final newline is followed by one more, empty, line. -/
def splitLines (text : String) : List String :=
  (text.toList.splitOn '\n').map fun piece => String.ofList (dropReturn piece)

/-- The column, in characters, at which the content of a line starts; blank lines have none. -/
def column? (line : String) : Option Nat :=
  line.toList.findIdx? fun c => !isBlank c

/-- The first and the last character of the content of a line; blank lines have none. -/
def edges? (line : String) : Option (Char × Char) :=
  let content := trim line.toList
  match content.head?, content.getLast? with
  | some first, some last => some (first, last)
  | _, _ => none

def dropColumns (n : Nat) (line : String) : String :=
  String.ofList (line.toList.drop n)

/-- What the search for a block reads of a line that is not blank. -/
structure Shape where
  /-- Column of the first character of the content. -/
  column : Nat
  first : Char
  last : Char
  deriving Repr, DecidableEq

def shape? (line : String) : Option Shape :=
  match column? line, edges? line with
  | some column, some (first, last) => some ⟨column, first, last⟩
  | _, _ => none

@[simp] theorem toList_dropColumns (n : Nat) (line : String) :
    (dropColumns n line).toList = line.toList.drop n := by
  simp [dropColumns]

end Excerpt.Text
