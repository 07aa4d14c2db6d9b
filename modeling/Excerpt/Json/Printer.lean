import Excerpt.Json.Basic
import Excerpt.Text.Ascii

/-! Writing JSON values, on one line or indented by two blanks a level. -/
namespace Excerpt.Json

/-- A character as it stands in a text: quotes, backslashes and control characters are escaped. -/
def escape (c : Char) : List Char :=
  match c with
  | '"' => ['\\', '"']
  | '\\' => ['\\', '\\']
  | '\x08' => ['\\', 'b']
  | '\x0c' => ['\\', 'f']
  | '\n' => ['\\', 'n']
  | '\r' => ['\\', 'r']
  | '\t' => ['\\', 't']
  | c =>
    if c.toNat < 0x20 then
      ['\\', 'u', '0', '0', Text.lowerHex (c.toNat / 16), Text.lowerHex (c.toNat % 16)]
    else [c]

def quote (s : String) : String :=
  String.ofList ('"' :: s.toList.flatMap escape ++ ['"'])

def Number.print : Number → String
  | .integer value => toString value
  | .decimal literal => literal

/-- How the items of arrays and objects are set apart. -/
structure Layout where
  /-- What stands before an item at a depth of nesting. -/
  lead : Nat → String
  /-- What stands between the name of a member and its value. -/
  colon : String

def Layout.compact : Layout where
  lead _ := ""
  colon := ":"

/-- Each item on a line of its own, indented by two blanks a level. -/
def Layout.pretty : Layout where
  lead depth := "\n" ++ String.ofList (List.replicate (2 * depth) ' ')
  colon := ": "

/-- Items between brackets; no items are written as the brackets alone. -/
def bracket (layout : Layout) (depth : Nat) (first last : String) : List String → String
  | [] => first ++ last
  | items =>
    first ++ ",".intercalate (items.map (layout.lead (depth + 1) ++ ·)) ++ layout.lead depth ++ last

mutual

def print (layout : Layout) (depth : Nat) : Json → String
  | .null => "null"
  | .bool true => "true"
  | .bool false => "false"
  | .number value => value.print
  | .string value => quote value
  | .array items => bracket layout depth "[" "]" (printItems layout (depth + 1) items)
  | .object members =>
    bracket layout depth "\x7b" "\x7d" (printMembers layout (depth + 1) members)

def printItems (layout : Layout) (depth : Nat) : List Json → List String
  | [] => []
  | item :: items => print layout depth item :: printItems layout depth items

def printMembers (layout : Layout) (depth : Nat) : List (String × Json) → List String
  | [] => []
  | (name, value) :: members =>
    (quote name ++ layout.colon ++ print layout depth value) :: printMembers layout depth members

end

def compact (value : Json) : String := print .compact 0 value

def pretty (value : Json) : String := print .pretty 0 value

/-- A member put into its place among members sorted by name; it replaces one of its name. -/
def insertSorted (member : String × Json) : List (String × Json) → List (String × Json)
  | [] => [member]
  | other :: members =>
    if member.1 < other.1 then member :: other :: members
    else if member.1 = other.1 then member :: members
    else other :: insertSorted member members

mutual

/-- A value whose objects name each member once and in ascending order; the last of several members
of a name counts. -/
def sorted : Json → Json
  | .array items => .array (sortedItems items)
  | .object members => .object (sortedMembers [] members)
  | value => value

def sortedItems : List Json → List Json
  | [] => []
  | item :: items => sorted item :: sortedItems items

def sortedMembers (done : List (String × Json)) : List (String × Json) → List (String × Json)
  | [] => done
  | (name, value) :: members => sortedMembers (insertSorted (name, sorted value) done) members

end

end Excerpt.Json
