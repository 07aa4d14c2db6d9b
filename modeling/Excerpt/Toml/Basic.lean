/-! TOML values, and how the statements of a document build its tables. -/
namespace Excerpt

/-- How a table came to be, which decides what may be added to it. -/
inductive Toml.Origin where
  /-- It has a header of its own. -/
  | header
  /-- It is on the way to a table with a header. -/
  | implied
  /-- It is on the way to a dotted key. -/
  | dotted
  /-- It is written between braces. -/
  | inline
  deriving Repr, DecidableEq

/-- A TOML value. Of floats and dates nothing but their kind is kept. -/
inductive Toml where
  | string (value : String)
  | integer (value : Int)
  | float
  | boolean (value : Bool)
  | dateTime
  | array (items : List Toml)
  | table (origin : Toml.Origin) (entries : List (String × Toml))
  /-- An array of tables that each have a header. -/
  | tables (items : List (List (String × Toml)))
  deriving Repr, Inhabited

namespace Toml

abbrev Entries := List (String × Toml)

def Entries.update (key : String) (change : Option Toml → Option Toml) :
    Entries → Option Entries
  | [] => do return [(key, ← change none)]
  | (name, value) :: entries =>
    if name = key then do return (name, ← change (some value)) :: entries
    else do return (name, value) :: (← Entries.update key change entries)

/-- Changes the table at the end of a path, and makes the tables on the way to it. By dotted keys no
table with a header is entered; no path enters a table between braces. -/
def descend (byKey : Bool) (change : Origin → Entries → Option Entries) :
    (path : List String) → Origin → Entries → Option Entries
  | [], origin, entries => change origin entries
  | key :: path, _, entries =>
    entries.update key fun
      | none =>
        let origin := if byKey then .dotted else .implied
        (descend byKey change path origin []).map (.table origin)
      | some (.table origin inner) =>
        if origin = .inline ∨ (byKey ∧ origin = .header) then none
        else (descend byKey change path origin inner).map (.table origin)
      | some (.tables items) =>
        match items.getLast? with
        | none => none
        | some last => (descend byKey change path .header last).map fun last =>
          .tables (items.dropLast ++ [last])
      | some _ => none

/-- Adds a value under a dotted key. No key is given twice, and a table is filled either by dotted
keys or by plain ones. -/
def insertValue (path : List String) (key : String) (value : Toml) (entries : Entries) :
    Option Entries :=
  descend true (fun origin entries =>
    if (origin == .dotted) == path.isEmpty then none
    else entries.update key fun
      | none => some value
      | some _ => none) path .header entries

structure Section where
  /-- The header, none for the keys before the first one. -/
  path : List String
  /-- The header has double brackets, and adds a table to an array. -/
  isItem : Bool
  pairs : List (List String × String × Toml)

def insertPairs (pairs : List (List String × String × Toml)) (entries : Entries) :
    Option Entries :=
  pairs.foldlM (fun entries (path, key, value) => insertValue path key value entries) entries

/-- Adds a section to the document. A table gets at most one header. -/
def insertSection (root : Entries) (sec : Section) : Option Entries :=
  match sec.path.getLast? with
  | none => insertPairs sec.pairs root
  | some key =>
    descend false (fun _ entries => entries.update key fun
      | none => do
        let content ← insertPairs sec.pairs []
        return if sec.isItem then .tables [content] else .table .header content
      | some (.table .implied inner) =>
        if sec.isItem then none else (insertPairs sec.pairs inner).map (.table .header)
      | some (.tables items) =>
        if sec.isItem then
          (insertPairs sec.pairs []).map fun content => .tables (items ++ [content])
        else none
      | some _ => none) sec.path.dropLast .header root

def get? (key : String) (entries : Entries) : Option Toml := List.lookup key entries

end Toml

end Excerpt
