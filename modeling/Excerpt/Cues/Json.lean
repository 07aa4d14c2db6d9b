import Excerpt.Cues.Basic
import Excerpt.Json.Reader

/-! Cues as JSON: an object with any of the six lists, or an array of the first of them. Lists that
are not given are the usual ones. -/
namespace Excerpt.Cues

def fieldNames : List String :=
  ["prefix_markers", "declaration_terminators", "continuation_chars", "closing_chars",
   "block_open_first_chars", "block_open_last_chars"]

def toLists (cues : Cues) : List (List Char) :=
  [cues.prefixMarkers, cues.declarationTerminators, cues.continuations, cues.closers,
   cues.firstOpeners, cues.lastOpeners]

/-- The cues with the given lists, and the usual ones where none is given. -/
def ofLists (given : List (Option (List Char))) : Cues :=
  let usual : Cues := {}
  let list (i : Nat) (otherwise : List Char) := (given[i]?).join.getD otherwise
  { prefixMarkers := list 0 usual.prefixMarkers
    declarationTerminators := list 1 usual.declarationTerminators
    continuations := list 2 usual.continuations
    closers := list 3 usual.closers
    firstOpeners := list 4 usual.firstOpeners
    lastOpeners := list 5 usual.lastOpeners }

def toJson (cues : Cues) : Json :=
  .object (fieldNames.zip (cues.toLists.map .chars))

/-- A list that may be missing, but not null. -/
def optionalChars? : Option Json → Option (Option (List Char))
  | none => some none
  | some value => value.chars?.map some

def ofJson? : Json → Option Cues
  | .array items =>
    if items.length ≤ fieldNames.length then (items.mapM Json.chars?).map (ofLists <| ·.map some)
    else none
  | .object members => do
    let fields ← Json.fields? fieldNames members
    return ofLists (← fields.mapM optionalChars?)
  | _ => none

open Json (Fault Reader skipBlanks nextItem readName readColon readString readScalar)

/-- The fault of a text at which a value of another kind was expected: a scalar is read to its end
before its kind counts. -/
def misfit (cs : List Char) : Fault :=
  match cs with
  | '[' :: _ | '\x7b' :: _ => .mismatch
  | cs => match readScalar .keep cs with
    | .error fault => fault
    | .ok _ => .mismatch

def readChar : Reader Char := fun cs =>
  match cs with
  | '"' :: rest => do
    let (text, rest) ← readString .keep rest
    match text.toList with
    | [c] => .ok (c, rest)
    | _ => .error .mismatch
  | cs => .error (misfit cs)

/-- Reads the rest of a list of characters, of which `done`, last first, are read. -/
def readChars : (fuel : Nat) → (done : List Char) → Reader (List Char)
  | 0, _, _ => .error .truncated
  | fuel + 1, done, cs => do
    match ← nextItem ']' done.isEmpty cs with
    | .inr rest => .ok (done.reverse, rest)
    | .inl item =>
      let (c, rest) ← readChar item
      readChars fuel (c :: done) rest

def readList : Reader (List Char) := fun cs =>
  match skipBlanks cs with
  | '[' :: rest => readChars (rest.length + 1) [] rest
  | rest => .error (misfit rest)

/-- Reads the rest of an array of lists, of which `done`, last first, are read and `left` may
follow. -/
def readLists : (left : Nat) → (done : List (List Char)) → Reader Cues
  | 0, done, cs =>
    match skipBlanks cs with
    | [] => .error .truncated
    | ']' :: rest => .ok (ofLists (done.reverse.map some), rest)
    | _ => .error .malformed
  | left + 1, done, cs => do
    match ← nextItem ']' done.isEmpty cs with
    | .inr rest => .ok (ofLists (done.reverse.map some), rest)
    | .inl item =>
      let (list, rest) ← readList item
      readLists left (list :: done) rest

/-- Reads the rest of an object, of which the lists `done` are read. -/
def readFields : (fuel : Nat) → (first : Bool) → (done : List (String × List Char)) → Reader Cues
  | 0, _, _, _ => .error .truncated
  | fuel + 1, first, done, cs => do
    match ← nextItem '\x7d' first cs with
    | .inr rest => .ok (ofLists (fieldNames.map fun name => List.lookup name done), rest)
    | .inl member =>
      let (name, rest) ← readName .keep member
      if (List.lookup name done).isSome then .error .mismatch
      else
        let ((), rest) ← readColon rest
        if name ∈ fieldNames then
          let (list, rest) ← readList rest
          readFields fuel false ((name, list) :: done) rest
        else
          let (_, rest) ← Json.read .skip rest
          readFields fuel false done rest

def read : Reader Cues := fun cs =>
  match skipBlanks cs with
  | '[' :: rest => readLists fieldNames.length [] rest
  | '\x7b' :: rest => readFields (rest.length + 1) true [] rest
  | rest => .error (misfit rest)

/-- The cues that a text spells. The first fault in the order of the text counts. -/
def parse (text : String) : Except Fault Cues := do
  let (cues, rest) ← read text.toList
  Json.readEnd rest
  return cues

end Excerpt.Cues
