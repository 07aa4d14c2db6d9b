/-! JSON values. Objects are lists of members, in which a name may occur more than once. -/
namespace Excerpt

/-- A JSON number: an integer, or anything written with a fraction, an exponent or as `-0`, which is
kept as it was written. -/
inductive Json.Number where
  | integer (value : Int)
  | decimal (literal : String)
  deriving Repr, DecidableEq

inductive Json where
  | null
  | bool (value : Bool)
  | number (value : Json.Number)
  | string (value : String)
  | array (items : List Json)
  | object (members : List (String × Json))
  deriving Repr, Inhabited

namespace Json

def nat (n : Nat) : Json := .number (.integer n)

def uint32 (n : UInt32) : Json := nat n.toNat

/-- The array of the texts of some characters. -/
def chars (cs : List Char) : Json := .array (cs.map fun c => .string c.toString)

/-- The members that are present, under their names. -/
def record (members : List (String × Option Json)) : Json :=
  .object (members.filterMap fun member => member.2.map (member.1, ·))

def string? : Json → Option String
  | .string s => some s
  | _ => none

def bool? : Json → Option Bool
  | .bool b => some b
  | _ => none

def array? : Json → Option (List Json)
  | .array items => some items
  | _ => none

/-- The word that a number denotes: an integer of at most 32 bits. -/
def uint32? : Json → Option UInt32
  | .number (.integer (.ofNat n)) => if n < UInt32.size then some n.toUInt32 else none
  | _ => none

/-- The character that a text of exactly one character holds. -/
def char? : Json → Option Char
  | .string s => match s.toList with
    | [c] => some c
    | _ => none
  | _ => none

def chars? : Json → Option (List Char)
  | .array items => items.mapM char?
  | _ => none

/-- The last member of an object with a name. -/
def get? (name : String) : Json → Option Json
  | .object members => (members.findRev? fun member => member.1 == name).map Prod.snd
  | _ => none

/-- The values that some members give to `names`, in the order of `names`, provided that no name is
given twice. -/
def fields? (names : List String) (members : List (String × Json)) : Option (List (Option Json)) :=
  names.mapM fun name =>
    match members.filter fun member => member.1 == name with
    | [] => some none
    | [member] => some (some member.2)
    | _ => none

end Json

end Excerpt
