import Excerpt.Decimal
import Excerpt.Json.Basic

/-! Reading JSON texts. A reader takes the characters that are left and gives a value and the rest.
-/
namespace Excerpt.Json

inductive Fault where
  | truncated
  | malformed
  /-- The text is JSON, of a kind that does not fit. -/
  | mismatch
  deriving Repr, DecidableEq

abbrev Reader (α : Type) := List Char → Except Fault (α × List Char)

/-- Whether a value is kept or only passed over. Values that are passed over are checked less. -/
inductive Care where
  | keep
  | skip
  deriving Repr, DecidableEq

/-- Nesting of this many arrays and objects is refused. -/
def nestingLimit : Nat := 128

def skipBlanks : List Char → List Char
  | ' ' :: cs | '\t' :: cs | '\n' :: cs | '\r' :: cs => skipBlanks cs
  | cs => cs

def readWord : (word : List Char) → Reader Unit
  | [], cs => .ok ((), cs)
  | _ :: _, [] => .error .truncated
  | w :: word, c :: cs => if c = w then readWord word cs else .error .malformed

/-- The fault of a number that breaks off before `rest`. -/
def brokenNumber (care : Care) (rest : List Char) : Fault :=
  if care = .keep ∧ rest = [] then .truncated else .malformed

def readDigits (care : Care) : Reader (List Char) := fun cs =>
  match cs.takeWhile Char.isDigit with
  | [] => .error (brokenNumber care cs)
  | digits => .ok (digits, cs.dropWhile Char.isDigit)

/-- Reads the digits before the point: no zero comes before another digit. -/
def readWhole (care : Care) : Reader (List Char) := fun cs => do
  let (digits, rest) ← readDigits care cs
  match digits with
  | '0' :: _ :: _ => .error .malformed
  | _ => .ok (digits, rest)

def readFraction (care : Care) : Reader (List Char) := fun cs =>
  match cs with
  | '.' :: cs => readDigits care cs
  | _ => .ok ([], cs)

def readExponent (care : Care) : Reader (Option (Bool × List Char)) := fun cs =>
  match cs with
  | 'e' :: cs | 'E' :: cs => do
    let (negative, cs) := match cs with
      | '-' :: cs => (true, cs)
      | '+' :: cs => (false, cs)
      | _ => (false, cs)
    let (digits, rest) ← readDigits care cs
    .ok (some (negative, digits), rest)
  | _ => .ok (none, cs)

/-- Reads a number that follows its sign. A number beyond the doubles is refused unless it is passed
over. -/
def readNumber (care : Care) (negative : Bool) : Reader Number := fun cs => do
  let (whole, afterWhole) ← readWhole care cs
  let (fraction, afterFraction) ← readFraction care afterWhole
  let (exponent, rest) ← readExponent care afterFraction
  let power : Int := match exponent with
    | none => 0
    | some (true, digits) => -(Text.decimalValue digits : Int)
    | some (false, digits) => Text.decimalValue digits
  if care = .keep ∧ Decimal.exceedsRounded whole fraction power then .error .malformed
  else
    let value := Text.decimalValue whole
    if fraction.isEmpty && exponent.isNone && !(negative && value == 0) then
      .ok (.integer (if negative then -(value : Int) else value), rest)
    else
      let literal := cs.take (cs.length - rest.length)
      .ok (.decimal (String.ofList (if negative then '-' :: literal else literal)), rest)

/-- Reads four hexadecimal digits. Fewer than four octets before the end count as a truncated text.
-/
def readHex : Reader Nat := fun cs =>
  if (String.ofList (cs.take 4)).utf8ByteSize < 4 then .error .truncated
  else match Text.numeral? 16 (cs.take 4) with
    | some value => .ok (value, cs.drop 4)
    | none => .error .malformed

def simpleEscape? : Char → Option Char
  | '"' => some '"'
  | '\\' => some '\\'
  | '/' => some '/'
  | 'b' => some '\x08'
  | 'f' => some '\x0c'
  | 'n' => some '\n'
  | 'r' => some '\r'
  | 't' => some '\t'
  | _ => none

/-- Reads the low half of a surrogate pair, and gives the character of the pair. -/
def readLowSurrogate (high : Nat) : Reader Char := fun cs => do
  let ((), cs) ← readWord ['\\', 'u'] cs
  let (low, rest) ← readHex cs
  if 0xDC00 ≤ low ∧ low ≤ 0xDFFF then
    .ok (Char.ofNat ((high - 0xD800) * 0x400 + (low - 0xDC00) + 0x10000), rest)
  else .error .malformed

/-- Reads what follows a backslash. Surrogates have to come in pairs, unless they are passed over.
-/
def readEscape (care : Care) : Reader Char
  | [] => .error .truncated
  | 'u' :: cs => do
    let (value, rest) ← readHex cs
    if care = .skip then .ok (Char.ofNat value, rest)
    else if 0xDC00 ≤ value ∧ value ≤ 0xDFFF then .error .malformed
    else if 0xD800 ≤ value ∧ value ≤ 0xDBFF then readLowSurrogate value rest
    else .ok (Char.ofNat value, rest)
  | c :: cs => match simpleEscape? c with
    | some e => .ok (e, cs)
    | none => .error .malformed

/-- Reads the rest of a text whose characters up to here, last first, are `done`. -/
def readChars (care : Care) : (fuel : Nat) → (done : List Char) → Reader String
  | 0, _, _ => .error .truncated
  | _ + 1, _, [] => .error .truncated
  | _ + 1, done, '"' :: cs => .ok (String.ofList done.reverse, cs)
  | fuel + 1, done, '\\' :: cs => do
    let (c, rest) ← readEscape care cs
    readChars care fuel (c :: done) rest
  | fuel + 1, done, c :: cs =>
    if c.toNat < 0x20 then .error .malformed else readChars care fuel (c :: done) cs

def readString (care : Care) : Reader String := fun cs => readChars care (cs.length + 1) [] cs

/-- Finds the next item of a list that ends in `close`: the text at the item, or the text after the
end. -/
def nextItem (close : Char) (first : Bool) (cs : List Char) :
    Except Fault (List Char ⊕ List Char) :=
  match skipBlanks cs with
  | [] => .error .truncated
  | c :: rest =>
    if c = close then .ok (.inr rest)
    else if first then .ok (.inl (c :: rest))
    else if c = ',' then
      match skipBlanks rest with
      | [] => .error .truncated
      | d :: after => if d = close then .error .malformed else .ok (.inl (d :: after))
    else .error .malformed

def readName (care : Care) : Reader String
  | '"' :: cs => readString care cs
  | _ => .error .malformed

def readColon : Reader Unit := fun cs =>
  match skipBlanks cs with
  | [] => .error .truncated
  | ':' :: rest => .ok ((), rest)
  | _ => .error .malformed

def readScalar (care : Care) : Reader Json
  | [] => .error .truncated
  | 'n' :: cs => return (.null, (← readWord "ull".toList cs).2)
  | 't' :: cs => return (.bool true, (← readWord "rue".toList cs).2)
  | 'f' :: cs => return (.bool false, (← readWord "alse".toList cs).2)
  | '"' :: cs => return (← readString care cs).map .string id
  | '-' :: cs => return (← readNumber care true cs).map .number id
  | c :: cs =>
    if c.isDigit then return (← readNumber care false (c :: cs)).map .number id
    else .error .malformed

mutual

/-- Reads a value, in which fewer than `depth` levels may be opened. -/
def readValue (care : Care) : (fuel depth : Nat) → Reader Json
  | 0, _, _ => .error .truncated
  | fuel + 1, depth, cs =>
    match skipBlanks cs with
    | '[' :: rest =>
      if care = .keep ∧ depth ≤ 1 then .error .malformed
      else readItems care fuel (depth - 1) [] rest
    | '\x7b' :: rest =>
      if care = .keep ∧ depth ≤ 1 then .error .malformed
      else readMembers care fuel (depth - 1) [] rest
    | rest => readScalar care rest

/-- Reads the rest of an array whose items up to here, last first, are `done`. -/
def readItems (care : Care) : (fuel depth : Nat) → (done : List Json) → Reader Json
  | 0, _, _, _ => .error .truncated
  | fuel + 1, depth, done, cs => do
    match ← nextItem ']' done.isEmpty cs with
    | .inr rest => .ok (.array done.reverse, rest)
    | .inl item =>
      let (value, rest) ← readValue care fuel depth item
      readItems care fuel depth (value :: done) rest

def readMembers (care : Care) : (fuel depth : Nat) → (done : List (String × Json)) → Reader Json
  | 0, _, _, _ => .error .truncated
  | fuel + 1, depth, done, cs => do
    match ← nextItem '\x7d' done.isEmpty cs with
    | .inr rest => .ok (.object done.reverse, rest)
    | .inl member =>
      let (name, rest) ← readName care member
      let ((), rest) ← readColon rest
      let (value, rest) ← readValue care fuel depth rest
      readMembers care fuel depth ((name, value) :: done) rest

end

/-- Reads one value from the start of a text. A level takes two steps for its opening bracket. -/
def read (care : Care) : Reader Json := fun cs =>
  readValue care (2 * cs.length + 2) nestingLimit cs

/-- Only blanks may follow the value of a text. -/
def readEnd (rest : List Char) : Except Fault Unit :=
  if (skipBlanks rest).isEmpty then .ok () else .error .malformed

def parse (text : String) : Except Fault Json := do
  let (value, rest) ← read .keep text.toList
  readEnd rest
  return value

end Excerpt.Json
