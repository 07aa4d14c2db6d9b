import Excerpt.Decimal
import Excerpt.Toml.Basic

/-! TOML numbers, dates and times, as words without blanks. -/
namespace Excerpt.Toml

/-- Digits in which underscores stand singly between two digits, without the underscores. -/
def digits? (isDigit : Char → Bool) (word : List Char) : Option (List Char) :=
  let groups := word.splitOn '_'
  if groups.all fun group => !group.isEmpty && group.all isDigit then some groups.flatten else none

/-- Digits without a zero before another digit. -/
def wholeDigits? (word : List Char) : Option (List Char) :=
  match digits? Char.isDigit word with
  | some ('0' :: _ :: _) => none
  | digits => digits

def splitSign : List Char → Bool × List Char
  | '-' :: rest => (true, rest)
  | '+' :: rest => (false, rest)
  | rest => (false, rest)

def int64? (value : Int) : Option Toml :=
  if -0x8000000000000000 ≤ value ∧ value < 0x8000000000000000 then some (.integer value) else none

def based? (base : Nat) (word : List Char) : Option Toml := do
  let digits ← digits? (fun c => (Text.digitValue? base c).isSome) word
  int64? (← Text.numeral? base digits)

/-- An integer: in hexadecimal, octal or binary after a mark and without a sign, or in decimal. -/
def integer? (word : List Char) : Option Toml :=
  match word with
  | '0' :: 'x' :: rest => based? 16 rest
  | '0' :: 'o' :: rest => based? 8 rest
  | '0' :: 'b' :: rest => based? 2 rest
  | word => do
    let (negative, rest) := splitSign word
    let value := Text.decimalValue (← wholeDigits? rest)
    int64? (if negative then -(value : Int) else value)

def exponent? (word : List Char) : Option Int := do
  let (negative, rest) := splitSign word
  let value := Text.decimalValue (← digits? Char.isDigit rest)
  return if negative then -(value : Int) else value

/-- A float: an integer followed by a fraction, an exponent or both, or a special value. A positive
one is not too large for a double. -/
def float? (word : List Char) : Option Toml := do
  let (negative, rest) := splitSign word
  if rest = "inf".toList || rest = "nan".toList then return .float
  let isMark (c : Char) := c == 'e' || c == 'E'
  let (mantissa, afterMantissa) := rest.span fun c => !isMark c
  let (whole, afterWhole) := mantissa.span (· != '.')
  if afterMantissa.isEmpty && afterWhole.isEmpty then failure
  let whole ← wholeDigits? whole
  let fraction ← if afterWhole.isEmpty then some [] else digits? Char.isDigit (afterWhole.drop 1)
  let exponent ← if afterMantissa.isEmpty then some 0 else exponent? (afterMantissa.drop 1)
  if !negative && Decimal.exceedsDouble whole fraction exponent then failure
  return .float

/-- The value of exactly `n` digits. -/
def fixed? (n : Nat) (word : List Char) : Option Nat :=
  if word.length = n && word.all Char.isDigit then some (Text.decimalValue word) else none

def daysInMonth (year month : Nat) : Nat :=
  if month = 2 then
    if year % 4 = 0 && (year % 100 != 0 || year % 400 = 0) then 29 else 28
  else if month ∈ [4, 6, 9, 11] then 30
  else 31

def isDate (word : List Char) : Bool :=
  match word.splitOn '-' with
  | [year, month, day] =>
    match fixed? 4 year, fixed? 2 month, fixed? 2 day with
    | some year, some month, some day =>
      1 ≤ month && month ≤ 12 && 1 ≤ day && day ≤ daysInMonth year month
    | _, _, _ => false
  | _ => false

def isUpTo (limit : Nat) (word : List Char) : Bool :=
  match fixed? 2 word with
  | some value => value ≤ limit
  | none => false

def isTime (word : List Char) : Bool :=
  match word.splitOn ':' with
  | [hour, minute, second] =>
    let (second, fraction) := second.span (· != '.')
    isUpTo 23 hour && isUpTo 59 minute && isUpTo 60 second &&
      (fraction.isEmpty || (1 < fraction.length && (fraction.drop 1).all Char.isDigit))
  | _ => false

def isOffset (word : List Char) : Bool :=
  match word.splitOn ':' with
  | [hour, minute] => isUpTo 23 hour && isUpTo 59 minute
  | _ => false

def isZonedTime (word : List Char) : Bool :=
  match word.span fun c => !(c == 'Z' || c == 'z' || c == '+' || c == '-') with
  | (time, []) => isTime time
  | (time, mark :: offset) =>
    isTime time && (if mark == 'Z' || mark == 'z' then offset.isEmpty else isOffset offset)

/-- Whether a word is a date, a time, or both with a mark between them. -/
def isDateTime (word : List Char) : Bool :=
  isDate word || isTime word ||
    match word.splitAt 10 with
    | (date, mark :: time) => isDate date && (mark == 'T' || mark == 't') && isZonedTime time
    | _ => false

def scalar? (word : List Char) : Option Toml :=
  if word = "true".toList then some (.boolean true)
  else if word = "false".toList then some (.boolean false)
  else if isDateTime word then some .dateTime
  else (float? word).or (integer? word)

end Excerpt.Toml
