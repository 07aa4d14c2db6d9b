/-! Labels of domain names in ASCII. The ASCII characters of a label come first; digits then tell
the places and code points of the others, in the order of the code points. -/
namespace Excerpt.Url.Punycode

def digit (n : Nat) : Char :=
  if n < 26 then Char.ofNat (n + 'a'.toNat) else Char.ofNat (n - 26 + '0'.toNat)

def digitValue? (c : Char) : Option Nat :=
  if 'a' ≤ c ∧ c ≤ 'z' then some (c.toNat - 'a'.toNat)
  else if c.isDigit then some (c.toNat - '0'.toNat + 26)
  else none

/-- The threshold of the digit at a place: a smaller digit is the last of its number. Places count
by 36. -/
def threshold (bias place : Nat) : Nat := min (max (place - bias) 1) 26

/-- A number from a place on, least digit first. -/
def number (bias place n : Nat) : List Char :=
  let t := threshold bias place
  if n < t then [digit n]
  else digit (t + (n - t) % (36 - t)) :: number bias (place + 36) ((n - t) / (36 - t))
termination_by n
decreasing_by
  have lower : 1 ≤ threshold bias place := by unfold threshold; omega
  exact Nat.lt_of_le_of_lt (Nat.div_le_self _ _) (by omega)

/-- Adds the rest of a number to `sum`, where the digit at a place counts `weight` times. Sums and
weights stay within 32 bits. -/
def readNumber (bias : Nat) : (place weight sum : Nat) → List Char → Option (Nat × List Char)
  | _, _, _, [] => none
  | place, weight, sum, c :: cs => do
    let value ← digitValue? c
    let t := threshold bias place
    let sum := sum + value * weight
    if UInt32.size ≤ sum then none
    else if value < t then some (sum, cs)
    else if UInt32.size ≤ weight * (36 - t) then none
    else readNumber bias (place + 36) (weight * (36 - t)) sum cs

/-- Scales a distance down until it is small, and counts the places by 36. -/
def scale (delta place : Nat) : Nat :=
  if 455 < delta then scale (delta / 35) (place + 36) else place + 36 * delta / (delta + 38)
termination_by delta

/-- The bias after a distance, for a text that now has `count` characters. -/
def nextBias (delta count : Nat) (first : Bool) : Nat :=
  let delta := if first then delta / 700 else delta / 2
  scale (delta + delta / count) 0

/-- State of the writer: the least code point that may follow, the distance since the last number,
the bias, the number of characters written, and the text. -/
structure Writer where
  next : Nat
  delta : Nat
  bias : Nat
  count : Nat
  text : List Char

def Writer.put (label : List Nat) (basic : Nat) (writer : Writer) (point : Nat) : Writer :=
  let delta := writer.delta + (point - writer.next) * (writer.count + 1)
  let writer := label.foldl (fun w c =>
    if c < point then { w with delta := w.delta + 1 }
    else if c = point then
      { w with
        delta := 0
        bias := nextBias w.delta (w.count + 1) (w.count == basic)
        count := w.count + 1
        text := w.text ++ number w.bias 36 w.delta }
    else w) { writer with delta }
  { writer with next := point + 1, delta := writer.delta + 1 }

def isAscii (c : Char) : Bool := c.toNat < 0x80

def encode (label : List Char) : List Char :=
  let basic := label.filter isAscii
  let points := ((label.filter (!isAscii ·)).map Char.toNat).mergeSort.eraseDups
  let front := if basic.isEmpty then [] else basic ++ ['-']
  (points.foldl (Writer.put (label.map Char.toNat) basic.length)
    ⟨0x80, 0, 72, basic.length, front⟩).text

/-- Inserts the characters that some digits tell into a text. -/
def insertAll : (fuel bias point index : Nat) → (text : List Char) → List Char → Option (List Char)
  | _, _, _, _, text, [] => some text
  | 0, _, _, _, _, _ :: _ => none
  | fuel + 1, bias, point, index, text, digits => do
    let (sum, rest) ← readNumber bias 36 1 index digits
    let count := text.length + 1
    let point := point + sum / count
    let place := sum % count
    if point.isValidChar then
      insertAll fuel (nextBias (sum - index) count (index == 0)) point (place + 1)
        (text.insertIdx place (Char.ofNat point)) rest
    else none

/-- Reads a label. A dash stands only after ASCII characters. -/
def decode? (cs : List Char) : Option (List Char) :=
  match cs.reverse.span (· != '-') with
  | (_, [_]) => none
  | (digits, _ :: basic) => insertAll cs.length 72 0x80 0 basic.reverse digits.reverse
  | (digits, []) => insertAll cs.length 72 0x80 0 [] digits.reverse

end Excerpt.Url.Punycode
