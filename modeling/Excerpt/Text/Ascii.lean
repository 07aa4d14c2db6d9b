/-! Digits, the numbers that they spell in a base, and letters without regard to case. -/
namespace Excerpt.Text

def decimalDigit (c : Char) : Nat := c.toNat - '0'.toNat

def decimalValue (digits : List Char) : Nat :=
  digits.foldl (fun value c => value * 10 + decimalDigit c) 0

def hexValue? (c : Char) : Option Nat :=
  if c.isDigit then some (decimalDigit c)
  else if 'a' ≤ c ∧ c ≤ 'f' then some (c.toNat - 'a'.toNat + 10)
  else if 'A' ≤ c ∧ c ≤ 'F' then some (c.toNat - 'A'.toNat + 10)
  else none

def digitValue? (base : Nat) (c : Char) : Option Nat := (hexValue? c).filter (· < base)

/-- The number that some digits spell in a base; no digits spell zero. -/
def numeral? (base : Nat) (digits : List Char) : Option Nat :=
  digits.foldlM (fun value c => (digitValue? base c).map (value * base + ·)) 0

def upperHex (n : Nat) : Char :=
  if n < 10 then Char.ofNat (n + '0'.toNat) else Char.ofNat (n - 10 + 'A'.toNat)

def lowerHex (n : Nat) : Char :=
  if n < 10 then Char.ofNat (n + '0'.toNat) else Char.ofNat (n - 10 + 'a'.toNat)

/-- The lower case of a character, as far as it is an ASCII letter: U+212A, the sign for kelvin, is
the one character outside ASCII with such a lower case. All other characters stay as they are, which
no word of ASCII letters can tell. -/
def lower (c : Char) : Char :=
  if c = '\u212A' then 'k' else c.toLower

def lowerCase (s : String) : String := String.ofList (s.toList.map lower)

end Excerpt.Text
