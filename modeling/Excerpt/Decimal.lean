import Excerpt.Text.Ascii

/-! The magnitude of a decimal number: whether the nearest double is finite. -/
namespace Excerpt.Decimal

/-- The least natural number whose nearest double is infinite. -/
def doubleLimit : Nat := Nat.pow 2 1024 - Nat.pow 2 970

/-- Whether the number with the given digits before and after the point, and the given power of ten,
is too large for a double. -/
def exceedsDouble (whole fraction : List Char) (exponent : Int) : Bool :=
  let digits := (whole ++ fraction).dropWhile (· == '0')
  let value := Text.decimalValue digits
  let power := exponent - fraction.length
  let magnitude := digits.length + power
  !digits.isEmpty &&
    (309 < magnitude ||
      (magnitude == 309 &&
        doubleLimit * Nat.pow 10 (-power).toNat ≤ value * Nat.pow 10 power.toNat))

/-- A natural number rounded to 53 significant bits, a tie to the even neighbour. -/
def roundToDouble (n : Nat) : Nat :=
  if n.log2 < 53 then n
  else
    let shift := n.log2 - 52
    let quotient := n >>> shift
    let remainder := n - quotient <<< shift
    let half := 1 <<< (shift - 1)
    let up := half < remainder || (remainder == half && quotient % 2 == 1)
    (if up then quotient + 1 else quotient) <<< shift

/-- The longest run of leading digits whose value fits into 64 bits, as that value, and the number
of digits left out. -/
def significand : (value : Nat) → List Char → Nat × Nat
  | value, [] => (value, 0)
  | value, c :: cs =>
    let next := value * 10 + Text.decimalDigit c
    if next < UInt64.size then significand next cs else (value, cs.length + 1)

/-- Whether the number is too large for a double when it is computed in doubles: its 64-bit
significand and the power of ten are rounded before they are multiplied. -/
def exceedsRounded (whole fraction : List Char) (exponent : Int) : Bool :=
  let (value, dropped) := significand 0 (whole ++ fraction)
  let power := exponent - fraction.length + dropped
  value != 0 &&
    (308 < power ||
      (0 ≤ power && doubleLimit ≤ roundToDouble value * roundToDouble (Nat.pow 10 power.toNat)))

end Excerpt.Decimal
