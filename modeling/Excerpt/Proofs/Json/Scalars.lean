import Excerpt.Json.Printer
import Excerpt.Json.Reader
import Excerpt.Proofs.Text.Digits

/-! Reading back texts and numbers. A text comes back from its quoted form and a number of 32 bits
from its digits. -/
namespace Excerpt.Json

theorem ok_bind {α β : Type} (a : α) (f : α → Except Fault β) : (Except.ok a >>= f) = f a := rfl

/-! ## Texts -/

theorem readHex_lowerHex {n : Nat} (h : n < 32) (rest : List Char) :
    readHex ('0' :: '0' :: Text.lowerHex (n / 16) :: Text.lowerHex (n % 16) :: rest) =
      .ok (n, rest) := by
  have hsize : ∀ n < 32, ¬ (String.ofList
      ['0', '0', Text.lowerHex (n / 16), Text.lowerHex (n % 16)]).utf8ByteSize < 4 := by decide
  have hvalue : ∀ n < 32, Text.numeral? 16
      ['0', '0', Text.lowerHex (n / 16), Text.lowerHex (n % 16)] = some n := by decide
  unfold readHex
  simp only [List.take_succ_cons, List.take_zero, List.drop_succ_cons, List.drop_zero]
  rw [if_neg (hsize n h), hvalue n h]

theorem readEscape_lowerHex {c : Char} (h : c.toNat < 32) (rest : List Char) :
    readEscape .keep ('u' :: '0' :: '0' :: Text.lowerHex (c.toNat / 16) ::
      Text.lowerHex (c.toNat % 16) :: rest) = .ok (c, rest) := by
  have hlow : ¬ (0xDC00 ≤ c.toNat ∧ c.toNat ≤ 0xDFFF) := by omega
  have hhigh : ¬ (0xD800 ≤ c.toNat ∧ c.toNat ≤ 0xDBFF) := by omega
  rw [readEscape, readHex_lowerHex h, ok_bind]
  dsimp only
  rw [if_neg (by decide), if_neg hlow, if_neg hhigh, Char.ofNat_toNat]

theorem readChars_cons_of_ne {c : Char} (hquote : c ≠ '"') (hbackslash : c ≠ '\\') (care : Care)
    (fuel : Nat) (done rest : List Char) :
    readChars care (fuel + 1) done (c :: rest) =
      if c.toNat < 0x20 then .error .malformed else readChars care fuel (c :: done) rest := by
  rw [readChars]
  · exact hquote
  · exact hbackslash

/-- A character comes back from its escape. -/
theorem readChars_escape (c : Char) (fuel : Nat) (done rest : List Char) :
    readChars .keep (fuel + 1) done (escape c ++ rest) = readChars .keep fuel (c :: done) rest := by
  unfold escape
  split
  · rfl
  · rfl
  · rfl
  · rfl
  · rfl
  · rfl
  · rfl
  · split
    · rename_i hlt
      rw [List.cons_append, readChars]
      change readEscape .keep ('u' :: '0' :: '0' :: _ :: _ :: rest) >>= _ = _
      rw [readEscape_lowerHex hlt, ok_bind]
    · rename_i hquote hbackslash _ _ _ _ _ hlt
      rw [List.singleton_append, readChars_cons_of_ne hquote hbackslash, if_neg hlt]

theorem readChars_escapes (chars : List Char) {fuel : Nat} (h : chars.length < fuel)
    (done rest : List Char) :
    readChars .keep fuel done (chars.flatMap escape ++ '"' :: rest) =
      .ok (String.ofList (done.reverse ++ chars), rest) := by
  induction chars generalizing fuel done with
  | nil =>
    cases fuel with
    | zero => simp at h
    | succ fuel => simp [readChars]
  | cons c chars ih =>
    cases fuel with
    | zero => simp at h
    | succ fuel =>
      rw [List.flatMap_cons, List.append_assoc, readChars_escape, ih (by simpa using h)]
      simp

theorem length_le_flatMap_escape (chars : List Char) :
    chars.length ≤ (chars.flatMap escape).length := by
  induction chars with
  | nil => simp
  | cons c chars ih =>
    have hc : 0 < (escape c).length := by
      unfold escape
      split
      all_goals try split
      all_goals simp
    rw [List.flatMap_cons, List.length_append, List.length_cons]
    omega

theorem readString_quote (s : String) (rest : List Char) :
    readString .keep (s.toList.flatMap escape ++ '"' :: rest) = .ok (s, rest) := by
  have hlength := length_le_flatMap_escape s.toList
  have hfuel : s.toList.length < (s.toList.flatMap escape ++ '"' :: rest).length + 1 := by
    rw [List.length_append]
    omega
  unfold readString
  rw [readChars_escapes s.toList hfuel]
  simp

/-! ## Numbers -/

/-- Nothing that could belong to a number stands at the start of a text. -/
def EndsNumber (rest : List Char) : Prop :=
  ∀ c ∈ rest.head?, c.isDigit = false ∧ c ≠ '.' ∧ c ≠ 'e' ∧ c ≠ 'E'

theorem takeWhile_isDigit {digits rest : List Char} (h : ∀ c ∈ digits, c.isDigit = true)
    (hrest : EndsNumber rest) : (digits ++ rest).takeWhile Char.isDigit = digits := by
  rw [List.takeWhile_append_of_pos h]
  cases rest with
  | nil => simp
  | cons c rest =>
    have hc := (hrest c rfl).1
    rw [List.takeWhile_cons_of_neg (by simp [hc]), List.append_nil]

theorem dropWhile_isDigit {digits rest : List Char} (h : ∀ c ∈ digits, c.isDigit = true)
    (hrest : EndsNumber rest) : (digits ++ rest).dropWhile Char.isDigit = rest := by
  rw [List.dropWhile_append_of_pos h]
  cases rest with
  | nil => rfl
  | cons c rest =>
    have hc := (hrest c rfl).1
    rw [List.dropWhile_cons_of_neg (by simp [hc])]

theorem readWhole_toDigits (n : Nat) {rest : List Char} (hrest : EndsNumber rest) :
    readWhole .keep (Nat.toDigits 10 n ++ rest) = .ok (Nat.toDigits 10 n, rest) := by
  have hdigits : ∀ c ∈ Nat.toDigits 10 n, c.isDigit = true := fun c hc =>
    Nat.isDigit_of_mem_toDigits (by decide) (by decide) hc
  have hread : readDigits .keep (Nat.toDigits 10 n ++ rest) = .ok (Nat.toDigits 10 n, rest) := by
    unfold readDigits
    rw [takeWhile_isDigit hdigits hrest, dropWhile_isDigit hdigits hrest]
    split
    · rename_i hnil
      exact absurd hnil Nat.toDigits_ne_nil
    · rfl
  unfold readWhole
  rw [hread, ok_bind]
  dsimp only
  split
  · rename_i c digits hzero
    -- a number with a leading zero is zero, which has no second digit
    have hn : ¬ 0 < n := fun hpos => Text.head?_toDigits_ne hpos (by rw [hzero]; rfl)
    rw [Nat.eq_zero_of_not_pos hn] at hzero
    simp at hzero
  · rfl

theorem significand_eq {value : Nat} {digits : List Char}
    (h : digits.foldl (fun value c => value * 10 + Text.decimalDigit c) value < UInt64.size) :
    Decimal.significand value digits =
      (digits.foldl (fun value c => value * 10 + Text.decimalDigit c) value, 0) := by
  induction digits generalizing value with
  | nil => rfl
  | cons c digits ih =>
    rw [List.foldl_cons] at h ⊢
    have hle := Text.le_foldl_decimalDigit digits (value * 10 + Text.decimalDigit c)
    rw [Decimal.significand, if_pos (Nat.lt_of_le_of_lt hle h), ih h]

theorem exceedsRounded_toDigits {n : Nat} (h : n < UInt32.size) :
    Decimal.exceedsRounded (Nat.toDigits 10 n) [] 0 = false := by
  have hvalue : Text.decimalValue (Nat.toDigits 10 n) = n := Text.decimalValue_toDigits n
  have hsize : UInt32.size < UInt64.size := by decide
  have hlimit : UInt32.size < Decimal.doubleLimit := by decide +kernel
  have hround : Decimal.roundToDouble n = n := by
    by_cases hn : n = 0
    · rw [hn]
      rfl
    · have hbits : n.log2 < 53 := (Nat.log2_lt hn).2 (Nat.lt_trans h (by decide))
      rw [Decimal.roundToDouble, if_pos hbits]
  have hone : Decimal.roundToDouble (Nat.pow 10 0) = 1 := by decide
  unfold Decimal.exceedsRounded
  rw [List.append_nil, significand_eq (by rw [← Text.decimalValue, hvalue]; omega),
    ← Text.decimalValue, hvalue]
  simp only [List.length_nil, Int.ofNat_zero, Int.sub_zero, Int.add_zero, Int.toNat_zero, hround,
    hone, Nat.mul_one]
  have hfits : ¬ Decimal.doubleLimit ≤ n := by omega
  simp [hfits]

theorem readNumber_toDigits {n : Nat} (h : n < UInt32.size) {rest : List Char}
    (hrest : EndsNumber rest) :
    readNumber .keep false (Nat.toDigits 10 n ++ rest) = .ok (.integer n, rest) := by
  have hfraction : readFraction .keep rest = .ok ([], rest) := by
    unfold readFraction
    split
    · exact absurd rfl (hrest '.' rfl).2.1
    · rfl
  have hexponent : readExponent .keep rest = .ok (none, rest) := by
    unfold readExponent
    split
    · exact absurd rfl (hrest 'e' rfl).2.2.1
    · exact absurd rfl (hrest 'E' rfl).2.2.2
    · rfl
  unfold readNumber
  rw [readWhole_toDigits n hrest, ok_bind]
  dsimp only
  rw [hfraction, ok_bind]
  dsimp only
  rw [hexponent, ok_bind]
  dsimp only
  rw [exceedsRounded_toDigits h, Text.decimalValue_toDigits]
  simp

end Excerpt.Json
