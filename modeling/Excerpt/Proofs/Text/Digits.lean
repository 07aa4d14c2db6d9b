import Excerpt.Text.Ascii

/-! Digits that are written and read again. -/
namespace Excerpt.Text

theorem hexValue?_upperHex {n : Nat} (h : n < 16) : hexValue? (upperHex n) = some n := by
  have hall : ∀ n < 16, hexValue? (upperHex n) = some n := by decide
  exact hall n h

theorem foldl_decimalDigit_eq (digits : List Char) (value : Nat) :
    digits.foldl (fun value c => value * 10 + decimalDigit c) value =
      Nat.ofDigitChars 10 digits value := by
  induction digits generalizing value with
  | nil => rfl
  | cons c digits ih =>
    rw [List.foldl_cons, Nat.ofDigitChars_cons, ih, Nat.mul_comm value]
    rfl

theorem le_foldl_decimalDigit (digits : List Char) (value : Nat) :
    value ≤ digits.foldl (fun value c => value * 10 + decimalDigit c) value := by
  induction digits generalizing value with
  | nil => exact Nat.le_refl value
  | cons c digits ih =>
    have hnext := ih (value * 10 + decimalDigit c)
    rw [List.foldl_cons]
    omega

theorem decimalValue_toDigits (n : Nat) : decimalValue (Nat.toDigits 10 n) = n := by
  rw [decimalValue, foldl_decimalDigit_eq, Nat.ofDigitChars_ten_toDigits]

/-- No number but zero starts with a zero. -/
theorem head?_toDigits_ne {n : Nat} (h : 0 < n) : (Nat.toDigits 10 n).head? ≠ some '0' := by
  induction n using Nat.base_induction 10 (by decide) with
  | single m hm =>
    have hall : ∀ m < 10, 0 < m → m.digitChar ≠ '0' := by decide
    rw [Nat.toDigits_of_lt_base hm, List.head?_cons]
    simpa using hall m hm h
  | digit m k hk hm ih =>
    have hfront := ih hm
    rw [← Nat.toDigits_append_toDigits (by decide) hm hk, List.head?_append]
    obtain ⟨c, rest, hc⟩ := List.exists_cons_of_ne_nil (Nat.toDigits_ne_nil (n := m) (b := 10))
    rw [hc] at hfront ⊢
    exact hfront

end Excerpt.Text
