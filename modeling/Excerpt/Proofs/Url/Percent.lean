import Mathlib.Data.List.Basic
import Excerpt.Proofs.Text.Digits
import Excerpt.Url.Percent

/-! Percent-encoding can be undone. Octets come back from their encoding when the percent sign is
itself encoded, and no reserved character shows in it. -/
namespace Excerpt

theorem Text.utf8EncodeChar_ofNat {b : UInt8} (h : b < 0x80) :
    String.utf8EncodeChar (Char.ofNat b.toNat) = [b] := by
  have hall : ∀ n < 128, String.utf8EncodeChar (Char.ofNat n) = [UInt8.ofNat n] := by decide
  have hlt : b.toNat < 128 := UInt8.lt_iff_toNat_lt.mp h
  rw [hall b.toNat hlt, UInt8.ofNat_toNat]

namespace Url

variable {reserved : Reserved}

theorem decodeChars_cons_of_ne {c : Char} (h : c ≠ '%') (rest : List Char) :
    decodeChars (c :: rest) = String.utf8EncodeChar c ++ decodeChars rest := by
  rw [decodeChars]
  simpa using h

theorem decodeChars_encodeOctet_append (b : UInt8) (rest : List Char) :
    decodeChars (encodeOctet b ++ rest) = b :: decodeChars rest := by
  have hb : b.toNat < 256 := b.toNat_lt
  have hhigh := Text.hexValue?_upperHex (show b.toNat / 16 < 16 by omega)
  have hlow := Text.hexValue?_upperHex (show b.toNat % 16 < 16 by omega)
  have hvalue : b.toNat / 16 * 16 + b.toNat % 16 = b.toNat := by omega
  simp only [encodeOctet, List.cons_append, List.nil_append, decodeChars, hhigh, hlow, hvalue,
    UInt8.ofNat_toNat]

theorem ne_of_isPlain {b : UInt8} {c : Char} (hc : c ∈ reserved) (h : isPlain reserved b = true) :
    Char.ofNat b.toNat ≠ c := by
  rintro rfl
  simp [isPlain, hc] at h

theorem lt_of_isPlain {b : UInt8} (h : isPlain reserved b = true) : b < 0x80 := by
  simp only [isPlain, Bool.and_eq_true, decide_eq_true_eq] at h
  exact UInt8.lt_trans h.1.2 (by decide)

/-- Octets come back from their encoding. -/
theorem percentDecode_percentEncode (hpercent : '%' ∈ reserved) (bytes : Bytes) :
    percentDecode (percentEncode reserved bytes) = bytes := by
  rw [percentDecode, percentEncode, String.toList_ofList]
  induction bytes with
  | nil => rfl
  | cons b bytes ih =>
    rw [List.flatMap_cons]
    by_cases hplain : isPlain reserved b = true
    · rw [if_pos hplain, List.singleton_append,
        decodeChars_cons_of_ne (ne_of_isPlain hpercent hplain),
        Text.utf8EncodeChar_ofNat (lt_of_isPlain hplain), ih]
      rfl
    · rw [if_neg hplain, decodeChars_encodeOctet_append, ih]

theorem upperHex_ne {n : Nat} {c : Char} (hn : n < 16) (hc : c.isAlphanum = false) :
    Text.upperHex n ≠ c := by
  have hall : ∀ n < 16, (Text.upperHex n).isAlphanum = true := by decide
  rintro rfl
  rw [hall n hn] at hc
  cases hc

/-- A reserved character is not part of an encoding, unless it is one by which octets are
encoded. -/
theorem notMem_percentEncode {c : Char} (hc : c ∈ reserved) (hpercent : c ≠ '%')
    (halpha : c.isAlphanum = false) (bytes : Bytes) :
    c ∉ (percentEncode reserved bytes).toList := by
  rw [percentEncode, String.toList_ofList, List.mem_flatMap]
  rintro ⟨b, -, hmem⟩
  by_cases hplain : isPlain reserved b = true
  · rw [if_pos hplain, List.mem_singleton] at hmem
    exact ne_of_isPlain hc hplain hmem.symm
  · have hb : b.toNat < 256 := b.toNat_lt
    rw [if_neg hplain, encodeOctet] at hmem
    have hhigh := upperHex_ne (show b.toNat / 16 < 16 by omega) halpha
    have hlow := upperHex_ne (show b.toNat % 16 < 16 by omega) halpha
    simp [hpercent, hhigh.symm, hlow.symm] at hmem

end Url

end Excerpt
