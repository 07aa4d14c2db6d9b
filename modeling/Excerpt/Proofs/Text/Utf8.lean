import Mathlib.Data.List.Basic
import Excerpt.Text.Utf8

/-! Texts that are written as octets and read again. The first octet of a sequence tells its width,
so that a sequence is read whatever stands behind it. -/
namespace Excerpt.Text

theorem toNat_octet {n : Nat} (h : n < 256) : (UInt8.ofNat n).toNat = n :=
  UInt8.toNat_ofNat_of_lt' h

theorem isTrail_eq_true {b : UInt8} (hlow : 0x80 ≤ b.toNat) (hhigh : b.toNat ≤ 0xBF) :
    isTrail b = true := by
  simp [isTrail, UInt8.le_iff_toNat_le, hlow, hhigh]

theorem isSecond_eq_true {lead second : UInt8} (hlow : 0x80 ≤ second.toNat)
    (hhigh : second.toNat ≤ 0xBF) (hshort₃ : lead.toNat = 0xE0 → 0xA0 ≤ second.toNat)
    (hsurrogate : lead.toNat = 0xED → second.toNat ≤ 0x9F)
    (hshort₄ : lead.toNat = 0xF0 → 0x90 ≤ second.toNat)
    (hlast : lead.toNat = 0xF4 → second.toNat ≤ 0x8F) : isSecond lead second = true := by
  unfold isSecond
  split
  · simpa [UInt8.le_iff_toNat_le, hhigh] using hshort₃ rfl
  · simpa [UInt8.le_iff_toNat_le, hlow] using hsurrogate rfl
  · simpa [UInt8.le_iff_toNat_le, hhigh] using hshort₄ rfl
  · simpa [UInt8.le_iff_toNat_le, hlow] using hlast rfl
  · exact isTrail_eq_true hlow hhigh

section Sequences

variable {b b₁ b₂ b₃ : UInt8} (r : Bytes)

theorem scalars_one (h : b.toNat < 0x80) :
    scalars (b :: r) = some (Char.ofNat b.toNat) :: scalars r := by
  rw [scalars.eq_def]
  simp [UInt8.lt_iff_toNat_lt, h]

theorem scalars_two (hlow : 0xC2 ≤ b.toNat) (hhigh : b.toNat ≤ 0xDF) (h₁ : isTrail b₁ = true) :
    scalars (b :: b₁ :: r) = some (Char.ofNat (b.toNat % 32 * 64 + trailBits b₁)) :: scalars r := by
  have hone : ¬ b.toNat < 0x80 := by omega
  rw [scalars.eq_def]
  simp [UInt8.lt_iff_toNat_lt, UInt8.le_iff_toNat_le, hone, hlow, hhigh, h₁]

theorem scalars_three (hlow : 0xE0 ≤ b.toNat) (hhigh : b.toNat ≤ 0xEF)
    (h₁ : isSecond b b₁ = true) (h₂ : isTrail b₂ = true) :
    scalars (b :: b₁ :: b₂ :: r) =
      some (Char.ofNat ((b.toNat % 16 * 64 + trailBits b₁) * 64 + trailBits b₂)) ::
        scalars r := by
  have hone : ¬ b.toNat < 0x80 := by omega
  have htwo : ¬ b.toNat ≤ 0xDF := by omega
  rw [scalars.eq_def]
  simp [UInt8.lt_iff_toNat_lt, UInt8.le_iff_toNat_le, hone, htwo, hlow, hhigh, h₁, h₂]

theorem scalars_four (hlow : 0xF0 ≤ b.toNat) (hhigh : b.toNat ≤ 0xF4)
    (h₁ : isSecond b b₁ = true) (h₂ : isTrail b₂ = true) (h₃ : isTrail b₃ = true) :
    scalars (b :: b₁ :: b₂ :: b₃ :: r) =
      some (Char.ofNat (((b.toNat % 8 * 64 + trailBits b₁) * 64 + trailBits b₂) * 64
        + trailBits b₃)) :: scalars r := by
  have hone : ¬ b.toNat < 0x80 := by omega
  have htwo : ¬ b.toNat ≤ 0xDF := by omega
  have hthree : ¬ b.toNat ≤ 0xEF := by omega
  rw [scalars.eq_def]
  simp [UInt8.lt_iff_toNat_lt, UInt8.le_iff_toNat_le, hone, htwo, hthree, hlow, hhigh, h₁, h₂, h₃]

end Sequences

/-- An octet that goes on with a sequence holds the last six bits of what it is written for. -/
theorem toNat_trail (n : Nat) : (UInt8.ofNat (n % 64 + 128)).toNat = n % 64 + 128 :=
  toNat_octet (by omega)

theorem isTrail_trail (n : Nat) : isTrail (UInt8.ofNat (n % 64 + 128)) = true := by
  have hn := toNat_trail n
  exact isTrail_eq_true (by omega) (by omega)

theorem trailBits_trail (n : Nat) : trailBits (UInt8.ofNat (n % 64 + 128)) = n % 64 := by
  have hn := toNat_trail n
  rw [trailBits]
  omega

/-- A character is read back from its octets, whatever stands behind them. -/
theorem scalars_utf8EncodeChar_append (c : Char) (r : Bytes) :
    scalars (String.utf8EncodeChar c ++ r) = some c :: scalars r := by
  obtain ⟨n, hn⟩ : ∃ n, c.val.toNat = n := ⟨_, rfl⟩
  have hvalid : n < 0xD800 ∨ 0xDFFF < n ∧ n < 0x110000 := hn ▸ c.valid
  have hchar (m : Nat) (hm : m = n) : Char.ofNat m = c := by
    rw [hm, ← hn]
    exact Char.ofNat_toNat c
  unfold String.utf8EncodeChar
  rw [hn]
  dsimp only
  -- one case for each width; the bounds of the width keep a second octet off what a shorter
  -- sequence or a surrogate would spell
  split
  · have hlead : (UInt8.ofNat n).toNat = n := toNat_octet (by omega)
    rw [List.singleton_append, scalars_one r (by omega), hchar _ hlead]
  split
  · have hlead : (UInt8.ofNat (n / 64 % 32 + 192)).toNat = n / 64 % 32 + 192 :=
      toNat_octet (by omega)
    change scalars (_ :: _ :: r) = _
    rw [scalars_two r (by omega) (by omega) (isTrail_trail n), trailBits_trail, hlead,
      hchar _ (by omega)]
  split
  · have hlead : (UInt8.ofNat (n / 4096 % 16 + 224)).toNat = n / 4096 % 16 + 224 :=
      toNat_octet (by omega)
    have hsecond := toNat_trail (n / 64)
    have htwo : isSecond (UInt8.ofNat (n / 4096 % 16 + 224)) (UInt8.ofNat (n / 64 % 64 + 128)) =
        true := by
      apply isSecond_eq_true <;> omega
    change scalars (_ :: _ :: _ :: r) = _
    rw [scalars_three r (by omega) (by omega) htwo (isTrail_trail n), trailBits_trail,
      trailBits_trail, hlead, hchar _ (by omega)]
  · have hlead : (UInt8.ofNat (n / 262144 % 8 + 240)).toNat = n / 262144 % 8 + 240 :=
      toNat_octet (by omega)
    have hsecond := toNat_trail (n / 4096)
    have htwo : isSecond (UInt8.ofNat (n / 262144 % 8 + 240))
        (UInt8.ofNat (n / 4096 % 64 + 128)) = true := by
      apply isSecond_eq_true <;> omega
    change scalars (_ :: _ :: _ :: _ :: r) = _
    rw [scalars_four r (by omega) (by omega) htwo (isTrail_trail (n / 64)) (isTrail_trail n),
      trailBits_trail, trailBits_trail, trailBits_trail, hlead, hchar _ (by omega)]

theorem scalars_utf8 (s : String) : scalars (utf8 s) = s.toList.map some := by
  unfold utf8
  induction s.toList with
  | nil => simp [scalars]
  | cons c chars ih =>
    rw [List.flatMap_cons, scalars_utf8EncodeChar_append, ih, List.map_cons]

/-- The octets of a text spell it. -/
theorem ofUtf8?_utf8 (s : String) : ofUtf8? (utf8 s) = some s := by
  have hread : (s.toList.map some).mapM id = some s.toList := by
    rw [List.mapM_map]
    exact List.mapM_pure.trans (congrArg some (List.map_id _))
  rw [ofUtf8?, scalars_utf8, hread, Option.map_some, String.ofList_toList]

end Excerpt.Text
