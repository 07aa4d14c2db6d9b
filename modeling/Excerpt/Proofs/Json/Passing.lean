import Mathlib.Tactic.SplitIfs
import Excerpt.Proofs.Json.Scalars

/-! Values that are passed over. What can be read as a value can be passed over as well: both ways
take the same characters, and at least one. -/
namespace Excerpt.Json

theorem bind_eq_ok_iff {α β : Type} {x : Except Fault α} {f : α → Except Fault β} {b : β} :
    (x >>= f) = .ok b ↔ ∃ a, x = .ok a ∧ f a = .ok b := by
  cases x with
  | error fault =>
    constructor
    · intro h
      cases h
    · rintro ⟨a, ha, -⟩
      cases ha
  | ok a =>
    constructor
    · intro h
      exact ⟨a, rfl, h⟩
    · rintro ⟨a', ha, hb⟩
      cases ha
      exact hb

/-- A reader that passes over what it reads, and takes at least one character. -/
def Passes {α : Type} (read : Care → Reader α) : Prop :=
  ∀ cs a rest, read .keep cs = .ok (a, rest) →
    rest.length < cs.length ∧ ∃ b, read .skip cs = .ok (b, rest)

/-! ## Numbers -/

theorem readDigits_eq_ok {care : Care} {cs digits rest : List Char}
    (h : readDigits care cs = .ok (digits, rest)) :
    rest.length < cs.length ∧ ∀ care', readDigits care' cs = .ok (digits, rest) := by
  have hlength : (cs.takeWhile Char.isDigit).length + (cs.dropWhile Char.isDigit).length =
      cs.length := by
    rw [← List.length_append, List.takeWhile_append_dropWhile]
  unfold readDigits at h ⊢
  split at h
  · cases h
  · rename_i hdigits
    have hpos : 0 < (cs.takeWhile Char.isDigit).length := by
      apply List.length_pos_iff.mpr
      exact hdigits
    obtain ⟨rfl, rfl⟩ := Prod.mk.inj (Except.ok.inj h)
    exact ⟨by omega, fun _ => rfl⟩

theorem readWhole_eq_ok {care : Care} {cs digits rest : List Char}
    (h : readWhole care cs = .ok (digits, rest)) :
    rest.length < cs.length ∧ ∀ care', readWhole care' cs = .ok (digits, rest) := by
  unfold readWhole at h ⊢
  obtain ⟨⟨digits', rest'⟩, hdigits, hwhole⟩ := bind_eq_ok_iff.mp h
  obtain ⟨hlt, hread⟩ := readDigits_eq_ok hdigits
  dsimp only at hwhole
  split at hwhole
  · cases hwhole
  · rename_i hzero
    obtain ⟨rfl, rfl⟩ := Prod.mk.inj (Except.ok.inj hwhole)
    refine ⟨hlt, ?_⟩
    intro care'
    rw [hread care', ok_bind]
    dsimp only
    split
    · exact absurd rfl (hzero _ _)
    · rfl

theorem readFraction_eq_ok {care : Care} {cs digits rest : List Char}
    (h : readFraction care cs = .ok (digits, rest)) :
    rest.length ≤ cs.length ∧ ∀ care', readFraction care' cs = .ok (digits, rest) := by
  unfold readFraction at h ⊢
  split at h
  · obtain ⟨hlt, hread⟩ := readDigits_eq_ok h
    rw [List.length_cons]
    exact ⟨by omega, hread⟩
  · obtain ⟨rfl, rfl⟩ := Prod.mk.inj (Except.ok.inj h)
    exact ⟨Nat.le_refl _, fun _ => rfl⟩

theorem readExponent_cons {c : Char} (hc : c = 'e' ∨ c = 'E') (cs : List Char) :
    ∃ negative after, after.length ≤ cs.length ∧ ∀ care, readExponent care (c :: cs) =
      readDigits care after >>= fun read => .ok (some (negative, read.1), read.2) := by
  cases cs with
  | nil => obtain rfl | rfl := hc <;> exact ⟨false, [], Nat.le_refl _, fun _ => rfl⟩
  | cons sign cs =>
    by_cases hminus : sign = '-'
    · subst hminus
      obtain rfl | rfl := hc <;> exact ⟨true, cs, Nat.le_succ _, fun _ => rfl⟩
    · by_cases hplus : sign = '+'
      · subst hplus
        obtain rfl | rfl := hc <;> exact ⟨false, cs, Nat.le_succ _, fun _ => rfl⟩
      · refine ⟨false, sign :: cs, Nat.le_refl _, ?_⟩
        intro care
        obtain rfl | rfl := hc <;> simp [readExponent, hminus, hplus]

theorem readExponent_eq_ok {care : Care} {cs rest : List Char}
    {exponent : Option (Bool × List Char)} (h : readExponent care cs = .ok (exponent, rest)) :
    rest.length ≤ cs.length ∧ ∀ care', readExponent care' cs = .ok (exponent, rest) := by
  by_cases hmark : ∃ c cs', cs = c :: cs' ∧ (c = 'e' ∨ c = 'E')
  · obtain ⟨c, cs, rfl, hc⟩ := hmark
    obtain ⟨negative, after, hafter, hread⟩ := readExponent_cons hc cs
    rw [hread] at h
    obtain ⟨⟨digits, rest'⟩, hdigits, hok⟩ := bind_eq_ok_iff.mp h
    obtain ⟨hlt, hdigits⟩ := readDigits_eq_ok hdigits
    obtain ⟨rfl, rfl⟩ := Prod.mk.inj (Except.ok.inj hok)
    constructor
    · change rest'.length ≤ cs.length + 1
      omega
    · intro care'
      rw [hread, hdigits]
      rfl
  · have hnone : ∀ care, readExponent care cs = .ok (none, cs) := by
      intro care
      unfold readExponent
      split
      · exact absurd ⟨_, _, rfl, Or.inl rfl⟩ hmark
      · exact absurd ⟨_, _, rfl, Or.inr rfl⟩ hmark
      · rfl
    rw [hnone] at h
    obtain ⟨rfl, rfl⟩ := Prod.mk.inj (Except.ok.inj h)
    exact ⟨Nat.le_refl _, hnone⟩

theorem rest_eq_of_ite {α : Type} {p q : Prop} [Decidable p] [Decidable q] {fault : Fault}
    {a b c : α} {rest after : List Char}
    (h : (if p then .error fault else if q then .ok (a, after) else .ok (b, after)) =
      (Except.ok (c, rest) : Except Fault (α × List Char))) : after = rest := by
  split_ifs at h
  · exact (Prod.mk.inj (Except.ok.inj h)).2
  · exact (Prod.mk.inj (Except.ok.inj h)).2

theorem passes_readNumber (negative : Bool) : Passes fun care => readNumber care negative := by
  intro cs number rest h
  dsimp only [readNumber] at h ⊢
  obtain ⟨⟨whole, afterWhole⟩, hwhole, h⟩ := bind_eq_ok_iff.mp h
  dsimp only at h
  obtain ⟨⟨fraction, afterFraction⟩, hfraction, h⟩ := bind_eq_ok_iff.mp h
  dsimp only at h
  obtain ⟨⟨exponent, afterExponent⟩, hexponent, h⟩ := bind_eq_ok_iff.mp h
  dsimp only at h
  obtain ⟨hlt, hwhole⟩ := readWhole_eq_ok hwhole
  obtain ⟨hle, hfraction⟩ := readFraction_eq_ok hfraction
  obtain ⟨hle', hexponent⟩ := readExponent_eq_ok hexponent
  obtain rfl := rest_eq_of_ite h
  refine ⟨by omega, ?_⟩
  rw [hwhole .skip, ok_bind]
  dsimp only
  rw [hfraction .skip, ok_bind]
  dsimp only
  rw [hexponent .skip, ok_bind]
  dsimp only
  rw [if_neg (by simp)]
  split
  · exact ⟨_, rfl⟩
  · exact ⟨_, rfl⟩

/-! ## Texts -/

theorem readHex_eq_ok {cs rest : List Char} {value : Nat} (h : readHex cs = .ok (value, rest)) :
    rest.length ≤ cs.length := by
  unfold readHex at h
  split at h
  · cases h
  · split at h
    · obtain ⟨rfl, rfl⟩ := Prod.mk.inj (Except.ok.inj h)
      rw [List.length_drop]
      omega
    · cases h

theorem readEscape_skip {cs rest : List Char} {value : Nat} (h : readHex cs = .ok (value, rest)) :
    readEscape .skip ('u' :: cs) = .ok (Char.ofNat value, rest) := by
  rw [readEscape, h]
  rfl

theorem readWord_eq_ok {word cs rest : List Char} {done : Unit}
    (h : readWord word cs = .ok (done, rest)) : cs = word ++ rest := by
  induction word generalizing cs with
  | nil => exact (Prod.mk.inj (Except.ok.inj h)).2
  | cons w word ih =>
    cases cs with
    | nil => cases h
    | cons c cs =>
      rw [readWord] at h
      split at h
      · rename_i hc
        rw [hc, ih h, List.cons_append]
      · cases h

theorem readLowSurrogate_eq_ok {high : Nat} {cs rest : List Char} {c : Char}
    (h : readLowSurrogate high cs = .ok (c, rest)) :
    ∃ low after, cs = '\\' :: 'u' :: after ∧ readHex after = .ok (low, rest) := by
  unfold readLowSurrogate at h
  obtain ⟨⟨done, after⟩, hword, h⟩ := bind_eq_ok_iff.mp h
  obtain ⟨⟨low, rest'⟩, hlow, h⟩ := bind_eq_ok_iff.mp h
  dsimp only at hlow h
  split at h
  · obtain ⟨rfl, rfl⟩ := Prod.mk.inj (Except.ok.inj h)
    exact ⟨low, after, readWord_eq_ok hword, hlow⟩
  · cases h

/-- An escape is passed over as one, but a pair of surrogates as two. -/
theorem readEscape_eq_ok {cs rest : List Char} {c : Char}
    (h : readEscape .keep cs = .ok (c, rest)) :
    (rest.length ≤ cs.length ∧ ∃ c', readEscape .skip cs = .ok (c', rest)) ∨
      ∃ high low after, readEscape .skip cs = .ok (high, '\\' :: after) ∧
        readEscape .skip after = .ok (low, rest) ∧
        after.length < cs.length ∧ rest.length ≤ after.length := by
  unfold readEscape at h
  split at h
  · cases h
  · rename_i cs
    obtain ⟨⟨value, after⟩, hvalue, h⟩ := bind_eq_ok_iff.mp h
    have hle := readHex_eq_ok hvalue
    dsimp only at h
    rw [if_neg (by decide)] at h
    split at h
    · cases h
    · split at h
      · obtain ⟨low, after', rfl, hlow⟩ := readLowSurrogate_eq_ok h
        have hle' := readHex_eq_ok hlow
        simp only [List.length_cons] at hle ⊢
        exact Or.inr ⟨_, _, 'u' :: after', readEscape_skip hvalue, readEscape_skip hlow,
          by simp; omega, by simp; omega⟩
      · obtain ⟨rfl, rfl⟩ := Prod.mk.inj (Except.ok.inj h)
        rw [List.length_cons]
        exact Or.inl ⟨by omega, _, readEscape_skip hvalue⟩
  · rename_i e cs hu
    split at h
    · rename_i c' hescape
      obtain ⟨rfl, rfl⟩ := Prod.mk.inj (Except.ok.inj h)
      refine Or.inl ⟨Nat.le_succ _, c', ?_⟩
      rw [readEscape, hescape]
      exact hu
    · cases h

-- a pair of surrogates takes two steps instead of one, so that the fuel is bounded by the text
theorem readChars_eq_ok {fuel : Nat} {done cs rest : List Char} {s : String}
    (h : readChars .keep fuel done cs = .ok (s, rest)) :
    rest.length < cs.length ∧ ∀ fuel' done', cs.length < fuel' →
      ∃ s', readChars .skip fuel' done' cs = .ok (s', rest) := by
  induction fuel generalizing done cs with
  | zero => cases h
  | succ fuel ih =>
    cases cs with
    | nil => cases h
    | cons c cs =>
      by_cases hquote : c = '"'
      · subst hquote
        obtain ⟨rfl, rfl⟩ := Prod.mk.inj (Except.ok.inj h)
        refine ⟨Nat.lt_succ_self _, ?_⟩
        intro fuel' done' hfuel
        obtain ⟨fuel', rfl⟩ : ∃ n, fuel' = n + 1 := ⟨fuel' - 1, by omega⟩
        exact ⟨_, rfl⟩
      · by_cases hbackslash : c = '\\'
        · subst hbackslash
          rw [readChars] at h
          obtain ⟨⟨e, after⟩, hescape, h⟩ := bind_eq_ok_iff.mp h
          obtain ⟨hlt, hskip⟩ := ih h
          rw [List.length_cons]
          rcases readEscape_eq_ok hescape with
            ⟨hle, e', hescape'⟩ | ⟨high, low, middle, hhigh, hlow, hmiddle, hle⟩
          · refine ⟨by omega, ?_⟩
            intro fuel' done' hfuel
            obtain ⟨fuel', rfl⟩ : ∃ n, fuel' = n + 1 := ⟨fuel' - 1, by omega⟩
            rw [readChars, hescape', ok_bind]
            exact hskip fuel' _ (by omega)
          · refine ⟨by omega, ?_⟩
            intro fuel' done' hfuel
            obtain ⟨fuel', rfl⟩ : ∃ n, fuel' = n + 2 := ⟨fuel' - 2, by omega⟩
            rw [readChars, hhigh, ok_bind]
            dsimp only
            rw [readChars, hlow, ok_bind]
            exact hskip fuel' _ (by omega)
        · rw [readChars_cons_of_ne hquote hbackslash] at h
          split at h
          · cases h
          · rename_i hcontrol
            obtain ⟨hlt, hskip⟩ := ih h
            rw [List.length_cons]
            refine ⟨by omega, ?_⟩
            intro fuel' done' hfuel
            obtain ⟨fuel', rfl⟩ : ∃ n, fuel' = n + 1 := ⟨fuel' - 1, by omega⟩
            rw [readChars_cons_of_ne hquote hbackslash, if_neg hcontrol]
            exact hskip fuel' _ (by omega)

theorem passes_readString : Passes readString := by
  intro cs s rest h
  obtain ⟨hlt, hskip⟩ := readChars_eq_ok h
  exact ⟨hlt, hskip (cs.length + 1) [] (Nat.lt_succ_self _)⟩

theorem passes_readName : Passes readName := by
  intro cs name rest h
  unfold readName at h
  split at h
  · obtain ⟨hlt, hskip⟩ := passes_readString _ _ _ h
    rw [List.length_cons]
    exact ⟨by omega, hskip⟩
  · cases h

theorem length_le_of_readWord {word cs rest : List Char} {value value' : Json}
    (h : (readWord word cs >>= fun read => .ok (value, read.2)) = .ok (value', rest)) :
    rest.length ≤ cs.length := by
  obtain ⟨⟨done, after⟩, hword, h⟩ := bind_eq_ok_iff.mp h
  obtain ⟨rfl, rfl⟩ := Prod.mk.inj (Except.ok.inj h)
  rw [readWord_eq_ok hword, List.length_append]
  exact Nat.le_add_left _ _

theorem passes_map {α β : Type} {read : Care → Reader α} (hread : Passes read) (f : α → β) :
    Passes fun care cs => read care cs >>= fun result => .ok (result.map f id) := by
  intro cs b rest h
  obtain ⟨⟨a, rest'⟩, ha, h⟩ := bind_eq_ok_iff.mp h
  obtain ⟨rfl, rfl⟩ := Prod.mk.inj (Except.ok.inj h)
  obtain ⟨hlt, a', ha'⟩ := hread _ _ _ ha
  refine ⟨hlt, f a', ?_⟩
  dsimp only
  rw [ha', ok_bind]
  rfl

theorem passes_readScalar : Passes readScalar := by
  intro cs value rest h
  unfold readScalar at h
  split at h
  · cases h
  · exact ⟨Nat.lt_succ_of_le (length_le_of_readWord h), value, h⟩
  · exact ⟨Nat.lt_succ_of_le (length_le_of_readWord h), value, h⟩
  · exact ⟨Nat.lt_succ_of_le (length_le_of_readWord h), value, h⟩
  · obtain ⟨hlt, hskip⟩ := passes_map passes_readString Json.string _ _ _ h
    exact ⟨Nat.lt_succ_of_lt hlt, hskip⟩
  · obtain ⟨hlt, hskip⟩ := passes_map (passes_readNumber true) Json.number _ _ _ h
    exact ⟨Nat.lt_succ_of_lt hlt, hskip⟩
  · rename_i c cs hn ht hf hquote hminus
    split at h
    · rename_i hdigit
      obtain ⟨hlt, b, hskip⟩ := passes_map (passes_readNumber false) Json.number _ _ _ h
      refine ⟨hlt, b, ?_⟩
      rw [readScalar, if_pos hdigit]
      · exact hskip
      all_goals assumption
    · cases h

end Excerpt.Json
