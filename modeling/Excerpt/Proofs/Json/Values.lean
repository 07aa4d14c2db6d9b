import Excerpt.Proofs.Json.Passing
import Excerpt.Proofs.Json.ReadBack

/-! Texts that were read as values. An array or object is known by the items that were found in its
text one after the other, and facts about all values follow by induction on them. -/
namespace Excerpt.Json

/-! ## Items -/

theorem skipBlanks_skipBlanks (cs : List Char) : skipBlanks (skipBlanks cs) = skipBlanks cs := by
  fun_induction skipBlanks cs with
  | case1 cs ih => exact ih
  | case2 cs ih => exact ih
  | case3 cs ih => exact ih
  | case4 cs ih => exact ih
  | case5 cs h₁ h₂ h₃ h₄ => rw [skipBlanks] <;> assumption

theorem length_skipBlanks_le (cs : List Char) : (skipBlanks cs).length ≤ cs.length := by
  fun_induction skipBlanks cs with
  | case1 cs ih => exact Nat.le_succ_of_le ih
  | case2 cs ih => exact Nat.le_succ_of_le ih
  | case3 cs ih => exact Nat.le_succ_of_le ih
  | case4 cs ih => exact Nat.le_succ_of_le ih
  | case5 cs h₁ h₂ h₃ h₄ => exact Nat.le_refl _

section NextItem

variable {close : Char} {first : Bool} {cs : List Char}

theorem nextItem_eq_inr {rest : List Char} (h : nextItem close first cs = .ok (.inr rest)) :
    skipBlanks cs = close :: rest := by
  unfold nextItem at h
  split at h
  · cases h
  · rename_i c tail hcs
    split at h
    · rename_i hclose
      rw [hcs, hclose, Sum.inr.inj (Except.ok.inj h)]
    · split at h
      · cases h
      · split at h
        · split at h
          · cases h
          · split at h <;> cases h
        · cases h

theorem nextItem_eq_inl {item : List Char} (h : nextItem close first cs = .ok (.inl item)) :
    skipBlanks item = item ∧ item.length ≤ cs.length ∧ ∀ rest, skipBlanks cs ≠ close :: rest := by
  have hlength := length_skipBlanks_le cs
  unfold nextItem at h
  split at h
  · cases h
  · rename_i c tail hcs
    rw [hcs, List.length_cons] at hlength
    split at h
    · cases h
    · rename_i hclose
      have hopen : ∀ rest, skipBlanks cs ≠ close :: rest := by
        intro rest heq
        rw [hcs] at heq
        exact hclose (List.cons.inj heq).1
      split at h
      · obtain rfl := Sum.inl.inj (Except.ok.inj h)
        refine ⟨?_, hlength, hopen⟩
        rw [← hcs, skipBlanks_skipBlanks]
      · split at h
        · split at h
          · cases h
          · rename_i d after hafter
            have hlength' := length_skipBlanks_le tail
            rw [hafter, List.length_cons] at hlength'
            split at h
            · cases h
            · obtain rfl := Sum.inl.inj (Except.ok.inj h)
              refine ⟨?_, by rw [List.length_cons]; omega, hopen⟩
              rw [← hafter, skipBlanks_skipBlanks]
        · cases h

end NextItem

/-- The items of a list up to the `close` that ends it, and the rest after it. -/
inductive Listed {α : Type} (close : Char) (reads : List Char → α → List Char → Prop) :
    (first : Bool) → List Char → List α → List Char → Prop
  | nil {first : Bool} {cs rest : List Char} : nextItem close first cs = .ok (.inr rest) →
    Listed close reads first cs [] rest
  | cons {first : Bool} {cs text after rest : List Char} {item : α} {items : List α} :
    nextItem close first cs = .ok (.inl text) → reads text item after →
    Listed close reads false after items rest → Listed close reads first cs (item :: items) rest

namespace Listed

variable {α : Type} {close : Char} {reads : List Char → α → List Char → Prop} {first : Bool}
  {cs rest : List Char} {items : List α}

theorem imp {reads' : List Char → α → List Char → Prop}
    (himp : ∀ text item after, reads text item after → reads' text item after)
    (h : Listed close reads first cs items rest) : Listed close reads' first cs items rest := by
  induction h with
  | nil hnext => exact .nil hnext
  | cons hnext hitem _ ih => exact .cons hnext (himp _ _ _ hitem) ih

theorem length_lt (hreads : ∀ text item after, reads text item after → after.length < text.length)
    (h : Listed close reads first cs items rest) : rest.length < cs.length := by
  induction h with
  | @nil first cs rest hnext =>
    have hlength := length_skipBlanks_le cs
    rw [nextItem_eq_inr hnext, List.length_cons] at hlength
    omega
  | cons hnext hitem _ ih =>
    have hlt := hreads _ _ _ hitem
    have hle := (nextItem_eq_inl hnext).2.1
    omega

end Listed

/-! ## Values -/

/-- A text that starts with a value, and the rest after it. -/
def ReadsAs (cs : List Char) (value : Json) (rest : List Char) : Prop :=
  ∃ fuel depth, readValue .keep fuel depth cs = .ok (value, rest)

/-- A text that starts with a member, whose value is read by `reads`, and the rest after it. -/
def MemberBy (reads : List Char → Json → List Char → Prop) (cs : List Char)
    (member : String × Json) (rest : List Char) : Prop :=
  ∃ afterName afterColon, readName .keep cs = .ok (member.1, afterName) ∧
    readColon afterName = .ok ((), afterColon) ∧ reads afterColon member.2 rest

theorem MemberBy.imp {reads reads' : List Char → Json → List Char → Prop}
    (himp : ∀ text value after, reads text value after → reads' text value after)
    (cs : List Char) (member : String × Json) (rest : List Char)
    (h : MemberBy reads cs member rest) : MemberBy reads' cs member rest := by
  obtain ⟨afterName, afterColon, hname, hcolon, hvalue⟩ := h
  exact ⟨afterName, afterColon, hname, hcolon, himp _ _ _ hvalue⟩

/-- A text that starts with a value, which is read with less than `fuel`. -/
def ReadsWithin (fuel depth : Nat) (cs : List Char) (value : Json) (rest : List Char) : Prop :=
  ∃ n < fuel, readValue .keep n depth cs = .ok (value, rest)

theorem ReadsWithin.succ {fuel depth : Nat} (cs : List Char) (value : Json) (rest : List Char)
    (h : ReadsWithin fuel depth cs value rest) : ReadsWithin (fuel + 1) depth cs value rest := by
  obtain ⟨n, hn, hread⟩ := h
  exact ⟨n, Nat.lt_succ_of_lt hn, hread⟩

theorem listed_of_readItems {fuel depth : Nat} {done : List Json} {cs rest : List Char}
    {value : Json} (h : readItems .keep fuel depth done cs = .ok (value, rest)) :
    ∃ items, value = .array (done.reverse ++ items) ∧
      Listed ']' (ReadsWithin fuel depth) done.isEmpty cs items rest := by
  induction fuel generalizing done cs with
  | zero => cases h
  | succ fuel ih =>
    rw [readItems] at h
    obtain ⟨next, hnext, h⟩ := bind_eq_ok_iff.mp h
    cases next with
    | inr after =>
      obtain ⟨rfl, rfl⟩ := Prod.mk.inj (Except.ok.inj h)
      exact ⟨[], by rw [List.append_nil], .nil hnext⟩
    | inl text =>
      obtain ⟨⟨item, after⟩, hitem, h⟩ := bind_eq_ok_iff.mp h
      obtain ⟨items, rfl, hitems⟩ := ih h
      have hitem' : ReadsWithin (fuel + 1) depth text item after :=
        ⟨fuel, Nat.lt_succ_self _, hitem⟩
      exact ⟨item :: items, by simp, .cons hnext hitem' (hitems.imp ReadsWithin.succ)⟩

theorem listed_of_readMembers {fuel depth : Nat} {done : List (String × Json)}
    {cs rest : List Char} {value : Json}
    (h : readMembers .keep fuel depth done cs = .ok (value, rest)) :
    ∃ members, value = .object (done.reverse ++ members) ∧
      Listed '\x7d' (MemberBy (ReadsWithin fuel depth)) done.isEmpty cs members rest := by
  induction fuel generalizing done cs with
  | zero => cases h
  | succ fuel ih =>
    rw [readMembers] at h
    obtain ⟨next, hnext, h⟩ := bind_eq_ok_iff.mp h
    cases next with
    | inr after =>
      obtain ⟨rfl, rfl⟩ := Prod.mk.inj (Except.ok.inj h)
      exact ⟨[], by rw [List.append_nil], .nil hnext⟩
    | inl text =>
      obtain ⟨⟨name, afterName⟩, hname, h⟩ := bind_eq_ok_iff.mp h
      obtain ⟨⟨colon, afterColon⟩, hcolon, h⟩ := bind_eq_ok_iff.mp h
      obtain ⟨⟨item, after⟩, hitem, h⟩ := bind_eq_ok_iff.mp h
      obtain ⟨members, rfl, hmembers⟩ := ih h
      have hmember : MemberBy (ReadsWithin (fuel + 1) depth) text (name, item) after :=
        ⟨afterName, afterColon, hname, hcolon, fuel, Nat.lt_succ_self _, hitem⟩
      have hmembers' := hmembers.imp (MemberBy.imp ReadsWithin.succ)
      exact ⟨(name, item) :: members, by simp, .cons hnext hmember hmembers'⟩

/-- What holds of every scalar, and of every array and object whose items it holds of, holds of
every value that was read. -/
theorem ReadsAs.induct {motive : List Char → Json → List Char → Prop}
    (scalar : ∀ cs value rest, readScalar .keep (skipBlanks cs) = .ok (value, rest) →
      (∀ tail, skipBlanks cs ≠ '[' :: tail) → (∀ tail, skipBlanks cs ≠ '\x7b' :: tail) →
      motive cs value rest)
    (array : ∀ cs tail items rest, skipBlanks cs = '[' :: tail →
      Listed ']' (fun text item after => ReadsAs text item after ∧ motive text item after)
        true tail items rest → motive cs (.array items) rest)
    (object : ∀ cs tail members rest, skipBlanks cs = '\x7b' :: tail →
      Listed '\x7d'
        (MemberBy fun text item after => ReadsAs text item after ∧ motive text item after)
        true tail members rest → motive cs (.object members) rest)
    {cs : List Char} {value : Json} {rest : List Char} (h : ReadsAs cs value rest) :
    motive cs value rest := by
  obtain ⟨fuel, depth, h⟩ := h
  induction fuel using Nat.strongRecOn generalizing depth cs value rest with
  | ind fuel ih =>
    cases fuel with
    | zero => cases h
    | succ fuel =>
      have hitem : ∀ depth text item after, ReadsWithin fuel depth text item after →
          ReadsAs text item after ∧ motive text item after := by
        rintro depth text item after ⟨n, hn, hread⟩
        exact ⟨⟨n, depth, hread⟩, ih n (by omega) depth hread⟩
      rw [readValue] at h
      split at h
      · rename_i tail hcs
        split at h
        · cases h
        · obtain ⟨items, rfl, hitems⟩ := listed_of_readItems h
          exact array _ _ _ _ hcs (hitems.imp (hitem _))
      · rename_i tail hcs
        split at h
        · cases h
        · obtain ⟨members, rfl, hmembers⟩ := listed_of_readMembers h
          exact object _ _ _ _ hcs (hmembers.imp (MemberBy.imp (hitem _)))
      · rename_i hsquare hcurly
        exact scalar _ _ _ h hsquare hcurly

/-! ## Passing over values -/

/-- A text whose start is passed over, up to the rest, with two steps for each character. -/
def PassesTo (cs : List Char) (rest : List Char) : Prop :=
  rest.length < cs.length ∧ ∀ fuel depth, 2 * cs.length ≤ fuel →
    ∃ value, readValue .skip fuel depth cs = .ok (value, rest)

theorem length_lt_of_readColon {cs rest : List Char} {done : Unit}
    (h : readColon cs = .ok (done, rest)) : rest.length < cs.length := by
  have hlength := length_skipBlanks_le cs
  unfold readColon at h
  split at h
  · cases h
  · rename_i tail hcs
    obtain ⟨-, rfl⟩ := Prod.mk.inj (Except.ok.inj h)
    rw [hcs, List.length_cons] at hlength
    omega
  · cases h

theorem MemberBy.length_lt {reads : List Char → Json → List Char → Prop}
    (hreads : ∀ text value after, reads text value after → after.length < text.length)
    (cs : List Char) (member : String × Json) (rest : List Char)
    (h : MemberBy reads cs member rest) : rest.length < cs.length := by
  obtain ⟨afterName, afterColon, hname, hcolon, hvalue⟩ := h
  have hlt := (passes_readName _ _ _ hname).1
  have hlt' := length_lt_of_readColon hcolon
  have hlt'' := hreads _ _ _ hvalue
  omega

theorem Listed.readItems_skip {first : Bool} {cs rest : List Char} {items : List Json}
    (h : Listed ']' (fun text _ after => PassesTo text after) first cs items rest)
    {fuel : Nat} (depth : Nat) {done : List Json} (hdone : done.isEmpty = first)
    (hfuel : 2 * cs.length < fuel) :
    ∃ value, readItems .skip fuel depth done cs = .ok (value, rest) := by
  induction h generalizing fuel done with
  | nil hnext =>
    obtain ⟨fuel, rfl⟩ : ∃ n, fuel = n + 1 := ⟨fuel - 1, by omega⟩
    rw [readItems, hdone, hnext]
    exact ⟨_, rfl⟩
  | cons hnext hitem _ ih =>
    obtain ⟨fuel, rfl⟩ : ∃ n, fuel = n + 1 := ⟨fuel - 1, by omega⟩
    obtain ⟨hlt, hskip⟩ := hitem
    have hle := (nextItem_eq_inl hnext).2.1
    obtain ⟨value, hvalue⟩ := hskip fuel depth (by omega)
    rw [readItems, hdone, hnext, ok_bind]
    dsimp only
    rw [hvalue, ok_bind]
    exact ih rfl (by omega)

theorem Listed.readMembers_skip {first : Bool} {cs rest : List Char}
    {members : List (String × Json)}
    (h : Listed '\x7d' (MemberBy fun text _ after => PassesTo text after) first cs members rest)
    {fuel : Nat} (depth : Nat) {done : List (String × Json)} (hdone : done.isEmpty = first)
    (hfuel : 2 * cs.length < fuel) :
    ∃ value, readMembers .skip fuel depth done cs = .ok (value, rest) := by
  induction h generalizing fuel done with
  | nil hnext =>
    obtain ⟨fuel, rfl⟩ : ∃ n, fuel = n + 1 := ⟨fuel - 1, by omega⟩
    rw [readMembers, hdone, hnext]
    exact ⟨_, rfl⟩
  | cons hnext hmember _ ih =>
    obtain ⟨fuel, rfl⟩ : ∃ n, fuel = n + 1 := ⟨fuel - 1, by omega⟩
    obtain ⟨afterName, afterColon, hname, hcolon, hlt, hskip⟩ := hmember
    obtain ⟨hlt', name, hname⟩ := passes_readName _ _ _ hname
    have hlt'' := length_lt_of_readColon hcolon
    have hle := (nextItem_eq_inl hnext).2.1
    obtain ⟨value, hvalue⟩ := hskip fuel depth (by omega)
    rw [readMembers, hdone, hnext, ok_bind]
    dsimp only
    rw [hname, ok_bind]
    dsimp only
    rw [hcolon, ok_bind]
    dsimp only
    rw [hvalue, ok_bind]
    exact ih rfl (by omega)

theorem ReadsAs.passesTo {cs rest : List Char} {value : Json} (h : ReadsAs cs value rest) :
    PassesTo cs rest := by
  have hshort : ∀ (text : List Char) (item : Json) (after : List Char),
      PassesTo text after → after.length < text.length := fun _ _ _ hpass => hpass.1
  refine ReadsAs.induct (motive := fun cs _ rest => PassesTo cs rest) ?_ ?_ ?_ h
  · intro cs value rest hscalar hsquare hcurly
    have hlength := length_skipBlanks_le cs
    obtain ⟨hlt, value', hvalue⟩ := passes_readScalar _ _ _ hscalar
    refine ⟨by omega, ?_⟩
    intro fuel depth hfuel
    obtain ⟨fuel, rfl⟩ : ∃ n, fuel = n + 1 := ⟨fuel - 1, by omega⟩
    refine ⟨value', ?_⟩
    rw [readValue]
    split
    · rename_i heq
      exact absurd heq (hsquare _)
    · rename_i heq
      exact absurd heq (hcurly _)
    · exact hvalue
  · intro cs tail items rest hcs hitems
    have hlength := length_skipBlanks_le cs
    rw [hcs, List.length_cons] at hlength
    have hitems := hitems.imp fun _ _ _ hitem => hitem.2
    have hlt := hitems.length_lt hshort
    refine ⟨by omega, ?_⟩
    intro fuel depth hfuel
    obtain ⟨fuel, rfl⟩ : ∃ n, fuel = n + 1 := ⟨fuel - 1, by omega⟩
    rw [readValue, hcs]
    exact hitems.readItems_skip (depth - 1) rfl (by omega)
  · intro cs tail members rest hcs hmembers
    have hlength := length_skipBlanks_le cs
    rw [hcs, List.length_cons] at hlength
    have hmembers := hmembers.imp (MemberBy.imp fun _ _ _ hitem => hitem.2)
    have hlt := hmembers.length_lt (MemberBy.length_lt hshort)
    refine ⟨by omega, ?_⟩
    intro fuel depth hfuel
    obtain ⟨fuel, rfl⟩ : ∃ n, fuel = n + 1 := ⟨fuel - 1, by omega⟩
    rw [readValue, hcs]
    exact hmembers.readMembers_skip (depth - 1) rfl (by omega)

theorem ReadsAs.length_lt {cs rest : List Char} {value : Json} (h : ReadsAs cs value rest) :
    rest.length < cs.length := h.passesTo.1

theorem ReadsAs.read_skip {cs rest : List Char} {value : Json} (h : ReadsAs cs value rest) :
    ∃ value', read .skip cs = .ok (value', rest) :=
  h.passesTo.2 _ _ (by omega)

/-! ## Kinds of values -/

theorem readScalar_eq_ok {cs rest : List Char} {value : Json}
    (h : readScalar .keep cs = .ok (value, rest)) :
    (∃ tail text, cs = '"' :: tail ∧ value = .string text ∧
        readString .keep tail = .ok (text, rest)) ∨
      (∀ tail, cs ≠ '"' :: tail) ∧
        (value = .null ∨ (∃ b, value = .bool b) ∨ ∃ number, value = .number number) := by
  unfold readScalar at h
  split at h
  · cases h
  · obtain ⟨read, -, h⟩ := bind_eq_ok_iff.mp h
    obtain ⟨rfl, -⟩ := Prod.mk.inj (Except.ok.inj h)
    exact Or.inr ⟨by simp, Or.inl rfl⟩
  · obtain ⟨read, -, h⟩ := bind_eq_ok_iff.mp h
    obtain ⟨rfl, -⟩ := Prod.mk.inj (Except.ok.inj h)
    exact Or.inr ⟨by simp, Or.inr (Or.inl ⟨true, rfl⟩)⟩
  · obtain ⟨read, -, h⟩ := bind_eq_ok_iff.mp h
    obtain ⟨rfl, -⟩ := Prod.mk.inj (Except.ok.inj h)
    exact Or.inr ⟨by simp, Or.inr (Or.inl ⟨false, rfl⟩)⟩
  · rename_i tail
    obtain ⟨⟨text, rest'⟩, htext, h⟩ := bind_eq_ok_iff.mp h
    obtain ⟨rfl, rfl⟩ := Prod.mk.inj (Except.ok.inj h)
    exact Or.inl ⟨tail, text, rfl, rfl, htext⟩
  · obtain ⟨read, -, h⟩ := bind_eq_ok_iff.mp h
    obtain ⟨rfl, -⟩ := Prod.mk.inj (Except.ok.inj h)
    exact Or.inr ⟨by simp, Or.inr (Or.inr ⟨_, rfl⟩)⟩
  · rename_i c tail hn ht hf hquote hminus
    split at h
    · obtain ⟨read, -, h⟩ := bind_eq_ok_iff.mp h
      obtain ⟨rfl, -⟩ := Prod.mk.inj (Except.ok.inj h)
      refine Or.inr ⟨?_, Or.inr (Or.inr ⟨_, rfl⟩)⟩
      intro tail' heq
      exact hquote (List.cons.inj heq).1
    · cases h

/-- A value is an array, an object or a scalar, as the first character after the blanks tells. -/
inductive ReadsAs.Kind (cs : List Char) : Json → List Char → Prop
  | array {tail : List Char} {items : List Json} {rest : List Char} :
    skipBlanks cs = '[' :: tail → Listed ']' ReadsAs true tail items rest →
    Kind cs (.array items) rest
  | object {tail : List Char} {members : List (String × Json)} {rest : List Char} :
    skipBlanks cs = '\x7b' :: tail → Listed '\x7d' (MemberBy ReadsAs) true tail members rest →
    Kind cs (.object members) rest
  | scalar {value : Json} {rest : List Char} :
    readScalar .keep (skipBlanks cs) = .ok (value, rest) →
    (∀ tail, skipBlanks cs ≠ '[' :: tail) → (∀ tail, skipBlanks cs ≠ '\x7b' :: tail) →
    Kind cs value rest

theorem ReadsAs.kind {cs rest : List Char} {value : Json} (h : ReadsAs cs value rest) :
    Kind cs value rest := by
  refine ReadsAs.induct (motive := Kind) ?_ ?_ ?_ h
  · intro cs value rest hscalar hsquare hcurly
    exact .scalar hscalar hsquare hcurly
  · intro cs tail items rest hcs hitems
    exact .array hcs (hitems.imp fun _ _ _ hitem => hitem.1)
  · intro cs tail members rest hcs hmembers
    exact .object hcs (hmembers.imp (MemberBy.imp fun _ _ _ hitem => hitem.1))

end Excerpt.Json
