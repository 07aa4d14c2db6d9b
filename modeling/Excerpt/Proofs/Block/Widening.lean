import Excerpt.Proofs.Block.Cut

/-! Blocks under wider and narrower cues. The scan under the wider cues is inside the block only
where the narrower one is, and does not end before it. -/
namespace Excerpt
open Text Bounds

/-- Cues that attach, continue and close no more than the wide ones, and declare and open no
less. -/
structure Cues.Narrower (narrow wide : Cues) : Prop where
  prefixMarkers : narrow.prefixMarkers ⊆ wide.prefixMarkers
  continuations : narrow.continuations ⊆ wide.continuations
  closers : narrow.closers ⊆ wide.closers
  declarationTerminators : wide.declarationTerminators ⊆ narrow.declarationTerminators
  firstOpeners : wide.firstOpeners ⊆ narrow.firstOpeners
  lastOpeners : wide.lastOpeners ⊆ narrow.lastOpeners

namespace Bounds

/-- Whether a line belongs to the block when the scan meets it. -/
def takes (cues : Cues) (indent : Nat) (inside : Bool) : Option Shape → Bool
  | none => false
  | some shape => indent < shape.column ||
      (shape.column == indent &&
        (!inside || cues.isContinuation shape.first || cues.isCloser shape.first))

theorem reach_verdict (cues : Cues) (indent : Nat) (inside : Bool) (last n : Nat)
    (line : Option Shape) :
    (verdict cues indent inside line).reach last n =
      if takes cues indent inside line then max last n else last := by
  cases line with
  | none => rfl
  | some shape =>
    rcases Nat.lt_trichotomy shape.column indent with hlt | heq | hgt
    · have hle : ¬ indent < shape.column := by omega
      have hne : shape.column ≠ indent := by omega
      rw [verdict_of_column_lt cues inside hlt]
      simp [takes, hle, hne, Verdict.reach]
    · unfold verdict takes
      cases inside <;> cases hc : cues.isContinuation shape.first <;>
        cases hr : cues.isCloser shape.first <;>
        cases ho : cues.opensBlock shape.first shape.last <;> simp [heq, hc, hr, ho, Verdict.reach]
    · rw [verdict_of_lt_column cues inside hgt]
      simp [takes, hgt, Verdict.reach]

theorem reach_le_scanDown_cons (cues : Cues) (indent : Nat) (inside : Bool) (last n : Nat)
    (line : Option Shape) (below : List (Option Shape)) :
    (verdict cues indent inside line).reach last n ≤
      scanDown cues indent inside last n (line :: below) := by
  rw [scanDown_cons]
  cases (verdict cues indent inside line).next? inside with
  | none => exact Nat.le_refl _
  | some inside' => exact le_scanDown cues indent inside' _ (n + 1) below

end Bounds

namespace Cues.Narrower

variable {narrow wide : Cues} (h : Narrower narrow wide) {indent : Nat}

section Lines

variable {line : Option Shape}

include h

theorem attachable_wide (hline : attachable narrow indent line = true) :
    attachable wide indent line = true := by
  cases line with
  | none => cases hline
  | some shape =>
    simp only [attachable, isPrefixMarker, List.contains_eq_mem, Bool.and_eq_true,
      decide_eq_true_eq] at hline ⊢
    exact ⟨hline.1, h.prefixMarkers hline.2⟩

theorem isDeclaration_narrow (hline : isDeclaration wide line = true) :
    isDeclaration narrow line = true := by
  cases line with
  | none => cases hline
  | some shape =>
    simp only [isDeclaration, isDeclarationTerminator, List.contains_eq_mem,
      decide_eq_true_eq] at hline ⊢
    exact h.declarationTerminators hline

theorem enters_narrow (hline : enters wide indent line = true) :
    enters narrow indent line = true := by
  cases line with
  | none => cases hline
  | some shape =>
    simp only [enters, opensBlock, List.contains_eq_mem, Bool.or_eq_true,
      decide_eq_true_eq] at hline ⊢
    rcases hline with hdeeper | hfirst | hlast
    · exact Or.inl hdeeper
    · exact Or.inr (Or.inl (h.firstOpeners hfirst))
    · exact Or.inr (Or.inr (h.lastOpeners hlast))

theorem isContinuation_wide {c : Char} (hc : narrow.isContinuation c = true) :
    wide.isContinuation c = true := by
  simp only [Cues.isContinuation, List.contains_eq_mem, decide_eq_true_eq] at hc ⊢
  exact h.continuations hc

theorem isCloser_wide {c : Char} (hc : narrow.isCloser c = true) : wide.isCloser c = true := by
  simp only [Cues.isCloser, List.contains_eq_mem, decide_eq_true_eq] at hc ⊢
  exact h.closers hc

end Lines

section Step

variable {inside inside' : Bool} (hinside : inside' = true → inside = true)
  (line : Option Shape)

include h hinside

theorem takes_wide (hline : takes narrow indent inside line = true) :
    takes wide indent inside' line = true := by
  cases line with
  | none => cases hline
  | some shape =>
    simp only [takes, Bool.or_eq_true, Bool.and_eq_true, decide_eq_true_eq, beq_iff_eq,
      Bool.not_eq_true'] at hline ⊢
    rcases hline with hdeeper | ⟨hcolumn, (houtside | hcontinuation) | hcloser⟩
    · exact Or.inl hdeeper
    · have houtside' : inside' = false := by simpa [houtside] using mt hinside
      exact Or.inr ⟨hcolumn, Or.inl (Or.inl houtside')⟩
    · exact Or.inr ⟨hcolumn, Or.inl (Or.inr (h.isContinuation_wide hcontinuation))⟩
    · exact Or.inr ⟨hcolumn, Or.inr (h.isCloser_wide hcloser)⟩

theorem ends_wide (hline : ends narrow indent inside line = false) :
    ends wide indent inside' line = false := by
  cases line with
  | none => rfl
  | some shape =>
    simp only [ends, Bool.or_eq_false_iff, Bool.and_eq_false_iff, decide_eq_false_iff_not,
      Bool.not_eq_false'] at hline ⊢
    obtain ⟨hcolumn, (houtside | hne) | hcontinuation⟩ := hline
    · have houtside' : inside' = false := by simpa [houtside] using mt hinside
      exact ⟨hcolumn, Or.inl (Or.inl houtside')⟩
    · exact ⟨hcolumn, Or.inl (Or.inr hne)⟩
    · exact ⟨hcolumn, Or.inr (h.isContinuation_wide hcontinuation)⟩

/-- What the narrow scan takes, the wide one takes. -/
theorem reach_le {last last' : Nat} (hlast : last ≤ last') (n : Nat) :
    (verdict narrow indent inside line).reach last n ≤
      (verdict wide indent inside' line).reach last' n := by
  rw [reach_verdict, reach_verdict]
  cases htakes : takes narrow indent inside line with
  | true =>
    rw [h.takes_wide hinside line htakes]
    simp only [if_true]
    omega
  | false =>
    simp only [Bool.false_eq_true, if_false]
    split
    · omega
    · exact hlast

/-- Where the narrow scan goes on, the wide one does, and is inside only if the narrow one is. -/
theorem exists_next? {after : Bool}
    (hnext : (verdict narrow indent inside line).next? inside = some after) :
    ∃ after', (verdict wide indent inside' line).next? inside' = some after' ∧
      (after' = true → after = true) := by
  rw [next?_verdict] at hnext ⊢
  split at hnext
  · cases hnext
  · rename_i hends
    rw [h.ends_wide hinside line (by simpa using hends)]
    refine ⟨_, rfl, ?_⟩
    rw [← Option.some.inj hnext, Bool.or_eq_true, Bool.or_eq_true]
    exact Or.imp hinside h.enters_narrow

end Step

include h

theorem scanDown_le {inside inside' : Bool} (hinside : inside' = true → inside = true)
    {last last' : Nat} (hlast : last ≤ last') (n : Nat) (lines : List (Option Shape)) :
    scanDown narrow indent inside last n lines ≤ scanDown wide indent inside' last' n lines := by
  induction lines generalizing inside inside' last last' n with
  | nil => exact hlast
  | cons line below ih =>
    have hreach : (verdict narrow indent inside line).reach last n ≤
        (verdict wide indent inside' line).reach last' n := h.reach_le hinside line hlast n
    have hwide := reach_le_scanDown_cons wide indent inside' last' n line below
    cases hnext : (verdict narrow indent inside line).next? inside with
    -- the wide scan may go on here, and loses no line by that
    | none =>
      rw [scanDown_cons, hnext]
      exact Nat.le_trans hreach hwide
    | some after =>
      obtain ⟨after', hnext', hafter⟩ := h.exists_next? hinside line hnext
      rw [scanDown_cons, scanDown_cons, hnext, hnext']
      exact ih hafter hreach (n + 1)

theorem bodyEnd_le (shapes : List (Option Shape)) (head seed : Nat) :
    bodyEnd narrow indent shapes head seed ≤ bodyEnd wide indent shapes head seed :=
  h.scanDown_le h.isDeclaration_narrow (Nat.le_refl seed) head _

theorem scanUp_le (shapes : List (Option Shape)) (head : Nat) :
    scanUp wide indent shapes head ≤ scanUp narrow indent shapes head := by
  have hrun (above : List (Option Shape)) :
      (above.takeWhile (attachable narrow indent)).length ≤
        (above.takeWhile (attachable wide indent)).length := by
    induction above with
    | nil => exact Nat.le_refl _
    | cons line above ih =>
      by_cases hline : attachable narrow indent line = true
      · rw [List.takeWhile_cons_of_pos hline, List.takeWhile_cons_of_pos (h.attachable_wide hline)]
        exact Nat.succ_le_succ ih
      · rw [List.takeWhile_cons_of_neg hline]
        exact Nat.zero_le _
  exact Nat.sub_le_sub_left (hrun _) head

end Cues.Narrower

/-- The block under the narrower cues lies within that under the wider ones, at the same indent. -/
theorem find?_le_of_narrower {narrow wide : Cues} (h : narrow.Narrower wide) {lines : List String}
    {range : Range} (hrange : range.start.line.toNat < lines.length) :
    ∃ inner outer, find? narrow lines range = some inner ∧ find? wide lines range = some outer ∧
      inner.indent = outer.indent ∧ outer.firstLine ≤ inner.firstLine ∧
      inner.lastLine ≤ outer.lastLine := by
  have hline := List.getElem?_eq_getElem hrange
  refine ⟨_, _, find?_of_getElem? narrow hline, find?_of_getElem? wide hline, rfl, ?_, ?_⟩
  · exact h.scanUp_le _ _
  · exact h.bodyEnd_le _ _ _

/-- A list with its comment, under cues that know `*` and `]`. -/
theorem find?_le_of_narrower_list :
    ∃ inner outer,
      find? {} ["/*", " * a", " */", "b = [", "    1,", "]", "c"] (Range.atLine 3) = some inner ∧
      find? { prefixMarkers := ['/', '*', '@', '#', '[', ';', '-'], closers := ['\x7d', ']'] }
        ["/*", " * a", " */", "b = [", "    1,", "]", "c"] (Range.atLine 3) = some outer ∧
      inner = ⟨3, 4, 0⟩ ∧ outer = ⟨0, 5, 0⟩ ∧ outer.firstLine ≤ inner.firstLine ∧
      inner.lastLine ≤ outer.lastLine := by
  obtain ⟨inner, outer, hinner, houter, -, hfirst, hlast⟩ := find?_le_of_narrower
    (show Cues.Narrower {}
        { prefixMarkers := ['/', '*', '@', '#', '[', ';', '-'], closers := ['\x7d', ']'] } from
      ⟨by decide, by decide, by decide, by decide, by decide, by decide⟩)
    (show (Range.atLine 3).start.line.toNat <
      ["/*", " * a", " */", "b = [", "    1,", "]", "c"].length by decide)
  refine ⟨inner, outer, hinner, houter, ?_, ?_, hfirst, hlast⟩
  · exact Option.some.inj (hinner.symm.trans (by decide))
  · exact Option.some.inj (houter.symm.trans (by decide))

end Excerpt
