import Excerpt.Proofs.Block.Checked

/-! The lines attached above a head. The upward scan gives the top of the run of them that ends
right above the head and cannot be extended. -/
namespace Excerpt
open Text Bounds

/-- Line `n` is attached to a definition below it that is indented by `indent`: the line is not
blank, no less indented, and starts with a prefix marker. -/
def IsAttached (cues : Cues) (indent : Nat) (lines : List String) (n : Nat) : Prop :=
  ∃ line ∈ lines[n]?, ∃ column ∈ column? line, ∃ edges ∈ edges? line,
    indent ≤ column ∧ edges.1 ∈ cues.prefixMarkers

theorem isAttached_iff {cues : Cues} {indent n : Nat} {lines : List String} {line : String}
    (h : lines[n]? = some line) :
    IsAttached cues indent lines n ↔ attachable cues indent (shape? line) = true := by
  unfold IsAttached
  rw [h]
  cases hshape : shape? line with
  | none =>
    have hcolumn : column? line = none := by
      rw [column?_eq_map_shape?, hshape]
      rfl
    simp [attachable, hcolumn]
  | some shape =>
    obtain ⟨hcolumn, hends⟩ := shape?_eq_some_iff.mp hshape
    have hedges : edges? line = some (shape.first, shape.last) := edges?_eq_some_iff.mpr hends
    simp [attachable, Cues.isPrefixMarker, hcolumn, hedges]

/-- `first` is the top of the unbroken run of attached lines above `head`, which may be empty: the
lines from `first` on are attached, and the line above `first`, if there is one, is not. -/
structure IsRunTop (cues : Cues) (indent : Nat) (lines : List String) (head first : Nat) :
    Prop where
  le_head : first ≤ head
  attached : ∀ n, first ≤ n → n < head → IsAttached cues indent lines n
  maximal : first = 0 ∨ ¬ IsAttached cues indent lines (first - 1)

namespace IsRunTop

variable {cues : Cues} {indent head first : Nat} {lines : List String}

theorem le_of_isRunTop {other : Nat} (h : IsRunTop cues indent lines head first)
    (hother : IsRunTop cues indent lines head other) : first ≤ other := by
  by_contra hlt
  -- the line above `first` would lie in the other run
  have hle := h.le_head
  have habove := hother.attached (first - 1) (by omega) (by omega)
  rcases h.maximal with hzero | hnot
  · omega
  · exact hnot habove

theorem unique {other : Nat} (h : IsRunTop cues indent lines head first)
    (hother : IsRunTop cues indent lines head other) : first = other :=
  Nat.le_antisymm (h.le_of_isRunTop hother) (hother.le_of_isRunTop h)

theorem succ_of_attached (h : IsRunTop cues indent lines head first)
    (hhead : IsAttached cues indent lines head) : IsRunTop cues indent lines (head + 1) first := by
  have hle := h.le_head
  refine ⟨by omega, ?_, h.maximal⟩
  intro n hfirst hn
  by_cases heq : n = head
  · rw [heq]
    exact hhead
  · exact h.attached n hfirst (by omega)

theorem succ_of_not_attached (hhead : ¬ IsAttached cues indent lines head) :
    IsRunTop cues indent lines (head + 1) (head + 1) := by
  refine ⟨Nat.le_refl _, ?_, Or.inr hhead⟩
  intro n hfirst hn
  omega

end IsRunTop

-- by induction on the distance of the head from the top of the document
theorem isRunTop_scanUp (cues : Cues) (indent : Nat) {lines : List String} {head : Nat}
    (h : head ≤ lines.length) :
    IsRunTop cues indent lines head (scanUp cues indent (lines.map shape?) head) := by
  induction head with
  | zero =>
    have hzero : scanUp cues indent (lines.map shape?) 0 = 0 := by simp [scanUp]
    rw [hzero]
    refine ⟨Nat.le_refl 0, ?_, Or.inl rfl⟩
    intro n _ hn
    omega
  | succ head ih =>
    have hline : lines[head]? = some lines[head] := List.getElem?_eq_getElem h
    have hshape : (lines.map shape?)[head]? = some (shape? lines[head]) := by
      rw [List.getElem?_map, hline]
      rfl
    rw [scanUp_succ cues indent hshape]
    by_cases hattachable : attachable cues indent (shape? lines[head]) = true
    · rw [if_pos hattachable]
      exact (ih (by omega)).succ_of_attached ((isAttached_iff hline).mpr hattachable)
    · rw [if_neg hattachable]
      exact IsRunTop.succ_of_not_attached fun hhead => hattachable ((isAttached_iff hline).mp hhead)

/-- The upward scan from a line gives the one top of the run of attached lines above it. -/
theorem scanUp_eq_iff_isRunTop (cues : Cues) (indent : Nat) {lines : List String} {head : Nat}
    (h : head < lines.length) (first : Nat) :
    scanUp cues indent (lines.map shape?) head = first ↔
      IsRunTop cues indent lines head first := by
  have hscan := isRunTop_scanUp cues indent (Nat.le_of_lt h)
  constructor
  · rintro rfl
    exact hscan
  · intro hfirst
    exact hscan.unique hfirst

/-- A comment and a deeper attribute are attached; the comment above the blank line is not. -/
theorem scanUp_eq_iff_isRunTop_comment :
    4 < ["# a", " ", "# b", "  @c", "f"].length ∧
      IsRunTop {} 0 ["# a", " ", "# b", "  @c", "f"] 4 2 := by
  have hlt : 4 < ["# a", " ", "# b", "  @c", "f"].length := by decide
  exact ⟨hlt, (scanUp_eq_iff_isRunTop {} 0 hlt 2).mp (by decide)⟩

end Excerpt
