import Excerpt.Proofs.Block.Cut
import Excerpt.Proofs.Text.Lines

/-! What dedenting a block does to the code in it. -/
namespace Excerpt
open Text Bounds

theorem ink_intercalate_newline (lines : List String) :
    ink (String.intercalate "\n" lines ++ "\n") = lines.flatMap ink := by
  have hink : ∀ s t : String, ink (s ++ t) = ink s ++ ink t := by
    intro s t
    simp [ink]
  have hterminator : ink "\n" = [] := by decide
  induction lines with
  | nil => simp [hterminator]
  | cons line lines ih =>
    cases lines with
    | nil => simp [hink, hterminator]
    | cons next lines =>
      rw [String.intercalate_cons_cons, String.append_assoc, hink, hink, hterminator,
        List.append_nil, ih, ← List.flatMap_cons]

namespace Cut

variable {cues : Cues}

/-- The lines of a block that lose code when it is dedented are those below its head, down to the
given end, that are less indented than the head. -/
theorem exists_not_indentedBy_iff (cut : Cut cues) {seed : Nat} (h : cut.head ≤ seed) :
    (∃ line ∈ (cut.bounds seed).span cut.lines, ¬ IndentedBy cut.indent line) ↔
      ∃ m, cut.head < m ∧ m ≤ seed ∧ ∃ line ∈ cut.lines[m]?, ¬ IndentedBy cut.indent line := by
  have hle := cut.le_lastLine seed
  have hbelow (i : Nat) : cut.lines[cut.head + (i + 1)]? = cut.below[i]? := by
    rw [← List.getElem?_drop, cut.drop_head, List.getElem?_cons_succ]
  rw [cut.span_bounds h]
  constructor
  · rintro ⟨line, hmem, hline⟩
    rcases List.mem_append.mp hmem with hattached | hmem
    · exact absurd (cut.indentedBy_of_mem_attached hattached) hline
    rcases List.mem_cons.mp hmem with rfl | hmem
    · exact absurd cut.indentedBy_headLine hline
    -- a scan that goes past `seed` takes no such line, so that the block ends there
    have hseed : cut.lastLine seed = seed := by
      by_contra hne
      exact hline (cut.indentedBy_of_mem_below (by omega) hmem)
    obtain ⟨i, hi, rfl⟩ := List.mem_take_iff_getElem.mp hmem
    refine ⟨cut.head + (i + 1), by omega, by omega, _, ?_, hline⟩
    rw [hbelow, List.getElem?_eq_getElem (by omega)]
    rfl
  · rintro ⟨m, hhead, hm, line, hget, hline⟩
    obtain ⟨i, rfl⟩ : ∃ i, m = cut.head + (i + 1) := ⟨m - cut.head - 1, by omega⟩
    rw [hbelow] at hget
    obtain ⟨hi, rfl⟩ := List.getElem?_eq_some_iff.mp hget
    refine ⟨cut.below[i], ?_, hline⟩
    refine List.mem_append_right _ (List.mem_cons_of_mem _ ?_)
    exact List.mem_take_iff_getElem.mpr ⟨i, by omega, rfl⟩

end Cut

/-- Dedenting a block takes code from one of its lines exactly when the range covers, below the
head, a line that is less indented than the head. No code is lost of a block found from a place. -/
theorem ink_lost_iff (cues : Cues) {lines : List String} {range : Range}
    (h : range.start.line.toNat < lines.length) :
    ∃ bounds, find? cues lines range = some bounds ∧
      ((∃ line ∈ bounds.span lines, ink (dropColumns bounds.indent line) ≠ ink line) ↔
        ∃ m, range.start.line.toNat < m ∧ m ≤ range.lastLineIn lines.length ∧
          ∃ line ∈ lines[m]?, ∃ column ∈ column? line, column < bounds.indent) ∧
      (range = Range.atLine range.start.line →
        (∀ line ∈ bounds.span lines, ink (dropColumns bounds.indent line) = ink line) ∧
        ink (bounds.text lines) = (bounds.span lines).flatMap ink) := by
  obtain ⟨cut, rfl, hhead⟩ := Cut.exists_of_lt cues h
  obtain ⟨hseed, -⟩ := Range.le_lastLineIn h
  have hlost (line : String) : ¬ IndentedBy cut.indent line ↔
      ∃ column ∈ column? line, column < cut.indent := by
    simp [IndentedBy]
  have hiff := cut.exists_not_indentedBy_iff (hhead ▸ hseed)
  refine ⟨_, cut.find?_lines hhead.symm, ?_, ?_⟩
  · simpa only [ne_eq, ink_dropColumns_eq_iff, Cut.bounds_indent, hlost, hhead] using hiff
  · intro hplace
    have hend : range.lastLineIn cut.lines.length = cut.head := by
      rw [hplace, Range.lastLineIn_atLine h, hhead]
    have hkept : ∀ line ∈ (cut.bounds (range.lastLineIn cut.lines.length)).span cut.lines,
        IndentedBy cut.indent line := by
      intro line hline
      by_contra hnot
      obtain ⟨m, hlt, hle, -⟩ := hiff.mp ⟨line, hline, hnot⟩
      omega
    refine ⟨fun line hline => ink_dropColumns_eq_iff.mpr (hkept line hline), ?_⟩
    rw [text, ink_intercalate_newline, slice_eq_map_span, List.flatMap_map]
    exact List.flatMap_congr fun line hline => ink_dropColumns_eq_iff.mpr (hkept line hline)

/-- A range that covers a line to the left of the head: the line loses its code. -/
theorem ink_lost_wide_range :
    ∃ bounds, find? {} ["    f:", "  x"] ⟨⟨0, 0⟩, ⟨1, 3⟩⟩ = some bounds ∧
      ∃ line ∈ bounds.span ["    f:", "  x"], ink (dropColumns bounds.indent line) ≠ ink line := by
  obtain ⟨bounds, hfind, hlost, -⟩ := ink_lost_iff {}
    (show (⟨⟨0, 0⟩, ⟨1, 3⟩⟩ : Range).start.line.toNat < ["    f:", "  x"].length by decide)
  have hbounds : bounds = ⟨0, 1, 4⟩ := Option.some.inj (hfind.symm.trans (by decide))
  refine ⟨bounds, hfind, hlost.mpr ⟨1, by decide, by decide, "  x", rfl, 2, by decide, ?_⟩⟩
  rw [hbounds]
  decide

end Excerpt
