import Mathlib.Data.Prod.Lex
import Excerpt.Proofs.Block.Containment

/-! The part that the end of a range has in its block. The scan never asks how far the block reaches
already, so that the end adds the lines that the range covers and changes nothing else. -/
namespace Excerpt
open Text Bounds

/-- Positions come in the order of their lines, and on one line in that of their columns. -/
def Position.key (position : Position) : ℕ ×ₗ ℕ :=
  toLex (position.line.toNat, position.character.toNat)

theorem Position.key_le_iff {p q : Position} :
    p.key ≤ q.key ↔ p.line.toNat < q.line.toNat ∨
      p.line.toNat = q.line.toNat ∧ p.character.toNat ≤ q.character.toNat :=
  Prod.Lex.toLex_le_toLex

namespace Range

theorem toNat_lastCoveredLine (range : Range) :
    range.lastCoveredLine.toNat =
      if range.start.line.toNat < range.stop.line.toNat ∧ range.stop.character.toNat = 0 then
        range.stop.line.toNat - 1
      else max range.start.line.toNat range.stop.line.toNat := by
  have hlater : range.start.line < range.stop.line ↔
      range.start.line.toNat < range.stop.line.toNat := UInt32.lt_iff_toNat_lt
  have hcolumn : range.stop.character = 0 ↔ range.stop.character.toNat = 0 :=
    UInt32.toNat_inj.symm
  unfold lastCoveredLine
  simp only [hlater, hcolumn]
  split_ifs with hstop
  · have hone : (1 : UInt32) ≤ range.stop.line := by
      rw [UInt32.le_iff_toNat_le]
      change 1 ≤ range.stop.line.toNat
      omega
    rw [UInt32.toNat_sub_of_le _ _ hone]
    rfl
  · rw [UInt32.toNat_max, Nat.max_comm]

theorem lastCoveredLine_lines {first last : UInt32}
    (h : (max last first).toNat + 1 < UInt32.size) :
    (Range.lines first last).lastCoveredLine = max last first := by
  have hstop : (max last first + 1).toNat = (max last first).toNat + 1 := by
    rw [UInt32.toNat_add]
    exact Nat.mod_eq_of_lt h
  have hlater : first < max last first + 1 := by
    rw [UInt32.lt_iff_toNat_lt, hstop, UInt32.toNat_max]
    omega
  unfold lastCoveredLine Range.lines
  dsimp only
  rw [if_pos ⟨hlater, rfl⟩]
  exact UInt32.add_sub_cancel _ _

/-- Across the first column of a line, too, a later end covers no fewer lines. -/
theorem lastCoveredLine_mono {range wider : Range} (hstart : range.start.line = wider.start.line)
    (hstop : range.stop.key ≤ wider.stop.key) :
    range.lastCoveredLine.toNat ≤ wider.lastCoveredLine.toNat := by
  rw [Position.key_le_iff] at hstop
  rw [toNat_lastCoveredLine, toNat_lastCoveredLine, hstart]
  split_ifs <;> omega

theorem lastLineIn_mono {range wider : Range} (hstart : range.start.line = wider.start.line)
    (hstop : range.stop.key ≤ wider.stop.key) (lineCount : Nat) :
    range.lastLineIn lineCount ≤ wider.lastLineIn lineCount := by
  have hcovered := lastCoveredLine_mono hstart hstop
  unfold lastLineIn
  rw [hstart]
  omega

end Range

namespace Bounds

theorem Verdict.reach_max (last seed n : Nat) (v : Verdict) :
    v.reach (max last seed) n = max (v.reach last n) seed := by
  cases v <;> simp only [reach] <;> omega

/-- The line that the scan is given as the last one so far decides nothing. -/
theorem scanDown_max (cues : Cues) (indent : Nat) (inside : Bool) (last seed n : Nat)
    (lines : List (Option Shape)) :
    scanDown cues indent inside (max last seed) n lines =
      max (scanDown cues indent inside last n lines) seed := by
  induction lines generalizing inside last n with
  | nil => rfl
  | cons line below ih =>
    rw [scanDown_cons, scanDown_cons, Verdict.reach_max]
    cases (verdict cues indent inside line).next? inside with
    | none => rfl
    | some inside' => exact ih inside' _ (n + 1)

theorem bodyEnd_of_le (cues : Cues) (indent : Nat) (shapes : List (Option Shape))
    {head seed : Nat} (h : head ≤ seed) :
    bodyEnd cues indent shapes head seed = max (bodyEnd cues indent shapes head head) seed := by
  unfold bodyEnd
  dsimp only
  rw [← scanDown_max, Nat.max_eq_right h]

/-- Bounds that reach at least to a line. -/
def extendTo (bounds : Bounds) (line : Nat) : Bounds :=
  { bounds with lastLine := max bounds.lastLine line }

end Bounds

/-- The block of a range is that of its start line, extended to the last line that it covers. -/
theorem find?_eq_map_extendTo (cues : Cues) (lines : List String) (range : Range) :
    find? cues lines range = (find? cues lines (Range.atLine range.start.line)).map fun place =>
      place.extendTo (range.lastLineIn lines.length) := by
  cases hline : lines[range.start.line.toNat]? with
  | none =>
    have hge : lines.length ≤ range.start.line.toNat := List.getElem?_eq_none_iff.mp hline
    have hplace : find? cues lines (Range.atLine range.start.line) = none :=
      find?_eq_none_iff.mpr hge
    rw [find?_eq_none_iff.mpr hge, hplace, Option.map_none]
  | some line =>
    obtain ⟨hlt, -⟩ := List.getElem?_eq_some_iff.mp hline
    obtain ⟨hstart, -⟩ := Range.le_lastLineIn hlt
    have hplace := find?_of_getElem? cues
      (show lines[(Range.atLine range.start.line).start.line.toNat]? = some line from hline)
    rw [Range.lastLineIn_atLine hlt] at hplace
    rw [find?_of_getElem? cues hline, hplace, Option.map_some, bodyEnd_of_le cues _ _ hstart]
    rfl

/-- The end of a range extends the block of its start line to the last line that the range covers in
the document. A later end covers no less, and two ends that cover the same give the same block. -/
theorem find?_extends_atLine (cues : Cues) {lines : List String} {range : Range}
    (h : range.start.line.toNat < lines.length) :
    range.lastCoveredLine.toNat =
        (if range.start.line.toNat < range.stop.line.toNat ∧ range.stop.character.toNat = 0 then
          range.stop.line.toNat - 1
        else max range.start.line.toNat range.stop.line.toNat) ∧
      ∃ place bounds, find? cues lines (Range.atLine range.start.line) = some place ∧
        find? cues lines range = some bounds ∧
        bounds.firstLine = place.firstLine ∧ bounds.indent = place.indent ∧
        bounds.lastLine = max place.lastLine
          (min (max range.lastCoveredLine.toNat range.start.line.toNat) (lines.length - 1)) ∧
        ∀ other : Range, other.start.line = range.start.line →
          (other.lastLineIn lines.length = range.lastLineIn lines.length →
            find? cues lines other = find? cues lines range) ∧
          (range.stop.key ≤ other.stop.key →
            ∃ wider, find? cues lines other = some wider ∧
              wider.firstLine = bounds.firstLine ∧ wider.indent = bounds.indent ∧
              bounds.lastLine ≤ wider.lastLine) := by
  refine ⟨range.toNat_lastCoveredLine, ?_⟩
  obtain ⟨place, hplace⟩ := Option.isSome_iff_exists.mp
    (isSome_find?_iff.mpr (show (Range.atLine range.start.line).start.line.toNat < _ from h) :
      (find? cues lines (Range.atLine range.start.line)).isSome = true)
  have hfind := find?_eq_map_extendTo cues lines range
  rw [hplace, Option.map_some] at hfind
  refine ⟨place, _, hplace, hfind, rfl, rfl, rfl, ?_⟩
  intro other hother
  have hwider := find?_eq_map_extendTo cues lines other
  rw [hother, hplace, Option.map_some] at hwider
  constructor
  · intro hcovered
    rw [hwider, hfind, hcovered]
  · intro hstop
    have hle := Range.lastLineIn_mono hother.symm hstop lines.length
    refine ⟨_, hwider, rfl, rfl, ?_⟩
    unfold extendTo
    dsimp only
    omega

/-- A range over two lines of a document of five, and one that ends past the document. -/
theorem find?_extends_atLine_past_end :
    ∃ bounds, find? {} ["a", "b:", "  c", "d", "e"] ⟨⟨1, 3⟩, ⟨4, 0⟩⟩ = some bounds ∧
      bounds = ⟨1, 3, 0⟩ ∧
      ∃ wider, find? {} ["a", "b:", "  c", "d", "e"] ⟨⟨1, 0⟩, ⟨4294967295, 0⟩⟩ = some wider ∧
        wider.firstLine = 1 ∧ bounds.lastLine ≤ wider.lastLine := by
  obtain ⟨-, place, bounds, hplace, hfind, -, -, -, hother⟩ := find?_extends_atLine {}
    (show (⟨⟨1, 3⟩, ⟨4, 0⟩⟩ : Range).start.line.toNat < ["a", "b:", "  c", "d", "e"].length by
      decide)
  obtain ⟨-, hlater⟩ := hother ⟨⟨1, 0⟩, ⟨4294967295, 0⟩⟩ rfl
  obtain ⟨wider, hwider, hfirst, -, hle⟩ := hlater (Position.key_le_iff.mpr (by decide))
  have hbounds : bounds = ⟨1, 3, 0⟩ := Option.some.inj (hfind.symm.trans (by decide))
  refine ⟨bounds, hfind, hbounds, wider, hwider, ?_, hle⟩
  rw [hfirst, hbounds]

end Excerpt
