import Excerpt.Proofs.Anchor.Arguments
import Excerpt.Proofs.Block.RangeEnd

/-! The lines that an anchor as typed stands for. Lines are typed from 1 on with both ends, and
ranges run from 0 on with the end left out; on the way from the one to the other no number leaves
32 bits. -/
namespace Excerpt
open Bounds

namespace Checked

/-- The difference of two numbers, none below zero. -/
def sub? (m n : UInt32) : Option UInt32 := if n ≤ m then some (m - n) else none

/-- The sum of two numbers, none past 32 bits. -/
def add? (m n : UInt32) : Option UInt32 :=
  if m.toNat + n.toNat < UInt32.size then some (m + n) else none

def lines? (first last : UInt32) : Option Range := do
  return ⟨⟨first, 0⟩, ⟨← add? (max last first) 1, 0⟩⟩

/-- The range of the lines typed, with every difference and sum on the way checked. -/
def range? (argument : AnchorArgument) : Option Range := do
  let first ← sub? argument.first 1
  match argument.last with
  | some last => lines? first (← sub? last 1)
  | none => return .atLine first

theorem lines?_eq {first last : UInt32} (h : (max last first).toNat + 1 < UInt32.size) :
    lines? first last = some (.lines first last) := by
  have hstop : add? (max last first) 1 = some (max last first + 1) := if_pos h
  unfold lines?
  rw [hstop]
  rfl

end Checked

namespace AnchorArgument

/-- The last line typed: the first one where there is no other. -/
def finalLine (argument : AnchorArgument) : UInt32 := argument.last.getD argument.first

theorem Grammar.one_le_first {text : List Char} {argument : AnchorArgument}
    (h : Grammar text argument) : 1 ≤ argument.first := by
  cases h with
  | line _ _ _ hfirst => exact hfirst.2
  | lines _ _ _ hfirst _ _ => exact hfirst.2

theorem Grammar.first_le_finalLine {text : List Char} {argument : AnchorArgument}
    (h : Grammar text argument) : argument.first ≤ argument.finalLine := by
  cases h with
  | line _ _ _ _ => exact UInt32.le_refl _
  | lines _ _ _ _ _ hle => exact hle

theorem start_range (argument : AnchorArgument) :
    argument.range.start = ⟨argument.first - 1, 0⟩ := by
  unfold range
  split <;> rfl

section Typed

variable {argument : AnchorArgument} (hfirst : 1 ≤ argument.first)
  (hle : argument.first ≤ argument.finalLine)

include hfirst

theorem toNat_start_range : argument.range.start.line.toNat + 1 = argument.first.toNat := by
  have hpos : 1 ≤ argument.first.toNat := UInt32.le_iff_toNat_le.mp hfirst
  rw [start_range, UInt32.toNat_sub_of_le _ _ hfirst]
  exact Nat.sub_add_cancel hpos

include hle

theorem one_le_last {last : UInt32} (h : argument.last = some last) : 1 ≤ last := by
  rw [finalLine, h] at hle
  exact UInt32.le_trans hfirst hle

/-- The end that is left out, counted from 0, is the last line typed, counted from 1. -/
theorem toNat_max_add_one {last : UInt32} (h : argument.last = some last) :
    (max (last - 1) (argument.first - 1)).toNat + 1 = last.toNat := by
  have hlast := one_le_last hfirst hle h
  have hpos : 1 ≤ last.toNat := UInt32.le_iff_toNat_le.mp hlast
  have horder : argument.first.toNat ≤ last.toNat := by
    rw [finalLine, h] at hle
    exact UInt32.le_iff_toNat_le.mp hle
  rw [UInt32.toNat_max, UInt32.toNat_sub_of_le _ _ hlast, UInt32.toNat_sub_of_le _ _ hfirst]
  change max (last.toNat - 1) (argument.first.toNat - 1) + 1 = last.toNat
  omega

theorem checkedRange?_eq : Checked.range? argument = some argument.range := by
  have hstart : Checked.sub? argument.first 1 = some (argument.first - 1) := if_pos hfirst
  unfold Checked.range? range
  rw [hstart]
  cases hlast : argument.last with
  | none => rfl
  | some last =>
    have hnext := toNat_max_add_one hfirst hle hlast
    have hsize : last.toNat < UInt32.size := last.toNat_lt
    have hlast' : Checked.sub? last 1 = some (last - 1) := if_pos (one_le_last hfirst hle hlast)
    change (Checked.sub? last 1 >>= _) = _
    rw [hlast']
    exact Checked.lines?_eq (by omega)

theorem toNat_lastCoveredLine_range :
    argument.range.lastCoveredLine.toNat + 1 = argument.finalLine.toNat := by
  have hstart := toNat_start_range hfirst
  rw [start_range] at hstart
  unfold range finalLine
  cases hlast : argument.last with
  | none =>
    dsimp only
    rw [Range.lastCoveredLine_atLine, Option.getD_none]
    exact hstart
  | some last =>
    have hnext := toNat_max_add_one hfirst hle hlast
    have hsize : last.toNat < UInt32.size := last.toNat_lt
    dsimp only
    rw [Range.lastCoveredLine_lines (by omega), hnext, Option.getD_some]

/-- The bounds of a typed range hold every typed line that the document has. -/
theorem exists_find?_range (cues : Cues) {lines : List String}
    (hlines : argument.first.toNat ≤ lines.length) :
    ∃ bounds, find? cues lines argument.range = some bounds ∧
      ∀ n, argument.first.toNat ≤ n + 1 → n < min argument.finalLine.toNat lines.length →
        bounds.firstLine ≤ n ∧ n ≤ bounds.lastLine := by
  have hstart := toNat_start_range hfirst
  have hcovered := toNat_lastCoveredLine_range hfirst hle
  have hlt : argument.range.start.line.toNat < lines.length := by omega
  obtain ⟨bounds, hfind⟩ := Option.isSome_iff_exists.mp
    (isSome_find?_iff.mpr hlt : (find? cues lines argument.range).isSome = true)
  have hcovers := covers_of_find? hfind
  have hlow := hcovers.firstLine_le_start
  have hhigh := hcovers.lastLineIn_le_lastLine
  refine ⟨bounds, hfind, ?_⟩
  intro n hn hlast
  unfold Range.lastLineIn at hhigh
  omega

end Typed

/-- An argument that is read stands for the lines that were typed: its range starts on the first of
them and covers them up to the last. The text cut out for it is made of whole dedented lines, those
typed lines among them that the document has; where the document ends before the first, it is
empty. -/
theorem extract_range_of_parse {text : String} {argument : AnchorArgument}
    (h : parse text = .ok argument) :
    Checked.range? argument = some argument.range ∧
      argument.range.start.line.toNat + 1 = argument.first.toNat ∧
      argument.range.start.character = 0 ∧
      argument.range.lastCoveredLine.toNat + 1 = argument.finalLine.toNat ∧
      ∀ (cues : Cues) (document : Document),
        (argument.first.toNat ≤ document.lines.length →
          (Block.extract cues document argument.range).isEmpty = false ∧
          ∃ bounds, find? cues document.lines argument.range = some bounds ∧
            (Block.extract cues document argument.range).text = bounds.text document.lines ∧
            (Block.extract cues document argument.range).text =
              String.intercalate "\n" (bounds.slice document.lines) ++ "\n" ∧
            (document.lines.length ≤ UInt32.size →
              (Block.extract cues document argument.range).firstLine.toNat = bounds.firstLine ∧
              (Block.extract cues document argument.range).lastLine.toNat = bounds.lastLine) ∧
            ∀ n, argument.first.toNat ≤ n + 1 →
              n < min argument.finalLine.toNat document.lines.length →
              bounds.firstLine ≤ n ∧ n ≤ bounds.lastLine ∧
              (bounds.slice document.lines)[n - bounds.firstLine]? =
                document.lines[n]?.map (Text.dropColumns bounds.indent)) ∧
        (document.lines.length < argument.first.toNat →
          Block.extract cues document argument.range = { url := document.url } ∧
          (Block.extract cues document argument.range).isEmpty = true) := by
  have hgrammar := parse_eq_ok_iff.mp h
  have hfirst := hgrammar.one_le_first
  have hle := hgrammar.first_le_finalLine
  have hstart := toNat_start_range hfirst
  refine ⟨checkedRange?_eq hfirst hle, hstart, by rw [start_range],
    toNat_lastCoveredLine_range hfirst hle, ?_⟩
  intro cues document
  constructor
  · intro hlines
    have hnonempty : (Block.extract cues document argument.range).isEmpty = false :=
      Block.isEmpty_extract_eq_false_iff.mpr (by omega)
    obtain ⟨bounds, hfind, hholds⟩ := exists_find?_range hfirst hle cues hlines
    have htext : (Block.extract cues document argument.range).text =
        bounds.text document.lines := by
      rw [Block.extract_eq hfind]
    have hslice : bounds.text document.lines =
        String.intercalate "\n" (bounds.slice document.lines) ++ "\n" := rfl
    refine ⟨hnonempty, bounds, hfind, htext, htext.trans hslice,
      fun hcount => Block.toNat_lines_extract hfind hcount, ?_⟩
    intro n hn hlast
    obtain ⟨hlow, hhigh⟩ := hholds n hn hlast
    exact ⟨hlow, hhigh, getElem?_slice document.lines hlow hhigh⟩
  · intro hlines
    have hnone : find? cues document.lines argument.range = none :=
      find?_eq_none_iff.mpr (by omega)
    have hempty : Block.extract cues document argument.range = { url := document.url } := by
      rw [Block.extract, hnone]
    exact ⟨hempty, by rw [hempty]; rfl⟩

/-- The last line that can be typed; and lines of which a document has the first two, or none. -/
theorem extract_range_of_parse_limit :
    (∃ argument, parse "4294967295-4294967295" = .ok argument ∧
      Checked.range? argument = some argument.range ∧
      argument.range.lastCoveredLine.toNat + 1 = 4294967295) ∧
    ∃ argument, parse "f:2-9" = .ok argument ∧
      (∃ bounds, find? {} ["a", "  b", "    c"] argument.range = some bounds ∧
        bounds.firstLine ≤ 2 ∧ 2 ≤ bounds.lastLine ∧
        (bounds.slice ["a", "  b", "    c"])[2 - bounds.firstLine]? =
          some (Text.dropColumns bounds.indent "    c")) ∧
      (Block.extract {} ⟨⟨"file", none, .bare "f", none, none⟩, "", ["a", "  b", "    c"]⟩
        argument.range).text = "b\n  c\n" ∧
      (Block.extract {} ⟨⟨"file", none, .bare "f", none, none⟩, "", ["a"]⟩
        argument.range).isEmpty = true := by
  constructor
  · have hparse : parse "4294967295-4294967295" = .ok ⟨none, 4294967295, some 4294967295⟩ := by
      decide
    obtain ⟨hrange, -, -, hcovered, -⟩ := extract_range_of_parse hparse
    exact ⟨_, hparse, hrange, hcovered⟩
  · have hparse : parse "f:2-9" = .ok ⟨some "f", 2, some 9⟩ := by decide
    obtain ⟨-, -, -, -, hblocks⟩ := extract_range_of_parse hparse
    obtain ⟨hholds, -⟩ := hblocks {}
      ⟨⟨"file", none, .bare "f", none, none⟩, "", ["a", "  b", "    c"]⟩
    obtain ⟨-, hshort⟩ := hblocks {} ⟨⟨"file", none, .bare "f", none, none⟩, "", ["a"]⟩
    obtain ⟨-, bounds, hfind, -, htext, -, hlines⟩ := hholds (by decide)
    obtain ⟨hlow, hhigh, hline⟩ := hlines 2 (by decide) (by decide)
    refine ⟨_, hparse, ⟨bounds, hfind, hlow, hhigh, hline⟩, ?_, (hshort (by decide)).2⟩
    have hbounds : find? {} ["a", "  b", "    c"] (AnchorArgument.range ⟨some "f", 2, some 9⟩) =
        some ⟨1, 2, 2⟩ := by decide
    obtain rfl := Option.some.inj (hbounds.symm.trans hfind)
    rw [htext]
    decide

end AnchorArgument

end Excerpt
