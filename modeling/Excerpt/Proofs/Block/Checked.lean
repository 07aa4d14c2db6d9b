import Excerpt.Proofs.Block.Cut

/-! The search for a block with every look-up, difference, clamp and slice checked. None of them is
ever out of range, and the checked search finds what the plain one does. -/
namespace Excerpt
open Text Bounds

/-- An operation that has no result on its operands. -/
inductive Fault where
  | index
  | difference
  | clamp
  | slice
  deriving Repr, DecidableEq

theorem Bounds.scanUp_succ (cues : Cues) (indent : Nat) {shapes : List (Option Shape)} {n : Nat}
    {line : Option Shape} (h : shapes[n]? = some line) :
    scanUp cues indent shapes (n + 1) =
      if attachable cues indent line then scanUp cues indent shapes n else n + 1 := by
  have htake : (shapes.take (n + 1)).reverse = line :: (shapes.take n).reverse := by
    rw [List.take_add_one, h, List.reverse_append]
    rfl
  rw [scanUp, htake, scanUp]
  by_cases hline : attachable cues indent line = true
  · rw [List.takeWhile_cons_of_pos hline, if_pos hline, List.length_cons]
    omega
  · rw [List.takeWhile_cons_of_neg hline, if_neg hline]
    rfl

namespace Checked

def index (lines : List String) (n : Nat) : Except Fault String :=
  match lines[n]? with
  | some line => .ok line
  | none => .error .index

def difference (m n : Nat) : Except Fault Nat :=
  if n ≤ m then .ok (m - n) else .error .difference

/-- The number nearest to `n` from `low` to `high`. -/
def clamp (n low high : Nat) : Except Fault Nat :=
  if low ≤ high then .ok (min (max n low) high) else .error .clamp

/-- The lines from `first` to `last`, both included. -/
def slice (lines : List String) (first last : Nat) : Except Fault (List String) :=
  if first ≤ last + 1 ∧ last < lines.length then .ok ((lines.drop first).take (last + 1 - first))
  else .error .slice

def lastCoveredLine (range : Range) : Except Fault Nat :=
  if range.start.line < range.stop.line ∧ range.stop.character = 0 then
    difference range.stop.line.toNat 1
  else .ok (max range.stop.line range.start.line).toNat

/-- The upward scan of the lines above `n`, where `first` is the first attached line so far. -/
def scanUp (cues : Cues) (indent : Nat) (lines : List String) :
    (n first : Nat) → Except Fault Nat
  | 0, first => .ok first
  | n + 1, first => do
    let line ← index lines n
    if attachable cues indent (shape? line) then scanUp cues indent lines n n else .ok first

def bodyEnd (cues : Cues) (indent : Nat) (lines : List String) (head seed : Nat) :
    Except Fault Nat := do
  let headLine ← index lines head
  return scanDown cues indent (isDeclaration cues (shape? headLine)) seed head
    ((lines.drop head).map shape?)

def find (cues : Cues) (lines : List String) (range : Range) : Except Fault (Option Bounds) :=
  let head := range.start.line.toNat
  match lines[head]? with
  | none => .ok none
  | some headLine => do
    let firstLine ← scanUp cues (indentOf headLine) lines head head
    let covered ← lastCoveredLine range
    let final ← difference lines.length 1
    let seed ← clamp covered head final
    let lastLine ← bodyEnd cues (indentOf headLine) lines head seed
    return some ⟨firstLine, lastLine, indentOf headLine⟩

def lineCount (bounds : Bounds) : Except Fault Nat := do
  return (← difference bounds.lastLine bounds.firstLine) + 1

def text (bounds : Bounds) (lines : List String) : Except Fault String := do
  let span ← slice lines bounds.firstLine bounds.lastLine
  return String.intercalate "\n" (span.map (dropColumns bounds.indent)) ++ "\n"

theorem index_of_getElem? {lines : List String} {n : Nat} {line : String}
    (h : lines[n]? = some line) : index lines n = .ok line := by
  rw [index, h]

theorem lastCoveredLine_eq (range : Range) :
    lastCoveredLine range = .ok range.lastCoveredLine.toNat := by
  unfold lastCoveredLine Range.lastCoveredLine
  split
  · rename_i hlater
    have hlt : range.start.line.toNat < range.stop.line.toNat := UInt32.lt_iff_toNat_lt.mp hlater.1
    have hone : 1 ≤ range.stop.line.toNat := by omega
    rw [difference, if_pos hone, UInt32.toNat_sub_of_le _ 1 (UInt32.le_iff_toNat_le.mpr hone)]
    rfl
  · rfl

theorem scanUp_eq (cues : Cues) (indent : Nat) {lines : List String} {n : Nat}
    (h : n ≤ lines.length) :
    scanUp cues indent lines n n = .ok (Bounds.scanUp cues indent (lines.map shape?) n) := by
  induction n with
  | zero => simp [scanUp, Bounds.scanUp]
  | succ n ih =>
    have hline : lines[n]? = some lines[n] := List.getElem?_eq_getElem (by omega)
    have hshape : (lines.map shape?)[n]? = some (shape? lines[n]) := by
      rw [List.getElem?_map, hline, Option.map_some]
    rw [scanUp, index_of_getElem? hline, scanUp_succ cues indent hshape]
    change (if _ then _ else _) = _
    split
    · exact ih (by omega)
    · rfl

theorem bodyEnd_eq (cues : Cues) (indent : Nat) {lines : List String} {head : Nat} (seed : Nat)
    (h : head < lines.length) :
    bodyEnd cues indent lines head seed =
      .ok (Bounds.bodyEnd cues indent (lines.map shape?) head seed) := by
  have hline : lines[head]? = some lines[head] := List.getElem?_eq_getElem h
  rw [bodyEnd, index_of_getElem? hline, Bounds.bodyEnd, ← List.map_drop, List.head?_map,
    List.head?_drop, hline]
  rfl

theorem find_eq (cues : Cues) (lines : List String) (range : Range) :
    find cues lines range = .ok (find? cues lines range) := by
  cases hline : lines[range.start.line.toNat]? with
  | none =>
    rw [find, hline, find?, ofShapes?, List.getElem?_map, hline]
    rfl
  | some headLine =>
    obtain ⟨hlt, -⟩ := List.getElem?_eq_some_iff.mp hline
    have hfinal : difference lines.length 1 = .ok (lines.length - 1) := if_pos (by omega)
    have hseed : clamp range.lastCoveredLine.toNat range.start.line.toNat (lines.length - 1) =
        .ok (range.lastLineIn lines.length) := if_pos (by omega)
    rw [find?_of_getElem? cues hline, find, hline]
    dsimp only
    rw [scanUp_eq cues _ (Nat.le_of_lt hlt), lastCoveredLine_eq, hfinal]
    change (clamp _ _ _ >>= _) = _
    rw [hseed]
    change (bodyEnd _ _ _ _ _ >>= _) = _
    rw [bodyEnd_eq cues _ _ hlt]
    rfl

theorem lineCount_eq {bounds : Bounds} (h : bounds.firstLine ≤ bounds.lastLine) :
    lineCount bounds = .ok bounds.lineCount := by
  rw [lineCount, difference, if_pos h]
  rfl

theorem text_eq {bounds : Bounds} {lines : List String} (h : bounds.firstLine ≤ bounds.lastLine)
    (hlast : bounds.lastLine < lines.length) : text bounds lines = .ok (bounds.text lines) := by
  have hcount : bounds.lastLine + 1 - bounds.firstLine = bounds.lineCount := by
    rw [Bounds.lineCount]
    omega
  rw [text, slice, if_pos ⟨by omega, hlast⟩, hcount]
  rfl

end Checked

end Excerpt
