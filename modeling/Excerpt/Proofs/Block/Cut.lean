import Mathlib.Data.List.DropRight
import Excerpt.Proofs.Block.ScanDown

/-! Documents cut at the head line of a block. Every line of a document is the head of a cut, and
the cut tells the bounds of the block and the lines they take. -/
namespace Excerpt
open Text Bounds

/-- The indent of the block with a given head line. A blank line counts as one at column 0. -/
def indentOf (line : String) : Nat := (column? line).getD 0

theorem indentOf_of_shape? {line : String} {shape : Shape} (h : shape? line = some shape) :
    indentOf line = shape.column := by
  rw [indentOf, (shape?_eq_some_iff.mp h).1]
  rfl

/-- The last line that a range covers in a document of some lines, and no line before its start. -/
def Range.lastLineIn (range : Range) (lineCount : Nat) : Nat :=
  min (max range.lastCoveredLine.toNat range.start.line.toNat) (lineCount - 1)

theorem Range.lastCoveredLine_atLine (line : UInt32) :
    (Range.atLine line).lastCoveredLine = line := by
  have hself : ¬ (line < line ∧ (0 : UInt32) = 0) := fun h => UInt32.lt_irrefl line h.1
  rw [lastCoveredLine, atLine, if_neg hself]
  exact ite_self line

theorem Range.lastLineIn_atLine {line : UInt32} {lineCount : Nat} (h : line.toNat < lineCount) :
    (Range.atLine line).lastLineIn lineCount = line.toNat := by
  rw [lastLineIn, lastCoveredLine_atLine]
  change min (max line.toNat line.toNat) (lineCount - 1) = line.toNat
  omega

theorem Range.le_lastLineIn {range : Range} {lineCount : Nat}
    (h : range.start.line.toNat < lineCount) :
    range.start.line.toNat ≤ range.lastLineIn lineCount ∧
      range.lastLineIn lineCount < lineCount := by
  unfold lastLineIn
  omega

/-- The lines that a block spans, before they are dedented. -/
def Bounds.span (bounds : Bounds) (lines : List String) : List String :=
  (lines.drop bounds.firstLine).take bounds.lineCount

theorem Bounds.slice_eq_map_span (bounds : Bounds) (lines : List String) :
    bounds.slice lines = (bounds.span lines).map (dropColumns bounds.indent) := rfl

theorem find?_of_getElem? (cues : Cues) {lines : List String} {range : Range} {line : String}
    (h : lines[range.start.line.toNat]? = some line) :
    find? cues lines range = some
      ⟨scanUp cues (indentOf line) (lines.map shape?) range.start.line.toNat,
        bodyEnd cues (indentOf line) (lines.map shape?) range.start.line.toNat
          (range.lastLineIn lines.length), indentOf line⟩ := by
  have hindent : ((shape? line).map Shape.column).getD 0 = indentOf line := by
    rw [indentOf, column?_eq_map_shape?]
  have hget : (lines.map shape?)[range.start.line.toNat]? = some (shape? line) := by
    rw [List.getElem?_map, h, Option.map_some]
  rw [find?, ofShapes?, hget]
  dsimp only
  rw [hindent, List.length_map]
  rfl

theorem scanUp_append {cues : Cues} {indent : Nat} {above attached : List (Option Shape)}
    (below : List (Option Shape))
    (hattached : ∀ line ∈ attached, attachable cues indent line = true)
    (habove : ∀ line ∈ above.getLast?, attachable cues indent line = false) :
    scanUp cues indent (above ++ (attached ++ below)) (above.length + attached.length) =
      above.length := by
  have htake : (above ++ (attached ++ below)).take (above.length + attached.length) =
      above ++ attached := by
    rw [← List.append_assoc, ← List.length_append, List.take_left]
  have hrun : above.reverse.takeWhile (attachable cues indent) = [] := by
    cases hr : above.reverse with
    | nil => rfl
    | cons line rest =>
      have hlast : above.getLast? = some line := by
        rw [← List.head?_reverse, hr]
        rfl
      rw [List.takeWhile_cons, habove line hlast]
      rfl
  have hattached' : ∀ line ∈ attached.reverse, attachable cues indent line = true :=
    fun line h => hattached line (List.mem_reverse.mp h)
  rw [scanUp, htake, List.reverse_append, List.takeWhile_append_of_pos hattached', hrun]
  simp

/-- A document cut at the head line of a block: the lines above the block, those attached to the
head, the head, and all lines below it. -/
structure Cut (cues : Cues) where
  above : List String
  attached : List String
  headLine : String
  below : List String
  attachable_of_mem : ∀ line ∈ attached, attachable cues (indentOf headLine) (shape? line) = true
  not_attachable : ∀ line ∈ above.getLast?,
    attachable cues (indentOf headLine) (shape? line) = false

namespace Cut

variable {cues : Cues}

def lines (cut : Cut cues) : List String := cut.above ++ (cut.attached ++ cut.headLine :: cut.below)

/-- The number of the head line. -/
def head (cut : Cut cues) : Nat := cut.above.length + cut.attached.length

def indent (cut : Cut cues) : Nat := indentOf cut.headLine

/-- What the downward scan reads. -/
def shapes (cut : Cut cues) : List (Option Shape) := (cut.headLine :: cut.below).map shape?

/-- The last line of the block, at least `seed`. -/
def lastLine (cut : Cut cues) (seed : Nat) : Nat :=
  scanDown cues cut.indent (isDeclaration cues (shape? cut.headLine)) seed cut.head cut.shapes

def bounds (cut : Cut cues) (seed : Nat) : Bounds :=
  ⟨cut.above.length, cut.lastLine seed, cut.indent⟩

@[simp] theorem bounds_firstLine (cut : Cut cues) (seed : Nat) :
    (cut.bounds seed).firstLine = cut.above.length := rfl

@[simp] theorem bounds_lastLine (cut : Cut cues) (seed : Nat) :
    (cut.bounds seed).lastLine = cut.lastLine seed := rfl

@[simp] theorem bounds_indent (cut : Cut cues) (seed : Nat) :
    (cut.bounds seed).indent = cut.indent := rfl

/-- A list ends in a run of elements that satisfy `p`, as long as there are any. -/
theorem exists_run {α : Type} (p : α → Bool) (front : List α) :
    ∃ above run, front = above ++ run ∧ (∀ a ∈ run, p a = true) ∧
      ∀ a ∈ above.getLast?, p a = false := by
  refine ⟨front.rdropWhile p, front.rtakeWhile p, List.rdropWhile_append_rtakeWhile.symm,
    fun a ha => List.mem_rtakeWhile_imp ha, ?_⟩
  intro a ha
  obtain ⟨hne, rfl⟩ := List.mem_getLast?_eq_getLast ha
  simpa using List.rdropWhile_last_not p front hne

theorem exists_of_lt (cues : Cues) {lines : List String} {head : Nat} (h : head < lines.length) :
    ∃ cut : Cut cues, cut.lines = lines ∧ cut.head = head := by
  obtain ⟨above, attached, hfront, hattached, habove⟩ := exists_run
    (fun line => attachable cues (indentOf lines[head]) (shape? line)) (lines.take head)
  refine ⟨⟨above, attached, lines[head], lines.drop (head + 1), hattached, habove⟩, ?_, ?_⟩
  · change above ++ (attached ++ lines[head] :: lines.drop (head + 1)) = lines
    rw [← List.append_assoc, ← hfront, List.getElem_cons_drop, List.take_append_drop]
  · change above.length + attached.length = head
    rw [← List.length_append, ← hfront, List.length_take_of_le (Nat.le_of_lt h)]

theorem length_lines (cut : Cut cues) : cut.lines.length = cut.head + 1 + cut.below.length := by
  simp only [lines, head, List.length_append, List.length_cons]
  omega

theorem drop_head (cut : Cut cues) : cut.lines.drop cut.head = cut.headLine :: cut.below := by
  rw [lines, head, ← List.append_assoc, ← List.length_append, List.drop_left]

theorem getElem?_head (cut : Cut cues) : cut.lines[cut.head]? = some cut.headLine := by
  rw [← List.head?_drop, cut.drop_head]
  rfl

theorem drop_map_shape? (cut : Cut cues) : (cut.lines.map shape?).drop cut.head = cut.shapes := by
  rw [← List.map_drop, cut.drop_head, shapes]

theorem find?_lines (cut : Cut cues) {range : Range} (hrange : range.start.line.toNat = cut.head) :
    find? cues cut.lines range = some (cut.bounds (range.lastLineIn cut.lines.length)) := by
  have hhead : cut.lines[range.start.line.toNat]? = some cut.headLine := by
    rw [hrange, cut.getElem?_head]
  have hattached : ∀ line ∈ cut.attached.map shape?, attachable cues cut.indent line = true := by
    intro line hline
    obtain ⟨line, hmem, rfl⟩ := List.mem_map.mp hline
    exact cut.attachable_of_mem line hmem
  have habove : ∀ line ∈ (cut.above.map shape?).getLast?,
      attachable cues cut.indent line = false := by
    intro line hline
    rw [List.getLast?_map] at hline
    obtain ⟨line, hmem, rfl⟩ := Option.map_eq_some_iff.mp hline
    exact cut.not_attachable line hmem
  have hup : scanUp cues cut.indent (cut.lines.map shape?) cut.head = cut.above.length := by
    have h := scanUp_append cut.shapes hattached habove
    rw [List.length_map, List.length_map] at h
    rw [lines, List.map_append, List.map_append]
    exact h
  rw [find?_of_getElem? cues hhead, hrange, bodyEnd, cut.drop_map_shape?]
  change some (Bounds.mk (scanUp cues cut.indent _ _) _ _) = _
  rw [hup]
  rfl

theorem find?_atLine (cut : Cut cues) {line : UInt32} (hline : line.toNat = cut.head) :
    find? cues cut.lines (Range.atLine line) = some (cut.bounds cut.head) := by
  have hlt : line.toNat < cut.lines.length := by
    rw [cut.length_lines]
    omega
  have hfind := cut.find?_lines (show (Range.atLine line).start.line.toNat = cut.head from hline)
  rw [Range.lastLineIn_atLine hlt, hline] at hfind
  exact hfind

theorem le_lastLine (cut : Cut cues) (seed : Nat) : seed ≤ cut.lastLine seed :=
  le_scanDown cues _ _ seed _ _

theorem lastLine_lt (cut : Cut cues) {seed : Nat} (h : seed < cut.lines.length) :
    cut.lastLine seed < cut.lines.length := by
  have hlength : cut.shapes.length = 1 + cut.below.length := by
    rw [shapes, List.length_map, List.length_cons, Nat.add_comm]
  rcases scanDown_eq_or_lt cues cut.indent (isDeclaration cues (shape? cut.headLine)) seed cut.head
    cut.shapes with heq | ⟨-, hlt⟩
  · rw [lastLine, heq]
    exact h
  · rw [cut.length_lines, lastLine]
    omega

theorem span_bounds (cut : Cut cues) {seed : Nat} (h : cut.head ≤ seed) :
    (cut.bounds seed).span cut.lines =
      cut.attached ++ cut.headLine :: cut.below.take (cut.lastLine seed - cut.head) := by
  have hle := cut.le_lastLine seed
  have hcount : (cut.bounds seed).lineCount =
      cut.attached.length + (cut.lastLine seed - cut.head + 1) := by
    rw [lineCount, bounds_lastLine, bounds_firstLine]
    rw [head] at h ⊢
    omega
  rw [span, hcount, bounds_firstLine, lines, List.drop_left, List.take_length_add_append,
    List.take_succ_cons]

theorem indentedBy_of_mem_attached (cut : Cut cues) {line : String} (h : line ∈ cut.attached) :
    IndentedBy cut.indent line := by
  apply indentedBy_of_shape?
  intro shape hshape
  have hattachable := cut.attachable_of_mem line h
  rw [hshape, attachable, Bool.and_eq_true, decide_eq_true_eq] at hattachable
  exact hattachable.1

theorem indentedBy_headLine (cut : Cut cues) : IndentedBy cut.indent cut.headLine := by
  apply indentedBy_of_shape?
  intro shape hshape
  rw [indent, indentOf_of_shape? hshape]

/-- The scan takes no line that is less indented than the head, as long as it ends the block. -/
theorem indentedBy_of_mem_below (cut : Cut cues) {seed : Nat} (hseed : seed < cut.lastLine seed)
    {line : String} (h : line ∈ cut.below.take (cut.lastLine seed - cut.head)) :
    IndentedBy cut.indent line := by
  apply indentedBy_of_shape?
  intro shape hshape
  obtain ⟨i, hi, rfl⟩ := List.mem_take_iff_getElem.mp h
  have hget : cut.shapes[i + 1]? = some (some shape) := by
    rw [shapes, List.map_cons, List.getElem?_cons_succ, List.getElem?_map,
      List.getElem?_eq_getElem (by omega), Option.map_some, hshape]
  exact indent_le_column_of_le_scanDown hseed (by rw [lastLine] at hi; omega) hget

end Cut

end Excerpt
