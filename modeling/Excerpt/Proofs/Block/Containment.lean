import Excerpt.Block
import Excerpt.Proofs.Block.Checked

/-! Where blocks lie. Whatever the range, a block holds the line at which the range starts and all
that it covers of the document, and no line past the end of the document. -/
namespace Excerpt
open Text Bounds

/-- Bounds that hold what a range covers of a document of some lines. -/
structure Bounds.Covers (bounds : Bounds) (range : Range) (lineCount : Nat) : Prop where
  firstLine_le_start : bounds.firstLine ≤ range.start.line.toNat
  start_le_lastLineIn : range.start.line.toNat ≤ range.lastLineIn lineCount
  lastLineIn_le_lastLine : range.lastLineIn lineCount ≤ bounds.lastLine
  lastLine_lt : bounds.lastLine < lineCount

theorem find?_eq_none_iff {cues : Cues} {lines : List String} {range : Range} :
    find? cues lines range = none ↔ lines.length ≤ range.start.line.toNat := by
  constructor
  · intro h
    by_contra hlt
    rw [find?_of_getElem? cues (List.getElem?_eq_getElem (by omega))] at h
    cases h
  · intro h
    rw [find?, ofShapes?, List.getElem?_map, List.getElem?_eq_none h]
    rfl

theorem isSome_find?_iff {cues : Cues} {lines : List String} {range : Range} :
    (find? cues lines range).isSome = true ↔ range.start.line.toNat < lines.length := by
  rw [← Option.ne_none_iff_isSome, ne_eq, find?_eq_none_iff, Nat.not_le]

theorem covers_of_find? {cues : Cues} {lines : List String} {range : Range} {bounds : Bounds}
    (h : find? cues lines range = some bounds) : bounds.Covers range lines.length := by
  have hlt : range.start.line.toNat < lines.length := isSome_find?_iff.mp (by rw [h]; rfl)
  obtain ⟨hstart, hcovered⟩ := Range.le_lastLineIn hlt
  obtain ⟨cut, rfl, hhead⟩ := Cut.exists_of_lt cues hlt
  obtain rfl : cut.bounds (range.lastLineIn cut.lines.length) = bounds :=
    Option.some.inj ((cut.find?_lines hhead.symm).symm.trans h)
  refine ⟨?_, hstart, cut.le_lastLine _, cut.lastLine_lt hcovered⟩
  rw [Cut.bounds_firstLine, ← hhead, Cut.head]
  exact Nat.le_add_right _ _

theorem indent_lt_of_find? {cues : Cues} {lines : List String} {range : Range} {bounds : Bounds}
    {n : Nat} (h : find? cues lines range = some bounds)
    (hlines : ∀ line ∈ lines, line.length < n) : bounds.indent < n := by
  have hlt : range.start.line.toNat < lines.length := isSome_find?_iff.mp (by rw [h]; rfl)
  have hline := List.getElem?_eq_getElem hlt
  have hlength := hlines _ (List.getElem_mem hlt)
  obtain rfl := Option.some.inj ((find?_of_getElem? cues hline).symm.trans h)
  change indentOf lines[range.start.line.toNat] < n
  cases hcolumn : column? lines[range.start.line.toNat] with
  | none =>
    rw [indentOf, hcolumn]
    exact Nat.lt_of_le_of_lt (Nat.zero_le _) hlength
  | some column =>
    obtain ⟨hcolumn', -⟩ := List.findIdx?_eq_some_iff_getElem.mp hcolumn
    rw [String.length_toList] at hcolumn'
    rw [indentOf, hcolumn]
    exact Nat.lt_trans hcolumn' hlength

theorem count_newline_intercalate {lines : List String} (hne : lines ≠ [])
    (hnewline : ∀ line ∈ lines, '\n' ∉ line.toList) :
    (String.intercalate "\n" lines ++ "\n").toList.count '\n' = lines.length := by
  induction lines with
  | nil => exact absurd rfl hne
  | cons line lines ih =>
    have hline : line.toList.count '\n' = 0 :=
      List.count_eq_zero_of_not_mem (hnewline line List.mem_cons_self)
    cases lines with
    | nil => simp [hline]
    | cons next lines =>
      have hbelow := ih (List.cons_ne_nil next lines)
        fun line hmem => hnewline line (List.mem_cons_of_mem _ hmem)
      rw [String.intercalate_cons_cons, String.append_assoc, String.toList_append,
        List.count_append, hbelow, String.toList_append, List.count_append, hline]
      change 0 + 1 + (next :: lines).length = (next :: lines).length + 1
      omega

namespace Bounds

theorem getElem?_slice {bounds : Bounds} (lines : List String) {n : Nat}
    (hfirst : bounds.firstLine ≤ n) (hlast : n ≤ bounds.lastLine) :
    (bounds.slice lines)[n - bounds.firstLine]? = lines[n]?.map (dropColumns bounds.indent) := by
  have hlt : n - bounds.firstLine < bounds.lineCount := by
    unfold lineCount
    omega
  have hline : bounds.firstLine + (n - bounds.firstLine) = n := by omega
  unfold slice
  rw [List.getElem?_map, List.getElem?_take_of_lt hlt, List.getElem?_drop, hline]

theorem getLast?_text (bounds : Bounds) (lines : List String) :
    (bounds.text lines).toList.getLast? = some '\n' := by
  rw [text, String.toList_append, List.getLast?_append]
  rfl

theorem isEmpty_text (bounds : Bounds) (lines : List String) :
    (bounds.text lines).isEmpty = false := by
  rw [Bool.eq_false_iff, ne_eq, String.isEmpty_iff]
  intro hempty
  have hlast := bounds.getLast?_text lines
  rw [hempty] at hlast
  cases hlast

namespace Covers

variable {bounds : Bounds} {range : Range}

theorem firstLine_le_lastLine {lineCount : Nat} (h : bounds.Covers range lineCount) :
    bounds.firstLine ≤ bounds.lastLine :=
  Nat.le_trans h.firstLine_le_start (Nat.le_trans h.start_le_lastLineIn h.lastLineIn_le_lastLine)

theorem length_slice {lines : List String} (h : bounds.Covers range lines.length) :
    (bounds.slice lines).length = bounds.lineCount := by
  have hle := h.firstLine_le_lastLine
  have hlt := h.lastLine_lt
  rw [slice, List.length_map, List.length_take, List.length_drop, lineCount]
  omega

theorem count_newline_text {lines : List String} (h : bounds.Covers range lines.length)
    (hnewline : ∀ line ∈ lines, '\n' ∉ line.toList) :
    (bounds.text lines).toList.count '\n' = bounds.lineCount := by
  have hlength := h.length_slice
  have hne : bounds.slice lines ≠ [] := by
    intro hnil
    rw [hnil, lineCount] at hlength
    simp at hlength
  rw [text, count_newline_intercalate hne, hlength]
  intro line hline
  obtain ⟨line, hmem, rfl⟩ := List.mem_map.mp hline
  rw [toList_dropColumns]
  intro hc
  exact hnewline line (List.mem_of_mem_drop (List.mem_of_mem_take hmem)) (List.mem_of_mem_drop hc)

end Covers

end Bounds

namespace Block

variable {cues : Cues} {document : Document} {range : Range}

theorem isEmpty_extract_eq_false_iff :
    (extract cues document range).isEmpty = false ↔
      range.start.line.toNat < document.lines.length := by
  have hiff : (find? cues document.lines range).isSome = true ↔ _ := isSome_find?_iff
  rw [← hiff]
  unfold extract
  cases find? cues document.lines range with
  | none => simp [isEmpty]
  | some bounds => simp [isEmpty, isEmpty_text]

theorem extract_eq {bounds : Bounds} (h : find? cues document.lines range = some bounds) :
    extract cues document range =
      ⟨document.url, bounds.firstLine.toUInt32, bounds.lastLine.toUInt32, bounds.indent.toUInt32,
        bounds.text document.lines⟩ := by
  rw [extract, h]

theorem toNat_lines_extract {bounds : Bounds} (h : find? cues document.lines range = some bounds)
    (hcount : document.lines.length ≤ UInt32.size) :
    (extract cues document range).firstLine.toNat = bounds.firstLine ∧
      (extract cues document range).lastLine.toNat = bounds.lastLine := by
  have hcovers := covers_of_find? h
  have hle := hcovers.firstLine_le_lastLine
  have hlt := hcovers.lastLine_lt
  rw [extract_eq h]
  constructor
  · exact UInt32.toNat_ofNat_of_lt' (by omega)
  · exact UInt32.toNat_ofNat_of_lt' (by omega)

/-- The numbers of a block of a document that 32 bits can count are those of its bounds. -/
theorem toNat_extract {bounds : Bounds} (h : find? cues document.lines range = some bounds)
    (hcount : document.lines.length ≤ UInt32.size)
    (hlength : ∀ line ∈ document.lines, line.length < UInt32.size) :
    (extract cues document range).firstLine.toNat = bounds.firstLine ∧
      (extract cues document range).lastLine.toNat = bounds.lastLine ∧
      (extract cues document range).indent.toNat = bounds.indent := by
  obtain ⟨hfirst, hlast⟩ := toNat_lines_extract h hcount
  refine ⟨hfirst, hlast, ?_⟩
  rw [extract_eq h]
  exact UInt32.toNat_ofNat_of_lt' (indent_lt_of_find? h hlength)

end Block

/-- The search finds a block exactly for a range that starts in the document. The block lies in the
document and holds what the range covers, so that nothing on the way to its text is out of range. -/
theorem find?_covers (cues : Cues) (lines : List String) (range : Range) :
    Checked.find cues lines range = .ok (find? cues lines range) ∧
      ((find? cues lines range).isSome = true ↔ range.start.line.toNat < lines.length) ∧
      (∀ bounds, find? cues lines range = some bounds →
        bounds.Covers range lines.length ∧
        Checked.lineCount bounds = .ok bounds.lineCount ∧
        Checked.text bounds lines = .ok (bounds.text lines) ∧
        (bounds.text lines).toList.getLast? = some '\n' ∧
        ((∀ line ∈ lines, '\n' ∉ line.toList) →
          (bounds.text lines).toList.count '\n' = bounds.lineCount)) ∧
      ∀ document : Document, document.lines = lines → lines.length ≤ UInt32.size →
        (∀ line ∈ lines, line.length < UInt32.size) →
        ((Block.extract cues document range).isEmpty = false ↔
          range.start.line.toNat < lines.length) ∧
        ∀ bounds, find? cues lines range = some bounds →
          (Block.extract cues document range).firstLine.toNat = bounds.firstLine ∧
          (Block.extract cues document range).lastLine.toNat = bounds.lastLine ∧
          (Block.extract cues document range).indent.toNat = bounds.indent := by
  refine ⟨Checked.find_eq cues lines range, isSome_find?_iff, ?_, ?_⟩
  · intro bounds hfind
    have hcovers := covers_of_find? hfind
    have hle := hcovers.firstLine_le_lastLine
    exact ⟨hcovers, Checked.lineCount_eq hle, Checked.text_eq hle hcovers.lastLine_lt,
      bounds.getLast?_text lines, hcovers.count_newline_text⟩
  · rintro document rfl hcount hlength
    exact ⟨Block.isEmpty_extract_eq_false_iff,
      fun bounds hfind => Block.toNat_extract hfind hcount hlength⟩

/-- A range that ends far past its document. -/
theorem find?_covers_past_end :
    find? {} ["a:", "  b", "c"] ⟨⟨1, 7⟩, ⟨4294967295, 0⟩⟩ = some ⟨1, 2, 2⟩ ∧
      (⟨1, 2, 2⟩ : Bounds).Covers ⟨⟨1, 7⟩, ⟨4294967295, 0⟩⟩ 3 ∧
      ((⟨1, 2, 2⟩ : Bounds).text ["a:", "  b", "c"]).toList.count '\n' = 2 ∧
      (Block.extract {} ⟨⟨"file", none, .bare "f", none, none⟩, "", ["a:", "  b", "c"]⟩
        ⟨⟨1, 7⟩, ⟨4294967295, 0⟩⟩).lastLine.toNat = 2 := by
  obtain ⟨-, -, hbounds, hextract⟩ := find?_covers {} ["a:", "  b", "c"]
    ⟨⟨1, 7⟩, ⟨4294967295, 0⟩⟩
  have hfind : find? {} ["a:", "  b", "c"] ⟨⟨1, 7⟩, ⟨4294967295, 0⟩⟩ = some ⟨1, 2, 2⟩ := by decide
  obtain ⟨hcovers, -, -, -, hcount⟩ := hbounds _ hfind
  obtain ⟨-, hblock⟩ := hextract ⟨⟨"file", none, .bare "f", none, none⟩, "", ["a:", "  b", "c"]⟩
    rfl (by decide) (by decide)
  exact ⟨hfind, hcovers, hcount (by decide), (hblock _ hfind).2.1⟩

end Excerpt
