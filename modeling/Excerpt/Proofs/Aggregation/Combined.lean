import Excerpt.Proofs.Aggregation.Passage
import Excerpt.Proofs.Document
import Excerpt.Report.Format

/-! The text of an aggregation: the dedented lines of its passages, each passage followed by an
empty line but the last, and a newline at the end. Plain markup and plain output are that text. -/
namespace Excerpt
open Text Bounds

theorem Text.intercalate_map_intercalate {sep : String} {parts : List (List String)}
    (h : ∀ part ∈ parts, part ≠ []) :
    String.intercalate sep (parts.map (String.intercalate sep)) =
      String.intercalate sep parts.flatten := by
  induction parts with
  | nil => simp
  | cons part parts ih =>
    have hpart := h part List.mem_cons_self
    cases parts with
    | nil => simp
    | cons next parts =>
      have hrest := ih fun part hmem => h part (List.mem_cons_of_mem _ hmem)
      have hne : (next :: parts).flatten ≠ [] := by
        have hnext := h next (by simp)
        simp [hnext]
      calc String.intercalate sep ((part :: next :: parts).map (String.intercalate sep))
          = String.intercalate sep part ++ sep ++
              String.intercalate sep ((next :: parts).map (String.intercalate sep)) :=
            String.intercalate_cons_cons
        _ = String.intercalate sep (part ++ (next :: parts).flatten) := by
            rw [hrest, String.intercalate_append_of_ne_nil hpart hne]

theorem Text.getLast?_intercalate {texts : List String} (hne : texts ≠ [])
    (h : ∀ text ∈ texts, text.toList.getLast? = some '\n') :
    (String.intercalate "\n" texts).toList.getLast? = some '\n' := by
  induction texts with
  | nil => exact absurd rfl hne
  | cons text texts ih =>
    cases texts with
    | nil => simpa using h
    | cons next texts =>
      have hrest := ih (List.cons_ne_nil next texts) fun text hmem =>
        h text (List.mem_cons_of_mem _ hmem)
      rw [String.intercalate_cons_cons, String.toList_append, List.getLast?_append, hrest]
      rfl

theorem Bounds.Covers.slice_ne_nil {bounds : Bounds} {range : Range} {lines : List String}
    (h : bounds.Covers range lines.length) : bounds.slice lines ≠ [] := by
  intro hnil
  have hlength := h.length_slice
  rw [hnil, lineCount] at hlength
  simp at hlength

namespace Passage

variable {source : Source} {cues : Cues} {viewing : Document} {anchor : Anchor} {passage : Passage}

theorem lines_ne_nil (h : anchor.passage? source cues viewing = some passage) :
    passage.lines ≠ [] :=
  (covers_of_find? (Anchor.passage?_eq_some_iff.mp h).2).slice_ne_nil

theorem text_block (h : anchor.passage? source cues viewing = some passage) :
    passage.block.text = String.intercalate "\n" (passage.lines ++ [""]) :=
  intercalate_newline_append (lines_ne_nil h)

theorem newline_notMem_of_mem_lines (hdocument : passage.document.IsText) {line : String}
    (h : line ∈ passage.lines) : '\n' ∉ line.toList := by
  obtain ⟨line, hline, rfl⟩ := List.mem_map.mp h
  rw [toList_dropColumns]
  intro hmem
  exact hdocument.newline_notMem (List.mem_of_mem_drop (List.mem_of_mem_take hline))
    (List.mem_of_mem_drop hmem)

theorem isText_document (hviewing : viewing.IsText)
    (hsource : ∀ url document, source url = .ok document → document.IsText)
    (h : anchor.passage? source cues viewing = some passage) : passage.document.IsText := by
  have hdocument := (Anchor.passage?_eq_some_iff.mp h).1
  unfold Anchor.document at hdocument
  split at hdocument
  · rw [← Except.ok.inj hdocument]
    exact hviewing
  · exact hsource _ _ hdocument

/-- The numbers of a block of a document that 32 bits can count are those of its lines. -/
theorem toNat_block (h : anchor.passage? source cues viewing = some passage)
    (hcount : passage.document.lines.length ≤ UInt32.size)
    (hlength : ∀ line ∈ passage.document.lines, line.length < UInt32.size) :
    passage.block.firstLine.toNat = passage.bounds.firstLine ∧
      passage.block.lastLine.toNat = passage.bounds.lastLine ∧
      passage.block.indent.toNat = passage.bounds.indent := by
  have hfind := (Anchor.passage?_eq_some_iff.mp h).2
  have hnumbers := Block.toNat_extract hfind hcount hlength
  rw [Block.extract_of_find? hfind] at hnumbers
  exact hnumbers

end Passage

namespace Aggregation

variable (source : Source) (cues : Cues) (viewing : Document) (anchors : List Anchor)

theorem combined_collect : (collect source cues viewing anchors).combined =
    String.intercalate "\n"
      ((passages source cues viewing anchors).flatMap fun passage => passage.lines ++ [""]) := by
  have htexts : (passages source cues viewing anchors).map (Block.text ∘ Passage.block) =
      ((passages source cues viewing anchors).map fun passage => passage.lines ++ [""]).map
        (String.intercalate "\n") := by
    rw [List.map_map]
    apply List.map_congr_left
    intro passage hpassage
    obtain ⟨anchor, -, hanchor⟩ := List.mem_filterMap.mp hpassage
    exact Passage.text_block hanchor
  rw [combined, blocks_collect, List.map_map, htexts, intercalate_map_intercalate,
    List.flatMap_def]
  intro part hpart
  obtain ⟨passage, -, rfl⟩ := List.mem_map.mp hpart
  simp

theorem splitOn_combined (hviewing : viewing.IsText)
    (hsource : ∀ url document, source url = .ok document → document.IsText)
    (hne : passages source cues viewing anchors ≠ []) :
    ((collect source cues viewing anchors).combined.toList.splitOn '\n').map String.ofList =
      (passages source cues viewing anchors).flatMap fun passage => passage.lines ++ [""] := by
  rw [combined_collect, String.toList_intercalate]
  change ((['\n'].intercalate _).splitOn '\n').map String.ofList = _
  rw [List.splitOn_intercalate]
  · simp
  · intro chars hchars
    obtain ⟨line, hline, rfl⟩ := List.mem_map.mp hchars
    obtain ⟨passage, hpassage, hline⟩ := List.mem_flatMap.mp hline
    obtain ⟨anchor, -, hanchor⟩ := List.mem_filterMap.mp hpassage
    rcases List.mem_append.mp hline with hline | hline
    · exact Passage.newline_notMem_of_mem_lines
        (Passage.isText_document hviewing hsource hanchor) hline
    · rw [List.mem_singleton.mp hline]
      simp
  · obtain ⟨passage, rest, hpassages⟩ := List.exists_cons_of_ne_nil hne
    simp [hpassages]

theorem render_eq (highlighter : Highlighter) :
    render source cues highlighter viewing anchors =
      if passages source cues viewing anchors = [] then .ok ""
      else highlighter viewing.languageId (collect source cues viewing anchors).combined := by
  unfold render highlight
  by_cases h : passages source cues viewing anchors = []
  · rw [if_pos ((isEmpty_collect_iff source cues viewing).mpr h), if_pos h]
  · rw [if_neg (mt (isEmpty_collect_iff source cues viewing).mp h), if_neg h]
    rfl

theorem combined_of_passages_eq_nil (h : passages source cues viewing anchors = []) :
    (collect source cues viewing anchors).combined = "" := by
  rw [combined_collect, h]
  rfl

theorem render_plain : render source cues .plain viewing anchors =
    .ok (collect source cues viewing anchors).combined := by
  rw [render_eq]
  split
  · rename_i h
    rw [combined_of_passages_eq_nil source cues viewing anchors h]
  · rfl

/-- The text of an aggregation is printed as it is. -/
theorem printed_combined : Report.printed (collect source cues viewing anchors).combined =
    (collect source cues viewing anchors).combined := by
  unfold Report.printed
  apply if_pos
  by_cases h : passages source cues viewing anchors = []
  · rw [combined_of_passages_eq_nil source cues viewing anchors h]
    rfl
  · have hlast : (collect source cues viewing anchors).combined.toList.getLast? = some '\n' := by
      apply getLast?_intercalate
      · rw [blocks_collect, List.map_map]
        exact fun hnil => h (List.map_eq_nil_iff.mp hnil)
      · intro text htext
        rw [blocks_collect, List.map_map] at htext
        obtain ⟨passage, -, rfl⟩ := List.mem_map.mp htext
        exact passage.bounds.getLast?_text passage.document.lines
    simp [hlast]

end Aggregation

end Excerpt
