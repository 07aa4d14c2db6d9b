import Excerpt.Block
import Excerpt.Proofs.Text.Lines

/-! Blocks do not depend on line ends. However the lines of a document are ended, it has the same
blocks, and their texts have newlines alone between their lines. -/
namespace Excerpt
open Text Bounds

/-- A carriage return and newline that stand in a line and what follows it are all in what follows,
unless the line ends in a carriage return. -/
theorem Text.returnNewline_infix_of_append {line rest : List Char} (hnewline : '\n' ∉ line)
    (hreturn : line.getLast? ≠ some '\r') (h : ['\r', '\n'] <:+: line ++ '\n' :: rest) :
    ['\r', '\n'] <:+: rest := by
  obtain ⟨front, back, h⟩ := h
  rw [List.append_assoc] at h
  rcases List.append_eq_append_iff.mp h with ⟨middle, hline, hmiddle⟩ | ⟨middle, hfront, hmiddle⟩
  · -- The two characters start in the line.
    match middle with
    | [] => simp at hmiddle
    | [c] =>
      obtain ⟨rfl, -⟩ : '\r' = c ∧ _ := by simpa using hmiddle
      simp [hline] at hreturn
    | c :: d :: middle =>
      obtain ⟨-, rfl, -⟩ : '\r' = c ∧ '\n' = d ∧ _ := by simpa using hmiddle
      simp [hline] at hnewline
  · -- They start at the newline or after it.
    match middle with
    | [] => simp at hmiddle
    | c :: middle =>
      obtain ⟨-, hrest⟩ : '\n' = c ∧ rest = middle ++ '\r' :: '\n' :: back := by
        simpa using hmiddle
      exact ⟨middle, back, by rw [hrest]; simp⟩

theorem Text.returnNewline_not_infix_intercalate {lines : List String}
    (hnewline : ∀ line ∈ lines, '\n' ∉ line.toList)
    (hreturn : ∀ line ∈ lines, line.toList.getLast? ≠ some '\r') :
    ¬ ['\r', '\n'] <:+: (String.intercalate "\n" lines ++ "\n").toList := by
  induction lines with
  | nil => decide
  | cons line below ih =>
    have hline := hnewline line List.mem_cons_self
    have hend := hreturn line List.mem_cons_self
    intro hinfix
    cases below with
    | nil =>
      have hchars : (String.intercalate "\n" [line] ++ "\n").toList = line.toList ++ ['\n'] := by
        simp
      rw [hchars] at hinfix
      have hnil := returnNewline_infix_of_append hline hend hinfix
      simp at hnil
    | cons next below =>
      have hchars : (String.intercalate "\n" (line :: next :: below) ++ "\n").toList =
          line.toList ++ '\n' :: (String.intercalate "\n" (next :: below) ++ "\n").toList := by
        rw [String.intercalate_cons_cons]
        simp
      rw [hchars] at hinfix
      exact ih (fun line h => hnewline line (List.mem_cons_of_mem _ h))
        (fun line h => hreturn line (List.mem_cons_of_mem _ h))
        (returnNewline_infix_of_append hline hend hinfix)

/-- Dedenting a line takes from its front alone. -/
theorem Text.getLast?_dropColumns_ne {line : String} {c : Char} (n : Nat)
    (h : line.toList.getLast? ≠ some c) : (dropColumns n line).toList.getLast? ≠ some c := by
  rw [toList_dropColumns, List.getLast?_drop]
  split
  · simp
  · exact h

theorem Bounds.returnNewline_not_infix_text (bounds : Bounds) {lines : List String}
    (hnewline : ∀ line ∈ lines, '\n' ∉ line.toList)
    (hreturn : ∀ line ∈ lines, line.toList.getLast? ≠ some '\r') :
    ¬ ['\r', '\n'] <:+: (bounds.text lines).toList := by
  have hmem : ∀ line ∈ bounds.slice lines,
      ∃ line' ∈ lines, line = dropColumns bounds.indent line' := by
    intro line hline
    obtain ⟨line', hline', rfl⟩ := List.mem_map.mp hline
    exact ⟨line', List.mem_of_mem_drop (List.mem_of_mem_take hline'), rfl⟩
  apply returnNewline_not_infix_intercalate
  · intro line hline
    obtain ⟨line', hline', rfl⟩ := hmem line hline
    rw [toList_dropColumns]
    exact fun h => hnewline line' hline' (List.mem_of_mem_drop h)
  · intro line hline
    obtain ⟨line', hline', rfl⟩ := hmem line hline
    exact getLast?_dropColumns_ne bounds.indent (hreturn line' hline')

/-- Two texts of the same lines, each with either line end at each break, give documents with these
lines, with the same block at every range, and with no carriage return at the end of a line of
it. -/
theorem extract_ofText_assemble (lines : List String) (hlines : lines ≠ [])
    (hnewline : ∀ line ∈ lines, '\n' ∉ line.toList)
    (hreturn : ∀ line ∈ lines, line.toList.getLast? ≠ some '\r') (ends ends' : Nat → LineEnd)
    (url : Url) (languageId : String) (cues : Cues) (range : Range) :
    let document := Document.ofText url languageId (assemble ends lines)
    let document' := Document.ofText url languageId (assemble ends' lines)
    document.lines = lines ∧ document'.lines = document.lines ∧
      document'.lineCount = document.lineCount ∧
      find? cues document'.lines range = find? cues document.lines range ∧
      (∀ bounds, find? cues document.lines range = some bounds →
        bounds.text document'.lines = bounds.text document.lines ∧
        ¬ ['\r', '\n'] <:+: (bounds.text document.lines).toList) ∧
      Block.extract cues document' range = Block.extract cues document range := by
  intro document document'
  have hsplit : document.lines = lines := splitLines_assemble ends hlines hnewline hreturn
  have hsplit' : document'.lines = lines := splitLines_assemble ends' hlines hnewline hreturn
  have hsame : document' = document := by
    change Document.mk url languageId document'.lines = Document.mk url languageId document.lines
    rw [hsplit, hsplit']
  refine ⟨hsplit, ?_⟩
  rw [hsame]
  refine ⟨rfl, rfl, rfl, ?_, rfl⟩
  intro bounds _
  rw [hsplit]
  exact ⟨rfl, bounds.returnNewline_not_infix_text hnewline hreturn⟩

/-- A document with both line ends, and a carriage return inside a line. -/
theorem extract_ofText_assemble_mixed :
    let url : Url := ⟨"file", none, .bare "f", none, none⟩
    find? {} (Document.ofText url "" "a:\r\n  b\rc\n  d\r\ne").lines (Range.atLine 0) =
        some ⟨0, 2, 0⟩ ∧
      (Document.ofText url "" "a:\n  b\rc\n  d\ne").lines = ["a:", "  b\rc", "  d", "e"] ∧
      ¬ ['\r', '\n'] <:+: ((⟨0, 2, 0⟩ : Bounds).text ["a:", "  b\rc", "  d", "e"]).toList := by
  intro url
  have hmixed : assemble (fun n => if n = 1 then .newline else .returnNewline)
      ["a:", "  b\rc", "  d", "e"] = "a:\r\n  b\rc\n  d\r\ne" := by decide
  have hplain : assemble (fun _ => .newline) ["a:", "  b\rc", "  d", "e"] =
      "a:\n  b\rc\n  d\ne" := by decide
  obtain ⟨hlines, -, -, hfind, hbounds, -⟩ := extract_ofText_assemble
    ["a:", "  b\rc", "  d", "e"] (by decide) (by decide) (by decide) (fun _ => .newline)
    (fun n => if n = 1 then .newline else .returnNewline) url "" {} (Range.atLine 0)
  rw [hplain] at hlines hfind hbounds
  rw [hmixed, hlines] at hfind
  rw [hlines] at hbounds
  have hblock : find? {} ["a:", "  b\rc", "  d", "e"] (Range.atLine 0) = some ⟨0, 2, 0⟩ := by
    decide
  exact ⟨hfind.trans hblock, hlines, (hbounds _ hblock).2⟩

end Excerpt
