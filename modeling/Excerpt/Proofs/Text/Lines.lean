import Excerpt.Proofs.Text.Ink

/-! Lines of a text that was joined from lines. Whatever ends the lines have, splitting the text
gives the lines back. -/
namespace Excerpt

theorem notMem_of_mem_splitOn {α : Type} [BEq α] [LawfulBEq α] {a : α} {as piece : List α}
    (h : piece ∈ as.splitOn a) : a ∉ piece := by
  induction as generalizing piece with
  | nil =>
    rw [List.splitOn_nil, List.mem_singleton] at h
    rw [h]
    exact List.not_mem_nil
  | cons b as ih =>
    rw [List.splitOn_cons_eq_if_modifyHead] at h
    by_cases hb : (b == a) = true
    · rw [if_pos hb] at h
      rcases List.mem_cons.mp h with rfl | h
      · exact List.not_mem_nil
      · exact ih h
    · rw [if_neg hb] at h
      cases hrest : as.splitOn a with
      | nil => exact absurd hrest (List.splitOn_ne_nil a as)
      | cons first rest =>
        rw [hrest] at h ih
        rcases List.mem_cons.mp h with rfl | h
        · rw [List.mem_cons, not_or]
          exact ⟨fun hab => hb (hab ▸ beq_self_eq_true a), ih List.mem_cons_self⟩
        · exact ih (List.mem_cons_of_mem first h)

namespace Text

theorem splitLines_eq_map_chomp (text : String) :
    splitLines text = (text.toList.splitOn '\n').map fun piece => chomp (String.ofList piece) := by
  simp [splitLines, chomp]

/-- No line of a text holds a newline. -/
theorem newline_notMem_of_mem_splitLines {text line : String} (h : line ∈ splitLines text) :
    '\n' ∉ line.toList := by
  obtain ⟨piece, hpiece, rfl⟩ := List.mem_map.mp h
  have hnone := notMem_of_mem_splitOn hpiece
  rw [String.toList_ofList, dropReturn]
  split
  · exact fun hmem => hnone (List.dropLast_subset piece hmem)
  · exact hnone

theorem splitLines_intercalate {lines : List String} (hlines : lines ≠ [])
    (hnewline : ∀ line ∈ lines, '\n' ∉ line.toList) :
    splitLines (String.intercalate "\n" lines) = lines.map chomp := by
  have hsplit : (String.intercalate "\n" lines).toList.splitOn '\n' = lines.map String.toList := by
    rw [String.toList_intercalate]
    refine List.splitOn_intercalate '\n' ?_ (by simpa using hlines)
    intro chars hchars
    obtain ⟨line, hline, rfl⟩ := List.mem_map.mp hchars
    exact hnewline line hline
  rw [splitLines_eq_map_chomp, hsplit, List.map_map]
  exact List.map_congr_left fun line _ => by simp

theorem intercalate_newline_append {lines : List String} (hlines : lines ≠ []) :
    String.intercalate "\n" lines ++ "\n" = String.intercalate "\n" (lines ++ [""]) := by
  rw [String.intercalate_append_of_ne_nil hlines (by simp)]
  simp

/-- Lines that are each ended by a newline come back from their text, with one empty line more. -/
theorem splitLines_intercalate_newline {lines : List String} (hlines : lines ≠ [])
    (hnewline : ∀ line ∈ lines, '\n' ∉ line.toList) :
    splitLines (String.intercalate "\n" lines ++ "\n") = lines.map chomp ++ [""] := by
  rw [intercalate_newline_append hlines, splitLines_intercalate (by simp)]
  · rw [List.map_append]
    rfl
  · intro line hline
    rcases List.mem_append.mp hline with hline | hline
    · exact hnewline line hline
    · rw [List.mem_singleton.mp hline]
      simp

/-- What may stand between two lines. -/
inductive LineEnd where
  | newline
  | returnNewline
  deriving Repr, DecidableEq

def LineEnd.text : LineEnd → String
  | newline => "\n"
  | returnNewline => "\r\n"

/-- The text of some lines, where `ends n` ends line `n` unless that is the last. -/
def assemble : (ends : Nat → LineEnd) → List String → String
  | _, [] => ""
  | _, [line] => line
  | ends, line :: next :: below =>
    line ++ (ends 0).text ++ assemble (fun n => ends (n + 1)) (next :: below)

theorem splitLines_of_newline_notMem {line : String} (h : '\n' ∉ line.toList) :
    splitLines line = [chomp line] := by
  rw [splitLines_eq_map_chomp, List.splitOn_eq_singleton h]
  simp

theorem splitLines_append_newline {line : String} (h : '\n' ∉ line.toList) (text : String) :
    splitLines (line ++ "\n" ++ text) = chomp line :: splitLines text := by
  have hchars : (line ++ "\n" ++ text).toList = line.toList ++ '\n' :: text.toList := by simp
  rw [splitLines_eq_map_chomp, hchars, List.splitOn_append_cons_self_of_not_mem h,
    List.map_cons, ← splitLines_eq_map_chomp]
  simp

theorem chomp_append_return (line : String) : chomp (line ++ "\r") = line := by
  simp [chomp, dropReturn]

/-- A line followed by either line end is the first line of the text. -/
theorem splitLines_append_lineEnd {line : String} {lineEnd : LineEnd}
    (hnewline : '\n' ∉ line.toList)
    (hreturn : lineEnd = .newline → line.toList.getLast? ≠ some '\r') (text : String) :
    splitLines (line ++ lineEnd.text ++ text) = line :: splitLines text := by
  cases lineEnd with
  | newline =>
    change splitLines (line ++ "\n" ++ text) = _
    rw [splitLines_append_newline hnewline, chomp_eq_self (hreturn rfl)]
  | returnNewline =>
    have hnewline' : '\n' ∉ (line ++ "\r").toList := by simpa using hnewline
    have htext : line ++ LineEnd.returnNewline.text = line ++ "\r" ++ "\n" := by
      rw [String.append_assoc]
      rfl
    rw [htext, splitLines_append_newline hnewline', chomp_append_return]

theorem splitLines_assemble (ends : Nat → LineEnd) {lines : List String} (hlines : lines ≠ [])
    (hnewline : ∀ line ∈ lines, '\n' ∉ line.toList)
    (hreturn : ∀ line ∈ lines, line.toList.getLast? ≠ some '\r') :
    splitLines (assemble ends lines) = lines := by
  induction lines generalizing ends with
  | nil => exact absurd rfl hlines
  | cons line below ih =>
    have hline := hnewline line List.mem_cons_self
    have hend := hreturn line List.mem_cons_self
    cases below with
    | nil =>
      rw [assemble, splitLines_of_newline_notMem hline, chomp_eq_self hend]
    | cons next below =>
      have hbelow := ih (fun n => ends (n + 1)) (List.cons_ne_nil next below)
        (fun line h => hnewline line (List.mem_cons_of_mem _ h))
        (fun line h => hreturn line (List.mem_cons_of_mem _ h))
      rw [assemble, splitLines_append_lineEnd hline fun _ => hend, hbelow]

end Text

end Excerpt
