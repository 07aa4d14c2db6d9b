import Excerpt.Proofs.Text.Lines

/-! The pieces of a text between its line ends. Every text has its lines for pieces, but for a
carriage return at its very end, which ends no line and is lost. -/
namespace Excerpt.Text

/-- Lines as the pieces of a text between its line ends. The last line has no end, and a line that a
bare newline ends has no carriage return before it. -/
inductive Pieces : List String → String → Prop where
  | last {line : String} (hnewline : '\n' ∉ line.toList) : Pieces [line] line
  | next {line : String} {lineEnd : LineEnd} {below : List String} {text : String}
      (hnewline : '\n' ∉ line.toList)
      (hreturn : lineEnd = .newline → line.toList.getLast? ≠ some '\r')
      (hbelow : Pieces below text) : Pieces (line :: below) (line ++ lineEnd.text ++ text)

theorem getLast?_append_lineEnd_ne_return_iff (line : String) (lineEnd : LineEnd) (text : String) :
    (line ++ lineEnd.text ++ text).toList.getLast? ≠ some '\r' ↔
      text.toList.getLast? ≠ some '\r' := by
  have hend : lineEnd.text.toList.getLast? = some '\n' := by
    cases lineEnd <;> rfl
  rw [String.toList_append, List.getLast?_append]
  cases text.toList.getLast? with
  | some c => simp
  | none =>
    rw [String.toList_append, List.getLast?_append, hend]
    simp

theorem chomp_eq_self_iff {line : String} :
    chomp line = line ↔ line.toList.getLast? ≠ some '\r' := by
  constructor
  · intro h hreturn
    have hlength : line.toList.dropLast.length = line.toList.length := by
      have hchars := congrArg String.toList h
      rw [chomp, String.toList_ofList, dropReturn, if_pos hreturn] at hchars
      rw [hchars]
    have hne : line.toList ≠ [] := by
      intro hnil
      rw [hnil] at hreturn
      cases hreturn
    have hpos := List.length_pos_iff.mpr hne
    rw [List.length_dropLast] at hlength
    omega
  · exact chomp_eq_self

theorem Pieces.splitLines_eq_iff {lines : List String} {text : String} (h : Pieces lines text) :
    splitLines text = lines ↔ text.toList.getLast? ≠ some '\r' := by
  induction h with
  | @last line hnewline =>
    rw [splitLines_of_newline_notMem hnewline, List.cons_eq_cons, chomp_eq_self_iff]
    simp
  | @next line lineEnd below text hnewline hreturn hbelow ih =>
    rw [splitLines_append_lineEnd hnewline hreturn, List.cons_eq_cons, ih,
      getLast?_append_lineEnd_ne_return_iff]
    simp

theorem newline_notMem_chomp {line : String} (h : '\n' ∉ line.toList) :
    '\n' ∉ (chomp line).toList := by
  rw [chomp, String.toList_ofList, dropReturn]
  split
  · exact fun hmem => h (List.dropLast_subset _ hmem)
  · exact h

theorem chomp_append_newline (piece text : String) :
    chomp (piece ++ "\n" ++ text) = piece ++ "\n" ++ chomp text := by
  by_cases hreturn : text.toList.getLast? = some '\r'
  · obtain ⟨front, hfront⟩ := List.getLast?_eq_some_iff.mp hreturn
    have htext : text = String.ofList front ++ "\r" := by
      apply String.toList_injective
      simpa using hfront
    rw [htext, chomp_append_return, ← String.append_assoc, chomp_append_return]
  · have hwhole : (piece ++ "\n" ++ text).toList.getLast? ≠ some '\r' :=
      (getLast?_append_lineEnd_ne_return_iff piece .newline text).mpr hreturn
    rw [chomp_eq_self hreturn, chomp_eq_self hwhole]

/-- The carriage return that a piece ends in goes with the newline after it. -/
theorem exists_lineEnd_of_append_newline (piece : String) :
    ∃ lineEnd : LineEnd, piece ++ "\n" = chomp piece ++ lineEnd.text ∧
      (lineEnd = .newline → (chomp piece).toList.getLast? ≠ some '\r') := by
  by_cases hreturn : piece.toList.getLast? = some '\r'
  · obtain ⟨front, hfront⟩ := List.getLast?_eq_some_iff.mp hreturn
    have hpiece : piece = String.ofList front ++ "\r" := by
      apply String.toList_injective
      simpa using hfront
    refine ⟨.returnNewline, ?_, fun h => by cases h⟩
    rw [hpiece, chomp_append_return, String.append_assoc]
    rfl
  · rw [chomp_eq_self hreturn]
    exact ⟨.newline, rfl, fun _ => hreturn⟩

theorem pieces_map_chomp {pieces : List String} (hpieces : pieces ≠ [])
    (hnewline : ∀ piece ∈ pieces, '\n' ∉ piece.toList) :
    Pieces (pieces.map chomp) (chomp (String.intercalate "\n" pieces)) := by
  induction pieces with
  | nil => exact absurd rfl hpieces
  | cons piece below ih =>
    have hpiece := newline_notMem_chomp (hnewline piece List.mem_cons_self)
    cases below with
    | nil =>
      rw [String.intercalate_singleton]
      exact .last hpiece
    | cons next below =>
      have hbelow := ih (List.cons_ne_nil next below)
        fun piece h => hnewline piece (List.mem_cons_of_mem _ h)
      obtain ⟨lineEnd, hend, hreturn⟩ := exists_lineEnd_of_append_newline piece
      rw [String.intercalate_cons_cons, chomp_append_newline, hend, List.map_cons]
      exact .next hpiece hreturn hbelow

theorem pieces_splitLines_chomp (text : String) : Pieces (splitLines text) (chomp text) := by
  have hpieces : (text.toList.splitOn '\n').map String.ofList ≠ [] := by
    simp [List.splitOn_ne_nil]
  have hnewline : ∀ piece ∈ (text.toList.splitOn '\n').map String.ofList, '\n' ∉ piece.toList := by
    intro piece hpiece
    obtain ⟨chars, hchars, rfl⟩ := List.mem_map.mp hpiece
    rw [String.toList_ofList]
    exact notMem_of_mem_splitOn hchars
  have htext : String.intercalate "\n" ((text.toList.splitOn '\n').map String.ofList) = text := by
    apply String.toList_injective
    have hid : String.toList ∘ String.ofList = id := by
      funext chars
      exact String.toList_ofList
    rw [String.toList_intercalate, List.map_map, hid, List.map_id]
    exact List.intercalate_splitOn '\n'
  have h := pieces_map_chomp hpieces hnewline
  rw [htext, List.map_map] at h
  rw [splitLines_eq_map_chomp]
  exact h

/-- The lines of a text are the pieces of the text without a carriage return at its very end, so
that they are the pieces of the text itself exactly when it does not end in one. -/
theorem splitLines_eq_pieces_iff (text : String) :
    Pieces (splitLines text) (chomp text) ∧
      (Pieces (splitLines text) text ↔ text.toList.getLast? ≠ some '\r') ∧
      ∀ lines, Pieces lines text →
        (splitLines text = lines ↔ text.toList.getLast? ≠ some '\r') := by
  have hpieces := pieces_splitLines_chomp text
  refine ⟨hpieces, ?_, fun lines h => h.splitLines_eq_iff⟩
  constructor
  · intro h
    exact h.splitLines_eq_iff.mp rfl
  · intro hreturn
    rwa [chomp_eq_self hreturn] at hpieces

/-- A carriage return at the end of a text is lost, although no newline follows it. -/
theorem splitLines_final_return :
    Pieces ["a\r"] "a\r" ∧ splitLines "a\r" = ["a"] ∧ ¬ Pieces (splitLines "a\r") "a\r" := by
  refine ⟨.last (by decide), by decide, ?_⟩
  intro h
  exact h.splitLines_eq_iff.mp rfl (by decide)

end Excerpt.Text
