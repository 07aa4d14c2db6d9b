import Excerpt.Proofs.Text.Ink
import Excerpt.Proofs.Text.Utf8

/-! The column and the edges of a line, and what a cut makes of them. The column counts characters,
the edges are found from both ends, and a cut starts at an octet; all three are about the same
places of the line. -/
namespace Excerpt.Text

/-! ## Where the content of a line starts and ends -/

/-- The content of a line starts in column `column` with `first` and ends with `last`. -/
structure HasContent (line : String) (column : Nat) (first last : Char) : Prop where
  blank_before : ∀ c ∈ line.toList.take column, isBlank c = true
  first_at : line.toList[column]? = some first
  first_ink : isBlank first = false
  last_ink : isBlank last = false
  blank_after : ∃ front after, line.toList = front ++ last :: after ∧
    ∀ c ∈ after, isBlank c = true

theorem column?_eq_some_iff {line : String} {column : Nat} :
    column? line = some column ↔ (∀ c ∈ line.toList.take column, isBlank c = true) ∧
      ∃ first, line.toList[column]? = some first ∧ isBlank first = false := by
  rw [column?, List.findIdx?_eq_some_iff_getElem]
  constructor
  · rintro ⟨hlt, hink, hbefore⟩
    refine ⟨?_, line.toList[column], List.getElem?_eq_getElem hlt, by simpa using hink⟩
    intro c hc
    obtain ⟨i, hi, rfl⟩ := List.mem_take_iff_getElem.mp hc
    simpa using hbefore i (by omega)
  · rintro ⟨hbefore, first, hfirst, hink⟩
    obtain ⟨hlt, rfl⟩ := List.getElem?_eq_some_iff.mp hfirst
    refine ⟨hlt, by simpa using hink, ?_⟩
    intro i hi
    have hmem : line.toList[i] ∈ line.toList.take column :=
      List.mem_take_iff_getElem.mpr ⟨i, by omega, rfl⟩
    simpa using hbefore _ hmem

theorem head?_ink {line : String} {column : Nat} (h : column? line = some column) :
    (ink line).head? = line.toList[column]? := by
  obtain ⟨hlt, hink, hbefore⟩ := List.findIdx?_eq_some_iff_getElem.mp h
  rw [ink, List.head?_filter, List.getElem?_eq_getElem hlt, List.find?_eq_some_iff_getElem]
  refine ⟨hink, column, hlt, rfl, ?_⟩
  intro i hi
  simpa using hbefore i hi

theorem getLast?_ink_eq_some_iff {line : String} {last : Char} :
    (ink line).getLast? = some last ↔ isBlank last = false ∧
      ∃ front after, line.toList = front ++ last :: after ∧ ∀ c ∈ after, isBlank c = true := by
  rw [ink, List.getLast?_filter, List.find?_eq_some_iff_append]
  constructor
  · rintro ⟨hink, after, front, hline, hafter⟩
    refine ⟨by simpa using hink, front.reverse, after.reverse, ?_, ?_⟩
    · simpa using congrArg List.reverse hline
    · intro c hc
      simpa using hafter c (List.mem_reverse.mp hc)
  · rintro ⟨hink, front, after, hline, hafter⟩
    refine ⟨by simpa using hink, after.reverse, front.reverse, by simp [hline], ?_⟩
    intro c hc
    simpa using hafter c (List.mem_reverse.mp hc)

theorem hasContent_iff {line : String} {column : Nat} {first last : Char} :
    column? line = some column ∧ edges? line = some (first, last) ↔
      HasContent line column first last := by
  rw [edges?_eq_some_iff]
  constructor
  · rintro ⟨hcolumn, hfirst, hlast⟩
    obtain ⟨hbefore, first', hat, hink⟩ := column?_eq_some_iff.mp hcolumn
    obtain rfl : first' = first := by
      rw [head?_ink hcolumn, hat] at hfirst
      exact Option.some.inj hfirst
    obtain ⟨hlastInk, hafter⟩ := getLast?_ink_eq_some_iff.mp hlast
    exact ⟨hbefore, hat, hink, hlastInk, hafter⟩
  · rintro ⟨hbefore, hat, hink, hlastInk, hafter⟩
    have hcolumn : column? line = some column := column?_eq_some_iff.mpr ⟨hbefore, first, hat, hink⟩
    refine ⟨hcolumn, ?_, getLast?_ink_eq_some_iff.mpr ⟨hlastInk, hafter⟩⟩
    rw [head?_ink hcolumn, hat]

theorem shape?_eq_some_iff_hasContent {line : String} {shape : Shape} :
    shape? line = some shape ↔ HasContent line shape.column shape.first shape.last := by
  rw [shape?_eq_some_iff, ← hasContent_iff, edges?_eq_some_iff]

/-! ## A cut of octets -/

/-- The characters of a text that starts at octet `start`, each with the octet where it starts. -/
def offsets (start : Nat) : List Char → List (Nat × Char)
  | [] => []
  | c :: rest => (start, c) :: offsets (start + c.utf8Size) rest

/-- The text from an octet on; none past the last octet, and none inside a character. -/
def textFrom? (line : String) (offset : Nat) : Option String :=
  if offset ≤ (utf8 line).length then ofUtf8? ((utf8 line).drop offset) else none

/-- The text from the octet at which the character in column `n` starts, empty when the line has no
such column. -/
def cutOctets? (n : Nat) (line : String) : Option String :=
  match (offsets 0 line.toList)[n]? with
  | some (offset, _) => textFrom? line offset
  | none => some ""

theorem getElem?_offsets (start n : Nat) (chars : List Char) :
    (offsets start chars)[n]? =
      chars[n]?.map fun c =>
        (start + ((chars.take n).flatMap String.utf8EncodeChar).length, c) := by
  induction chars generalizing start n with
  | nil => simp [offsets]
  | cons c chars ih =>
    cases n with
    | zero => simp [offsets]
    | succ n =>
      rw [offsets, List.getElem?_cons_succ, List.getElem?_cons_succ, ih, List.take_succ_cons,
        List.flatMap_cons, List.length_append, String.length_utf8EncodeChar, Nat.add_assoc]

theorem utf8_eq_append (n : Nat) (line : String) :
    utf8 line =
      (line.toList.take n).flatMap String.utf8EncodeChar ++ utf8 (dropColumns n line) := by
  rw [utf8, utf8, toList_dropColumns, ← List.flatMap_append, List.take_append_drop]

/-- The octet at which a column starts never lies inside a character. -/
theorem cutOctets?_eq (n : Nat) (line : String) :
    cutOctets? n line = some (dropColumns n line) := by
  unfold cutOctets?
  rw [getElem?_offsets]
  cases hc : line.toList[n]? with
  | none =>
    have hdrop : line.toList.drop n = [] :=
      List.drop_eq_nil_of_le (List.getElem?_eq_none_iff.mp hc)
    simp [dropColumns, hdrop]
  | some c =>
    simp only [Option.map_some, Nat.zero_add, textFrom?]
    have hsplit := utf8_eq_append n line
    have hle : ((line.toList.take n).flatMap String.utf8EncodeChar).length ≤
        (utf8 line).length := by
      rw [hsplit, List.length_append]
      omega
    rw [if_pos hle, hsplit, List.drop_left, ofUtf8?_utf8]

/-- An octet inside a character starts no text. -/
example : textFrom? "é" 1 = none := by decide

/-! ## Agreement -/

/-- A line lacks a column exactly when it lacks edges, and else both tell where its content starts
and ends, so that a scan, which reads both as a shape, passes over no content. A cut takes whole
characters of whatever width. Cuts add up, and one that takes only blanks moves the column and keeps
the edges. -/
theorem column?_edges?_agree (line : String) :
    (column? line = none ↔ edges? line = none) ∧
      (shape? line = none ↔ column? line = none) ∧
      (∀ column first last, column? line = some column ∧ edges? line = some (first, last) ↔
        HasContent line column first last) ∧
      (∀ shape, shape? line = some shape ↔
        HasContent line shape.column shape.first shape.last) ∧
      (∀ column first last, column? line = some column → edges? line = some (first, last) →
        (dropColumns column line).toList.head? = some first) ∧
      (∀ n, (dropColumns n line).toList = line.toList.drop n ∧
        cutOctets? n line = some (dropColumns n line)) ∧
      (∀ m n, dropColumns n (dropColumns m line) = dropColumns (m + n) line) ∧
      ∀ column n, column? line = some column → n ≤ column →
        column? (dropColumns n line) = some (column - n) ∧
          edges? (dropColumns n line) = edges? line := by
  refine ⟨?_, ?_, fun _ _ _ => hasContent_iff, fun _ => shape?_eq_some_iff_hasContent, ?_, ?_, ?_,
    ?_⟩
  · rw [column?_eq_none_iff, edges?_eq_none_iff]
  · rw [column?_eq_none_iff, shape?_eq_none_iff]
  · intro column first last hcolumn hedges
    rw [toList_dropColumns, List.head?_drop]
    exact (hasContent_iff.mp ⟨hcolumn, hedges⟩).first_at
  · intro n
    exact ⟨toList_dropColumns n line, cutOctets?_eq n line⟩
  · intro m n
    exact dropColumns_dropColumns n m line
  · intro column n hcolumn hn
    have hindented : IndentedBy n line := by
      intro column' hcolumn'
      obtain rfl : column = column' := Option.some.inj (hcolumn.symm.trans hcolumn')
      exact hn
    exact ⟨column?_dropColumns hcolumn hn, edges?_dropColumns hindented⟩

/-- Blanks and content of one to four octets: the cut at column 6 is at octet 9. -/
theorem column?_edges?_agree_wide :
    let line := "\u3000\té = 😀\u2028"
    column? line = some 2 ∧ edges? line = some ('é', '😀') ∧ 1 ≤ 2 ∧
      HasContent line 2 'é' '😀' ∧ (dropColumns 2 line).toList.head? = some 'é' ∧
      textFrom? line 9 = some (dropColumns 6 line) ∧
      column? (dropColumns 1 line) = some 1 ∧ edges? (dropColumns 1 line) = edges? line := by
  intro line
  have hcolumn : column? line = some 2 := by decide
  have hedges : edges? line = some ('é', '😀') := by decide
  have hone : 1 ≤ 2 := by decide
  have hoffset : (offsets 0 line.toList)[6]? = some (9, '😀') := by decide
  obtain ⟨-, -, hcontent, -, hstarts, hcuts, -, hmoved⟩ := column?_edges?_agree line
  have hcut := (hcuts 6).2
  rw [cutOctets?, hoffset] at hcut
  exact ⟨hcolumn, hedges, hone, (hcontent 2 'é' '😀').mp ⟨hcolumn, hedges⟩,
    hstarts 2 'é' '😀' hcolumn hedges, hcut, hmoved 2 1 hcolumn hone⟩

end Excerpt.Text
