import Mathlib.Data.List.Basic
import Mathlib.Data.List.TakeWhile
import Excerpt.Text.Line

/-! The characters of a line that show. The shape of a line is read off them and its column, so that
dedenting a line by no more than its column moves its shape and keeps its edges. -/
namespace Excerpt.Text

/-- The characters of a line that are not blank, in order. -/
def ink (line : String) : List Char := line.toList.filter fun c => !isBlank c

private theorem head?_dropWhile_isBlank (s : List Char) :
    (s.dropWhile isBlank).head? = (s.filter fun c => !isBlank c).head? := by
  induction s with
  | nil => rfl
  | cons c s ih =>
    by_cases hc : isBlank c = true
    · simpa [hc] using ih
    · simp [hc]

private theorem filter_dropWhile_isBlank (s : List Char) :
    (s.dropWhile isBlank).filter (fun c => !isBlank c) = s.filter fun c => !isBlank c := by
  induction s with
  | nil => rfl
  | cons c s ih =>
    by_cases hc : isBlank c = true
    · simpa [hc] using ih
    · rw [List.dropWhile_cons_of_neg hc]

private theorem getLast?_dropWhile_isBlank {s : List Char} {c : Char} (hs : s.getLast? = some c)
    (hc : isBlank c = false) : (s.dropWhile isBlank).getLast? = some c := by
  obtain ⟨front, rfl⟩ := List.getLast?_eq_some_iff.mp hs
  rw [List.dropWhile_append]
  split
  · simp [hc]
  · simp

theorem head?_trim (s : List Char) :
    (trim s).head? = (s.filter fun c => !isBlank c).head? := by
  have hh := head?_dropWhile_isBlank s
  rw [trim, List.head?_reverse, ← hh]
  cases hd : s.dropWhile isBlank with
  | nil => rfl
  | cons c rest =>
    have hc : isBlank c = false := by
      have hn := List.head?_dropWhile_not isBlank s
      rw [hd] at hn
      simpa using hn
    exact getLast?_dropWhile_isBlank (by simp) hc

theorem getLast?_trim (s : List Char) :
    (trim s).getLast? = (s.filter fun c => !isBlank c).getLast? := by
  rw [trim, List.getLast?_reverse, head?_dropWhile_isBlank, List.filter_reverse,
    List.head?_reverse, filter_dropWhile_isBlank]

theorem exists_append_trim (s : List Char) :
    ∃ before after, s = before ++ (trim s ++ after) ∧ (∀ c ∈ before, isBlank c = true) ∧
      ∀ c ∈ after, isBlank c = true := by
  refine ⟨s.takeWhile isBlank, ((s.dropWhile isBlank).reverse.takeWhile isBlank).reverse,
    ?_, ?_, ?_⟩
  · rw [trim, ← List.reverse_append, List.takeWhile_append_dropWhile, List.reverse_reverse,
      List.takeWhile_append_dropWhile]
  · intro c hc
    exact List.mem_takeWhile_imp hc
  · intro c hc
    exact List.mem_takeWhile_imp (List.mem_reverse.mp hc)

/-- Content between blanks is what is left of a text. -/
theorem trim_append {before content after : List Char} (hbefore : ∀ c ∈ before, isBlank c = true)
    (hafter : ∀ c ∈ after, isBlank c = true) (hfirst : ∀ c ∈ content.head?, isBlank c = false)
    (hlast : ∀ c ∈ content.getLast?, isBlank c = false) (hne : content ≠ []) :
    trim (before ++ (content ++ after)) = content := by
  have hstart (s : List Char) (hs : ∀ c ∈ s.head?, isBlank c = false) :
      s.dropWhile isBlank = s := by
    cases s with
    | nil => rfl
    | cons c s => rw [List.dropWhile_cons_of_neg (by simp [hs c rfl])]
  have hfront : (content ++ after).dropWhile isBlank = content ++ after := by
    apply hstart
    rw [List.head?_append_of_ne_nil _ hne]
    exact hfirst
  have hback : (content ++ after).reverse.dropWhile isBlank = content.reverse := by
    have hafter' : ∀ c ∈ after.reverse, isBlank c = true :=
      fun c hc => hafter c (List.mem_reverse.mp hc)
    rw [List.reverse_append, List.dropWhile_append_of_pos hafter']
    apply hstart
    rw [List.head?_reverse]
    exact hlast
  unfold trim
  rw [List.dropWhile_append_of_pos hbefore, hfront, hback, List.reverse_reverse]

/-- The edges of a line are the ends of its ink. -/
theorem edges?_eq_some_iff {line : String} {first last : Char} :
    edges? line = some (first, last) ↔
      (ink line).head? = some first ∧ (ink line).getLast? = some last := by
  unfold edges? ink
  dsimp only
  rw [head?_trim, getLast?_trim]
  split
  · rename_i f l hf hl
    simp [hf, hl]
  · rename_i hn
    constructor
    · intro h
      cases h
    · rintro ⟨hf, hl⟩
      exact absurd hl (hn first last hf)

theorem column?_eq_none_iff {line : String} : column? line = none ↔ ink line = [] := by
  simp [column?, ink]

theorem edges?_eq_none_iff {line : String} : edges? line = none ↔ ink line = [] := by
  constructor
  · intro h
    by_contra hink
    have hedges : edges? line = some ((ink line).head hink, (ink line).getLast hink) :=
      edges?_eq_some_iff.mpr ⟨List.head?_eq_some_head hink, List.getLast?_eq_some_getLast hink⟩
    rw [h] at hedges
    cases hedges
  · intro hink
    rw [Option.eq_none_iff_forall_ne_some]
    intro edges hedges
    have hfirst := (edges?_eq_some_iff.mp hedges).1
    rw [hink] at hfirst
    cases hfirst

theorem shape?_eq_none_iff {line : String} : shape? line = none ↔ ink line = [] := by
  constructor
  · intro h
    by_contra hink
    obtain ⟨column, hcolumn⟩ := Option.ne_none_iff_exists'.mp (mt column?_eq_none_iff.mp hink)
    obtain ⟨edges, hedges⟩ := Option.ne_none_iff_exists'.mp (mt edges?_eq_none_iff.mp hink)
    simp [shape?, hcolumn, hedges] at h
  · intro h
    simp [shape?, column?_eq_none_iff.mpr h]

theorem shape?_eq_some_iff {line : String} {shape : Shape} :
    shape? line = some shape ↔ column? line = some shape.column ∧
      (ink line).head? = some shape.first ∧ (ink line).getLast? = some shape.last := by
  rw [← edges?_eq_some_iff]
  unfold shape?
  split
  · rename_i column first last hcolumn hedges
    obtain ⟨column', first', last'⟩ := shape
    simp [hcolumn, hedges]
  · rename_i hn
    constructor
    · intro h
      cases h
    · rintro ⟨hcolumn, hedges⟩
      exact absurd hedges (hn _ _ _ hcolumn)

theorem column?_eq_map_shape? (line : String) : column? line = (shape? line).map Shape.column := by
  cases h : shape? line with
  | none => exact column?_eq_none_iff.mpr (shape?_eq_none_iff.mp h)
  | some shape => exact (shape?_eq_some_iff.mp h).1

/-- A line that is blank or starts at or past column `n`. -/
def IndentedBy (n : Nat) (line : String) : Prop := ∀ column ∈ column? line, n ≤ column

theorem IndentedBy.le_column {n : Nat} {line : String} {shape : Shape} (h : IndentedBy n line)
    (hshape : shape? line = some shape) : n ≤ shape.column :=
  h shape.column (shape?_eq_some_iff.mp hshape).1

theorem indentedBy_of_shape? {n : Nat} {line : String}
    (h : ∀ shape, shape? line = some shape → n ≤ shape.column) : IndentedBy n line := by
  intro column hcolumn
  rw [Option.mem_def, column?_eq_map_shape?] at hcolumn
  obtain ⟨shape, hshape, rfl⟩ := Option.map_eq_some_iff.mp hcolumn
  exact h shape hshape

/-- A cut of `n` columns takes ink exactly from the lines that are not indented by `n`. -/
theorem ink_dropColumns_eq_iff {n : Nat} {line : String} :
    ink (dropColumns n line) = ink line ↔ IndentedBy n line := by
  have hsplit : ink line =
      (line.toList.take n).filter (fun c => !isBlank c) ++ ink (dropColumns n line) := by
    rw [ink, ink, toList_dropColumns, ← List.filter_append, List.take_append_drop]
  have hkept : ink (dropColumns n line) = ink line ↔
      ∀ c ∈ line.toList.take n, isBlank c = true := by
    rw [hsplit, List.self_eq_append_left, List.filter_eq_nil_iff]
    simp
  rw [hkept]
  constructor
  · intro h column hcolumn
    obtain ⟨hlt, hink, -⟩ := List.findIdx?_eq_some_iff_getElem.mp hcolumn
    by_contra hn
    have hmem : line.toList[column] ∈ line.toList.take n :=
      List.mem_take_iff_getElem.mpr ⟨column, by omega, rfl⟩
    simp [h _ hmem] at hink
  · intro h c hc
    obtain ⟨i, hi, rfl⟩ := List.mem_take_iff_getElem.mp hc
    by_contra hblank
    have hcolumn : line.toList.findIdx? (fun c => !isBlank c) = some _ :=
      List.findIdx?_eq_some_of_exists ⟨line.toList[i], List.getElem_mem _, by simpa using hblank⟩
    obtain ⟨_, -, hbefore⟩ := List.findIdx?_eq_some_iff_getElem.mp hcolumn
    have hle := h _ hcolumn
    have hnot := hbefore i (by omega)
    simp [hblank] at hnot

theorem column?_dropColumns {n column : Nat} {line : String} (h : column? line = some column)
    (hn : n ≤ column) : column? (dropColumns n line) = some (column - n) := by
  obtain ⟨hlt, hink, hbefore⟩ := List.findIdx?_eq_some_iff_getElem.mp h
  rw [column?, toList_dropColumns, List.findIdx?_eq_some_iff_getElem]
  refine ⟨by rw [List.length_drop]; omega, ?_, ?_⟩
  · simpa [show n + (column - n) = column by omega] using hink
  · intro j hj
    simpa using hbefore (n + j) (by omega)

theorem edges?_dropColumns {n : Nat} {line : String} (h : IndentedBy n line) :
    edges? (dropColumns n line) = edges? line := by
  have hink : ink (dropColumns n line) = ink line := ink_dropColumns_eq_iff.mpr h
  ext edges
  rw [edges?_eq_some_iff, edges?_eq_some_iff, hink]

/-- The shape of a line after a cut of `n` columns that takes none of its ink. -/
def Shape.dedent (n : Nat) (shape : Shape) : Shape := { shape with column := shape.column - n }

theorem shape?_dropColumns {n : Nat} {line : String} (h : IndentedBy n line) :
    shape? (dropColumns n line) = (shape? line).map (Shape.dedent n) := by
  have hink : ink (dropColumns n line) = ink line := ink_dropColumns_eq_iff.mpr h
  cases hs : shape? line with
  | none =>
    rw [shape?_eq_none_iff] at hs
    exact shape?_eq_none_iff.mpr (hink.trans hs)
  | some shape =>
    obtain ⟨hcolumn, hfirst, hlast⟩ := shape?_eq_some_iff.mp hs
    refine shape?_eq_some_iff.mpr ⟨column?_dropColumns hcolumn (h.le_column hs), ?_, ?_⟩
    · rw [hink]
      exact hfirst
    · rw [hink]
      exact hlast

theorem dropColumns_dropColumns (m n : Nat) (line : String) :
    dropColumns m (dropColumns n line) = dropColumns (n + m) line := by
  simp [dropColumns, List.drop_drop]

/-- A line without the carriage return that may end it. -/
def chomp (line : String) : String := String.ofList (dropReturn line.toList)

theorem chomp_eq_self {line : String} (h : line.toList.getLast? ≠ some '\r') :
    chomp line = line := by
  simp [chomp, dropReturn, h]

/-- A carriage return is blank, so that it is no part of the shape of the line it ends. -/
theorem shape?_chomp (line : String) : shape? (chomp line) = shape? line := by
  by_cases hr : line.toList.getLast? = some '\r'
  · obtain ⟨front, hfront⟩ := List.getLast?_eq_some_iff.mp hr
    have hblank : isBlank '\r' = true := by decide
    have hchars : (chomp line).toList = front := by simp [chomp, dropReturn, hfront]
    have hink : ink (chomp line) = ink line := by simp [ink, hchars, hfront, hblank]
    have hcolumn : column? (chomp line) = column? line := by
      simp [column?, hchars, hfront, hblank]
    ext shape
    rw [shape?_eq_some_iff, shape?_eq_some_iff, hcolumn, hink]
  · rw [chomp_eq_self hr]

end Excerpt.Text
