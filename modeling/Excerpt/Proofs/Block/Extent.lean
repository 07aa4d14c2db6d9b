import Mathlib.Order.Bounds.Basic
import Excerpt.Proofs.Block.StopLine

/-! The extent of a body, told without the scan that finds it. What the scan knows at a line is a
fact about the lines above it, so that the line at which it breaks off is the least stop. -/
namespace Excerpt.Bounds
open Text

section Scan

variable {cues : Cues} {indent : Nat} {inside : Bool} {lines : List (Option Shape)}

/-- The scan goes on past a line that it reaches exactly when the line does not end it. It is inside
the block there when one of the lines above has put it there. -/
theorem lt_scanStop_iff {n i : Nat} {line : Option Shape} (hi : lines[i]? = some line)
    (hle : n + i ≤ scanStop cues indent inside n lines) :
    n + i < scanStop cues indent inside n lines ↔
      ends cues indent (inside || (lines.take i).any (enters cues indent)) line = false := by
  induction lines generalizing inside n i with
  | nil => simp at hi
  | cons first below ih =>
    rw [scanStop_cons, next?_verdict] at hle ⊢
    by_cases hends : ends cues indent inside first = true
    · rw [if_pos hends] at hle ⊢
      obtain rfl : i = 0 := by
        dsimp only at hle
        omega
      obtain rfl : first = line := by simpa using hi
      simp [hends]
    · rw [if_neg hends] at hle ⊢
      dsimp only at hle ⊢
      cases i with
      | zero =>
        have hlt := le_scanStop cues indent (inside || enters cues indent first) (n + 1) below
        obtain rfl : first = line := by simpa using hi
        simp only [List.take_zero, List.any_nil, Bool.or_false, hends]
        constructor
        · intro _
          trivial
        · omega
      | succ i =>
        have hbelow : n + 1 + i ≤
            scanStop cues indent (inside || enters cues indent first) (n + 1) below := by omega
        have hstep := ih (by simpa using hi) hbelow
        rw [List.take_succ_cons, List.any_cons, ← Bool.or_assoc, ← hstep]
        omega

/-- Whether a line closes a block that it ends. -/
def closes (cues : Cues) (indent : Nat) : Option Shape → Bool
  | none => false
  | some shape => shape.column == indent && cues.isCloser shape.first

theorem reach_verdict_of_next?_eq_none {line : Option Shape}
    (h : (verdict cues indent inside line).next? inside = none) (last n : Nat) :
    (verdict cues indent inside line).reach last n =
      if closes cues indent line then max last n else last := by
  cases line with
  | none => cases h
  | some shape =>
    have hends : ends cues indent inside (some shape) = true := by
      rw [next?_verdict] at h
      by_contra hnot
      rw [if_neg hnot] at h
      cases h
    by_cases hcolumn : shape.column < indent
    · have hne : shape.column ≠ indent := by omega
      rw [verdict_of_column_lt cues inside hcolumn]
      simp [closes, hne, Verdict.reach]
    · simp only [ends, hcolumn, decide_false, Bool.false_or, Bool.and_eq_true, beq_iff_eq,
        Bool.not_eq_true'] at hends
      obtain ⟨⟨hinside, heq⟩, hcontinuation⟩ := hends
      by_cases hcloser : cues.isCloser shape.first = true
      · simp [verdict, closes, heq, hinside, hcontinuation, hcloser, Verdict.reach]
      · simp [verdict, closes, heq, hinside, hcontinuation, hcloser, Verdict.reach]

/-- The scan breaks off at the first line that ends it, and after the last line if there is none. -/
theorem isLeast_scanStop (cues : Cues) (indent : Nat) (inside : Bool) (n : Nat)
    (lines : List (Option Shape)) :
    IsLeast {m | m = n + lines.length ∨ ∃ i line, lines[i]? = some line ∧ m = n + i ∧
        ends cues indent (inside || (lines.take i).any (enters cues indent)) line = true}
      (scanStop cues indent inside n lines) := by
  constructor
  · obtain ⟨i, hi⟩ := Nat.exists_eq_add_of_le (le_scanStop cues indent inside n lines)
    have hle := scanStop_le cues indent inside n lines
    cases hline : lines[i]? with
    | none =>
      have hlength := List.getElem?_eq_none_iff.mp hline
      left
      omega
    | some line =>
      right
      refine ⟨i, line, hline, hi, ?_⟩
      rw [← Bool.not_eq_false, ← lt_scanStop_iff hline (Nat.le_of_eq hi.symm)]
      omega
  · rintro m (rfl | ⟨i, line, hline, rfl, hends⟩)
    · exact scanStop_le cues indent inside n lines
    · by_contra hlt
      have hgoes := (lt_scanStop_iff hline (by omega)).mp (Nat.lt_of_not_le hlt)
      rw [hends] at hgoes
      cases hgoes

/-- Up to the line at which it breaks off, the scan finds the last line with content. -/
theorem isGreatest_scanDown_take {i n : Nat} (last : Nat)
    (h : n + i ≤ scanStop cues indent inside n lines) :
    IsGreatest {m | m = last ∨ ∃ j shape, j < i ∧ lines[j]? = some (some shape) ∧ m = n + j}
      (scanDown cues indent inside last n (lines.take i)) := by
  have hfront : ∀ j shape, (lines.take i)[j]? = some (some shape) ↔
      j < i ∧ lines[j]? = some (some shape) := by
    intro j shape
    by_cases hj : j < i
    · simp [List.getElem?_take_of_lt hj, hj]
    · simp [hj]
  have hafter : insideAfter? cues indent inside (lines.take i) ≠ none := by
    rw [Ne, insideAfter?_eq_none_iff n (lines.drop i), List.take_append_drop, List.length_take]
    omega
  obtain ⟨inside', hafter⟩ := Option.ne_none_iff_exists'.mp hafter
  constructor
  · obtain hlast | ⟨j, shape, hj, hm⟩ :=
      scanDown_attained cues indent inside last n (lines.take i)
    · exact Or.inl hlast
    · obtain ⟨hji, hj⟩ := (hfront j shape).mp hj
      exact Or.inr ⟨j, shape, hji, hj, hm⟩
  · rintro m (rfl | ⟨j, shape, hji, hj, rfl⟩)
    · exact le_scanDown cues indent inside m n (lines.take i)
    · exact le_scanDown_of_insideAfter? last n hafter ((hfront j shape).mpr ⟨hji, hj⟩)

/-- Of the lines from there on, the scan takes at most the one that closes the block. -/
theorem scanDown_of_scanStop_eq {i n : Nat} (last : Nat)
    (h : scanStop cues indent inside n lines = n + i) :
    scanDown cues indent inside last n lines =
      if closes cues indent lines[i]?.join then
        max (scanDown cues indent inside last n (lines.take i)) (n + i)
      else scanDown cues indent inside last n (lines.take i) := by
  cases hi : lines[i]? with
  | none =>
    have hle := List.getElem?_eq_none_iff.mp hi
    rw [List.take_of_length_le hle]
    rfl
  | some line =>
    obtain ⟨hlt, hline⟩ := List.getElem?_eq_some_iff.mp hi
    have hlines : lines.take i ++ line :: lines.drop (i + 1) = lines := by
      rw [← hline, List.getElem_cons_drop, List.take_append_drop]
    have hlength : (lines.take i).length = i := List.length_take_of_le (Nat.le_of_lt hlt)
    have hbreak : scanStop cues indent inside n (lines.take i ++ line :: lines.drop (i + 1)) =
        n + (lines.take i).length := by
      rw [hlines, hlength]
      exact h
    obtain ⟨inside', -, hnext, hscan⟩ := exists_of_scanStop_eq last hbreak
    rw [hlines, hlength, reach_verdict_of_next?_eq_none hnext] at hscan
    exact hscan

end Scan

/-- The shape of line `n` of a document; none when the line is blank or there is none. -/
def shapeAt? (lines : List String) (n : Nat) : Option Shape := lines[n]?.bind shape?

section Document

variable (cues : Cues) (indent : Nat) (lines : List String) (head : Nat)

/-- At line `n` the body of the block at line `head` has begun: the head is a declaration, or a line
from there on is deeper than it or opens a scope. -/
def Entered (n : Nat) : Prop :=
  (∃ shape ∈ shapeAt? lines head, cues.isDeclarationTerminator shape.last = true) ∨
    ∃ m, head ≤ m ∧ m < n ∧ ∃ shape ∈ shapeAt? lines m,
      indent < shape.column ∨ cues.opensBlock shape.first shape.last = true

/-- Line `n` ends the block at line `head`: it is less indented, or at the column of a block that
has been entered and no continuation of it. -/
def IsStop (n : Nat) : Prop :=
  head ≤ n ∧ ∃ shape ∈ shapeAt? lines n, shape.column < indent ∨
    shape.column = indent ∧ Entered cues indent lines head n ∧
      cues.isContinuation shape.first = false

/-- Line `n` is at the column of the block and starts with a closer. -/
def IsClosing (n : Nat) : Prop :=
  ∃ shape ∈ shapeAt? lines n, shape.column = indent ∧ cues.isCloser shape.first = true

theorem join_getElem?_drop (i : Nat) :
    ((lines.map shape?).drop head)[i]?.join = shapeAt? lines (head + i) := by
  rw [List.getElem?_drop, List.getElem?_map, shapeAt?]
  cases lines[head + i]? <;> rfl

variable {cues indent lines head}

theorem getElem?_drop_eq_some_iff {i : Nat} {shape : Shape} :
    ((lines.map shape?).drop head)[i]? = some (some shape) ↔
      shapeAt? lines (head + i) = some shape := by
  rw [← join_getElem?_drop, Option.join_eq_some_iff]

theorem isClosing_iff {n : Nat} :
    IsClosing cues indent lines n ↔ closes cues indent (shapeAt? lines n) = true := by
  unfold IsClosing
  cases shapeAt? lines n <;> simp [closes]

theorem entered_iff {i : Nat} :
    Entered cues indent lines head (head + i) ↔
      (isDeclaration cues ((lines.map shape?).drop head).head?.join ||
        (((lines.map shape?).drop head).take i).any (enters cues indent)) = true := by
  have hhead : ((lines.map shape?).drop head).head?.join = shapeAt? lines head := by
    rw [List.head?_eq_getElem?]
    exact join_getElem?_drop lines head 0
  rw [Bool.or_eq_true, hhead, Entered, List.any_eq_true]
  apply or_congr
  · cases shapeAt? lines head <;> simp [isDeclaration]
  · constructor
    · rintro ⟨m, hm, hlt, shape, hshape, henters⟩
      obtain ⟨j, rfl⟩ := Nat.exists_eq_add_of_le hm
      have hj : (((lines.map shape?).drop head).take i)[j]? = some (some shape) := by
        rw [List.getElem?_take_of_lt (by omega)]
        exact getElem?_drop_eq_some_iff.mpr hshape
      exact ⟨some shape, List.mem_of_getElem? hj, by simpa [enters] using henters⟩
    · rintro ⟨line, hline, henters⟩
      obtain ⟨j, hj⟩ := List.getElem?_of_mem hline
      cases line with
      | none => cases henters
      | some shape =>
        have hlt : j < i := by
          have hlength := (List.getElem?_eq_some_iff.mp hj).1
          rw [List.length_take] at hlength
          omega
        rw [List.getElem?_take_of_lt hlt] at hj
        exact ⟨head + j, by omega, by omega, shape, getElem?_drop_eq_some_iff.mp hj,
          by simpa [enters] using henters⟩

theorem isStop_iff {i : Nat} :
    IsStop cues indent lines head (head + i) ↔
      ∃ line, ((lines.map shape?).drop head)[i]? = some line ∧
        ends cues indent (isDeclaration cues ((lines.map shape?).drop head).head?.join ||
          (((lines.map shape?).drop head).take i).any (enters cues indent)) line = true := by
  rw [IsStop, entered_iff, ← join_getElem?_drop]
  cases ((lines.map shape?).drop head)[i]? with
  | none => simp
  | some line =>
    cases line with
    | none => simp [ends]
    | some shape => simp [ends, and_assoc, and_left_comm]

/-- The scan breaks off at the least stop, and runs to the end of the document if there is none. -/
theorem isLeast_stopLine (hhead : head ≤ lines.length) :
    IsLeast (insert lines.length {n | IsStop cues indent lines head n})
      (stopLine cues indent (lines.map shape?) head) := by
  have hset : insert lines.length {n | IsStop cues indent lines head n} =
      {m | m = head + ((lines.map shape?).drop head).length ∨
        ∃ i line, ((lines.map shape?).drop head)[i]? = some line ∧ m = head + i ∧
          ends cues indent (isDeclaration cues ((lines.map shape?).drop head).head?.join ||
            (((lines.map shape?).drop head).take i).any (enters cues indent)) line = true} := by
    ext m
    have hlength : head + ((lines.map shape?).drop head).length = lines.length := by
      rw [List.length_drop, List.length_map]
      omega
    rw [hlength]
    apply or_congr Iff.rfl
    constructor
    · intro hstop
      obtain ⟨i, rfl⟩ := Nat.exists_eq_add_of_le hstop.1
      obtain ⟨line, hline, hends⟩ := isStop_iff.mp hstop
      exact ⟨i, line, hline, rfl, hends⟩
    · rintro ⟨i, line, hline, rfl, hends⟩
      exact isStop_iff.mpr ⟨line, hline, hends⟩
  rw [hset]
  exact isLeast_scanStop cues indent _ head _

theorem isGreatest_scanDown_take_drop {i : Nat} (seed : Nat)
    (hi : head + i ≤ stopLine cues indent (lines.map shape?) head) :
    IsGreatest ({seed} ∪ {n | head ≤ n ∧ n < head + i ∧ shapeAt? lines n ≠ none})
      (scanDown cues indent (isDeclaration cues ((lines.map shape?).drop head).head?.join) seed head
        (((lines.map shape?).drop head).take i)) := by
  have hset : {seed} ∪ {n | head ≤ n ∧ n < head + i ∧ shapeAt? lines n ≠ none} =
      {m | m = seed ∨ ∃ j shape, j < i ∧
        ((lines.map shape?).drop head)[j]? = some (some shape) ∧ m = head + j} := by
    ext m
    apply or_congr Iff.rfl
    constructor
    · rintro ⟨hm, hlt, hshape⟩
      obtain ⟨j, rfl⟩ := Nat.exists_eq_add_of_le hm
      obtain ⟨shape, hshape⟩ := Option.ne_none_iff_exists'.mp hshape
      exact ⟨j, shape, by omega, getElem?_drop_eq_some_iff.mpr hshape, rfl⟩
    · rintro ⟨j, shape, hj, hshape, rfl⟩
      rw [getElem?_drop_eq_some_iff] at hshape
      exact ⟨by omega, by omega, by simp [hshape]⟩
  rw [hset]
  exact isGreatest_scanDown_take seed hi

/-- The body of a block ends at the last of the lines with content above its least stop, at that
stop where it closes the block, or at `seed`, whichever comes last. -/
theorem bodyEnd_isGreatest (cues : Cues) (indent : Nat) (lines : List String) (head seed : Nat)
    (hhead : head < lines.length) :
    ∃ k, IsLeast (insert lines.length {n | IsStop cues indent lines head n}) k ∧
      IsGreatest ({seed} ∪ {n | head ≤ n ∧ n < k ∧ shapeAt? lines n ≠ none} ∪
          {n | n = k ∧ IsClosing cues indent lines n})
        (bodyEnd cues indent (lines.map shape?) head seed) := by
  refine ⟨_, isLeast_stopLine (Nat.le_of_lt hhead), ?_⟩
  have hle : head ≤ stopLine cues indent (lines.map shape?) head := le_scanStop ..
  obtain ⟨i, hi⟩ := Nat.exists_eq_add_of_le hle
  have habove := isGreatest_scanDown_take_drop seed (Nat.le_of_eq hi.symm)
  have hend := scanDown_of_scanStop_eq seed hi
  change bodyEnd cues indent (lines.map shape?) head seed = _ at hend
  rw [join_getElem?_drop] at hend
  rw [hi, hend]
  by_cases hclosing : IsClosing cues indent lines (head + i)
  · have hlast : {n | n = head + i ∧ IsClosing cues indent lines n} = {head + i} := by
      ext n
      constructor
      · exact And.left
      · rintro rfl
        exact ⟨rfl, hclosing⟩
    rw [if_pos (isClosing_iff.mp hclosing), hlast]
    exact habove.union isGreatest_singleton
  · have hlast : {n | n = head + i ∧ IsClosing cues indent lines n} = ∅ := by
      ext n
      constructor
      · rintro ⟨rfl, h⟩
        exact hclosing h
      · exact False.elim
    rw [if_neg (mt isClosing_iff.mpr hclosing), hlast, Set.union_empty]
    exact habove

/-- A body that is entered by an opener at its own column, continued there and closed there. -/
theorem bodyEnd_isGreatest_braced :
    let lines := ["f(x)", "\x7b", "  g(", ")", "", "\x7d", "h"]
    bodyEnd {} 0 (lines.map shape?) 0 0 = 5 ∧
      ∃ k, IsLeast (insert lines.length {n | IsStop {} 0 lines 0 n}) k ∧
        IsGreatest ({0} ∪ {n | 0 ≤ n ∧ n < k ∧ shapeAt? lines n ≠ none} ∪
          {n | n = k ∧ IsClosing {} 0 lines n}) 5 := by
  intro lines
  have hend : bodyEnd {} 0 (lines.map shape?) 0 0 = 5 := by decide
  have hgreatest := bodyEnd_isGreatest {} 0 lines 0 0 (by decide)
  rw [hend] at hgreatest
  exact ⟨hend, hgreatest⟩

end Document

end Excerpt.Bounds
