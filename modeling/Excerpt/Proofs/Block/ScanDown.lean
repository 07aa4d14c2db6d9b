import Mathlib.Data.List.Basic
import Excerpt.Block
import Excerpt.Proofs.Text.Ink

/-! The downward scan, taken apart at any line. The scan of some lines is the scan of the first of
them, followed by that of the rest in the state the first leave behind. -/
namespace Excerpt.Bounds
open Text (Shape)

namespace Verdict

/-- Whether the scan is inside the block after a line; none when the line ends it. -/
def next? (inside : Bool) : Verdict → Option Bool
  | skip | keep => some inside
  | enter => some true
  | close | stop => none

/-- The last line of the block after line `n`, where `last` is the one before it. -/
def reach (last n : Nat) : Verdict → Nat
  | skip | stop => last
  | keep | enter | close => max last n

theorem reach_eq_or (last n : Nat) (v : Verdict) :
    v.reach last n = last ∨ v.reach last n = max last n := by
  cases v <;> simp [reach]

theorem le_reach (last n : Nat) (v : Verdict) : last ≤ v.reach last n := by
  rcases v.reach_eq_or last n with h | h <;> omega

theorem reach_add (last n k : Nat) (v : Verdict) :
    v.reach (last + k) (n + k) = v.reach last n + k := by
  cases v <;> simp [reach, Nat.add_max_add_right]

end Verdict

@[simp] theorem verdict_none (cues : Cues) (indent : Nat) (inside : Bool) :
    verdict cues indent inside none = .skip := rfl

theorem verdict_of_column_lt (cues : Cues) {indent : Nat} (inside : Bool) {shape : Shape}
    (h : shape.column < indent) : verdict cues indent inside (some shape) = .stop := by
  simp [verdict, h]

theorem verdict_of_lt_column (cues : Cues) {indent : Nat} (inside : Bool) {shape : Shape}
    (h : indent < shape.column) : verdict cues indent inside (some shape) = .enter := by
  have hlt : ¬ shape.column < indent := by omega
  have hne : shape.column ≠ indent := by omega
  simp [verdict, hlt, hne, h]

/-- A line with content that does not end the scan belongs to the block. -/
theorem reach_verdict_of_next? {cues : Cues} {indent : Nat} {inside inside' : Bool} {shape : Shape}
    (h : (verdict cues indent inside (some shape)).next? inside = some inside') (last n : Nat) :
    (verdict cues indent inside (some shape)).reach last n = max last n := by
  unfold verdict at h ⊢
  dsimp only at h ⊢
  split_ifs at h ⊢ <;> simp_all [Verdict.next?, Verdict.reach]

/-- Whether a line puts the scan inside the block. -/
def enters (cues : Cues) (indent : Nat) : Option Shape → Bool
  | none => false
  | some shape => indent < shape.column || cues.opensBlock shape.first shape.last

/-- Whether a line ends the scan. -/
def ends (cues : Cues) (indent : Nat) (inside : Bool) : Option Shape → Bool
  | none => false
  | some shape => shape.column < indent ||
      (inside && shape.column == indent && !cues.isContinuation shape.first)

theorem next?_verdict (cues : Cues) (indent : Nat) (inside : Bool) (line : Option Shape) :
    (verdict cues indent inside line).next? inside =
      if ends cues indent inside line then none else some (inside || enters cues indent line) := by
  cases line with
  | none => simp [ends, enters, Verdict.next?]
  | some shape =>
    rcases Nat.lt_trichotomy shape.column indent with hlt | heq | hgt
    · rw [verdict_of_column_lt cues inside hlt]
      simp [ends, hlt, Verdict.next?]
    · unfold verdict ends enters
      cases inside <;> cases hc : cues.isContinuation shape.first <;>
        cases ho : cues.opensBlock shape.first shape.last <;>
        cases hr : cues.isCloser shape.first <;> simp [heq, hc, ho, hr, Verdict.next?]
    · have hle : ¬ shape.column < indent := by omega
      have hne : shape.column ≠ indent := by omega
      rw [verdict_of_lt_column cues inside hgt]
      simp [ends, enters, hgt, hle, hne, Verdict.next?]

theorem scanDown_cons (cues : Cues) (indent : Nat) (inside : Bool) (last n : Nat)
    (line : Option Shape) (below : List (Option Shape)) :
    scanDown cues indent inside last n (line :: below) =
      match (verdict cues indent inside line).next? inside with
      | some inside' =>
        scanDown cues indent inside' ((verdict cues indent inside line).reach last n) (n + 1) below
      | none => (verdict cues indent inside line).reach last n := by
  rw [scanDown]
  cases verdict cues indent inside line <;> rfl

theorem le_scanDown (cues : Cues) (indent : Nat) (inside : Bool) (last n : Nat)
    (lines : List (Option Shape)) : last ≤ scanDown cues indent inside last n lines := by
  induction lines generalizing inside last n with
  | nil => exact Nat.le_refl last
  | cons line below ih =>
    have hreach := (verdict cues indent inside line).le_reach last n
    rw [scanDown_cons]
    cases (verdict cues indent inside line).next? inside with
    | none => exact hreach
    | some inside' => exact Nat.le_trans hreach (ih inside' _ (n + 1))

/-- The scan ends on the last line it was given, or on a line with content that it met. -/
theorem scanDown_attained (cues : Cues) (indent : Nat) (inside : Bool) (last n : Nat)
    (lines : List (Option Shape)) :
    scanDown cues indent inside last n lines = last ∨
      ∃ i shape, lines[i]? = some (some shape) ∧
        scanDown cues indent inside last n lines = n + i := by
  induction lines generalizing inside last n with
  | nil => exact Or.inl rfl
  | cons line below ih =>
    have hline : (verdict cues indent inside line).reach last n = last ∨
        ∃ shape, line = some shape ∧ (verdict cues indent inside line).reach last n = n := by
      cases line with
      | none => exact Or.inl rfl
      | some shape =>
        rcases (verdict cues indent inside (some shape)).reach_eq_or last n with h | h
        · exact Or.inl h
        · rcases Nat.le_total n last with hle | hle
          · exact Or.inl (h.trans (Nat.max_eq_left hle))
          · exact Or.inr ⟨shape, rfl, h.trans (Nat.max_eq_right hle)⟩
    have hhead : ∀ r, r = (verdict cues indent inside line).reach last n →
        r = last ∨ ∃ i shape, (line :: below)[i]? = some (some shape) ∧ r = n + i := by
      rintro r rfl
      rcases hline with h | ⟨shape, rfl, h⟩
      · exact Or.inl h
      · exact Or.inr ⟨0, shape, rfl, h⟩
    rw [scanDown_cons]
    cases (verdict cues indent inside line).next? inside with
    | none => exact hhead _ rfl
    | some inside' =>
      rcases ih inside' ((verdict cues indent inside line).reach last n) (n + 1) with
        h | ⟨i, shape, hi, h⟩
      · exact hhead _ h
      · exact Or.inr ⟨i + 1, shape, by simpa using hi, h.trans (by omega)⟩

theorem scanDown_eq_or_lt (cues : Cues) (indent : Nat) (inside : Bool) (last n : Nat)
    (lines : List (Option Shape)) :
    scanDown cues indent inside last n lines = last ∨
      n ≤ scanDown cues indent inside last n lines ∧
        scanDown cues indent inside last n lines < n + lines.length := by
  rcases scanDown_attained cues indent inside last n lines with h | ⟨i, shape, hi, h⟩
  · exact Or.inl h
  · obtain ⟨hlt, -⟩ := List.getElem?_eq_some_iff.mp hi
    exact Or.inr ⟨by omega, by omega⟩

/-- A scan that is given an end at or past all of its lines stays there. -/
theorem scanDown_of_le (cues : Cues) (indent : Nat) (inside : Bool) {last n : Nat}
    {lines : List (Option Shape)} (h : n + lines.length ≤ last + 1) :
    scanDown cues indent inside last n lines = last := by
  have hle := le_scanDown cues indent inside last n lines
  rcases scanDown_eq_or_lt cues indent inside last n lines with heq | ⟨-, hlt⟩
  · exact heq
  · omega

/-- Whether the scan is inside the block after some lines; none when one of them ends it. -/
def insideAfter? (cues : Cues) (indent : Nat) (inside : Bool) (lines : List (Option Shape)) :
    Option Bool :=
  lines.foldlM (fun inside line => (verdict cues indent inside line).next? inside) inside

theorem insideAfter?_cons (cues : Cues) (indent : Nat) (inside : Bool) (line : Option Shape)
    (below : List (Option Shape)) :
    insideAfter? cues indent inside (line :: below) =
      ((verdict cues indent inside line).next? inside).bind fun inside' =>
        insideAfter? cues indent inside' below := rfl

/-- Lines that end the scan on neither side of the block's start only add to what it knows. -/
theorem insideAfter?_of_forall {cues : Cues} {indent : Nat} (inside : Bool)
    {lines : List (Option Shape)} (h : ∀ line ∈ lines, ends cues indent true line = false) :
    insideAfter? cues indent inside lines = some (inside || lines.any (enters cues indent)) := by
  induction lines generalizing inside with
  | nil =>
    rw [List.any_nil, Bool.or_false]
    rfl
  | cons line below ih =>
    have hline : ends cues indent inside line = false := by
      have htrue := h line List.mem_cons_self
      cases line with
      | none => rfl
      | some shape =>
        simp only [ends, Bool.true_and, Bool.or_eq_false_iff] at htrue ⊢
        cases inside <;> simp_all
    rw [insideAfter?_cons, next?_verdict, hline, List.any_cons, ← Bool.or_assoc]
    exact ih _ fun line hmem => h line (List.mem_cons_of_mem _ hmem)

/-- A scan that goes on past some lines has reached all of them that have content. -/
theorem le_scanDown_of_insideAfter? {cues : Cues} {indent : Nat} {inside inside' : Bool}
    (last n : Nat) {lines : List (Option Shape)} {i : Nat} {shape : Shape}
    (hafter : insideAfter? cues indent inside lines = some inside')
    (hi : lines[i]? = some (some shape)) :
    n + i ≤ scanDown cues indent inside last n lines := by
  induction lines generalizing inside last n i with
  | nil => simp at hi
  | cons line below ih =>
    rw [insideAfter?_cons] at hafter
    obtain ⟨inside'', hnext, hbelow⟩ := Option.bind_eq_some_iff.mp hafter
    rw [scanDown_cons, hnext]
    dsimp only
    cases i with
    | zero =>
      have hline : line = some shape := by simpa using hi
      subst hline
      have hle := le_scanDown cues indent inside''
        ((verdict cues indent inside (some shape)).reach last n) (n + 1) below
      rw [reach_verdict_of_next? hnext] at hle ⊢
      omega
    | succ i =>
      have hle := ih ((verdict cues indent inside line).reach last n) (n + 1) hbelow
        (by simpa using hi)
      omega

/-- The scan of lines that do not end it goes on with the lines below. -/
theorem scanDown_append_of_some {cues : Cues} {indent : Nat} {inside inside' : Bool}
    (last n : Nat) {front : List (Option Shape)} (back : List (Option Shape))
    (hafter : insideAfter? cues indent inside front = some inside') :
    scanDown cues indent inside last n (front ++ back) =
      scanDown cues indent inside' (scanDown cues indent inside last n front) (n + front.length)
        back := by
  induction front generalizing inside last n with
  | nil =>
    cases hafter
    rfl
  | cons line below ih =>
    rw [insideAfter?_cons] at hafter
    obtain ⟨inside'', hnext, hbelow⟩ := Option.bind_eq_some_iff.mp hafter
    rw [List.cons_append, scanDown_cons, scanDown_cons, hnext]
    dsimp only
    rw [ih _ _ hbelow, List.length_cons, Nat.add_assoc, Nat.add_comm 1]

/-- The scan of lines that end it does not see the lines below. -/
theorem scanDown_append_of_none {cues : Cues} {indent : Nat} {inside : Bool} (last n : Nat)
    {front : List (Option Shape)} (back : List (Option Shape))
    (hafter : insideAfter? cues indent inside front = none) :
    scanDown cues indent inside last n (front ++ back) =
      scanDown cues indent inside last n front := by
  induction front generalizing inside last n with
  | nil => cases hafter
  | cons line below ih =>
    rw [insideAfter?_cons] at hafter
    rw [List.cons_append, scanDown_cons, scanDown_cons]
    cases hnext : (verdict cues indent inside line).next? inside with
    | none => rfl
    | some inside' =>
      rw [hnext] at hafter
      exact ih _ _ hafter

theorem scanDown_append_blank (cues : Cues) (indent : Nat) (inside : Bool) (last n : Nat)
    (lines : List (Option Shape)) :
    scanDown cues indent inside last n (lines ++ [none]) =
      scanDown cues indent inside last n lines := by
  cases hafter : insideAfter? cues indent inside lines with
  | none => exact scanDown_append_of_none last n [none] hafter
  | some inside' =>
    rw [scanDown_append_of_some last n [none] hafter]
    rfl

/-- Nothing is added to the block where the first content below its last line stops the scan. -/
theorem scanDown_of_findSome? {cues : Cues} {indent : Nat} {inside : Bool} (last n : Nat)
    {lines : List (Option Shape)}
    (h : ∀ shape, lines.findSome? id = some shape →
      verdict cues indent inside (some shape) = .stop) :
    scanDown cues indent inside last n lines = last := by
  induction lines generalizing n with
  | nil => rfl
  | cons line below ih =>
    cases line with
    | none => exact ih (n + 1) fun shape hshape => h shape hshape
    | some shape =>
      rw [scanDown_cons, h shape rfl]
      rfl

/-- Lines below the end of the block do not count. -/
theorem scanDown_append_of_lt {cues : Cues} {indent : Nat} {inside : Bool} {last n : Nat}
    {front back : List (Option Shape)}
    (h : scanDown cues indent inside last n (front ++ back) < n + front.length) :
    scanDown cues indent inside last n (front ++ back) =
      scanDown cues indent inside last n front := by
  cases hafter : insideAfter? cues indent inside front with
  | none => exact scanDown_append_of_none last n back hafter
  | some inside' =>
    rw [scanDown_append_of_some last n back hafter] at h ⊢
    rcases scanDown_eq_or_lt cues indent inside' (scanDown cues indent inside last n front)
      (n + front.length) back with heq | ⟨hle, -⟩
    · exact heq
    · omega

/-- The scan goes on past all lines above a line of the block that lies past the given end. -/
theorem exists_insideAfter?_of_le {cues : Cues} {indent : Nat} {inside : Bool} {last n : Nat}
    {front back : List (Option Shape)}
    (hlast : last < scanDown cues indent inside last n (front ++ back))
    (hle : n + front.length ≤ scanDown cues indent inside last n (front ++ back)) :
    ∃ inside', insideAfter? cues indent inside front = some inside' := by
  cases hafter : insideAfter? cues indent inside front with
  | some inside' => exact ⟨inside', rfl⟩
  | none =>
    rw [scanDown_append_of_none last n back hafter] at hlast hle
    rcases scanDown_eq_or_lt cues indent inside last n front with heq | ⟨-, hlt⟩
    · omega
    · omega

/-- No line of a block that lies past the given end is less indented than its head. -/
theorem indent_le_column_of_le_scanDown {cues : Cues} {indent : Nat} {inside : Bool} {last n : Nat}
    {lines : List (Option Shape)} {i : Nat} {shape : Shape}
    (hlast : last < scanDown cues indent inside last n lines)
    (hle : n + i ≤ scanDown cues indent inside last n lines)
    (hi : lines[i]? = some (some shape)) : indent ≤ shape.column := by
  obtain ⟨hlt, hget⟩ := List.getElem?_eq_some_iff.mp hi
  have hlines : lines = lines.take i ++ some shape :: lines.drop (i + 1) := by
    rw [← hget, List.getElem_cons_drop, List.take_append_drop]
  have hlength : (lines.take i).length = i := List.length_take_of_le (Nat.le_of_lt hlt)
  rw [hlines] at hlast hle
  obtain ⟨inside', hafter⟩ := exists_insideAfter?_of_le hlast (by rw [hlength]; exact hle)
  rw [scanDown_append_of_some last n _ hafter] at hlast hle
  by_contra hcolumn
  rw [scanDown_cons, verdict_of_column_lt cues inside' (by omega)] at hlast hle
  change last < scanDown cues indent inside last n (lines.take i) at hlast
  change n + i ≤ scanDown cues indent inside last n (lines.take i) at hle
  rcases scanDown_eq_or_lt cues indent inside last n (lines.take i) with heq | ⟨-, hlt'⟩
  · omega
  · omega

theorem scanDown_add (cues : Cues) (indent : Nat) (inside : Bool) (last n k : Nat)
    (lines : List (Option Shape)) :
    scanDown cues indent inside (last + k) (n + k) lines =
      scanDown cues indent inside last n lines + k := by
  induction lines generalizing inside last n with
  | nil => rfl
  | cons line below ih =>
    rw [scanDown_cons, scanDown_cons, Verdict.reach_add, Nat.add_right_comm n k 1]
    cases (verdict cues indent inside line).next? inside with
    | none => rfl
    | some inside' => exact ih inside' _ (n + 1)

/-- A line and its base column may move to the left together. -/
theorem verdict_dedent (cues : Cues) {indent d : Nat} (inside : Bool) {line : Option Shape}
    (hd : d ≤ indent) (hline : ∀ shape, line = some shape → d ≤ shape.column) :
    verdict cues (indent - d) inside (line.map (Shape.dedent d)) =
      verdict cues indent inside line := by
  cases line with
  | none => rfl
  | some shape =>
    have hcolumn := hline shape rfl
    have hlt : shape.column - d < indent - d ↔ shape.column < indent := by omega
    have hgt : indent - d < shape.column - d ↔ indent < shape.column := by omega
    have heq : shape.column - d = indent - d ↔ shape.column = indent := by omega
    simp [verdict, Shape.dedent, hlt, hgt, heq]

theorem attachable_dedent (cues : Cues) {indent d : Nat} {line : Option Shape} (hd : d ≤ indent)
    (hline : ∀ shape, line = some shape → d ≤ shape.column) :
    attachable cues (indent - d) (line.map (Shape.dedent d)) = attachable cues indent line := by
  cases line with
  | none => rfl
  | some shape =>
    have hcolumn := hline shape rfl
    have hle : indent - d ≤ shape.column - d ↔ indent ≤ shape.column := by omega
    simp [attachable, Shape.dedent, hle]

theorem scanDown_dedent (cues : Cues) {indent d : Nat} (inside : Bool) (last n : Nat)
    {lines : List (Option Shape)} (hd : d ≤ indent)
    (hlines : ∀ shape, some shape ∈ lines → d ≤ shape.column) :
    scanDown cues (indent - d) inside last n (lines.map (Option.map (Shape.dedent d))) =
      scanDown cues indent inside last n lines := by
  induction lines generalizing inside last n with
  | nil => rfl
  | cons line below ih =>
    have hverdict := verdict_dedent cues inside hd fun shape h =>
      hlines shape (h ▸ List.mem_cons_self)
    rw [List.map_cons, scanDown_cons, scanDown_cons, hverdict]
    cases (verdict cues indent inside line).next? inside with
    | none => rfl
    | some inside' =>
      exact ih inside' _ (n + 1) fun shape h => hlines shape (List.mem_cons_of_mem line h)

/-- A scan from a deeper column ends no later than one from a shallower column over the same lines,
whatever the two know at their start. -/
theorem scanDown_le_of_indent_lt (cues : Cues) {outer inner : Nat} (inside inside' : Bool)
    (last last' n : Nat) (lines : List (Option Shape)) (h : outer < inner) :
    scanDown cues inner inside last n lines ≤
      max last (scanDown cues outer inside' last' n lines) := by
  induction lines generalizing inside inside' last last' n with
  | nil => exact Nat.le_max_left last last'
  | cons line below ih =>
    cases line with
    | none => exact ih inside inside' last last' (n + 1)
    | some shape =>
      by_cases hcolumn : shape.column < inner
      · rw [scanDown_cons, verdict_of_column_lt cues inside hcolumn]
        exact Nat.le_max_left last _
      · have houter : scanDown cues outer inside' last' n (some shape :: below) =
            scanDown cues outer true (max last' n) (n + 1) below := by
          rw [scanDown_cons, verdict_of_lt_column cues inside' (by omega)]
          rfl
        have hreach := (verdict cues inner inside (some shape)).reach_eq_or last n
        have hle := le_scanDown cues outer true (max last' n) (n + 1) below
        rw [scanDown_cons, houter]
        cases (verdict cues inner inside (some shape)).next? inside with
        | none =>
          dsimp only
          omega
        | some inside'' =>
          have hbelow := ih inside'' true ((verdict cues inner inside (some shape)).reach last n)
            (max last' n) (n + 1)
          dsimp only
          omega

end Excerpt.Bounds
