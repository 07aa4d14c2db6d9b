import Excerpt.Proofs.Block.Cut

/-! The line at which the downward scan breaks off. A scan goes on past some lines exactly when it
stops below them. -/
namespace Excerpt
open Text Bounds

namespace Bounds

/-- The line at which a scan of the lines numbered from `n` breaks off; the line after the last one
when none of them ends it. -/
def scanStop (cues : Cues) (indent : Nat) : (inside : Bool) → (n : Nat) → List (Option Shape) → Nat
  | _, n, [] => n
  | inside, n, line :: below =>
    match verdict cues indent inside line with
    | .skip | .keep => scanStop cues indent inside (n + 1) below
    | .enter => scanStop cues indent true (n + 1) below
    | .close | .stop => n

/-- The line at which the downward scan from line `head` breaks off; the number of all lines when it
reaches the end. -/
def stopLine (cues : Cues) (indent : Nat) (shapes : List (Option Shape)) (head : Nat) : Nat :=
  let below := shapes.drop head
  scanStop cues indent (isDeclaration cues (below.head?.join)) head below

theorem scanStop_cons (cues : Cues) (indent : Nat) (inside : Bool) (n : Nat) (line : Option Shape)
    (below : List (Option Shape)) :
    scanStop cues indent inside n (line :: below) =
      match (verdict cues indent inside line).next? inside with
      | some inside' => scanStop cues indent inside' (n + 1) below
      | none => n := by
  rw [scanStop]
  cases verdict cues indent inside line <;> rfl

theorem le_scanStop (cues : Cues) (indent : Nat) (inside : Bool) (n : Nat)
    (lines : List (Option Shape)) : n ≤ scanStop cues indent inside n lines := by
  induction lines generalizing inside n with
  | nil => exact Nat.le_refl n
  | cons line below ih =>
    rw [scanStop_cons]
    cases (verdict cues indent inside line).next? inside with
    | none => exact Nat.le_refl n
    | some inside' =>
      have hle := ih inside' (n + 1)
      dsimp only
      omega

theorem scanStop_le (cues : Cues) (indent : Nat) (inside : Bool) (n : Nat)
    (lines : List (Option Shape)) : scanStop cues indent inside n lines ≤ n + lines.length := by
  induction lines generalizing inside n with
  | nil => exact Nat.le_refl n
  | cons line below ih =>
    rw [scanStop_cons, List.length_cons]
    cases (verdict cues indent inside line).next? inside with
    | none => exact Nat.le_add_right n _
    | some inside' =>
      have hle := ih inside' (n + 1)
      dsimp only
      omega

theorem insideAfter?_eq_none_iff {cues : Cues} {indent : Nat} {inside : Bool} (n : Nat)
    {front : List (Option Shape)} (back : List (Option Shape)) :
    insideAfter? cues indent inside front = none ↔
      scanStop cues indent inside n (front ++ back) < n + front.length := by
  induction front generalizing inside n with
  | nil =>
    have hle := le_scanStop cues indent inside n back
    constructor
    · intro h
      cases h
    · intro h
      exact absurd h (Nat.not_lt.mpr hle)
  | cons line below ih =>
    rw [insideAfter?_cons, List.cons_append, scanStop_cons, List.length_cons]
    cases (verdict cues indent inside line).next? inside with
    | none => simp
    | some inside' =>
      rw [Option.bind_some, ih (n + 1), Nat.add_assoc, Nat.add_comm 1]

/-- A scan that breaks off at a line went on past all lines above it, and the line ends it. -/
theorem exists_of_scanStop_eq {cues : Cues} {indent : Nat} {inside : Bool} (last : Nat) {n : Nat}
    {front back : List (Option Shape)} {line : Option Shape}
    (h : scanStop cues indent inside n (front ++ line :: back) = n + front.length) :
    ∃ inside', insideAfter? cues indent inside front = some inside' ∧
      (verdict cues indent inside' line).next? inside' = none ∧
      scanDown cues indent inside last n (front ++ line :: back) =
        (verdict cues indent inside' line).reach (scanDown cues indent inside last n front)
          (n + front.length) := by
  cases hafter : insideAfter? cues indent inside front with
  | none =>
    have hlt := (insideAfter?_eq_none_iff n (line :: back)).mp hafter
    omega
  | some inside' =>
    have hends : insideAfter? cues indent inside (front ++ [line]) = none := by
      rw [insideAfter?_eq_none_iff n back, List.append_assoc, List.singleton_append, h,
        List.length_append, List.length_singleton]
      omega
    have hnext : (verdict cues indent inside' line).next? inside' = none := by
      rw [insideAfter?, List.foldlM_append] at hends
      rw [insideAfter?] at hafter
      rw [hafter] at hends
      simpa using hends
    refine ⟨inside', rfl, hnext, ?_⟩
    rw [scanDown_append_of_some last n _ hafter, scanDown_cons, hnext]

/-- No line that the scan goes on past is less indented than its head. -/
theorem indent_le_column_of_insideAfter? {cues : Cues} {indent : Nat} {inside inside' : Bool}
    {lines : List (Option Shape)} {shape : Shape}
    (hafter : insideAfter? cues indent inside lines = some inside') (h : some shape ∈ lines) :
    indent ≤ shape.column := by
  induction lines generalizing inside with
  | nil => cases h
  | cons line below ih =>
    rw [insideAfter?_cons] at hafter
    obtain ⟨inside'', hnext, hbelow⟩ := Option.bind_eq_some_iff.mp hafter
    rcases List.mem_cons.mp h with rfl | hmem
    · by_contra hlt
      rw [verdict_of_column_lt cues inside (by omega)] at hnext
      cases hnext
    · exact ih hbelow hmem

end Bounds

namespace Cut

variable {cues : Cues}

/-- The line at which the scan from the head breaks off. -/
def stopLine (cut : Cut cues) : Nat :=
  scanStop cues cut.indent (isDeclaration cues (shape? cut.headLine)) cut.head cut.shapes

theorem stopLine_lines (cut : Cut cues) :
    Bounds.stopLine cues cut.indent (cut.lines.map shape?) cut.head = cut.stopLine := by
  rw [Bounds.stopLine, cut.drop_map_shape?]
  rfl

theorem head_le_stopLine (cut : Cut cues) : cut.head ≤ cut.stopLine :=
  le_scanStop cues _ _ _ _

theorem stopLine_le (cut : Cut cues) : cut.stopLine ≤ cut.lines.length := by
  have hle := scanStop_le cues cut.indent (isDeclaration cues (shape? cut.headLine)) cut.head
    cut.shapes
  rw [shapes, List.length_map, List.length_cons] at hle
  rw [stopLine, shapes, cut.length_lines]
  omega

end Cut

end Excerpt
