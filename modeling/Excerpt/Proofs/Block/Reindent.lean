import Excerpt.Proofs.Block.Cut

/-! Documents that move to the right as a whole. A margin of blanks in front of every line moves the
columns of all lines with content by its length, so that both scans decide as before. -/
namespace Excerpt
open Text Bounds

namespace Text

theorem dropColumns_append (n : Nat) (margin line : String) :
    dropColumns (n + margin.length) (margin ++ line) = dropColumns n line := by
  unfold dropColumns
  rw [String.toList_append, Nat.add_comm, ← String.length_toList, List.drop_length_add_append]

section Margin

variable {margin : String} (hmargin : ∀ c ∈ margin.toList, isBlank c = true)

include hmargin

theorem column?_append (line : String) :
    column? (margin ++ line) = (column? line).map (· + margin.length) := by
  have hnone : margin.toList.findIdx? (fun c => !isBlank c) = none := by
    apply List.findIdx?_eq_none_iff.mpr
    intro c hc
    simp [hmargin c hc]
  unfold column?
  rw [String.toList_append, List.findIdx?_append, hnone, String.length_toList]
  rfl

theorem indentedBy_append (line : String) : IndentedBy margin.length (margin ++ line) := by
  intro column hcolumn
  rw [Option.mem_def, column?_append hmargin] at hcolumn
  obtain ⟨column, -, rfl⟩ := Option.map_eq_some_iff.mp hcolumn
  exact Nat.le_add_left _ _

/-- Dedenting a line by its margin gives back its shape. -/
theorem dedent_shape?_append (line : String) :
    (shape? (margin ++ line)).map (Shape.dedent margin.length) = shape? line := by
  have hdrop := dropColumns_append 0 margin line
  have hline : dropColumns 0 line = line := by simp [dropColumns]
  rw [Nat.zero_add, hline] at hdrop
  rw [← shape?_dropColumns (indentedBy_append hmargin line), hdrop]

theorem map_dedent_shape?_append (lines : List String) :
    ((lines.map (margin ++ ·)).map shape?).map (Option.map (Shape.dedent margin.length)) =
      lines.map shape? := by
  rw [List.map_map, List.map_map]
  apply List.map_congr_left
  intro line _
  exact dedent_shape?_append hmargin line

theorem length_le_column_of_mem (lines : List String) {shape : Shape}
    (h : some shape ∈ (lines.map (margin ++ ·)).map shape?) : margin.length ≤ shape.column := by
  obtain ⟨line, hmem, hshape⟩ := List.mem_map.mp h
  obtain ⟨line, -, rfl⟩ := List.mem_map.mp hmem
  exact (indentedBy_append hmargin line).le_column hshape

end Margin

end Text

namespace Bounds

theorem scanUp_dedent (cues : Cues) {indent d : Nat} {shapes : List (Option Shape)} (head : Nat)
    (hd : d ≤ indent) (hshapes : ∀ shape, some shape ∈ shapes → d ≤ shape.column) :
    scanUp cues (indent - d) (shapes.map (Option.map (Shape.dedent d))) head =
      scanUp cues indent shapes head := by
  have hrun (above : List (Option Shape)) (habove : ∀ line ∈ above, line ∈ shapes) :
      above.takeWhile (attachable cues (indent - d) ∘ Option.map (Shape.dedent d)) =
        above.takeWhile (attachable cues indent) := by
    induction above with
    | nil => rfl
    | cons line above ih =>
      have hline : attachable cues (indent - d) (line.map (Shape.dedent d)) =
          attachable cues indent line := by
        apply attachable_dedent cues hd
        rintro shape rfl
        exact hshapes shape (habove _ List.mem_cons_self)
      have hrest := ih fun line hmem => habove line (List.mem_cons_of_mem _ hmem)
      rw [List.takeWhile_cons, List.takeWhile_cons, Function.comp_apply, hline, hrest]
  have hmem : ∀ line ∈ (shapes.take head).reverse, line ∈ shapes := by
    intro line hline
    exact List.mem_of_mem_take (List.mem_reverse.mp hline)
  unfold scanUp
  rw [← List.map_take, ← List.map_reverse, List.takeWhile_map, List.length_map, hrun _ hmem]

theorem bodyEnd_dedent (cues : Cues) {indent d : Nat} {shapes : List (Option Shape)}
    (head seed : Nat) (hd : d ≤ indent)
    (hshapes : ∀ shape, some shape ∈ shapes → d ≤ shape.column) :
    bodyEnd cues (indent - d) (shapes.map (Option.map (Shape.dedent d))) head seed =
      bodyEnd cues indent shapes head seed := by
  have hdeclaration (line : Option (Option Shape)) :
      isDeclaration cues (line.map (Option.map (Shape.dedent d))).join =
        isDeclaration cues line.join := by
    rcases line with _ | _ | shape <;> rfl
  unfold bodyEnd
  dsimp only
  rw [← List.map_drop, List.head?_map, hdeclaration]
  apply scanDown_dedent cues _ seed head hd
  intro shape hshape
  exact hshapes shape (List.mem_of_mem_drop hshape)

/-- A margin in front of every line is cut off with the indent of the block. -/
theorem text_append_margin (bounds : Bounds) (margin : String) (lines : List String) :
    ({ bounds with indent := bounds.indent + margin.length } : Bounds).text
        (lines.map (margin ++ ·)) = bounds.text lines := by
  have hslice : ({ bounds with indent := bounds.indent + margin.length } : Bounds).slice
      (lines.map (margin ++ ·)) = bounds.slice lines := by
    unfold slice
    rw [← List.map_drop, ← List.map_take, List.map_map]
    apply List.map_congr_left
    intro line _
    exact dropColumns_append bounds.indent margin line
  unfold text
  rw [hslice]

end Bounds

section Margin

variable {margin : String} (hmargin : ∀ c ∈ margin.toList, isBlank c = true)

include hmargin

theorem scanUp_append_margin (cues : Cues) (indent : Nat) (lines : List String) (head : Nat) :
    scanUp cues (indent + margin.length) ((lines.map (margin ++ ·)).map shape?) head =
      scanUp cues indent (lines.map shape?) head := by
  have hup := scanUp_dedent cues head (Nat.le_add_left margin.length indent)
    fun shape => length_le_column_of_mem hmargin lines
  rw [map_dedent_shape?_append hmargin, Nat.add_sub_cancel] at hup
  exact hup.symm

theorem bodyEnd_append_margin (cues : Cues) (indent : Nat) (lines : List String)
    (head seed : Nat) :
    bodyEnd cues (indent + margin.length) ((lines.map (margin ++ ·)).map shape?) head seed =
      bodyEnd cues indent (lines.map shape?) head seed := by
  have hdown := bodyEnd_dedent cues head seed (Nat.le_add_left margin.length indent)
    fun shape => length_le_column_of_mem hmargin lines
  rw [map_dedent_shape?_append hmargin, Nat.add_sub_cancel] at hdown
  exact hdown.symm

theorem find?_map_append (cues : Cues) {lines : List String} {range : Range} {line : String}
    (hline : lines[range.start.line.toNat]? = some line) (hcontent : column? line ≠ none) :
    find? cues (lines.map (margin ++ ·)) range = (find? cues lines range).map fun bounds =>
      { bounds with indent := bounds.indent + margin.length } := by
  obtain ⟨column, hcolumn⟩ := Option.ne_none_iff_exists'.mp hcontent
  have hindent : indentOf (margin ++ line) = indentOf line + margin.length := by
    unfold indentOf
    rw [column?_append hmargin, hcolumn]
    rfl
  have hmoved : (lines.map (margin ++ ·))[range.start.line.toNat]? = some (margin ++ line) := by
    rw [List.getElem?_map, hline, Option.map_some]
  rw [find?_of_getElem? cues hmoved, find?_of_getElem? cues hline, hindent, List.length_map,
    scanUp_append_margin hmargin, bodyEnd_append_margin hmargin, Option.map_some]

end Margin

/-- A document whose lines all move to the right by the same blanks has the same block at a line
with content. Its indent grows by the number of the blanks, and its text is the same. -/
theorem find?_append_margin (cues : Cues) {lines : List String} {range : Range} {margin : String}
    (hmargin : ∀ c ∈ margin.toList, isBlank c = true)
    (hhead : ∃ line ∈ lines[range.start.line.toNat]?, column? line ≠ none) :
    ∃ bounds moved, find? cues lines range = some bounds ∧
      find? cues (lines.map (margin ++ ·)) range = some moved ∧
      moved.firstLine = bounds.firstLine ∧ moved.lastLine = bounds.lastLine ∧
      moved.indent = bounds.indent + margin.length ∧
      moved.text (lines.map (margin ++ ·)) = bounds.text lines := by
  obtain ⟨line, hline, hcontent⟩ := hhead
  obtain ⟨bounds, hfind⟩ : ∃ bounds, find? cues lines range = some bounds :=
    ⟨_, find?_of_getElem? cues hline⟩
  have hmoved := find?_map_append hmargin cues hline hcontent
  rw [hfind, Option.map_some] at hmoved
  refine ⟨bounds, _, hfind, hmoved, rfl, rfl, rfl, ?_⟩
  exact text_append_margin bounds margin lines

/-- A method, its comment and a blank line, behind a tab and a wide space. -/
theorem find?_append_margin_method :
    ∃ bounds moved,
      find? {} ["class A:", "  # f", "  def f():", "", "    x", "b"] (Range.atLine 2) =
        some bounds ∧
      find? {} (["class A:", "  # f", "  def f():", "", "    x", "b"].map ("\t\u3000" ++ ·))
        (Range.atLine 2) = some moved ∧
      bounds = ⟨1, 4, 2⟩ ∧ moved = ⟨1, 4, 4⟩ ∧
      moved.text (["class A:", "  # f", "  def f():", "", "    x", "b"].map ("\t\u3000" ++ ·)) =
        "# f\ndef f():\n\n  x\n" := by
  have hblank : "\t\u3000".toList.all isBlank = true := by decide
  obtain ⟨bounds, moved, hfind, hmoved, -, -, -, htext⟩ := find?_append_margin {}
    (List.all_eq_true.mp hblank)
    (show ∃ line ∈ ["class A:", "  # f", "  def f():", "", "    x", "b"][
      (Range.atLine 2).start.line.toNat]?, column? line ≠ none from
        ⟨"  def f():", by decide, by decide⟩)
  have hbounds : bounds = ⟨1, 4, 2⟩ := Option.some.inj (hfind.symm.trans (by decide))
  have hmoved' : moved = ⟨1, 4, 4⟩ := Option.some.inj (hmoved.symm.trans (by decide))
  refine ⟨bounds, moved, hfind, hmoved, hbounds, hmoved', htext.trans ?_⟩
  rw [hbounds]
  decide

/-- A blank head counts as one at column 0 with any margin: its indent does not grow. -/
example : find? {} ["", "a", "b:"] (Range.atLine 0) = some ⟨0, 2, 0⟩ ∧
    find? {} [" ", " a", " b:"] (Range.atLine 0) = some ⟨0, 2, 0⟩ := by decide

end Excerpt
