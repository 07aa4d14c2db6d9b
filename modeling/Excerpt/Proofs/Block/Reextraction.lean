import Excerpt.Proofs.Block.Cut
import Excerpt.Proofs.Text.Lines

/-! The search for a block inside the text of a block. A cut of a document stays a cut when lines at
both ends go and the rest moves to the left; the block of its head stays the same. -/
namespace Excerpt
open Text Bounds

namespace Text

/-- A line of a block as it comes back from the text of the block. -/
def dedentLine (d : Nat) (line : String) : String := chomp (dropColumns d line)

private theorem shape?_empty : shape? "" = none := by decide

theorem shape?_dedentLine {d : Nat} {line : String} (h : IndentedBy d line) :
    shape? (dedentLine d line) = (shape? line).map (Shape.dedent d) := by
  rw [dedentLine, shape?_chomp, shape?_dropColumns h]

theorem map_shape?_dedentLine {d : Nat} {lines : List String}
    (h : ∀ line ∈ lines, IndentedBy d line) :
    (lines.map (dedentLine d)).map shape? =
      (lines.map shape?).map (Option.map (Shape.dedent d)) := by
  rw [List.map_map, List.map_map]
  apply List.map_congr_left
  intro line hline
  rw [Function.comp_apply, Function.comp_apply, shape?_dedentLine (h line hline)]

theorem dedentLine_eq_dropColumns {d : Nat} {line : String}
    (h : line.toList.getLast? ≠ some '\r') : dedentLine d line = dropColumns d line := by
  apply chomp_eq_self
  rw [toList_dropColumns, List.getLast?_drop]
  split
  · simp
  · exact h

theorem IndentedBy.mono {d n : Nat} {line : String} (h : IndentedBy n line) (hd : d ≤ n) :
    IndentedBy d line :=
  fun column hcolumn => Nat.le_trans hd (h column hcolumn)

end Text

theorem indentOf_dedentLine {d : Nat} {line : String} (h : IndentedBy d line) :
    indentOf (dedentLine d line) = indentOf line - d := by
  rw [indentOf, indentOf, column?_eq_map_shape?, column?_eq_map_shape?, shape?_dedentLine h]
  cases shape? line with
  | none => simp
  | some shape => rfl

theorem isDeclaration_dedentLine (cues : Cues) {d : Nat} {line : String} (h : IndentedBy d line) :
    isDeclaration cues (shape? (dedentLine d line)) = isDeclaration cues (shape? line) := by
  rw [shape?_dedentLine h]
  cases shape? line with
  | none => rfl
  | some shape => rfl

theorem attachable_dedentLine (cues : Cues) {d indent : Nat} {line : String} (hd : d ≤ indent)
    (h : IndentedBy d line) :
    attachable cues (indent - d) (shape? (dedentLine d line)) =
      attachable cues indent (shape? line) := by
  rw [shape?_dedentLine h]
  exact attachable_dedent cues hd fun shape hshape => h.le_column hshape

theorem splitLines_text {bounds : Bounds} {lines : List String} (hspan : bounds.span lines ≠ [])
    (hnewline : ∀ line ∈ lines, '\n' ∉ line.toList) :
    splitLines (bounds.text lines) =
      (bounds.span lines).map (dedentLine bounds.indent) ++ [""] := by
  rw [text, slice_eq_map_span, splitLines_intercalate_newline (by simpa using hspan)]
  · rw [List.map_map]
    rfl
  · intro line hline
    obtain ⟨line, hmem, rfl⟩ := List.mem_map.mp hline
    rw [toList_dropColumns]
    intro hc
    exact hnewline line (List.mem_of_mem_drop (List.mem_of_mem_take hmem)) (List.mem_of_mem_drop hc)

namespace Cut

variable {cues : Cues}

theorem indentOf_dedentLine_headLine (cut : Cut cues) {d : Nat} (hd : d ≤ cut.indent) :
    indentOf (dedentLine d cut.headLine) = cut.indent - d :=
  indentOf_dedentLine (cut.indentedBy_headLine.mono hd)

/-- The cut of the text of a block at a head inside it. Of the lines above, `kept` are in the block,
and of those below, `near`. -/
def narrow (cut : Cut cues) {dropped kept : List String} (habove : cut.above = dropped ++ kept)
    {d : Nat} (hd : d ≤ cut.indent) (hkept : ∀ line ∈ kept.getLast?, IndentedBy d line)
    (near : List String) : Cut cues where
  above := kept.map (dedentLine d)
  attached := cut.attached.map (dedentLine d)
  headLine := dedentLine d cut.headLine
  below := near.map (dedentLine d) ++ [""]
  attachable_of_mem := by
    intro line hline
    obtain ⟨line, hmem, rfl⟩ := List.mem_map.mp hline
    have hindented := (cut.indentedBy_of_mem_attached hmem).mono hd
    rw [cut.indentOf_dedentLine_headLine hd, attachable_dedentLine cues hd hindented]
    exact cut.attachable_of_mem line hmem
  not_attachable := by
    intro line hline
    rw [List.getLast?_map] at hline
    obtain ⟨line, hmem, rfl⟩ := Option.map_eq_some_iff.mp hline
    have hlast : cut.above.getLast? = some line := by
      rw [habove, List.getLast?_append, hmem]
      rfl
    rw [cut.indentOf_dedentLine_headLine hd, attachable_dedentLine cues hd (hkept line hmem)]
    exact cut.not_attachable line hlast

variable (cut : Cut cues) {dropped kept : List String} (habove : cut.above = dropped ++ kept)
  {d : Nat} (hd : d ≤ cut.indent) (hkept : ∀ line ∈ kept.getLast?, IndentedBy d line)

theorem lines_narrow (near : List String) : (cut.narrow habove hd hkept near).lines =
    (kept ++ (cut.attached ++ cut.headLine :: near)).map (dedentLine d) ++ [""] := by
  simp [lines, narrow]

theorem head_narrow (near : List String) :
    (cut.narrow habove hd hkept near).head + dropped.length = cut.head := by
  simp only [head, narrow, List.length_map, habove, List.length_append]
  omega

theorem indent_narrow (near : List String) :
    (cut.narrow habove hd hkept near).indent = cut.indent - d :=
  cut.indentOf_dedentLine_headLine hd

theorem shapes_narrow (near : List String) : (cut.narrow habove hd hkept near).shapes =
    ((cut.headLine :: near).map (dedentLine d)).map shape? ++ [none] := by
  change ((cut.headLine :: near).map (dedentLine d) ++ [""]).map shape? = _
  rw [List.map_append, List.map_singleton, shape?_empty]

/-- The block of the head stays the same as long as it ends within the lines that are left. -/
theorem lastLine_narrow {near far : List String} (hbelow : cut.below = near ++ far)
    (hnear : ∀ line ∈ near, IndentedBy d line) {seed : Nat}
    (hle : cut.lastLine (seed + dropped.length) ≤ cut.head + near.length) :
    (cut.narrow habove hd hkept near).lastLine seed + dropped.length =
      cut.lastLine (seed + dropped.length) := by
  have hindented : ∀ line ∈ cut.headLine :: near, IndentedBy d line := by
    intro line hline
    rcases List.mem_cons.mp hline with rfl | hmem
    · exact cut.indentedBy_headLine.mono hd
    · exact hnear line hmem
  have hshapes : (cut.narrow habove hd hkept near).shapes =
      ((cut.headLine :: near).map shape?).map (Option.map (Shape.dedent d)) ++ [none] := by
    rw [cut.shapes_narrow, map_shape?_dedentLine hindented]
  have hcolumns : ∀ shape, some shape ∈ (cut.headLine :: near).map shape? → d ≤ shape.column := by
    intro shape hshape
    obtain ⟨line, hmem, hline⟩ := List.mem_map.mp hshape
    exact (hindented line hmem).le_column hline
  have hdeclaration := isDeclaration_dedentLine cues (hindented _ List.mem_cons_self)
  have hcut : cut.shapes = (cut.headLine :: near).map shape? ++ far.map shape? := by
    rw [shapes, hbelow, ← List.map_append]
    rfl
  rw [lastLine, hshapes, scanDown_append_blank, indent_narrow, ← scanDown_add, head_narrow]
  change scanDown cues (cut.indent - d) (isDeclaration cues (shape? (dedentLine d cut.headLine)))
    _ _ _ = _
  rw [hdeclaration, scanDown_dedent cues _ _ _ hd hcolumns]
  rw [lastLine, hcut] at hle ⊢
  have hlt : scanDown cues cut.indent (isDeclaration cues (shape? cut.headLine))
      (seed + dropped.length) cut.head ((cut.headLine :: near).map shape? ++ far.map shape?) <
      cut.head + ((cut.headLine :: near).map shape?).length := by
    rw [List.length_map, List.length_cons]
    omega
  rw [scanDown_append_of_lt hlt]

/-- Columns are cut from the lines of the block in two steps instead of one. -/
theorem text_narrow {near far : List String} (hbelow : cut.below = near ++ far) {seed : Nat}
    (hseed : cut.head ≤ seed + dropped.length)
    (hle : cut.lastLine (seed + dropped.length) ≤ cut.head + near.length)
    (hlast : (cut.narrow habove hd hkept near).lastLine seed + dropped.length =
      cut.lastLine (seed + dropped.length))
    (hreturn : ∀ line ∈ cut.lines, line.toList.getLast? ≠ some '\r') :
    ((cut.narrow habove hd hkept near).bounds seed).text (cut.narrow habove hd hkept near).lines =
      (cut.bounds (seed + dropped.length)).text cut.lines := by
  have hhead := cut.head_narrow habove hd hkept near
  have hcount : (cut.narrow habove hd hkept near).lastLine seed -
      (cut.narrow habove hd hkept near).head = cut.lastLine (seed + dropped.length) - cut.head := by
    omega
  have hspan : ((cut.narrow habove hd hkept near).bounds seed).span
      (cut.narrow habove hd hkept near).lines =
      ((cut.bounds (seed + dropped.length)).span cut.lines).map (dedentLine d) := by
    rw [span_bounds _ (by omega), cut.span_bounds hseed, hcount, hbelow]
    change cut.attached.map (dedentLine d) ++ dedentLine d cut.headLine ::
      (near.map (dedentLine d) ++ [""]).take _ = _
    rw [List.take_append_of_le_length (by rw [List.length_map]; omega),
      List.take_append_of_le_length (by omega), ← List.map_take, List.map_append, List.map_cons]
  have hslice : ((cut.bounds (seed + dropped.length)).span cut.lines).map
      (dropColumns (cut.indent - d) ∘ dedentLine d) =
      ((cut.bounds (seed + dropped.length)).span cut.lines).map (dropColumns cut.indent) := by
    apply List.map_congr_left
    intro line hline
    have hline' := hreturn line (List.mem_of_mem_drop (List.mem_of_mem_take hline))
    rw [Function.comp_apply, dedentLine_eq_dropColumns hline', dropColumns_dropColumns,
      Nat.add_sub_cancel' hd]
  rw [text, text, slice_eq_map_span, slice_eq_map_span, hspan, List.map_map, bounds_indent,
    indent_narrow, hslice, bounds_indent]

/-- The empty line that ends the text of a block is no part of it. -/
theorem lastLine_narrow_of_le (near : List String) {seed : Nat}
    (hle : (cut.narrow habove hd hkept near).head + near.length ≤ seed) :
    (cut.narrow habove hd hkept near).lastLine seed = seed := by
  rw [lastLine, cut.shapes_narrow, scanDown_append_blank]
  apply scanDown_of_le
  rw [List.length_map, List.length_map, List.length_cons]
  omega

private theorem above_eq_append_nil : cut.above = cut.above ++ [] := (List.append_nil _).symm

private theorem indentedBy_of_mem_nil (d : Nat) :
    ∀ line ∈ ([] : List String).getLast?, IndentedBy d line :=
  fun _ hline => nomatch hline

/-- The cut of the text of a block at the head of the block itself. -/
def again (seed : Nat) : Cut cues :=
  cut.narrow cut.above_eq_append_nil (Nat.le_refl cut.indent) (indentedBy_of_mem_nil cut.indent)
    (cut.below.take (cut.lastLine seed - cut.head))

theorem lines_again {seed : Nat} (hseed : cut.head ≤ seed)
    (hnewline : ∀ line ∈ cut.lines, '\n' ∉ line.toList) :
    (cut.again seed).lines = splitLines ((cut.bounds seed).text cut.lines) := by
  have hspan := cut.span_bounds hseed
  rw [splitLines_text (by rw [hspan]; simp) hnewline, hspan, again, lines_narrow, List.nil_append,
    bounds_indent]

theorem head_again (seed : Nat) : (cut.again seed).head + cut.above.length = cut.head :=
  cut.head_narrow _ _ _ _

theorem length_near {seed : Nat} (hlt : seed < cut.lines.length) :
    (cut.below.take (cut.lastLine seed - cut.head)).length = cut.lastLine seed - cut.head := by
  have hend := cut.lastLine_lt hlt
  rw [cut.length_lines] at hend
  exact List.length_take_of_le (by omega)

theorem lastLine_again {seed : Nat} (hseed : cut.head ≤ seed) (hlt : seed < cut.lines.length) :
    (cut.again seed).lastLine (seed - cut.above.length) + cut.above.length =
      cut.lastLine seed := by
  have hle := cut.le_lastLine seed
  have hnear := cut.length_near hlt
  have hagain := cut.head_again seed
  have hback : seed - cut.above.length + cut.above.length = seed := by omega
  by_cases hpast : seed < cut.lastLine seed
  -- the scan ended the block, and goes the same way again
  · have hnarrow := cut.lastLine_narrow cut.above_eq_append_nil (Nat.le_refl cut.indent)
      (indentedBy_of_mem_nil cut.indent)
      (List.take_append_drop (cut.lastLine seed - cut.head) cut.below).symm
      (fun line hline => cut.indentedBy_of_mem_below hpast hline)
      (show cut.lastLine (seed - cut.above.length + cut.above.length) ≤ _ by
        rw [hback, hnear]; omega)
    rw [hback] at hnarrow
    exact hnarrow
  -- the range ended the block, and some of its lines may have lost their code; none is left below
  · have hnothing := cut.lastLine_narrow_of_le cut.above_eq_append_nil (Nat.le_refl cut.indent)
      (indentedBy_of_mem_nil cut.indent) (cut.below.take (cut.lastLine seed - cut.head))
      (show (cut.again seed).head + _ ≤ seed - cut.above.length by rw [hnear]; omega)
    rw [again, hnothing]
    omega

theorem bounds_again {seed : Nat} (hseed : cut.head ≤ seed) (hlt : seed < cut.lines.length) :
    (cut.again seed).bounds (seed - cut.above.length) =
      ⟨0, (cut.bounds seed).lineCount - 1, 0⟩ := by
  have hlast := cut.lastLine_again hseed hlt
  have hcount : (cut.again seed).lastLine (seed - cut.above.length) =
      (cut.bounds seed).lineCount - 1 := by
    rw [lineCount, bounds_lastLine, bounds_firstLine]
    omega
  have hindent : (cut.again seed).indent = 0 := by rw [again, indent_narrow, Nat.sub_self]
  rw [bounds, hcount, hindent]
  rfl

theorem text_again {seed : Nat} (hseed : cut.head ≤ seed) (hlt : seed < cut.lines.length)
    (hreturn : ∀ line ∈ cut.lines, line.toList.getLast? ≠ some '\r') :
    ((cut.again seed).bounds (seed - cut.above.length)).text (cut.again seed).lines =
      (cut.bounds seed).text cut.lines := by
  have hle := cut.le_lastLine seed
  have hnear := cut.length_near hlt
  have hagain := cut.head_again seed
  have hback : seed - cut.above.length + cut.above.length = seed := by omega
  have htext := cut.text_narrow cut.above_eq_append_nil (Nat.le_refl cut.indent)
    (indentedBy_of_mem_nil cut.indent)
    (List.take_append_drop (cut.lastLine seed - cut.head) cut.below).symm
    (show cut.head ≤ seed - cut.above.length + cut.above.length by rw [hback]; exact hseed)
    (by rw [hback, hnear]; omega) (by rw [hback]; exact cut.lastLine_again hseed hlt) hreturn
  rw [hback] at htext
  exact htext

theorem lastLineIn_again {seed : Nat} (hseed : cut.head ≤ seed) (hlt : seed < cut.lines.length)
    {range : Range} (hstart : range.start.line.toNat = (cut.again seed).head)
    (hcovered : range.lastCoveredLine.toNat = seed - cut.above.length) :
    range.lastLineIn (cut.again seed).lines.length = seed - cut.above.length := by
  have hle := cut.le_lastLine seed
  have hnear := cut.length_near hlt
  have hagain := cut.head_again seed
  have hlength : (cut.again seed).below.length = cut.lastLine seed - cut.head + 1 := by
    change (List.map _ _ ++ [""]).length = _
    rw [List.length_append, List.length_map, hnear]
    rfl
  rw [Range.lastLineIn, hcovered, hstart, length_lines, hlength]
  omega

end Cut

/-- The block at the head of a block's own text is the whole text, and its text is the same. -/
theorem find?_text_again (cues : Cues) {text : String} {range : Range}
    (h : range.start.line.toNat < (splitLines text).length) :
    ∃ bounds, find? cues (splitLines text) range = some bounds ∧
      ∀ again : Range, again.start.line.toNat = range.start.line.toNat - bounds.firstLine →
        again.lastCoveredLine.toNat =
          range.lastLineIn (splitLines text).length - bounds.firstLine →
        find? cues (splitLines (bounds.text (splitLines text))) again =
          some ⟨0, bounds.lineCount - 1, 0⟩ ∧
        ((∀ line ∈ splitLines text, line.toList.getLast? ≠ some '\r') →
          (⟨0, bounds.lineCount - 1, 0⟩ : Bounds).text
              (splitLines (bounds.text (splitLines text))) =
            bounds.text (splitLines text)) := by
  obtain ⟨cut, hlines, hhead⟩ := Cut.exists_of_lt cues h
  have hnewline : ∀ line ∈ cut.lines, '\n' ∉ line.toList := by
    intro line hline
    exact newline_notMem_of_mem_splitLines (hlines ▸ hline)
  obtain ⟨hseed, hlt⟩ := Range.le_lastLineIn h
  rw [← hlines] at hseed hlt ⊢
  rw [← hhead] at hseed
  refine ⟨_, cut.find?_lines hhead.symm, ?_⟩
  generalize range.lastLineIn cut.lines.length = seed at hseed hlt ⊢
  intro again hstart hcovered
  have hstart' : again.start.line.toNat = (cut.again seed).head := by
    have hagain := cut.head_again seed
    rw [hstart, ← hhead, Cut.bounds_firstLine]
    omega
  rw [← cut.lines_again hseed hnewline, ← cut.bounds_again hseed hlt]
  constructor
  · rw [Cut.find?_lines _ hstart', cut.lastLineIn_again hseed hlt hstart' hcovered]
  · exact cut.text_again hseed hlt

/-- A range that covers a line to the left of the head, which is empty the second time. -/
theorem find?_text_again_wide_range :
    ∃ bounds, find? {} (splitLines "  # a\n  f:\n    x\nz\n") ⟨⟨1, 0⟩, ⟨3, 1⟩⟩ = some bounds ∧
      find? {} (splitLines (bounds.text (splitLines "  # a\n  f:\n    x\nz\n")))
        ⟨⟨1, 0⟩, ⟨3, 1⟩⟩ = some ⟨0, 3, 0⟩ := by
  obtain ⟨bounds, hfind, hagain⟩ := find?_text_again {}
    (show (⟨⟨1, 0⟩, ⟨3, 1⟩⟩ : Range).start.line.toNat <
      (splitLines "  # a\n  f:\n    x\nz\n").length by decide)
  have hbounds : bounds = ⟨0, 3, 2⟩ := Option.some.inj (hfind.symm.trans (by decide))
  subst hbounds
  exact ⟨_, hfind, (hagain ⟨⟨1, 0⟩, ⟨3, 1⟩⟩ (by decide) (by decide)).1⟩

end Excerpt
