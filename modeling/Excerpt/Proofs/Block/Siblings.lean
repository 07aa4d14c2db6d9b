import Excerpt.Proofs.Block.StopLine

/-! Definitions that follow one another at one column. Their blocks share lines when the upper one
ends in a line that the lower one takes for its comment, however deep that line is. -/
namespace Excerpt
open Text Bounds

/-- Whether a block has line `n` of its document. -/
def Bounds.Has (bounds : Bounds) (n : Nat) : Prop := bounds.firstLine ≤ n ∧ n ≤ bounds.lastLine

/-- A line at the column of a definition that starts another one. -/
def IsSibling (cues : Cues) (indent : Nat) (line : String) : Prop :=
  ∃ shape ∈ shape? line, shape.column = indent ∧ cues.isContinuation shape.first = false ∧
    cues.isCloser shape.first = false

/-- A line that is not blank and starts with a prefix marker. -/
def IsMarked (cues : Cues) (line : String) : Prop :=
  ∃ shape ∈ shape? line, cues.isPrefixMarker shape.first = true

theorem attachable_eq_true_iff {cues : Cues} {indent : Nat} {line : String}
    (h : IndentedBy indent line) :
    attachable cues indent (shape? line) = true ↔ IsMarked cues line := by
  unfold IsMarked
  cases hs : shape? line with
  | none => simp [attachable]
  | some shape => simp [attachable, h.le_column hs]

/-- Outside the block a line at the base column goes on with it, so that a sibling that ends the
scan finds it inside. -/
theorem verdict_eq_stop_of_isSibling {cues : Cues} {indent : Nat} {inside : Bool} {line : String}
    (h : IsSibling cues indent line)
    (hends : (verdict cues indent inside (shape? line)).next? inside = none) :
    verdict cues indent inside (shape? line) = .stop := by
  obtain ⟨shape, hshape, hcolumn, hcontinuation, hcloser⟩ := h
  rw [Option.mem_def.mp hshape] at hends ⊢
  have hinside : inside = true := by
    by_contra hnot
    rw [next?_verdict] at hends
    simp [ends, hcolumn, hnot] at hends
  simp [verdict, hcolumn, hinside, hcontinuation, hcloser]

namespace Cut

variable {cues : Cues}

/-- A block starts above its head exactly when the line right above the head is attached to it. -/
theorem length_above_le_iff (cut : Cut cues) {n : Nat} {line : String} (hn : cut.head = n + 1)
    (hline : cut.lines[n]? = some line) :
    cut.above.length ≤ n ↔ attachable cues cut.indent (shape? line) = true := by
  have hlength : (cut.above ++ cut.attached).length = n + 1 := by
    rw [List.length_append, ← hn, head]
  have hlast : (cut.above ++ cut.attached).getLast? = some line := by
    rw [lines, ← List.append_assoc, List.getElem?_append_left (by omega)] at hline
    rw [List.getLast?_eq_getElem?, hlength]
    exact hline
  rw [List.length_append] at hlength
  rw [List.getLast?_append] at hlast
  cases hattached : cut.attached.getLast? with
  | none =>
    rw [hattached, Option.none_or] at hlast
    rw [List.getLast?_eq_none_iff.mp hattached, List.length_nil] at hlength
    have hnot : attachable cues cut.indent (shape? line) = false := cut.not_attachable line hlast
    rw [hnot]
    constructor
    · omega
    · intro h
      cases h
  | some last =>
    rw [hattached, Option.some_or] at hlast
    obtain rfl : last = line := Option.some.inj hlast
    have hmem := List.mem_of_getLast? hattached
    have hpos := List.length_pos_of_mem hmem
    constructor
    · intro _
      exact cut.attachable_of_mem last hmem
    · omega

theorem getElem?_shapes (cut : Cut cues) (i : Nat) :
    cut.shapes[i]? = (cut.lines[cut.head + i]?).map shape? := by
  rw [← cut.drop_map_shape?, List.getElem?_drop, List.getElem?_map]

theorem exists_shapes_eq (cut : Cut cues) {k : Nat} {line : String} (hk : cut.head ≤ k)
    (hline : cut.lines[k]? = some line) :
    ∃ front back, cut.shapes = front ++ shape? line :: back ∧ cut.head + front.length = k := by
  have hget : cut.shapes[k - cut.head]? = some (shape? line) := by
    rw [cut.getElem?_shapes, Nat.add_sub_cancel' hk, hline, Option.map_some]
  obtain ⟨hlt, heq⟩ := List.getElem?_eq_some_iff.mp hget
  refine ⟨cut.shapes.take (k - cut.head), cut.shapes.drop (k - cut.head + 1), ?_, ?_⟩
  · rw [← heq, List.getElem_cons_drop, List.take_append_drop]
  · rw [List.length_take_of_le (Nat.le_of_lt hlt)]
    omega

/-- The scan that breaks off at a sibling has gone to the line above it, and takes that line unless
it is blank. -/
theorem lastLine_of_stopLine_eq (cut : Cut cues) {n : Nat} {line sibling : String}
    (hn : cut.head ≤ n) (hstop : cut.stopLine = n + 1) (hline : cut.lines[n]? = some line)
    (hnext : cut.lines[n + 1]? = some sibling) (hsibling : IsSibling cues cut.indent sibling) :
    cut.lastLine cut.head ≤ n ∧ IndentedBy cut.indent line ∧
      (shape? line ≠ none → cut.lastLine cut.head = n) := by
  -- what the scan reads above the sibling ends in the line in question
  obtain ⟨front, back, hshapes, hlength⟩ := cut.exists_shapes_eq (by omega) hnext
  have hmem : front[n - cut.head]? = some (shape? line) := by
    have hget := cut.getElem?_shapes (n - cut.head)
    rw [hshapes, List.getElem?_append_left (by omega), Nat.add_sub_cancel' hn, hline] at hget
    exact hget
  rw [stopLine, hshapes, ← hlength] at hstop
  obtain ⟨inside, hafter, hends, hscan⟩ := exists_of_scanStop_eq cut.head hstop
  rw [verdict_eq_stop_of_isSibling hsibling hends, ← hshapes] at hscan
  change cut.lastLine cut.head = scanDown cues cut.indent
    (isDeclaration cues (shape? cut.headLine)) cut.head cut.head front at hscan
  have hle : cut.lastLine cut.head ≤ n := by
    rw [hscan]
    rcases scanDown_eq_or_lt cues cut.indent (isDeclaration cues (shape? cut.headLine)) cut.head
      cut.head front with heq | ⟨-, hlt⟩
    · omega
    · omega
  refine ⟨hle, ?_, ?_⟩
  · apply indentedBy_of_shape?
    intro shape hshape
    rw [hshape] at hmem
    exact indent_le_column_of_insideAfter? hafter (List.mem_of_getElem? hmem)
  · intro hne
    obtain ⟨shape, hshape⟩ := Option.ne_none_iff_exists'.mp hne
    rw [hshape] at hmem
    have hge := le_scanDown_of_insideAfter? cut.head cut.head hafter hmem
    omega

/-- The block of a sibling that ends the scan starts within the block above it exactly when the line
between the two is marked. -/
theorem length_above_le_lastLine_iff {cut next : Cut cues} (hlines : next.lines = cut.lines)
    {n : Nat} {line : String} (hn : cut.head ≤ n) (hhead : next.head = n + 1)
    (hstop : cut.stopLine = n + 1) (hline : cut.lines[n]? = some line)
    (hsibling : IsSibling cues cut.indent next.headLine) :
    IndentedBy cut.indent line ∧
      (next.above.length ≤ cut.lastLine cut.head ↔ IsMarked cues line) := by
  have hnext : cut.lines[n + 1]? = some next.headLine := by
    rw [← hlines, ← hhead, next.getElem?_head]
  obtain ⟨hle, hindented, hreach⟩ := cut.lastLine_of_stopLine_eq hn hstop hline hnext hsibling
  have hindent : next.indent = cut.indent := by
    obtain ⟨shape, hshape, hcolumn, -⟩ := hsibling
    exact (indentOf_of_shape? hshape).trans hcolumn
  have hfirst : next.above.length ≤ n ↔ IsMarked cues line := by
    rw [next.length_above_le_iff hhead (hlines ▸ hline), hindent, attachable_eq_true_iff hindented]
  refine ⟨hindented, ?_⟩
  rw [← hfirst]
  constructor
  · intro h
    exact Nat.le_trans h hle
  · intro h
    obtain ⟨shape, hshape, -⟩ := hfirst.mp h
    rw [hreach (by rw [Option.mem_def.mp hshape]; simp)]
    exact h

end Cut

/-- Where the scan from a line breaks off at a sibling, the block of the sibling shares lines with
that of the line exactly when the line above the sibling starts with a prefix marker. -/
theorem siblings_overlap_iff (cues : Cues) {lines : List String} {s : UInt32}
    (hs : s.toNat < lines.length) :
    ∃ bounds, find? cues lines (Range.atLine s) = some bounds ∧
      ∀ k : UInt32, s.toNat < k.toNat →
        stopLine cues bounds.indent (lines.map shape?) s.toNat = k.toNat →
        (∃ sibling ∈ lines[k.toNat]?, IsSibling cues bounds.indent sibling) →
        ∃ next line, find? cues lines (Range.atLine k) = some next ∧
          lines[k.toNat - 1]? = some line ∧ IndentedBy bounds.indent line ∧
          (next.firstLine ≤ bounds.lastLine ↔ IsMarked cues line) ∧
          (¬ IsMarked cues line → ∀ i j, bounds.Has i → next.Has j → i < j) := by
  obtain ⟨cut, rfl, hhead⟩ := Cut.exists_of_lt cues hs
  rw [← hhead]
  refine ⟨_, cut.find?_atLine hhead.symm, ?_⟩
  rw [Cut.bounds_indent, cut.stopLine_lines]
  rintro k hk hstop ⟨sibling, hget, hsibling⟩
  rw [Option.mem_def] at hget
  obtain ⟨hlt, -⟩ := List.getElem?_eq_some_iff.mp hget
  obtain ⟨next, hlines, hnext⟩ := Cut.exists_of_lt cues hlt
  obtain rfl : sibling = next.headLine := by
    rw [← hlines, ← hnext, next.getElem?_head] at hget
    exact (Option.some.inj hget).symm
  obtain ⟨n, hn⟩ : ∃ n, k.toNat = n + 1 := ⟨k.toNat - 1, by omega⟩
  obtain ⟨line, hline⟩ : ∃ line, cut.lines[n]? = some line :=
    ⟨_, List.getElem?_eq_getElem (by omega)⟩
  obtain ⟨hindented, hoverlap⟩ := Cut.length_above_le_lastLine_iff hlines (by omega)
    (hnext.trans hn) (hstop.trans hn) hline hsibling
  refine ⟨next.bounds next.head, line, ?_, by rw [hn]; exact hline, hindented, hoverlap, ?_⟩
  · rw [← hlines]
    exact next.find?_atLine hnext.symm
  · intro hnot i j hi hj
    have hlast : i ≤ cut.lastLine cut.head := hi.2
    have hstart : next.above.length ≤ j := hj.1
    rw [← hoverlap] at hnot
    omega

/-- A comment at the end of one function's body, taken for the comment of the next one. -/
theorem siblings_overlap_comment :
    find? {} ["def f():", "    x", "    # y", "def g():", "    z"] (Range.atLine 0) =
        some ⟨0, 2, 0⟩ ∧
      ∃ next, find? {} ["def f():", "    x", "    # y", "def g():", "    z"] (Range.atLine 3) =
        some next ∧ next.firstLine ≤ 2 := by
  obtain ⟨bounds, hfind, hsiblings⟩ := siblings_overlap_iff {}
    (show (0 : UInt32).toNat <
      ["def f():", "    x", "    # y", "def g():", "    z"].length by decide)
  have hbounds : bounds = ⟨0, 2, 0⟩ := Option.some.inj (hfind.symm.trans (by decide))
  subst hbounds
  obtain ⟨next, line, hnext, hline, -, hoverlap, -⟩ := hsiblings 3 (by decide) (by decide)
    ⟨"def g():", rfl, ⟨0, 'd', ':'⟩, by decide, rfl, by decide, by decide⟩
  obtain rfl : "    # y" = line := Option.some.inj hline
  exact ⟨hfind, next, hnext, hoverlap.mpr ⟨⟨4, '#', 'y'⟩, by decide, by decide⟩⟩

end Excerpt
