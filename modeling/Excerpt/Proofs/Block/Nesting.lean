import Excerpt.Proofs.Block.Reextraction

/-! Blocks inside blocks. A line that is deeper than the head of a block it belongs to has its own
block within, and the text of the outer block holds all that the search for the inner one reads. -/
namespace Excerpt
open Text Bounds

/-- Two cuts of a document, the inner at a line below the head of the outer and deeper. Between the
two heads are the lines `far` and those attached to the inner head. -/
structure Nested {cues : Cues} (outer inner : Cut cues) (far : List String) : Prop where
  above_eq : inner.above = outer.above ++ (outer.attached ++ outer.headLine :: far)
  below_eq : outer.below = far ++ (inner.attached ++ inner.headLine :: inner.below)
  deeper : outer.indent < inner.indent

/-- The head of a block is not attached to a line that is deeper than the head. -/
theorem Cut.not_attachable_headLine {cues : Cues} (cut : Cut cues) {indent : Nat}
    (h : cut.indent < indent) : attachable cues indent (shape? cut.headLine) = false := by
  cases hs : shape? cut.headLine with
  | none => rfl
  | some shape =>
    have hcolumn : cut.indent = shape.column := indentOf_of_shape? hs
    have hle : ¬ indent ≤ shape.column := by omega
    simp [attachable, hle]

theorem Cut.exists_nested {cues : Cues} (outer : Cut cues) {m : Nat} {line : String}
    (hm : outer.head < m) (hline : outer.lines[m]? = some line)
    (hdeeper : outer.indent < indentOf line) :
    ∃ inner far, Nested outer inner far ∧ inner.head = m := by
  obtain ⟨i, rfl⟩ : ∃ i, m = outer.head + (i + 1) := ⟨m - outer.head - 1, by omega⟩
  rw [← List.getElem?_drop, outer.drop_head, List.getElem?_cons_succ] at hline
  obtain ⟨hi, rfl⟩ := List.getElem?_eq_some_iff.mp hline
  obtain ⟨far, attached, hbetween, hattached, hfar⟩ := Cut.exists_run
    (fun line => attachable cues (indentOf outer.below[i]) (shape? line)) (outer.below.take i)
  have habove : ∀ line ∈ (outer.above ++ (outer.attached ++ outer.headLine :: far)).getLast?,
      attachable cues (indentOf outer.below[i]) (shape? line) = false := by
    intro line hline
    rw [List.getLast?_append, List.getLast?_append, List.getLast?_cons] at hline
    cases hlast : far.getLast? with
    | none =>
      rw [hlast] at hline
      have heq : outer.headLine = line := by simpa using hline
      rw [← heq]
      exact outer.not_attachable_headLine hdeeper
    | some last =>
      rw [hlast] at hline
      have heq : last = line := by simpa using hline
      rw [← heq]
      exact hfar last hlast
  have hbelow : outer.below = far ++ (attached ++ outer.below[i] :: outer.below.drop (i + 1)) := by
    rw [← List.append_assoc, ← hbetween, List.getElem_cons_drop, List.take_append_drop]
  have hlength : far.length + attached.length = i := by
    rw [← List.length_append, ← hbetween, List.length_take_of_le (Nat.le_of_lt hi)]
  refine ⟨⟨_, attached, outer.below[i], outer.below.drop (i + 1), hattached, habove⟩, far,
    ⟨rfl, hbelow, hdeeper⟩, ?_⟩
  change (outer.above ++ (outer.attached ++ outer.headLine :: far)).length + attached.length =
    outer.above.length + outer.attached.length + (i + 1)
  simp only [List.length_append, List.length_cons]
  omega

namespace Nested

variable {cues : Cues} {outer inner : Cut cues} {far : List String}

theorem lines_eq (h : Nested outer inner far) : inner.lines = outer.lines := by
  simp [Cut.lines, h.above_eq, h.below_eq]

theorem head_eq (h : Nested outer inner far) :
    inner.head = outer.head + (far.length + inner.attached.length + 1) := by
  simp only [Cut.head, h.above_eq, List.length_append, List.length_cons]
  omega

theorem head_lt_firstLine (h : Nested outer inner far) : outer.head < inner.above.length := by
  simp only [Cut.head, h.above_eq, List.length_append, List.length_cons]
  omega

/-- The outer scan reaches the inner head, and from there on takes all that the inner scan takes. -/
theorem lastLine_le (h : Nested outer inner far)
    (hle : inner.head ≤ outer.lastLine outer.head) :
    inner.lastLine inner.head ≤ outer.lastLine outer.head := by
  have hhead := h.head_eq
  have hshapes : outer.shapes = (outer.headLine :: (far ++ inner.attached)).map shape? ++
      inner.shapes := by
    rw [Cut.shapes, Cut.shapes, h.below_eq, ← List.map_append, List.cons_append, List.append_assoc]
  have hlength : outer.head + ((outer.headLine :: (far ++ inner.attached)).map shape?).length =
      inner.head := by
    rw [List.length_map, List.length_cons, List.length_append, hhead]
  have hlast : outer.head < outer.lastLine outer.head := by omega
  rw [Cut.lastLine, hshapes] at hlast
  have houter : outer.lastLine outer.head = scanDown cues outer.indent
      (isDeclaration cues (shape? outer.headLine)) outer.head outer.head
      ((outer.headLine :: (far ++ inner.attached)).map shape? ++ inner.shapes) := by
    rw [Cut.lastLine, hshapes]
  rw [houter] at hle ⊢
  obtain ⟨inside, hafter⟩ := exists_insideAfter?_of_le hlast (by rw [hlength]; exact hle)
  rw [scanDown_append_of_some _ _ _ hafter, hlength] at hle ⊢
  have hinner := scanDown_le_of_indent_lt cues (isDeclaration cues (shape? inner.headLine)) inside
    inner.head (scanDown cues outer.indent (isDeclaration cues (shape? outer.headLine)) outer.head
      outer.head ((outer.headLine :: (far ++ inner.attached)).map shape?)) inner.head inner.shapes
    h.deeper
  rw [Cut.lastLine]
  omega

theorem take_below (h : Nested outer inner far) (hle : inner.head ≤ outer.lastLine outer.head) :
    outer.below.take (outer.lastLine outer.head - outer.head) =
      far ++ (inner.attached ++ inner.headLine ::
        inner.below.take (outer.lastLine outer.head - inner.head)) := by
  have hhead := h.head_eq
  have hcount : outer.lastLine outer.head - outer.head =
      far.length + (inner.attached.length + (outer.lastLine outer.head - inner.head + 1)) := by
    omega
  rw [hcount, h.below_eq, List.take_length_add_append, List.take_length_add_append,
    List.take_succ_cons]

theorem indentedBy_below (h : Nested outer inner far)
    (hle : inner.head ≤ outer.lastLine outer.head) :
    ∀ line ∈ far ++ (inner.attached ++ inner.headLine ::
      inner.below.take (outer.lastLine outer.head - inner.head)), IndentedBy outer.indent line := by
  have hhead := h.head_eq
  intro line hline
  rw [← h.take_below hle] at hline
  exact outer.indentedBy_of_mem_below (by omega) hline

theorem indentedBy_above (h : Nested outer inner far)
    (hle : inner.head ≤ outer.lastLine outer.head) :
    ∀ line ∈ (outer.attached ++ outer.headLine :: far).getLast?, IndentedBy outer.indent line := by
  intro line hline
  rcases List.mem_append.mp (List.mem_of_getLast? hline) with hattached | hmem
  · exact outer.indentedBy_of_mem_attached hattached
  rcases List.mem_cons.mp hmem with rfl | hfar
  · exact outer.indentedBy_headLine
  · exact h.indentedBy_below hle line (List.mem_append_left _ hfar)

/-- The cut of the text of the outer block at the inner head. -/
def within (h : Nested outer inner far) (hle : inner.head ≤ outer.lastLine outer.head) : Cut cues :=
  inner.narrow h.above_eq (Nat.le_of_lt h.deeper) (h.indentedBy_above hle)
    (inner.below.take (outer.lastLine outer.head - inner.head))

theorem lines_within (h : Nested outer inner far) (hle : inner.head ≤ outer.lastLine outer.head)
    (hnewline : ∀ line ∈ outer.lines, '\n' ∉ line.toList) :
    (h.within hle).lines = splitLines ((outer.bounds outer.head).text outer.lines) := by
  have hspan := outer.span_bounds (Nat.le_refl outer.head)
  rw [splitLines_text (by rw [hspan]; simp) hnewline, hspan, h.take_below hle, within,
    Cut.lines_narrow, Cut.bounds_indent]
  simp

theorem head_within (h : Nested outer inner far) (hle : inner.head ≤ outer.lastLine outer.head) :
    (h.within hle).head + outer.above.length = inner.head :=
  inner.head_narrow _ _ _ _

theorem text_within (h : Nested outer inner far) (hle : inner.head ≤ outer.lastLine outer.head)
    (hlt : outer.head < outer.lines.length)
    (hreturn : ∀ line ∈ outer.lines, line.toList.getLast? ≠ some '\r') :
    ((h.within hle).bounds (h.within hle).head).text (h.within hle).lines =
      (inner.bounds inner.head).text inner.lines := by
  have hhead := h.head_within hle
  have hinner := h.lastLine_le hle
  have hnear : (inner.below.take (outer.lastLine outer.head - inner.head)).length =
      outer.lastLine outer.head - inner.head := by
    have hend := outer.lastLine_lt hlt
    rw [← h.lines_eq, inner.length_lines] at hend
    exact List.length_take_of_le (by omega)
  have hend : inner.lastLine ((h.within hle).head + outer.above.length) ≤
      inner.head + (inner.below.take (outer.lastLine outer.head - inner.head)).length := by
    rw [hhead, hnear]
    omega
  have hbelow := (List.take_append_drop (outer.lastLine outer.head - inner.head) inner.below).symm
  have hlast := inner.lastLine_narrow h.above_eq (Nat.le_of_lt h.deeper) (h.indentedBy_above hle)
    hbelow (fun line hline => h.indentedBy_below hle line
      (List.mem_append_right _ (List.mem_append_right _ (List.mem_cons_of_mem _ hline)))) hend
  have htext := inner.text_narrow h.above_eq (Nat.le_of_lt h.deeper) (h.indentedBy_above hle)
    hbelow (Nat.le_of_eq hhead.symm) hend hlast (h.lines_eq ▸ hreturn)
  rw [hhead] at htext
  exact htext

end Nested

/-- A line of a block that is deeper than its head has its own block inside, below the head, and
that block is the same when it is taken from the text of the outer one. -/
theorem find?_text_nested (cues : Cues) {text : String}
    (hreturn : ∀ line ∈ splitLines text, line.toList.getLast? ≠ some '\r') {s : UInt32}
    (hs : s.toNat < (splitLines text).length) :
    ∃ outer, find? cues (splitLines text) (Range.atLine s) = some outer ∧
      ∀ m : UInt32, s.toNat < m.toNat → m.toNat ≤ outer.lastLine →
        (∃ line ∈ (splitLines text)[m.toNat]?, ∃ column ∈ column? line, outer.indent < column) →
        ∃ inner, find? cues (splitLines text) (Range.atLine m) = some inner ∧
          s.toNat < inner.firstLine ∧ inner.lastLine ≤ outer.lastLine ∧
          ∃ again, find? cues (splitLines (outer.text (splitLines text)))
              (Range.atLine (.ofNat (m.toNat - outer.firstLine))) = some again ∧
            again.text (splitLines (outer.text (splitLines text))) =
              inner.text (splitLines text) := by
  obtain ⟨outer, hlines, hhead⟩ := Cut.exists_of_lt cues hs
  have hnewline : ∀ line ∈ outer.lines, '\n' ∉ line.toList := by
    intro line hline
    exact newline_notMem_of_mem_splitLines (hlines ▸ hline)
  rw [← hlines] at hreturn hs ⊢
  refine ⟨_, outer.find?_atLine hhead.symm, ?_⟩
  rintro m hm hle ⟨line, hline, column, hcolumn, hdeeper⟩
  have hindent : indentOf line = column := by
    rw [indentOf, Option.mem_def.mp hcolumn]
    rfl
  obtain ⟨inner, far, hnested, hinnerHead⟩ := outer.exists_nested (hhead ▸ hm) hline
    (hindent ▸ hdeeper)
  rw [← hinnerHead] at hle
  have hwithin := hnested.head_within hle
  have hplace : (UInt32.ofNat (m.toNat - outer.above.length)).toNat =
      (hnested.within hle).head := by
    rw [UInt32.toNat_ofNat_of_lt' (Nat.lt_of_le_of_lt (Nat.sub_le _ _) m.toNat_lt)]
    omega
  refine ⟨inner.bounds inner.head, ?_, ?_, hnested.lastLine_le hle,
    (hnested.within hle).bounds (hnested.within hle).head, ?_, ?_⟩
  · rw [← hnested.lines_eq]
    exact inner.find?_atLine hinnerHead.symm
  · rw [← hhead]
    exact hnested.head_lt_firstLine
  · rw [← hnested.lines_within hle hnewline]
    exact (hnested.within hle).find?_atLine hplace
  · rw [← hnested.lines_within hle hnewline, hnested.text_within hle (hhead ▸ hs) hreturn,
      hnested.lines_eq]

/-- A method with its comment, inside a class. -/
theorem find?_text_nested_method :
    ∃ outer, find? {} (splitLines "class A:\n\n    # f\n    def f():\n        x\nb")
        (Range.atLine 0) = some outer ∧
      ∃ again, find? {} (splitLines (outer.text
          (splitLines "class A:\n\n    # f\n    def f():\n        x\nb")))
          (Range.atLine 3) = some again ∧
        again.text (splitLines (outer.text
          (splitLines "class A:\n\n    # f\n    def f():\n        x\nb"))) =
          "# f\ndef f():\n    x\n" := by
  obtain ⟨outer, hfind, hnested⟩ := find?_text_nested {}
    (show ∀ line ∈ splitLines "class A:\n\n    # f\n    def f():\n        x\nb",
      line.toList.getLast? ≠ some '\r' by decide) (show (0 : UInt32).toNat < _ by decide)
  have houter : outer = ⟨0, 4, 0⟩ := Option.some.inj (hfind.symm.trans (by decide))
  subst houter
  obtain ⟨inner, hinner, -, -, again, hagain, htext⟩ := hnested 3 (by decide) (by decide)
    ⟨"    def f():", by decide, 4, by decide, by decide⟩
  have hbounds : inner = ⟨2, 4, 4⟩ := Option.some.inj (hinner.symm.trans (by decide))
  subst hbounds
  exact ⟨_, hfind, again, hagain, htext.trans (by decide)⟩

end Excerpt
