import Excerpt.Proofs.Block.Cut

/-! The layouts for which the search for a block is exact: a body indented below its head, and a
body between braces at the column of the head or deeper. -/
namespace Excerpt
open Text Bounds

/-- The parts of a document around a definition. The body starts below the head and ends above the
line that closes the definition or the content that follows it. -/
@[mk_iff] structure Layout (cues : Cues) (above attached : List String) (headLine : String)
    (body : List String) (column : Nat) : Prop where
  head_at : ∃ shape ∈ shape? headLine, shape.column = column ∧
    cues.isDeclarationTerminator shape.last = false
  attached_marked : ∀ line ∈ attached, ∃ shape ∈ shape? line, column ≤ shape.column ∧
    cues.isPrefixMarker shape.first = true
  above_apart : ∀ line ∈ above.getLast?, ∀ shape ∈ shape? line,
    shape.column < column ∨ cues.isPrefixMarker shape.first = false
  body_within : ∀ line ∈ body, ∀ shape ∈ shape? line,
    column < shape.column ∨ shape.column = column ∧ cues.isContinuation shape.first = true
  /-- The head opens a block, or something in the body does. -/
  opened : (∃ shape ∈ shape? headLine, cues.opensBlock shape.first shape.last = true) ∨
    ∃ line ∈ body, ∃ shape ∈ shape? line,
      column < shape.column ∨ cues.opensBlock shape.first shape.last = true

/-- Line `i` is the last of some lines that is not blank. -/
def IsLastContent (lines : List String) (i : Nat) : Prop :=
  (∃ line ∈ lines[i]?, shape? line ≠ none) ∧
    ∀ j, i < j → ∀ line ∈ lines[j]?, shape? line = none

namespace Layout

instance (cues : Cues) (above attached : List String) (headLine : String) (body : List String)
    (column : Nat) : Decidable (Layout cues above attached headLine body column) :=
  decidable_of_iff' _ (layout_iff cues above attached headLine body column)

variable {cues : Cues} {above attached body : List String} {headLine : String} {column : Nat}

theorem indentOf_headLine (h : Layout cues above attached headLine body column) :
    indentOf headLine = column := by
  obtain ⟨shape, hshape, rfl, -⟩ := h.head_at
  exact indentOf_of_shape? hshape

theorem attachable_of_mem_attached (h : Layout cues above attached headLine body column) :
    ∀ line ∈ attached, attachable cues (indentOf headLine) (shape? line) = true := by
  intro line hline
  obtain ⟨shape, hshape, hcolumn, hmarker⟩ := h.attached_marked line hline
  rw [h.indentOf_headLine, Option.mem_def.mp hshape, attachable, hmarker]
  simpa using hcolumn

theorem not_attachable_above (h : Layout cues above attached headLine body column) :
    ∀ line ∈ above.getLast?, attachable cues (indentOf headLine) (shape? line) = false := by
  intro line hline
  rw [h.indentOf_headLine]
  cases hshape : shape? line with
  | none => rfl
  | some shape =>
    rcases h.above_apart line hline shape hshape with hcolumn | hmarker
    · have hle : ¬ column ≤ shape.column := by omega
      simp [attachable, hle]
    · simp [attachable, hmarker]

/-- The document, cut at the head of the definition. -/
def cut (h : Layout cues above attached headLine body column) (rest : List String) : Cut cues where
  above := above
  attached := attached
  headLine := headLine
  below := body ++ rest
  attachable_of_mem := h.attachable_of_mem_attached
  not_attachable := h.not_attachable_above

theorem indent_cut (h : Layout cues above attached headLine body column) (rest : List String) :
    (h.cut rest).indent = column :=
  h.indentOf_headLine

/-- The scan goes on through the whole body and is inside the block at its end. -/
theorem insideAfter?_body (h : Layout cues above attached headLine body column) :
    insideAfter? cues column (isDeclaration cues (shape? headLine))
      ((headLine :: body).map shape?) = some true := by
  obtain ⟨shape, hshape, hcolumn, hterminator⟩ := h.head_at
  rw [Option.mem_def] at hshape
  have hbody : ∀ line ∈ body.map shape?, ends cues column true line = false := by
    intro line hline
    obtain ⟨line, hmem, rfl⟩ := List.mem_map.mp hline
    cases hs : shape? line with
    | none => rfl
    | some s =>
      rcases h.body_within line hmem s hs with hlt | ⟨heq, hcontinuation⟩
      · have hle : ¬ s.column < column := by omega
        have hne : s.column ≠ column := by omega
        simp [ends, hle, hne]
      · simp [ends, heq, hcontinuation]
  have hhead : ends cues column false (shape? headLine) = false := by
    simp [hshape, ends, hcolumn]
  have hopened : (enters cues column (shape? headLine) ||
      (body.map shape?).any (enters cues column)) = true := by
    rcases h.opened with ⟨s, hs, hopens⟩ | ⟨line, hmem, s, hs, hopens⟩
    · rw [Option.mem_def] at hs
      simp [hs, enters, hopens]
    · rw [Bool.or_eq_true, List.any_eq_true]
      refine Or.inr ⟨shape? line, List.mem_map_of_mem hmem, ?_⟩
      rw [Option.mem_def.mp hs, enters, Bool.or_eq_true, decide_eq_true_eq]
      exact hopens
  rw [hshape, isDeclaration, hterminator, List.map_cons, insideAfter?_cons, next?_verdict, hhead]
  dsimp only [Option.bind]
  rw [Bool.false_or]
  change insideAfter? cues column (enters cues column (shape? headLine)) (body.map shape?) = _
  rw [insideAfter?_of_forall _ hbody, hopened]

/-- The last line of the body that is not blank, or the head. -/
def contentEnd (_ : Layout cues above attached headLine body column) : Nat :=
  scanDown cues column (isDeclaration cues (shape? headLine)) (above.length + attached.length)
    (above.length + attached.length) ((headLine :: body).map shape?)

theorem contentEnd_lt (h : Layout cues above attached headLine body column) :
    h.contentEnd < above.length + attached.length + 1 + body.length := by
  have hlength : ((headLine :: body).map shape?).length = 1 + body.length := by
    rw [List.length_map, List.length_cons, Nat.add_comm]
  unfold contentEnd
  rcases scanDown_eq_or_lt cues column (isDeclaration cues (shape? headLine))
    (above.length + attached.length) (above.length + attached.length)
    ((headLine :: body).map shape?) with heq | ⟨-, hlt⟩
  · omega
  · omega

theorem isLastContent_contentEnd (h : Layout cues above attached headLine body column) :
    ∃ i, h.contentEnd = above.length + attached.length + i ∧
      IsLastContent (headLine :: body) i := by
  obtain ⟨headShape, hheadShape, -⟩ := h.head_at
  rw [Option.mem_def] at hheadShape
  have hattained : ∃ i shape, ((headLine :: body).map shape?)[i]? = some (some shape) ∧
      h.contentEnd = above.length + attached.length + i := by
    rcases scanDown_attained cues column (isDeclaration cues (shape? headLine))
      (above.length + attached.length) (above.length + attached.length)
      ((headLine :: body).map shape?) with heq | hline
    · exact ⟨0, headShape, by simp [hheadShape], heq⟩
    · exact hline
  obtain ⟨i, shape, hi, hend⟩ := hattained
  refine ⟨i, hend, ?_, ?_⟩
  · rw [List.getElem?_map] at hi
    obtain ⟨line, hline, hshape⟩ := Option.map_eq_some_iff.mp hi
    exact ⟨line, hline, by simp [hshape]⟩
  · intro j hj line hline
    by_contra hne
    obtain ⟨s, hs⟩ := Option.ne_none_iff_exists'.mp hne
    have hget : ((headLine :: body).map shape?)[j]? = some (some s) := by
      rw [List.getElem?_map, Option.mem_def.mp hline, Option.map_some, hs]
    have hle : above.length + attached.length + j ≤ h.contentEnd :=
      le_scanDown_of_insideAfter? _ _ h.insideAfter?_body hget
    omega

/-- Below the body the scan goes on inside the block. -/
theorem lastLine_cut (h : Layout cues above attached headLine body column) (rest : List String) :
    (h.cut rest).lastLine (h.cut rest).head =
      scanDown cues column true h.contentEnd (above.length + attached.length + 1 + body.length)
        (rest.map shape?) := by
  have hshapes : (h.cut rest).shapes = (headLine :: body).map shape? ++ rest.map shape? := by
    rw [Cut.shapes, ← List.map_append]
    rfl
  rw [Cut.lastLine, hshapes, h.indent_cut rest]
  change scanDown cues column (isDeclaration cues (shape? headLine)) _ _ _ = _
  rw [scanDown_append_of_some _ _ _ h.insideAfter?_body, List.length_map, List.length_cons,
    Nat.add_comm body.length, ← Nat.add_assoc]
  rfl

end Layout

/-- The search for a block recovers a definition in either layout: all attached lines, and all lines
down to the one that closes it, or to the last content of its body. -/
theorem find?_atLine_of_layout {cues : Cues} {above attached body : List String} {headLine : String}
    {column : Nat} (h : Layout cues above attached headLine body column) {line : UInt32}
    (hline : line.toNat = above.length + attached.length) (rest : List String) :
    ∃ lastLine,
      find? cues (above ++ attached ++ [headLine] ++ body ++ rest) (Range.atLine line) =
        some ⟨above.length, lastLine, column⟩ ∧
      ((∃ shape ∈ rest.head?.bind shape?, shape.column = column ∧
          cues.isCloser shape.first = true ∧ cues.isContinuation shape.first = false) →
        lastLine = above.length + attached.length + 1 + body.length) ∧
      ((∀ shape ∈ rest.findSome? shape?, shape.column < column ∨ shape.column = column ∧
          cues.isContinuation shape.first = false ∧ cues.isCloser shape.first = false) →
        ∃ i, lastLine = above.length + attached.length + i ∧
          IsLastContent (headLine :: body) i) := by
  have hlines : above ++ attached ++ [headLine] ++ body ++ rest = (h.cut rest).lines := by
    simp [Cut.lines, Layout.cut]
  refine ⟨(h.cut rest).lastLine (h.cut rest).head, ?_, ?_, ?_⟩
  · rw [hlines, (h.cut rest).find?_atLine hline, Cut.bounds, h.indent_cut rest]
    rfl
  · rintro ⟨shape, hshape, hcolumn, hcloser, hcontinuation⟩
    obtain ⟨closer, hfirst, hcloserShape⟩ := Option.bind_eq_some_iff.mp hshape
    obtain ⟨below, rfl⟩ := List.head?_eq_some_iff.mp hfirst
    have hverdict : verdict cues column true (some shape) = .close := by
      simp [verdict, hcolumn, hcontinuation, hcloser]
    have hlt := h.contentEnd_lt
    rw [h.lastLine_cut, List.map_cons, hcloserShape, scanDown_cons, hverdict]
    change max h.contentEnd _ = _
    omega
  · intro hrest
    have hstop : ∀ shape, (rest.map shape?).findSome? id = some shape →
        verdict cues column true (some shape) = .stop := by
      intro shape hshape
      rw [List.findSome?_map] at hshape
      rcases hrest shape hshape with hlt | ⟨heq, hcontinuation, hcloser⟩
      · exact verdict_of_column_lt cues true hlt
      · simp [verdict, heq, hcontinuation, hcloser]
    rw [h.lastLine_cut, scanDown_of_findSome? _ _ hstop]
    exact h.isLastContent_contentEnd

/-- A function with its comment, between braces. -/
theorem find?_atLine_braced :
    Layout {} ["use x;", ""] ["// doc"] "fn f(" ["    a,", ") \x7b", "    b", ""] 0 ∧
      find? {} ["use x;", "", "// doc", "fn f(", "    a,", ") \x7b", "    b", "", "\x7d", "fn g()"]
        (Range.atLine 3) = some ⟨2, 8, 0⟩ := by
  have hlayout : Layout {} ["use x;", ""] ["// doc"] "fn f("
      ["    a,", ") \x7b", "    b", ""] 0 := by
    decide
  obtain ⟨lastLine, hfind, hclosed, -⟩ := find?_atLine_of_layout hlayout
    (show (3 : UInt32).toNat = 2 + 1 from rfl) ["\x7d", "fn g()"]
  rw [hclosed (by decide)] at hfind
  exact ⟨hlayout, hfind⟩

end Excerpt
