import Excerpt.Proofs.Block.StopLine

/-! What the search for a block reads. It reads the shapes of the line above the block and of the
lines from there to the one at which the scan breaks off, and nothing else of the document. -/
namespace Excerpt
open Text Bounds

/-- The lines from the one above the block to line `stop`. -/
def Bounds.readLines (bounds : Bounds) (stop : Nat) (lines : List String) : List String :=
  (lines.take (stop + 1)).drop (bounds.firstLine - 1)

theorem Text.map_shape?_congr {lines lines' : List String}
    (hcolumns : lines.map column? = lines'.map column?)
    (hedges : lines.map edges? = lines'.map edges?) : lines.map shape? = lines'.map shape? := by
  induction lines generalizing lines' with
  | nil =>
    have hnil : lines' = [] := by simpa using hcolumns.symm
    rw [hnil]
  | cons line lines ih =>
    cases lines' with
    | nil => simp at hcolumns
    | cons line' lines' =>
      obtain ⟨hcolumn, hcolumns⟩ := List.cons.inj hcolumns
      obtain ⟨hedge, hedges⟩ := List.cons.inj hedges
      have hshape : shape? line = shape? line' := by rw [shape?, shape?, hcolumn, hedge]
      rw [List.map_cons, List.map_cons, hshape, ih hcolumns hedges]

theorem indentOf_congr {line line' : String} (h : shape? line = shape? line') :
    indentOf line = indentOf line' := by
  rw [indentOf, indentOf, column?_eq_map_shape?, column?_eq_map_shape?, h]

namespace Cut

variable {cues : Cues}

/-- The last of the lines above the block, where there is one. -/
def edge (cut : Cut cues) : List String := cut.above.drop (cut.above.length - 1)

/-- The lines below the head that the scan reads. -/
def near (cut : Cut cues) : List String := cut.below.take (cut.stopLine - cut.head)

theorem getLast?_edge (cut : Cut cues) : cut.edge.getLast? = cut.above.getLast? := by
  rw [edge, List.getLast?_drop]
  split
  · have hlength : cut.above.length = 0 := by omega
    rw [List.eq_nil_of_length_eq_zero hlength]
    rfl
  · rfl

theorem readLines_bounds (cut : Cut cues) (seed : Nat) :
    (cut.bounds seed).readLines cut.stopLine cut.lines =
      cut.edge ++ (cut.attached ++ cut.headLine :: cut.near) := by
  have hle := cut.head_le_stopLine
  have hcount : cut.stopLine + 1 =
      cut.above.length + (cut.attached.length + (cut.stopLine - cut.head + 1)) := by
    rw [head] at hle ⊢
    omega
  rw [readLines, hcount, lines, List.take_length_add_append, List.take_length_add_append,
    List.take_succ_cons, bounds_firstLine, List.drop_append_of_le_length (Nat.sub_le _ _)]
  rfl

theorem shapes_eq_near_append (cut : Cut cues) :
    cut.shapes = (cut.headLine :: cut.near).map shape? ++
      (cut.below.drop (cut.stopLine - cut.head)).map shape? := by
  rw [shapes, ← List.map_append, List.cons_append, near, List.take_append_drop]

/-- Below `near` the scan reads nothing. -/
theorem scanDown_near_append (cut : Cut cues) (last n : Nat) {tail : List (Option Shape)}
    (htail : cut.stopLine = cut.lines.length → tail = []) :
    scanDown cues cut.indent (isDeclaration cues (shape? cut.headLine)) last n
        ((cut.headLine :: cut.near).map shape? ++ tail) =
      scanDown cues cut.indent (isDeclaration cues (shape? cut.headLine)) last n
        ((cut.headLine :: cut.near).map shape?) := by
  rcases Nat.lt_or_eq_of_le cut.stopLine_le with hlt | heq
  · have hle := cut.head_le_stopLine
    have hnear : cut.near.length = cut.stopLine - cut.head := by
      rw [cut.length_lines] at hlt
      rw [near, List.length_take]
      omega
    have hstop : cut.stopLine < cut.head + ((cut.headLine :: cut.near).map shape?).length := by
      rw [List.length_map, List.length_cons, hnear]
      omega
    apply scanDown_append_of_none
    rw [insideAfter?_eq_none_iff cut.head ((cut.below.drop (cut.stopLine - cut.head)).map shape?),
      ← cut.shapes_eq_near_append]
    exact hstop
  · rw [htail heq, List.append_nil]

theorem lastLine_eq_near (cut : Cut cues) (seed : Nat) :
    cut.lastLine seed =
      scanDown cues cut.indent (isDeclaration cues (shape? cut.headLine)) seed cut.head
        ((cut.headLine :: cut.near).map shape?) := by
  have htail : cut.stopLine = cut.lines.length →
      (cut.below.drop (cut.stopLine - cut.head)).map shape? = [] := by
    intro heq
    rw [heq, cut.length_lines, List.drop_eq_nil_of_le (by omega)]
    rfl
  rw [lastLine, cut.shapes_eq_near_append, cut.scanDown_near_append seed cut.head htail]

theorem length_append_edge (cut : Cut cues) (front : List String) {edge : List String}
    (hedge : edge.map shape? = cut.edge.map shape?) :
    (front ++ edge).length + (cut.above.length - 1) = cut.above.length + front.length := by
  have hlength : edge.length = cut.edge.length := by simpa using congrArg List.length hedge
  rw [List.length_append, hlength, Cut.edge, List.length_drop]
  omega

/-- The cut of another document, whose lines at the block have the shapes of those of the first. -/
def replace (cut : Cut cues) {front edge attached : List String} {headLine : String}
    (hfront : cut.above = [] → front = []) (hedge : edge.map shape? = cut.edge.map shape?)
    (hattached : attached.map shape? = cut.attached.map shape?)
    (hhead : shape? headLine = shape? cut.headLine) (below : List String) : Cut cues where
  above := front ++ edge
  attached := attached
  headLine := headLine
  below := below
  attachable_of_mem := by
    intro line hline
    have hmem : shape? line ∈ cut.attached.map shape? := hattached ▸ List.mem_map_of_mem hline
    obtain ⟨line', hline', hshape⟩ := List.mem_map.mp hmem
    rw [indentOf_congr hhead, ← hshape]
    exact cut.attachable_of_mem line' hline'
  not_attachable := by
    intro line hline
    have hlast : (edge.map shape?).getLast? = cut.above.getLast?.map shape? := by
      rw [hedge, List.getLast?_map, cut.getLast?_edge]
    rw [List.getLast?_map] at hlast
    rw [List.getLast?_append] at hline
    -- without a line above the block there is none above its twin either
    cases habove : cut.above.getLast? with
    | none =>
      rw [habove, Option.map_none, Option.map_eq_none_iff] at hlast
      rw [hlast, hfront (List.getLast?_eq_none_iff.mp habove)] at hline
      cases hline
    | some line' =>
      rw [habove, Option.map_some] at hlast
      obtain ⟨line'', hline'', hshape⟩ := Option.map_eq_some_iff.mp hlast
      rw [hline''] at hline
      have heq : line'' = line := by simpa using hline
      rw [indentOf_congr hhead, ← heq, hshape]
      exact cut.not_attachable line' habove

section Replace

variable (cut : Cut cues) {front edge attached near : List String} {headLine : String}
  (hfront : cut.above = [] → front = []) (hedge : edge.map shape? = cut.edge.map shape?)
  (hattached : attached.map shape? = cut.attached.map shape?)
  (hhead : shape? headLine = shape? cut.headLine)

theorem head_replace (below : List String) :
    (cut.replace hfront hedge hattached hhead below).head + (cut.above.length - 1) =
      cut.head + front.length := by
  have habove := cut.length_append_edge front hedge
  have hlength : attached.length = cut.attached.length := by
    simpa using congrArg List.length hattached
  change (front ++ edge).length + attached.length + _ = cut.above.length + _ + _
  omega

theorem indent_replace (below : List String) :
    (cut.replace hfront hedge hattached hhead below).indent = cut.indent :=
  indentOf_congr hhead

theorem lastLine_replace (hnear : near.map shape? = cut.near.map shape?) {back : List String}
    (hback : cut.stopLine = cut.lines.length → back = []) :
    (cut.replace hfront hedge hattached hhead (near ++ back)).lastLine
        (cut.replace hfront hedge hattached hhead (near ++ back)).head + (cut.above.length - 1) =
      cut.lastLine cut.head + front.length := by
  have hshapes : (cut.replace hfront hedge hattached hhead (near ++ back)).shapes =
      (cut.headLine :: cut.near).map shape? ++ back.map shape? := by
    change (headLine :: (near ++ back)).map shape? = _
    rw [List.map_cons, List.map_append, hhead, hnear, List.map_cons, List.cons_append]
  have htail : cut.stopLine = cut.lines.length → back.map shape? = [] := by
    intro heq
    rw [hback heq, List.map_nil]
  have hhead' := cut.head_replace hfront hedge hattached hhead (near ++ back)
  rw [lastLine, hshapes, indent_replace]
  change scanDown cues cut.indent (isDeclaration cues (shape? headLine)) _ _ _ + _ = _
  rw [hhead, cut.scanDown_near_append _ _ htail, ← scanDown_add, hhead', scanDown_add,
    ← cut.lastLine_eq_near]

end Replace

end Cut

/-- The block of a line stays the same, at its new place, when the lines that the search does not
read are replaced by any others, and those that it reads by lines of the same columns and edges. -/
theorem find?_atLine_of_readLines (cues : Cues) {lines : List String} {s : UInt32}
    (hs : s.toNat < lines.length) :
    ∃ bounds stop, find? cues lines (Range.atLine s) = some bounds ∧
      stopLine cues bounds.indent (lines.map shape?) s.toNat = stop ∧
      ∀ front read back : List String,
        read.map column? = (bounds.readLines stop lines).map column? →
        read.map edges? = (bounds.readLines stop lines).map edges? →
        (bounds.firstLine = 0 → front = []) → (stop = lines.length → back = []) →
        ∀ s' : UInt32, s'.toNat + (bounds.firstLine - 1) = s.toNat + front.length →
          ∃ moved, find? cues (front ++ read ++ back) (Range.atLine s') = some moved ∧
            moved.firstLine + (bounds.firstLine - 1) = bounds.firstLine + front.length ∧
            moved.lastLine + (bounds.firstLine - 1) = bounds.lastLine + front.length ∧
            moved.indent = bounds.indent := by
  obtain ⟨cut, rfl, hhead⟩ := Cut.exists_of_lt cues hs
  rw [← hhead]
  refine ⟨_, _, cut.find?_atLine hhead.symm, cut.stopLine_lines, ?_⟩
  rw [cut.readLines_bounds, Cut.bounds_firstLine]
  intro front read back hcolumns hedges hfront hback s' hs'
  have hshapes := map_shape?_congr hcolumns hedges
  rw [List.map_append, List.map_append, List.map_cons] at hshapes
  obtain ⟨edge, read', rfl, hedge, hread'⟩ := List.map_eq_append_iff.mp hshapes
  obtain ⟨attached, read'', rfl, hattached, hread''⟩ := List.map_eq_append_iff.mp hread'
  obtain ⟨headLine, near, rfl, hheadLine, hnear⟩ := List.map_eq_cons_iff.mp hread''
  have hfront' : cut.above = [] → front = [] := fun habove => hfront (by rw [habove]; rfl)
  have hplace : s'.toNat =
      (cut.replace hfront' hedge hattached hheadLine (near ++ back)).head := by
    have hmoved := cut.head_replace hfront' hedge hattached hheadLine (near ++ back)
    omega
  have hlines : front ++ (edge ++ (attached ++ headLine :: near)) ++ back =
      (cut.replace hfront' hedge hattached hheadLine (near ++ back)).lines := by
    change _ = (front ++ edge) ++ (attached ++ headLine :: (near ++ back))
    simp
  rw [hlines]
  refine ⟨_, Cut.find?_atLine _ hplace, ?_, ?_, ?_⟩
  · exact cut.length_append_edge front hedge
  · exact cut.lastLine_replace hfront' hedge hattached hheadLine hnear hback
  · exact cut.indent_replace hfront' hedge hattached hheadLine (near ++ back)

/-- A function among other lines than before, with another comment, name and body. -/
theorem find?_atLine_of_readLines_function :
    find? {} ["a = 1", "", "# c", "def f():", "    x", "def g():", "y"] (Range.atLine 3) =
        some ⟨2, 4, 0⟩ ∧
      find? {} ["p:", "  q", "r", " ", "# cc", "deft():", "    x + x", "dig:", "  z"]
        (Range.atLine 5) = some ⟨4, 6, 0⟩ := by
  obtain ⟨bounds, stop, hfind, hstop, hmoved⟩ := find?_atLine_of_readLines {}
    (show (3 : UInt32).toNat <
      ["a = 1", "", "# c", "def f():", "    x", "def g():", "y"].length by decide)
  have hbounds : bounds = ⟨2, 4, 0⟩ := Option.some.inj (hfind.symm.trans (by decide))
  subst hbounds
  have hfive : stop = 5 := hstop.symm.trans (by decide)
  subst hfive
  obtain ⟨⟨firstLine, lastLine, indent⟩, hfind', hfirst, hlast, hindent⟩ := hmoved
    ["p:", "  q", "r"] [" ", "# cc", "deft():", "    x + x", "dig:"] ["  z"] (by decide)
    (by decide) (by decide) (by decide) 5 (by decide)
  obtain rfl : firstLine = 4 := by simpa using hfirst
  obtain rfl : lastLine = 6 := by simpa using hlast
  obtain rfl : indent = 0 := hindent
  exact ⟨hfind, hfind'⟩

end Excerpt
