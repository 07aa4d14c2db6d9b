import Mathlib.Data.List.Forall2
import Excerpt.Proofs.Aggregation.Passage
import Excerpt.Proofs.CommandLine.Host

/-! The report on bounds and the aggregation of definitions tell the same of the same anchors: the
entries that were found are the blocks that were collected. -/
namespace Excerpt
open CommandLine (Host Targets)

/-- The block at an anchor of a document that is opened for it, whatever is being viewed. -/
def Anchor.openBlock (source : Source) (cues : Cues) (anchor : Anchor) :
    Except DocumentError Block :=
  (source anchor.target.url).map fun document => Block.extract cues document anchor.target.range

namespace Report.BoundsEntry

/-- The entry for an anchor, by its target and what became of its block. -/
def ofBlock (target : Location) : Except DocumentError Block → BoundsEntry
  | .ok block =>
    if block.isEmpty then { uri := target.url.display, anchorLine := target.range.start.line }
    else
      { uri := target.url.display
        anchorLine := target.range.start.line
        found := true
        firstLine := some block.firstLine
        lastLine := some block.lastLine }
  | .error e =>
    { uri := target.url.display
      anchorLine := target.range.start.line
      error := some e.message }

theorem ofAnchor_eq_ofBlock (source : Source) (cues : Cues) (viewing : Document) (anchor : Anchor) :
    ofAnchor source cues viewing anchor =
      ofBlock anchor.target (anchor.block source cues viewing) := by
  unfold ofAnchor ofBlock
  cases anchor.block source cues viewing <;> rfl

theorem ofBlock_of_isEmpty (target : Location) {block : Block} (h : block.isEmpty = true) :
    ofBlock target (.ok block) =
      { uri := target.url.display, anchorLine := target.range.start.line } :=
  if_pos h

theorem ofBlock_passage (target : Location) (passage : Passage) :
    ofBlock target (.ok passage.block) =
      { uri := target.url.display
        anchorLine := target.range.start.line
        found := true
        firstLine := some passage.block.firstLine
        lastLine := some passage.block.lastLine } :=
  if_neg (by rw [passage.isEmpty_block]; exact Bool.false_ne_true)

/-- What an entry tells of an anchor, given what opening its document comes to: it has lines exactly
when they are found, they are found exactly when the document opens and has the line at which the
anchor starts, and it has an error exactly when the document does not open. -/
structure Tells (entry : BoundsEntry) (anchor : Anchor) (opened : Except DocumentError Document) :
    Prop where
  found_iff : entry.found = true ↔
    ∃ document, opened = .ok document ∧ anchor.startLine < document.lineCount
  firstLine_isSome : entry.firstLine.isSome = entry.found
  lastLine_isSome : entry.lastLine.isSome = entry.found
  error_isSome_iff : entry.error.isSome = true ↔ ∃ e, opened = .error e

theorem tells_ofAnchor (source : Source) (cues : Cues) (viewing : Document) (anchor : Anchor) :
    (ofAnchor source cues viewing anchor).Tells anchor (anchor.document source viewing) := by
  rw [ofAnchor_eq_ofBlock]
  rcases anchor.block_cases source cues viewing with ⟨e, hdocument, hblock, -⟩ |
    ⟨document, block, hdocument, hend, hblock, hempty, -⟩ |
    ⟨passage, hdocument, hstart, hblock, -⟩
  · rw [hdocument, hblock]
    exact ⟨by simp [ofBlock], rfl, rfl, by simp [ofBlock]⟩
  · rw [hdocument, hblock, ofBlock_of_isEmpty _ hempty]
    exact ⟨by simp [hend], rfl, rfl, by simp⟩
  · rw [hdocument, hblock, ofBlock_passage]
    exact ⟨by simp [hstart], rfl, rfl, by simp⟩

theorem found_ofAnchor (source : Source) (cues : Cues) (viewing : Document) (anchor : Anchor) :
    (ofAnchor source cues viewing anchor).found =
      (anchor.passage? source cues viewing).isSome := by
  rw [Bool.eq_iff_iff, (tells_ofAnchor source cues viewing anchor).found_iff,
    anchor.isSome_passage?_iff]

/-- An entry and a block with the same lines of the same document. -/
structure Matches (entry : BoundsEntry) (block : Block) : Prop where
  firstLine_eq : entry.firstLine = some block.firstLine
  lastLine_eq : entry.lastLine = some block.lastLine
  uri_eq : entry.uri = block.url.display

theorem matches_ofAnchor {source : Source} {cues : Cues} {viewing : Document} {anchor : Anchor}
    {passage : Passage} (h : anchor.passage? source cues viewing = some passage)
    (hurl : passage.document.url = anchor.target.url) :
    (ofAnchor source cues viewing anchor).Matches passage.block := by
  rw [ofAnchor_eq_ofBlock, Anchor.block_of_passage? h, ofBlock_passage, ← hurl]
  exact ⟨rfl, rfl, rfl⟩

theorem forall₂_matches {source : Source} (cues : Cues) {viewing : Document} {anchors : List Anchor}
    (h : ∀ anchor ∈ anchors, ∀ document, anchor.document source viewing = .ok document →
      document.url = anchor.target.url) :
    List.Forall₂ Matches ((anchors.map (ofAnchor source cues viewing)).filter (·.found))
      (Aggregation.collect source cues viewing anchors).blocks := by
  rw [Aggregation.blocks_collect, Aggregation.passages]
  induction anchors with
  | nil => exact .nil
  | cons anchor anchors ih =>
    have hrest := ih fun anchor hmem => h anchor (List.mem_cons_of_mem _ hmem)
    have hfound := found_ofAnchor source cues viewing anchor
    cases hpassage : anchor.passage? source cues viewing with
    | none =>
      rw [hpassage] at hfound
      rw [List.map_cons, List.filter_cons_of_neg (by rw [hfound]; exact Bool.false_ne_true),
        List.filterMap_cons_none hpassage]
      exact hrest
    | some passage =>
      have hdocument := (Anchor.passage?_eq_some_iff.mp hpassage).1
      have hurl := h anchor List.mem_cons_self passage.document hdocument
      rw [hpassage] at hfound
      rw [List.map_cons, List.filter_cons_of_pos hfound, List.filterMap_cons_some hpassage,
        List.map_cons]
      exact .cons (matches_ofAnchor hpassage hurl) hrest

end Report.BoundsEntry

namespace Anchor

variable {host : Host Id} {file : String} {viewing : Document} {anchors : List Anchor}
  {anchor : Anchor}

/-- What a run fetches for an anchor is what opening its document anew gives. -/
theorem document_fetch (hopen : host.openFile file = .ok viewing) (hanchor : anchor ∈ anchors) :
    anchor.document (host.fetch viewing anchors) viewing = host.source anchor.target.url := by
  unfold document
  by_cases htarget : anchor.target.url = viewing.url
  · rw [if_pos htarget, htarget, host.source_of_openFile hopen]
  · rw [if_neg htarget, host.fetch_of_mem hanchor htarget]

theorem block_fetch (cues : Cues) (hopen : host.openFile file = .ok viewing)
    (hanchor : anchor ∈ anchors) :
    anchor.block (host.fetch viewing anchors) cues viewing = anchor.openBlock host.source cues := by
  rw [block_eq_map_document, document_fetch hopen hanchor]
  rfl

end Anchor

namespace Report
open BoundsEntry

/-- On files that do not change, both commands work on the same documents. The report on bounds has
one entry for each anchor, in their order, which tells what opening its document comes to; the
entries that were found match the blocks of the definitions one by one; and both are what opening
the document of every anchor anew gives. -/
theorem bounds_agree_definitions (host : Host Id) (cues : Cues) {file : String} {viewing : Document}
    (hopen : host.openFile file = .ok viewing) (anchors : List Anchor) :
    let source : Source := host.fetch viewing anchors
    let report := Bounds.ofAnchors source cues viewing file anchors
    let blocks := (Aggregation.collect source cues viewing anchors).blocks
    (∀ targets : Targets, targets.file = file →
      Anchor.resolve host.workDir viewing.url targets.arguments
        (host.readResponse targets.response) = .ok anchors →
      host.prepare targets = .ok (viewing, anchors, source)) ∧
    List.Forall₂ (fun anchor entry => entry.Tells anchor (host.source anchor.target.url))
      anchors report.entries ∧
    List.Forall₂ Matches (report.entries.filter (·.found)) blocks ∧
    report.entries =
      anchors.map (fun anchor => ofBlock anchor.target (anchor.openBlock host.source cues)) ∧
    blocks = anchors.filterMap fun anchor =>
      (anchor.openBlock host.source cues).toOption.filter (!·.isEmpty) := by
  intro source report blocks
  refine ⟨?_, ?_, ?_, ?_, ?_⟩
  · rintro targets rfl hanchors
    exact host.prepare_eq hopen hanchors
  · apply List.forall₂_map_right_iff.mpr
    apply List.forall₂_same.mpr
    intro anchor hanchor
    rw [← Anchor.document_fetch hopen hanchor]
    exact tells_ofAnchor source cues viewing anchor
  · apply forall₂_matches
    intro anchor hanchor document hdocument
    rw [Anchor.document_fetch hopen hanchor] at hdocument
    exact (Files.source_eq_ok hdocument).1
  · apply List.map_congr_left
    intro anchor hanchor
    rw [ofAnchor_eq_ofBlock, Anchor.block_fetch cues hopen hanchor]
  · apply List.filterMap_congr
    intro anchor hanchor
    unfold Aggregation.block?
    rw [Anchor.block_fetch cues hopen hanchor]
    cases anchor.openBlock host.source cues with
    | error e => rfl
    | ok block => cases hempty : block.isEmpty <;> simp [Except.toOption, Option.filter, hempty]

open CommandLine.Sample in
/-- Anchors into the file being viewed, a missing one, another one, and past the last line. -/
theorem bounds_agree_definitions_sample :
    let report := Bounds.ofAnchors (host.fetch viewing anchors) {} viewing "a.py" anchors
    let blocks := (Aggregation.collect (host.fetch viewing anchors) {} viewing anchors).blocks
    report.entries.map (fun entry => (entry.found, entry.firstLine, entry.lastLine, entry.error)) =
        [(true, some 0, some 2, none),
          (false, none, none, some "Document not found: file:///w/gone.py"),
          (true, some 1, some 3, none), (false, none, none, none), (true, some 0, some 2, none)] ∧
      List.Forall₂ Matches (report.entries.filter (·.found)) blocks ∧
      blocks.map (fun block => (block.firstLine, block.lastLine)) = [(0, 2), (1, 3), (0, 2)] := by
  obtain ⟨-, -, hmatches, hentries, hblocks⟩ :=
    bounds_agree_definitions host {} openFile_host anchors
  refine ⟨?_, hmatches, ?_⟩
  · rw [hentries]
    decide +kernel
  · rw [hblocks]
    decide +kernel

end Report

end Excerpt
