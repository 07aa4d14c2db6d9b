import Excerpt.Aggregation
import Excerpt.Proofs.Block.Containment

/-! Passages: the lines of a document that an anchor leads to. An aggregation holds the blocks of
the passages of its anchors, and nothing else. -/
namespace Excerpt
open Bounds

/-- Some lines of a document. -/
structure Passage where
  document : Document
  bounds : Bounds
  deriving Repr, DecidableEq

namespace Passage

/-- The lines of a passage, dedented. -/
def lines (passage : Passage) : List String := passage.bounds.slice passage.document.lines

def block (passage : Passage) : Block where
  url := passage.document.url
  firstLine := passage.bounds.firstLine.toUInt32
  lastLine := passage.bounds.lastLine.toUInt32
  indent := passage.bounds.indent.toUInt32
  text := passage.bounds.text passage.document.lines

theorem isEmpty_block (passage : Passage) : passage.block.isEmpty = false :=
  passage.bounds.isEmpty_text passage.document.lines

end Passage

theorem Block.extract_of_find? {cues : Cues} {document : Document} {range : Range} {bounds : Bounds}
    (h : find? cues document.lines range = some bounds) :
    extract cues document range = (Passage.mk document bounds).block := extract_eq h

namespace Anchor

variable (source : Source) (cues : Cues) (viewing : Document) (anchor : Anchor)

/-- The number of the line at which an anchor starts. -/
def startLine : Nat := anchor.target.range.start.line.toNat

/-- The document that an anchor points into: the one being viewed, or else one that is opened. -/
def document : Except DocumentError Document :=
  if anchor.target.url = viewing.url then .ok viewing else source anchor.target.url

/-- The passage that an anchor leads to, in a document that opens and has a line where the anchor
starts. -/
def passage? : Option Passage :=
  match anchor.document source viewing with
  | .ok document => (find? cues document.lines anchor.target.range).map (Passage.mk document)
  | .error _ => none

variable {source cues viewing anchor} in
theorem passage?_eq_some_iff {passage : Passage} :
    anchor.passage? source cues viewing = some passage ↔
      anchor.document source viewing = .ok passage.document ∧
        find? cues passage.document.lines anchor.target.range = some passage.bounds := by
  unfold passage?
  cases anchor.document source viewing with
  | error e => simp
  | ok document =>
    obtain ⟨document', bounds⟩ := passage
    simp only [Option.map_eq_some_iff, Passage.mk.injEq, Except.ok.injEq]
    constructor
    · rintro ⟨bounds', hfind, rfl, rfl⟩
      exact ⟨rfl, hfind⟩
    · rintro ⟨rfl, hfind⟩
      exact ⟨bounds, hfind, rfl, rfl⟩

theorem block_eq_map_document : anchor.block source cues viewing =
    (anchor.document source viewing).map fun document =>
      Block.extract cues document anchor.target.range := by
  unfold block document
  dsimp only
  split
  · rfl
  · cases source anchor.target.url <;> rfl

variable {source cues viewing anchor} in
theorem block_of_passage? {passage : Passage}
    (h : anchor.passage? source cues viewing = some passage) :
    anchor.block source cues viewing = .ok passage.block := by
  obtain ⟨hdocument, hfind⟩ := passage?_eq_some_iff.mp h
  rw [block_eq_map_document, hdocument, ← Block.extract_of_find? hfind]
  rfl

/-- What becomes of an anchor: its document does not open, or ends before the anchor starts, or
holds its passage. -/
theorem block_cases :
    (∃ e, anchor.document source viewing = .error e ∧
      anchor.block source cues viewing = .error e ∧ anchor.passage? source cues viewing = none) ∨
    (∃ document block, anchor.document source viewing = .ok document ∧
      document.lineCount ≤ anchor.startLine ∧
      anchor.block source cues viewing = .ok block ∧ block.isEmpty = true ∧
      anchor.passage? source cues viewing = none) ∨
    ∃ passage : Passage, anchor.document source viewing = .ok passage.document ∧
      anchor.startLine < passage.document.lineCount ∧
      anchor.block source cues viewing = .ok passage.block ∧
      anchor.passage? source cues viewing = some passage := by
  cases hdocument : anchor.document source viewing with
  | error e =>
    refine .inl ⟨e, rfl, ?_, ?_⟩
    · rw [block_eq_map_document, hdocument]
      rfl
    · rw [passage?, hdocument]
  | ok document =>
    cases hfind : find? cues document.lines anchor.target.range with
    | none =>
      refine .inr (.inl ⟨document, { url := document.url }, rfl, find?_eq_none_iff.mp hfind, ?_,
        rfl, ?_⟩)
      · rw [block_eq_map_document, hdocument, Except.map, Block.extract, hfind]
      · rw [passage?, hdocument]
        dsimp only
        rw [hfind]
        rfl
    | some bounds =>
      have hstart : anchor.startLine < document.lineCount :=
        isSome_find?_iff.mp (by rw [hfind]; rfl)
      have hpassage : anchor.passage? source cues viewing = some ⟨document, bounds⟩ :=
        passage?_eq_some_iff.mpr ⟨hdocument, hfind⟩
      exact .inr (.inr ⟨⟨document, bounds⟩, rfl, hstart, block_of_passage? hpassage, hpassage⟩)

theorem isSome_passage?_iff : (anchor.passage? source cues viewing).isSome = true ↔
    ∃ document, anchor.document source viewing = .ok document ∧
      anchor.startLine < document.lineCount := by
  rcases anchor.block_cases source cues viewing with ⟨e, hdocument, -, hnone⟩ |
    ⟨document, -, hdocument, hend, -, -, hnone⟩ | ⟨passage, hdocument, hstart, -, hsome⟩
  · simp [hdocument, hnone]
  · simp [hdocument, hnone, hend]
  · simp [hdocument, hsome, hstart]

end Anchor

namespace Aggregation

variable (source : Source) (cues : Cues) (viewing : Document)

theorem block?_eq_map_passage? (anchor : Anchor) : block? source cues viewing anchor =
    (anchor.passage? source cues viewing).map Passage.block := by
  rw [block?]
  rcases anchor.block_cases source cues viewing with ⟨e, -, hblock, hnone⟩ |
    ⟨-, block, -, -, hblock, hempty, hnone⟩ | ⟨passage, -, -, hblock, hsome⟩
  · rw [hblock, hnone]
    rfl
  · rw [hblock, hnone]
    exact if_pos hempty
  · rw [hblock, hsome]
    exact if_neg (by rw [passage.isEmpty_block]; exact Bool.false_ne_true)

/-- The passages that some anchors lead to, in their order. -/
def passages (anchors : List Anchor) : List Passage :=
  anchors.filterMap fun anchor => anchor.passage? source cues viewing

theorem blocks_collect (anchors : List Anchor) : (collect source cues viewing anchors).blocks =
    (passages source cues viewing anchors).map Passage.block := by
  rw [passages, List.map_filterMap, collect]
  exact List.filterMap_congr fun anchor _ => block?_eq_map_passage? source cues viewing anchor

theorem isEmpty_collect_iff {anchors : List Anchor} :
    (collect source cues viewing anchors).isEmpty = true ↔
      passages source cues viewing anchors = [] := by
  rw [isEmpty, blocks_collect, List.isEmpty_iff, List.map_eq_nil_iff]

end Aggregation

end Excerpt
