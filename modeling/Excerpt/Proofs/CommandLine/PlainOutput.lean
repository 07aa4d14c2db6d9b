import Excerpt.Proofs.Aggregation.Combined
import Excerpt.Proofs.CommandLine.Host

/-! Runs that print definitions as a table in plain markup: they print the text of the
aggregation. -/
namespace Excerpt.CommandLine
open Aggregation

theorem printDefinitions_plain {style : Report.Style} (hstyle : style.format = .table)
    (preferences : Preferences) (file themeName : String) (engine : SyntaxEngine)
    (viewing : Document) (anchors : List Anchor) (source : Source) :
    printDefinitions style preferences file .plain themeName engine viewing anchors source =
      .ok ((collect source preferences.cues viewing anchors).combined,
        (failures source preferences.cues viewing anchors).map
          fun e => "skipping definition: " ++ e.message) := by
  have hmarkup : (collect source preferences.cues viewing anchors).highlight .plain =
      .ok (collect source preferences.cues viewing anchors).combined :=
    render_plain source preferences.cues viewing anchors
  have hprinted := printed_combined source preferences.cues viewing anchors
  unfold printDefinitions
  change (((collect source preferences.cues viewing anchors).highlight .plain).mapError _ >>= _) = _
  rw [hmarkup]
  change Except.ok (Report.printed (Report.Style.render style _ _), _) = _
  rw [Report.Style.render, hstyle]
  dsimp only
  rw [hprinted]

/-- A command line that asks for definitions and gets them as a table in plain markup. -/
structure PlainRequest (host : Host Id) (words : List String) where
  flags : Flags
  targets : Targets
  markup : Option Markup
  theme : Option String
  parse_eq : Request.parse words = .ok (.run flags (.definitions targets markup theme))
  isTable : (chooseStyle flags host.preferences.run.1).format = .table
  isPlain : chooseMarkup markup host.preferences.run.1 .table
    (host.preferences.run.1.color.getD host.isTerminal) = .plain

theorem PlainRequest.output_run {host : Host Id} {words : List String}
    (request : PlainRequest host words) {viewing : Document} {anchors : List Anchor}
    {source : Source} (h : host.prepare request.targets = .ok (viewing, anchors, source)) :
    (run host words).run.output =
      (collect source host.preferences.run.1.cues viewing anchors).combined := by
  have hcommand : (Command.definitions request.targets request.markup request.theme).run host
      request.flags host.preferences.run.1 =
        printDefinitions (chooseStyle request.flags host.preferences.run.1) host.preferences.run.1
          request.targets.file .plain
          (request.theme.getD host.preferences.run.1.themeName) host.engine viewing anchors
          source := by
    unfold Command.run
    dsimp only
    rw [request.isTable, request.isPlain, h]
    rfl
  unfold run
  rw [request.parse_eq]
  change (Outcome.ofResult request.flags _ ((Command.definitions request.targets request.markup
    request.theme).run host request.flags host.preferences.run.1)).output = _
  rw [hcommand, printDefinitions_plain request.isTable]
  rfl

/-- The text of an aggregation has the dedented lines of the passages its anchors lead to, in the
order of the anchors, an empty line after each passage, and no more. A highlighter is given that
text, plain markup is that text, and so is what a run prints as a table in plain markup. -/
theorem combined_layout (source : Source) (cues : Cues) (viewing : Document)
    (anchors : List Anchor) (hviewing : viewing.IsText)
    (hsource : ∀ url document, source url = .ok document → document.IsText) :
    let found := passages source cues viewing anchors
    let aggregation := collect source cues viewing anchors
    aggregation.blocks = found.map Passage.block ∧
      (∀ anchor : Anchor, (anchor.passage? source cues viewing).isSome = true ↔
        ∃ document, anchor.document source viewing = .ok document ∧
          anchor.startLine < document.lineCount) ∧
      (∀ (anchor : Anchor) passage, anchor.passage? source cues viewing = some passage →
        anchor.document source viewing = .ok passage.document ∧
        Bounds.find? cues passage.document.lines anchor.target.range = some passage.bounds ∧
        (passage.document.lines.length ≤ UInt32.size →
          (∀ line ∈ passage.document.lines, line.length < UInt32.size) →
          passage.block.firstLine.toNat = passage.bounds.firstLine ∧
            passage.block.lastLine.toNat = passage.bounds.lastLine ∧
            passage.block.indent.toNat = passage.bounds.indent)) ∧
      (found ≠ [] → (aggregation.combined.toList.splitOn '\n').map String.ofList =
        found.flatMap fun passage => passage.lines ++ [""]) ∧
      (found = [] → aggregation.combined = "") ∧
      render source cues .plain viewing anchors = .ok aggregation.combined ∧
      (∀ highlighter : Highlighter, render source cues highlighter viewing anchors =
        if found = [] then .ok "" else highlighter viewing.languageId aggregation.combined) ∧
      ∀ (host : Host Id) (words : List String) (request : PlainRequest host words),
        host.prepare request.targets = .ok (viewing, anchors, source) →
        host.preferences.run.1.cues = cues →
        (run host words).run.output = aggregation.combined := by
  refine ⟨blocks_collect source cues viewing anchors, ?_, ?_,
    splitOn_combined source cues viewing anchors hviewing hsource,
    combined_of_passages_eq_nil source cues viewing anchors,
    render_plain source cues viewing anchors, render_eq source cues viewing anchors, ?_⟩
  · intro anchor
    exact anchor.isSome_passage?_iff source cues viewing
  · intro anchor passage hpassage
    obtain ⟨hdocument, hfind⟩ := Anchor.passage?_eq_some_iff.mp hpassage
    exact ⟨hdocument, hfind, Passage.toNat_block hpassage⟩
  · rintro host words request hprepare rfl
    exact request.output_run hprepare

namespace Sample

/-- The words that ask for the targets. -/
def words : List String := ["show", "a.py", "2", "gone.py:1", "b.py:2", "9", "2", "-mplain"]

theorem preferences_host : host.preferences.run = ({}, []) := by decide +kernel

def request : PlainRequest host words where
  flags := {}
  targets := targets
  markup := some .plain
  theme := none
  parse_eq := by decide +kernel
  isTable := by decide +kernel
  isPlain := by decide +kernel

end Sample

open Sample in
/-- A run on two files. -/
theorem combined_layout_run :
    (run host words).run.output =
        "# c\ndef f():\n  x\n\nz:\n\n  1\n\n# c\ndef f():\n  x\n" ∧
      ((run host words).run.output.toList.splitOn '\n').map String.ofList =
        ["# c", "def f():", "  x", "", "z:", "", "  1", "", "# c", "def f():", "  x", ""] := by
  have hsource : ∀ url document, host.fetch viewing anchors url = .ok document →
      document.IsText := fun url document hfetch =>
    (Files.source_eq_ok (host.source_of_fetch hfetch)).2
  obtain ⟨-, -, -, hsplit, -, -, -, hrun⟩ := combined_layout (host.fetch viewing anchors) {} viewing
    anchors (Document.isText_ofText ..) hsource
  have hcombined : (run host words).run.output =
      (collect (host.fetch viewing anchors) {} viewing anchors).combined :=
    hrun host words request prepare_targets (by rw [preferences_host])
  have hfound : passages (host.fetch viewing anchors) {} viewing anchors ≠ [] := by
    decide +kernel
  rw [hcombined]
  constructor
  · decide +kernel
  · rw [hsplit hfound]
    decide +kernel

end Excerpt.CommandLine
