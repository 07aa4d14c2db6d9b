import Excerpt.Proofs.Text.Lines
import Excerpt.Source

/-! Documents that come from texts, as all do that a source of files opens. -/
namespace Excerpt

/-- A document of some text. -/
def Document.IsText (document : Document) : Prop :=
  ∃ text, document = .ofText document.url document.languageId text

theorem Document.isText_ofText (url : Url) (languageId text : String) :
    (ofText url languageId text).IsText := ⟨text, rfl⟩

theorem Document.IsText.newline_notMem {document : Document} (h : document.IsText) {line : String}
    (hline : line ∈ document.lines) : '\n' ∉ line.toList := by
  obtain ⟨text, htext⟩ := h
  rw [htext] at hline
  exact Text.newline_notMem_of_mem_splitLines hline

namespace Files

theorem source_eq_ok {files : Files} {url : Url} {document : Document}
    (h : files.source url = .ok document) : document.url = url ∧ document.IsText := by
  unfold source at h
  cases hpath : url.localPath? with
  | none =>
    rw [hpath] at h
    cases h
  | some path =>
    rw [hpath] at h
    dsimp only at h
    cases htext : files.readText path with
    | error fault =>
      rw [htext] at h
      cases fault <;> cases h
    | ok text =>
      rw [htext] at h
      obtain rfl := Except.ok.inj h
      exact ⟨rfl, Document.isText_ofText ..⟩

end Files

end Excerpt
