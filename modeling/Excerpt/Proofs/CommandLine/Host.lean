import Excerpt.CommandLine.Run
import Excerpt.Proofs.Document

/-! Hosts whose files do not change. What a run fetches beforehand is what its anchors would open
one by one, the file being viewed included. -/
namespace Excerpt.CommandLine.Host

variable (host : Host Id)

/-- The source of all files of a host. -/
def source : Source := Files.source host.read

theorem openUrl_eq_source (url : Url) : host.openUrl url = host.source url := by
  unfold openUrl source Files.source
  cases url.localPath? <;> rfl

theorem mapM_openUrl (urls : List Url) :
    (urls.mapM fun url => return (url, ← host.openUrl url) : Id _) =
      urls.map fun url => (url, host.source url) := by
  have hopen : (fun url => do return (url, ← host.openUrl url) : Url → Id _) =
      fun url => pure (url, host.source url) := by
    funext url
    rw [openUrl_eq_source]
    rfl
  rw [hopen, List.mapM_pure]
  rfl

/-- A run fetches what its anchors point into, but for the document being viewed. -/
theorem fetch_eq (viewing : Document) (anchors : List Anchor) (url : Url) :
    host.fetch viewing anchors url =
      if url ∈ anchors.map (·.target.url) ∧ url ≠ viewing.url then host.source url
      else .error (.notFound url) := by
  have hmem : url ∈ (anchors.map (·.target.url)).filter (· ≠ viewing.url) ↔
      url ∈ anchors.map (·.target.url) ∧ url ≠ viewing.url := by
    rw [List.mem_filter, decide_eq_true_eq]
  unfold fetch
  rw [mapM_openUrl]
  change (List.lookup url _).getD _ = _
  by_cases hurl : url ∈ (anchors.map (·.target.url)).filter (· ≠ viewing.url)
  · rw [List.lookup_graph host.source hurl, if_pos (hmem.mp hurl)]
    rfl
  · have hnone : List.lookup url (((anchors.map (·.target.url)).filter (· ≠ viewing.url)).map
        fun url => (url, host.source url)) = none := by
      rw [List.lookup_eq_none_iff]
      intro entry hentry
      obtain ⟨other, hother, rfl⟩ := List.mem_map.mp hentry
      simpa using fun heq : url = other => hurl (heq ▸ hother)
    rw [hnone, if_neg (mt hmem.mpr hurl)]
    rfl

theorem fetch_of_mem {viewing : Document} {anchors : List Anchor} {anchor : Anchor}
    (hanchor : anchor ∈ anchors) (htarget : anchor.target.url ≠ viewing.url) :
    host.fetch viewing anchors anchor.target.url = host.source anchor.target.url := by
  rw [fetch_eq, if_pos ⟨List.mem_map_of_mem hanchor, htarget⟩]

theorem source_of_fetch {viewing : Document} {anchors : List Anchor} {url : Url}
    {document : Document} (h : host.fetch viewing anchors url = .ok document) :
    host.source url = .ok document := by
  rw [fetch_eq] at h
  split at h
  · exact h
  · cases h

theorem prepare_eq {targets : Targets} {viewing : Document} {anchors : List Anchor}
    (hopen : host.openFile targets.file = .ok viewing)
    (hanchors : Anchor.resolve host.workDir viewing.url targets.arguments
      (host.readResponse targets.response) = .ok anchors) :
    host.prepare targets = .ok (viewing, anchors, host.fetch viewing anchors) := by
  unfold prepare
  simp only [bind, pure, hopen, hanchors]

theorem source_of_openFile {file : String} {viewing : Document}
    (h : host.openFile file = .ok viewing) : host.source viewing.url = .ok viewing := by
  unfold openFile at h
  cases hurl : Document.urlOfPath host.workDir file with
  | error e =>
    rw [hurl] at h
    cases h
  | ok url =>
    rw [hurl] at h
    have hopen : (host.source url).mapError (fun e =>
        ("Failed to open file: " ++ file) :: documentChain e) = .ok viewing := by
      rw [← openUrl_eq_source]
      exact h
    cases hsource : host.source url with
    | error e =>
      rw [hsource] at hopen
      cases hopen
    | ok document =>
      rw [hsource] at hopen
      obtain rfl : document = viewing := Except.ok.inj hopen
      rw [(Files.source_eq_ok hsource).1]
      exact hsource

end Excerpt.CommandLine.Host

namespace Excerpt.CommandLine.Sample

/-- The URL of a file in the working directory. -/
def url (name : String) : Url := LocalPath.urlOfComponents [Text.utf8 "w", Text.utf8 name]

/-- The text of the file being viewed. -/
def text : String := "# c\ndef f():\n  x\n"

/-- A host with two files, on which a run can be followed to its end. -/
def host : Host Id where
  workDir := Text.utf8 "/w"
  input := []
  read := fun path =>
    if path = Text.utf8 "/w/a.py" then .ok (Text.utf8 text)
    else if path = Text.utf8 "/w/b.py" then .ok (Text.utf8 "y:\n  z:\n\n    1\n")
    else .error .missing

def viewing : Document := .ofText (url "a.py") "python" text

theorem openFile_host : host.openFile "a.py" = .ok viewing := by
  have hrun : (host.openFile "a.py").run = .ok viewing := by decide +kernel
  exact hrun

/-- Anchors of which one is into a file that is missing, one past the last line, and one comes
twice. -/
def targets : Targets where
  file := "a.py"
  arguments := [⟨none, 2, none⟩, ⟨some "gone.py", 1, none⟩, ⟨some "b.py", 2, none⟩,
    ⟨none, 9, none⟩, ⟨none, 2, none⟩]

def anchors : List Anchor :=
  [.location ⟨url "a.py", .atLine 1⟩, .location ⟨url "gone.py", .atLine 0⟩,
    .location ⟨url "b.py", .atLine 1⟩, .location ⟨url "a.py", .atLine 8⟩,
    .location ⟨url "a.py", .atLine 1⟩]

theorem prepare_targets :
    host.prepare targets = .ok (viewing, anchors, host.fetch viewing anchors) := by
  have hanchors : Anchor.resolve host.workDir viewing.url targets.arguments
      (host.readResponse targets.response).run = .ok anchors := by decide +kernel
  exact host.prepare_eq openFile_host hanchors

end Excerpt.CommandLine.Sample
