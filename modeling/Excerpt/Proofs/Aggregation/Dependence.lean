import Excerpt.Proofs.Aggregation.Passage
import Excerpt.Proofs.Shelf

/-! What an aggregation depends on: of all the documents that a source opens, the lines of those
that the anchors point into, and never the document at the URL being viewed. -/
namespace Excerpt

/-- Two results of opening a URL that no block tells apart: neither is a document, or both are
documents at that URL with the same lines. -/
def SameLines (url : Url) : (opened opened' : Except DocumentError Document) → Prop
  | .ok document, .ok document' =>
    document.url = url ∧ document'.url = url ∧ document.lines = document'.lines
  | .error _, .error _ => True
  | _, _ => False

theorem Shelf.sameLines_of_source_eq {shelf shelf' : Shelf} {url : Url}
    (h : shelf.source url = shelf'.source url) :
    SameLines url (shelf.source url) (shelf'.source url) := by
  rw [← h]
  cases hopen : shelf.source url with
  | error e => trivial
  | ok document => exact ⟨url_of_source_eq_ok hopen, url_of_source_eq_ok hopen, rfl⟩

theorem Block.extract_congr {document document' : Document} (hurl : document.url = document'.url)
    (hlines : document.lines = document'.lines) (cues : Cues) (range : Range) :
    extract cues document range = extract cues document' range := by
  unfold extract
  rw [hurl, hlines]

namespace Aggregation

variable {source source' : Source} {viewing : Document}

theorem block?_congr (cues : Cues) {anchor : Anchor}
    (h : anchor.target.url ≠ viewing.url →
      SameLines anchor.target.url (source anchor.target.url) (source' anchor.target.url)) :
    block? source cues viewing anchor = block? source' cues viewing anchor := by
  unfold block?
  rw [anchor.block_eq_map_document, anchor.block_eq_map_document]
  unfold Anchor.document
  by_cases htarget : anchor.target.url = viewing.url
  · rw [if_pos htarget, if_pos htarget]
  · have hsame := h htarget
    rw [if_neg htarget, if_neg htarget]
    cases hopen : source anchor.target.url with
    | error e =>
      cases hopen' : source' anchor.target.url with
      | error e' => rfl
      | ok document' =>
        rw [hopen, hopen'] at hsame
        exact hsame.elim
    | ok document =>
      cases hopen' : source' anchor.target.url with
      | error e' =>
        rw [hopen, hopen'] at hsame
        exact hsame.elim
      | ok document' =>
        rw [hopen, hopen'] at hsame
        obtain ⟨hurl, hurl', hlines⟩ := hsame
        dsimp only [Except.map]
        rw [Block.extract_congr (hurl.trans hurl'.symm) hlines]

theorem collect_congr (cues : Cues) {anchors : List Anchor}
    (h : ∀ anchor ∈ anchors, anchor.target.url ≠ viewing.url →
      SameLines anchor.target.url (source anchor.target.url) (source' anchor.target.url)) :
    collect source cues viewing anchors = collect source' cues viewing anchors := by
  unfold collect
  rw [List.filterMap_congr fun anchor hanchor => block?_congr cues (h anchor hanchor)]

/-- Shelves with the same history at every URL that is opened. -/
theorem collect_ofInserts_congr (cues : Cues) {anchors : List Anchor}
    {documents documents' : List Document}
    (h : ∀ anchor ∈ anchors, anchor.target.url ≠ viewing.url →
      Shelf.insertsAt anchor.target.url documents = Shelf.insertsAt anchor.target.url documents') :
    collect (Shelf.ofInserts documents).source cues viewing anchors =
      collect (Shelf.ofInserts documents').source cues viewing anchors := by
  apply collect_congr
  intro anchor hanchor htarget
  apply Shelf.sameLines_of_source_eq
  rw [Shelf.source_ofInserts, Shelf.source_ofInserts, h anchor hanchor htarget]

/-- An insert that no anchor asks for. -/
theorem collect_ofInserts_append_cons (cues : Cues) {anchors : List Anchor}
    (before after : List Document) {document : Document}
    (h : document.url = viewing.url ∨ ∀ anchor ∈ anchors, anchor.target.url ≠ document.url) :
    collect (Shelf.ofInserts (before ++ document :: after)).source cues viewing anchors =
      collect (Shelf.ofInserts (before ++ after)).source cues viewing anchors := by
  apply collect_ofInserts_congr
  intro anchor hanchor htarget
  have hne : document.url ≠ anchor.target.url := by
    rcases h with hviewing | hothers
    · rw [hviewing]
      exact Ne.symm htarget
    · exact Ne.symm (hothers anchor hanchor)
  rw [Shelf.insertsAt_append, Shelf.insertsAt_append, Shelf.insertsAt_cons_of_ne hne]

theorem url_of_passage? {shelf : Shelf} {cues : Cues} {anchor : Anchor} {passage : Passage}
    (h : anchor.passage? shelf.source cues viewing = some passage) :
    passage.block.url = anchor.target.url := by
  obtain ⟨hdocument, -⟩ := Anchor.passage?_eq_some_iff.mp h
  change passage.document.url = anchor.target.url
  unfold Anchor.document at hdocument
  split at hdocument
  · rename_i htarget
    rw [← Except.ok.inj hdocument, htarget]
  · exact Shelf.url_of_source_eq_ok hdocument

theorem url_blocks_collect (shelf : Shelf) (cues : Cues) (viewing : Document)
    (anchors : List Anchor) :
    (collect shelf.source cues viewing anchors).blocks.map Block.url =
      (anchors.filter fun anchor => (anchor.passage? shelf.source cues viewing).isSome).map
        (·.target.url) := by
  rw [blocks_collect, passages]
  induction anchors with
  | nil => rfl
  | cons anchor anchors ih =>
    cases hpassage : anchor.passage? shelf.source cues viewing with
    | none => simpa [hpassage] using ih
    | some passage => simpa [hpassage, url_of_passage? hpassage] using ih

/-- Collecting depends on the lines of the documents at the URLs of the anchors alone. A shelf opens
at each URL what was put there last, so that an insert elsewhere, or in place of the document being
viewed, or in another order among other URLs, changes nothing. -/
theorem collect_targets_only (cues : Cues) (viewing : Document) (anchors : List Anchor) :
    (∀ source source' : Source,
      (∀ anchor ∈ anchors, anchor.target.url ≠ viewing.url →
        SameLines anchor.target.url (source anchor.target.url) (source' anchor.target.url)) →
      collect source cues viewing anchors = collect source' cues viewing anchors ∧
      ∀ highlighter, render source cues highlighter viewing anchors =
        render source' cues highlighter viewing anchors) ∧
    (∀ documents : List Document,
      (∀ url, (Shelf.ofInserts documents).source url =
        match (Shelf.insertsAt url documents).getLast? with
        | some document => .ok document
        | none => .error (.notFound url)) ∧
      (∀ url document, (Shelf.ofInserts documents).source url = .ok document →
        document.url = url) ∧
      (Shelf.ofInserts documents).size = (documents.map Document.url).toFinset.card ∧
      (collect (Shelf.ofInserts documents).source cues viewing anchors).blocks.map Block.url =
        (anchors.filter fun anchor =>
          (anchor.passage? (Shelf.ofInserts documents).source cues viewing).isSome).map
            (·.target.url)) ∧
    (∀ (before after : List Document) (document : Document),
      (document.url = viewing.url ∨ ∀ anchor ∈ anchors, anchor.target.url ≠ document.url) →
      collect (Shelf.ofInserts (before ++ document :: after)).source cues viewing anchors =
        collect (Shelf.ofInserts (before ++ after)).source cues viewing anchors) ∧
    (∀ documents documents' : List Document,
      (∀ url, Shelf.insertsAt url documents = Shelf.insertsAt url documents') ∨
        (documents.Perm documents' ∧ (documents.map Document.url).Nodup) →
      collect (Shelf.ofInserts documents).source cues viewing anchors =
        collect (Shelf.ofInserts documents').source cues viewing anchors) ∧
    ∀ (source : Source) (more : List Anchor),
      (collect source cues viewing (anchors ++ more)).blocks =
        (collect source cues viewing anchors).blocks ++
          (collect source cues viewing more).blocks := by
  refine ⟨?_, ?_, ?_, ?_, ?_⟩
  · intro source source' hsame
    have hcollect := collect_congr cues hsame
    exact ⟨hcollect, fun highlighter => by rw [render, render, hcollect]⟩
  · intro documents
    exact ⟨Shelf.source_ofInserts documents, fun _ _ => Shelf.url_of_source_eq_ok,
      Shelf.size_ofInserts documents, url_blocks_collect _ cues viewing anchors⟩
  · intro before after document hother
    exact collect_ofInserts_append_cons cues before after hother
  · intro documents documents' horder
    apply collect_ofInserts_congr
    intro anchor _ _
    rcases horder with hat | ⟨hperm, hnodup⟩
    · exact hat anchor.target.url
    · exact Shelf.insertsAt_eq_of_perm hperm hnodup anchor.target.url
  · intro source more
    exact List.filterMap_append ..

/-- A URL at which two documents were put, one that is being viewed, and one that is not asked
for. -/
theorem collect_targets_only_shelf :
    let url : String → Url := fun path => ⟨"mem", none, .bare path, none, none⟩
    let viewing : Document := ⟨url "v", "", ["v:", "  1"]⟩
    let documents : List Document :=
      [⟨url "a", "", ["a:", "  1"]⟩, ⟨url "b", "", ["b"]⟩, ⟨url "a", "c", ["a:", "  2", "b"]⟩]
    let anchors : List Anchor :=
      [.location ⟨url "a", .atLine 0⟩, .location ⟨url "v", .atLine 0⟩,
        .location ⟨url "c", .atLine 0⟩]
    (collect (Shelf.ofInserts documents).source {} viewing anchors).blocks.map Block.text =
        ["a:\n  2\n", "v:\n  1\n"] ∧
      (Shelf.ofInserts documents).size = 2 ∧
      collect (Shelf.ofInserts (documents ++ [⟨url "v", "", ["w"]⟩])).source {} viewing anchors =
        collect (Shelf.ofInserts (documents ++ [])).source {} viewing anchors ∧
      collect (Shelf.ofInserts (documents.take 2)).source {} viewing anchors =
        collect (Shelf.ofInserts (documents.take 2).reverse).source {} viewing anchors ∧
      collect (fun u => if u = url "a" then .ok ⟨u, "d", ["a:", "  2", "b"]⟩
          else .error (.unsupported u)) {} viewing anchors =
        collect (Shelf.ofInserts documents).source {} viewing anchors := by
  intro url viewing documents anchors
  obtain ⟨hsame, hshelf, hinsert, horder, -⟩ := collect_targets_only {} viewing anchors
  refine ⟨by decide, ?_, hinsert documents [] _ (.inl rfl), horder _ _ (.inr ⟨?_, ?_⟩),
    (hsame _ _ ?_).1⟩
  · rw [(hshelf documents).2.2.1]
    decide
  · exact (List.reverse_perm _).symm
  · decide
  · intro anchor hanchor _
    simp only [anchors, List.mem_cons, List.not_mem_nil, or_false] at hanchor
    rcases hanchor with rfl | rfl | rfl
    · exact ⟨rfl, rfl, by decide⟩
    · trivial
    · trivial

end Aggregation

end Excerpt
