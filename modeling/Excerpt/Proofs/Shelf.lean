import Mathlib.Data.Finset.Card
import Excerpt.Source

/-! Shelves after any history of inserts: each URL opens the document that was put there last. -/
namespace Excerpt.Shelf

/-- The URLs of the documents on a shelf. -/
def urls (shelf : Shelf) : List Url := shelf.documents.map Document.url

theorem source_insert (shelf : Shelf) (document : Document) (url : Url) :
    (shelf.insert document).source url =
      if document.url = url then .ok document else shelf.source url := by
  unfold source insert
  by_cases h : document.url = url
  · simp [h]
  · have hrest : (shelf.documents.filter (·.url ≠ document.url)).find? (·.url = url) =
        shelf.documents.find? (·.url = url) := by
      rw [List.find?_filter]
      congr 1
      funext other
      by_cases hother : other.url = url
      · simp [hother, Ne.symm h]
      · simp [hother]
    rw [List.find?_cons_of_neg (by simpa using h), hrest, if_neg h]

theorem url_of_source_eq_ok {shelf : Shelf} {url : Url} {document : Document}
    (h : shelf.source url = .ok document) : document.url = url := by
  unfold source at h
  split at h
  · rename_i found hfind
    obtain rfl : found = document := Except.ok.inj h
    simpa using List.find?_some hfind
  · cases h

theorem mem_urls_insert {shelf : Shelf} {document : Document} {url : Url} :
    url ∈ (shelf.insert document).urls ↔ url = document.url ∨ url ∈ shelf.urls := by
  unfold urls insert
  by_cases h : url = document.url
  · simp [h]
  · simp only [List.map_cons, List.mem_cons, h, false_or, List.mem_map, List.mem_filter]
    constructor
    · rintro ⟨other, ⟨hmem, -⟩, rfl⟩
      exact ⟨other, hmem, rfl⟩
    · rintro ⟨other, hmem, rfl⟩
      exact ⟨other, ⟨hmem, by simpa using h⟩, rfl⟩

theorem nodup_urls_insert {shelf : Shelf} (h : shelf.urls.Nodup) (document : Document) :
    (shelf.insert document).urls.Nodup := by
  unfold urls insert
  rw [List.map_cons, List.nodup_cons]
  constructor
  · simp
  · exact h.sublist (List.filter_sublist.map Document.url)

/-- The shelf after a history of inserts. -/
def ofInserts (documents : List Document) : Shelf := documents.foldl insert {}

/-- The part of a history of inserts that is at one URL. -/
def insertsAt (url : Url) (documents : List Document) : List Document :=
  documents.filter (·.url = url)

theorem insertsAt_cons_of_ne {url : Url} {document : Document} (h : document.url ≠ url)
    (documents : List Document) : insertsAt url (document :: documents) = insertsAt url documents :=
  List.filter_cons_of_neg (by simpa using h)

theorem insertsAt_append (url : Url) (documents documents' : List Document) :
    insertsAt url (documents ++ documents') = insertsAt url documents ++ insertsAt url documents' :=
  List.filter_append ..

/-- No order of inserts at distinct URLs shows at any of them. -/
theorem insertsAt_eq_of_perm {documents documents' : List Document} (h : documents.Perm documents')
    (hnodup : (documents.map Document.url).Nodup) (url : Url) :
    insertsAt url documents = insertsAt url documents' := by
  have hperm : (insertsAt url documents).Perm (insertsAt url documents') := h.filter _
  have hurls : ((insertsAt url documents).map Document.url).Nodup :=
    hnodup.sublist (List.filter_sublist.map Document.url)
  have hmem : ∀ document ∈ insertsAt url documents, document.url = url := by
    intro document hdocument
    simpa using (List.mem_filter.mp hdocument).2
  -- There is at most one document at the URL, so that there is nothing to order.
  match hat : insertsAt url documents with
  | [] =>
    rw [hat] at hperm
    exact hperm.nil_eq
  | [document] =>
    rw [hat] at hperm
    exact (List.perm_singleton.mp hperm.symm).symm
  | document :: other :: rest =>
    rw [hat] at hurls hmem
    have hne : document.url ≠ other.url := by
      intro heq
      simp [heq] at hurls
    have hurl := hmem document (by simp)
    have hother := hmem other (by simp)
    exact absurd (hurl.trans hother.symm) hne

/-- A URL opens the document that was put there last, or what it did before there was any. -/
theorem source_foldl_insert (documents : List Document) (shelf : Shelf) (url : Url) :
    (documents.foldl insert shelf).source url =
      match (insertsAt url documents).getLast? with
      | some document => .ok document
      | none => shelf.source url := by
  induction documents generalizing shelf with
  | nil => rfl
  | cons document documents ih =>
    rw [List.foldl_cons, ih, source_insert]
    by_cases h : document.url = url
    · have hat : insertsAt url (document :: documents) = document :: insertsAt url documents :=
        List.filter_cons_of_pos (by simpa using h)
      rw [hat, List.getLast?_cons, if_pos h]
      cases (insertsAt url documents).getLast? <;> rfl
    · rw [insertsAt_cons_of_ne h, if_neg h]

theorem source_ofInserts (documents : List Document) (url : Url) :
    (ofInserts documents).source url =
      match (insertsAt url documents).getLast? with
      | some document => .ok document
      | none => .error (.notFound url) :=
  source_foldl_insert documents {} url

theorem urls_foldl_insert (documents : List Document) {shelf : Shelf} (h : shelf.urls.Nodup) :
    (documents.foldl insert shelf).urls.Nodup ∧
      ∀ url, url ∈ (documents.foldl insert shelf).urls ↔
        url ∈ documents.map Document.url ∨ url ∈ shelf.urls := by
  induction documents generalizing shelf with
  | nil => exact ⟨h, by simp⟩
  | cons document documents ih =>
    obtain ⟨hnodup, hmem⟩ := ih (nodup_urls_insert h document)
    refine ⟨hnodup, ?_⟩
    intro url
    rw [List.foldl_cons, hmem, mem_urls_insert, List.map_cons, List.mem_cons]
    tauto

/-- A shelf holds as many documents as URLs were inserted at. -/
theorem size_ofInserts (documents : List Document) :
    (ofInserts documents).size = (documents.map Document.url).toFinset.card := by
  have hempty : ({} : Shelf).urls.Nodup := List.nodup_nil
  obtain ⟨hnodup, hmem⟩ := urls_foldl_insert documents hempty
  have hset : (ofInserts documents).urls.toFinset = (documents.map Document.url).toFinset := by
    ext url
    rw [List.mem_toFinset, List.mem_toFinset, ofInserts, hmem]
    simp [urls]
  calc (ofInserts documents).size = (ofInserts documents).urls.length := by
        rw [urls, List.length_map, size]
    _ = (ofInserts documents).urls.toFinset.card := (List.toFinset_card_of_nodup hnodup).symm
    _ = (documents.map Document.url).toFinset.card := by rw [hset]

end Excerpt.Shelf
