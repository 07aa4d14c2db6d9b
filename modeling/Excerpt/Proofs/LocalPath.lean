import Excerpt.Anchor.Argument
import Excerpt.Proofs.Text.Lines
import Excerpt.Proofs.Url.Percent
import Excerpt.Source

/-! Paths on their way through URLs. The URL of a path tells its components and nothing else of it,
whatever octets they hold. -/
namespace Excerpt

/-- Pieces that each follow a separator, but for the first, come back from their whole. -/
theorem splitOn_append_flatMap {α : Type} [BEq α] [LawfulBEq α] {a : α} {piece : List α}
    {pieces : List (List α)} (hpiece : a ∉ piece) (h : ∀ piece ∈ pieces, a ∉ piece) :
    (piece ++ pieces.flatMap (a :: ·)).splitOn a = piece :: pieces := by
  induction pieces generalizing piece with
  | nil => rw [List.flatMap_nil, List.append_nil, List.splitOn_eq_singleton hpiece]
  | cons next pieces ih =>
    have hnext := ih (h next List.mem_cons_self) fun piece hmem =>
      h piece (List.mem_cons_of_mem _ hmem)
    rw [List.flatMap_cons, List.cons_append, List.splitOn_append_cons_self_of_not_mem hpiece, hnext]

/-- Segments without slashes come back from the text of their path. -/
theorem Url.Path.print_rooted_injective {segments segments' : List String}
    (h : ∀ segment ∈ segments, '/' ∉ segment.toList)
    (h' : ∀ segment ∈ segments', '/' ∉ segment.toList)
    (heq : print (.rooted segments) = print (.rooted segments')) : segments = segments' := by
  have hsplit : ∀ segments : List String, (∀ segment ∈ segments, '/' ∉ segment.toList) →
      (print (.rooted segments)).toList.splitOn '/' = [] :: segments.map String.toList := by
    intro segments h
    have hchars : (print (.rooted segments)).toList =
        (segments.map String.toList).flatMap ('/' :: ·) := by
      rw [print, String.toList_join, List.flatMap_map, List.flatMap_map]
      exact List.flatMap_congr fun segment _ => by simp
    rw [hchars]
    apply splitOn_append_flatMap List.not_mem_nil
    intro chars hchars
    obtain ⟨segment, hsegment, rfl⟩ := List.mem_map.mp hchars
    exact h segment hsegment
  have hpieces := hsplit segments h
  rw [heq, hsplit segments' h'] at hpieces
  have hinjective := List.map_injective_iff.mpr fun _ _ => String.toList_injective
  exact (hinjective (List.cons.inj hpieces).2).symm

namespace LocalPath

/-- What may be a component of a path. -/
def IsName (name : Bytes) : Prop := name ≠ [] ∧ name ≠ [dot] ∧ slash ∉ name

theorem isName_of_mem_components {path name : Bytes} (h : name ∈ components path) :
    IsName name := by
  obtain ⟨hmem, hkept⟩ := List.mem_filter.mp h
  simp only [Bool.and_eq_true, bne_iff_ne] at hkept
  exact ⟨hkept.1, hkept.2, notMem_of_mem_splitOn hmem⟩

theorem isName_of_mem_absolute {workDir path name : Bytes} (h : name ∈ absolute workDir path) :
    IsName name := by
  unfold absolute at h
  split at h
  · exact isName_of_mem_components h
  · rcases List.mem_append.mp h with h | h
    · exact isName_of_mem_components h
    · exact isName_of_mem_components h

theorem components_append_slash (path : Bytes) :
    components (path ++ [slash]) = components path := by
  rw [components, List.splitOn_append_cons_self, List.filter_append]
  exact List.append_nil _

/-- Names that each follow a slash are the components of their whole. -/
theorem components_flatMap {names : List Bytes} (h : ∀ name ∈ names, IsName name) :
    components (names.flatMap (slash :: ·)) = names := by
  have hkept : ∀ name ∈ names, (name != [] && name != [dot]) = true := by
    intro name hname
    obtain ⟨hnil, hdot, -⟩ := h name hname
    simp [hnil, hdot]
  have hsplit : (names.flatMap (slash :: ·)).splitOn slash = [] :: names :=
    splitOn_append_flatMap List.not_mem_nil fun name hname => (h name hname).2.2
  rw [components, hsplit, List.filter_cons_of_neg (by decide), List.filter_eq_self.mpr hkept]

theorem percent_mem_component : '%' ∈ Url.Reserved.component := by decide

theorem joinSegments_percentEncode (names : List Bytes) :
    Url.joinSegments (names.map (Url.percentEncode .component)) = names.flatMap (slash :: ·) := by
  rw [Url.joinSegments, List.flatMap_map]
  apply List.flatMap_congr
  intro name _
  rw [Url.percentDecode_percentEncode percent_mem_component]
  rfl

/-- The local path of the URL of some names leads through them from the root. A slash that a drive
letter gets at the end adds no component. -/
theorem exists_localPath?_urlOfComponents {names : List Bytes} (h : ∀ name ∈ names, IsName name) :
    ∃ path, (urlOfComponents names).localPath? = some path ∧ isAbsolute path = true ∧
      components path = names := by
  cases names with
  | nil => exact ⟨[slash], by decide, by decide, by decide⟩
  | cons name names =>
    have hjoin := joinSegments_percentEncode (name :: names)
    have hpath : (urlOfComponents (name :: names)).localPath? =
        some (if Url.endsInDrive ((name :: names).flatMap (slash :: ·)) then
          (name :: names).flatMap (slash :: ·) ++ [slash]
        else (name :: names).flatMap (slash :: ·)) := by
      rw [← hjoin]
      rfl
    refine ⟨_, hpath, ?_, ?_⟩
    · split <;> rfl
    · split
      · rw [components_append_slash, components_flatMap h]
      · exact components_flatMap h

theorem exists_segments_urlOfComponents (names : List Bytes) :
    ∃ segments, urlOfComponents names =
        { scheme := "file", authority := some {}, path := .rooted segments } ∧
      ∀ segment ∈ segments, '/' ∉ segment.toList := by
  cases names with
  | nil => exact ⟨[""], rfl, by simp⟩
  | cons name names =>
    refine ⟨(name :: names).map (Url.percentEncode .component), rfl, ?_⟩
    intro segment hsegment
    obtain ⟨name', -, rfl⟩ := List.mem_map.mp hsegment
    exact Url.notMem_percentEncode (by decide) (by decide) (by decide) name'

theorem urlOfComponents_eq_of_print_eq {names names' : List Bytes}
    (h : (urlOfComponents names).print = (urlOfComponents names').print) :
    urlOfComponents names = urlOfComponents names' := by
  obtain ⟨segments, hurl, hslash⟩ := exists_segments_urlOfComponents names
  obtain ⟨segments', hurl', hslash'⟩ := exists_segments_urlOfComponents names'
  rw [hurl, hurl'] at h ⊢
  have hpath : Url.Path.print (.rooted segments) = Url.Path.print (.rooted segments') := by
    simpa [Url.print, Url.guard] using h
  rw [Url.Path.print_rooted_injective hslash hslash' hpath]

/-- URLs of names differ where the names do. -/
theorem urlOfComponents_eq_iff {names names' : List Bytes} (h : ∀ name ∈ names, IsName name)
    (h' : ∀ name ∈ names', IsName name) :
    urlOfComponents names = urlOfComponents names' ↔ names = names' := by
  constructor
  · intro heq
    obtain ⟨path, hpath, -, hnames⟩ := exists_localPath?_urlOfComponents h
    obtain ⟨path', hpath', -, hnames'⟩ := exists_localPath?_urlOfComponents h'
    rw [heq, hpath'] at hpath
    rw [← hnames, ← hnames', Option.some.inj hpath]
  · rintro rfl
    rfl

theorem url?_of_ne_nil (workDir : Bytes) {path : Bytes} (h : path ≠ []) :
    url? workDir path = some (urlOfComponents (absolute workDir path)) := by
  cases path with
  | nil => exact absurd rfl h
  | cons b path => rfl

theorem urlOfPath_of_url? {workDir : Bytes} {path : String} {url : Url}
    (h : url? workDir (Text.utf8 path) = some url) : Document.urlOfPath workDir path = .ok url := by
  rw [Document.urlOfPath, h]

theorem toAnchor_of_url? {workDir : Bytes} {argument : AnchorArgument} {path : String} {url : Url}
    (hargument : argument.path = some path) (h : url? workDir (Text.utf8 path) = some url)
    (viewing : Url) :
    argument.toAnchor workDir viewing = .ok (.location ⟨url, argument.range⟩) := by
  rw [AnchorArgument.toAnchor, hargument]
  dsimp only
  rw [urlOfPath_of_url? h]
  rfl

/-- Every path but the empty one has a URL, which opens at the components of the path and is that of
another path exactly when their components are the same. So an anchor with a path points into the
document being viewed exactly when its path has the components of that document's. -/
theorem url?_tells_components (workDir path other : Bytes) (hpath : path ≠ [])
    (hother : other ≠ []) :
    ∃ url url', url? workDir path = some url ∧ url? workDir other = some url' ∧
      (∃ localPath, url.localPath? = some localPath ∧ isAbsolute localPath = true ∧
        components localPath = absolute workDir path ∧ ∀ files : Files,
          files.source url = Files.toDocument url localPath (files.readText localPath)) ∧
      (url = url' ↔ absolute workDir path = absolute workDir other) ∧
      (url.print = url'.print ↔ absolute workDir path = absolute workDir other) ∧
      ∀ (argument : AnchorArgument) (name file : String), argument.path = some name →
        Text.utf8 name = path → Text.utf8 file = other →
        Document.urlOfPath workDir file = .ok url' ∧
          ∃ anchor, argument.toAnchor workDir url' = .ok anchor ∧
            (anchor.target.url = url' ↔ absolute workDir path = absolute workDir other) := by
  have hurl := url?_of_ne_nil workDir hpath
  have hurl' := url?_of_ne_nil workDir hother
  have hnames : ∀ name ∈ absolute workDir path, IsName name := fun _ h => isName_of_mem_absolute h
  have hnames' : ∀ name ∈ absolute workDir other, IsName name :=
    fun _ h => isName_of_mem_absolute h
  have heq := urlOfComponents_eq_iff hnames hnames'
  refine ⟨_, _, hurl, hurl', ?_, heq, ?_, ?_⟩
  · obtain ⟨localPath, hlocal, habsolute, hcomponents⟩ := exists_localPath?_urlOfComponents hnames
    refine ⟨localPath, hlocal, habsolute, hcomponents, ?_⟩
    intro files
    rw [Files.source, hlocal]
  · rw [← heq]
    constructor
    · exact urlOfComponents_eq_of_print_eq
    · exact congrArg Url.print
  · rintro argument name file hargument rfl rfl
    exact ⟨urlOfPath_of_url? hurl', _, toAnchor_of_url? hargument hurl _, heq⟩

/-- Two spellings of a path with blanks, parents, escapes and a drive letter, and its URL. -/
theorem url?_tells_components_escapes :
    let workDir := Text.utf8 "/w"
    let path := Text.utf8 "./a b//../%41#/C:"
    let other := Text.utf8 "/w/a b/./../%41#/C:/"
    path ≠ [] ∧ other ≠ [] ∧ ∃ url, url? workDir path = some url ∧ url? workDir other = some url ∧
      url.print = "file:///w/a%20b/../%2541%23/C:" ∧
      ∃ localPath, url.localPath? = some localPath ∧
        components localPath = ["w", "a b", "..", "%41#", "C:"].map Text.utf8 := by
  intro workDir path other
  have hpath : path ≠ [] := by decide
  have hother : other ≠ [] := by decide
  have habsolute : absolute workDir path = ["w", "a b", "..", "%41#", "C:"].map Text.utf8 := by
    decide
  have hsame : absolute workDir path = absolute workDir other := by decide
  have hprint : (urlOfComponents (absolute workDir path)).print =
      "file:///w/a%20b/../%2541%23/C:" := by decide
  obtain ⟨url, url', hurl, hurl', ⟨localPath, hlocal, -, hcomponents, -⟩, heq, -⟩ :=
    url?_tells_components workDir path other hpath hother
  refine ⟨hpath, hother, url, hurl, ?_, ?_, localPath, hlocal, hcomponents.trans habsolute⟩
  · rw [hurl', heq.mpr hsame]
  · rw [url?_of_ne_nil workDir hpath] at hurl
    rw [← Option.some.inj hurl, hprint]

end LocalPath

end Excerpt
