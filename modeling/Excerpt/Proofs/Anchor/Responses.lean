import Excerpt.Anchor.Json
import Excerpt.Proofs.Json.Fields
import Excerpt.Proofs.Json.ReadBack

/-! Responses and the anchors that they spell. A structure may be written as the array of its fields
or as an object, with its members in any order and others among them; every spelling of some anchors
is read as these anchors. -/
namespace Excerpt

/-! ## Spellings -/

/-- The values that stand for a position. -/
inductive Position.Spelled (position : Position) : Json → Prop
  | array : Spelled position (.array [.uint32 position.line, .uint32 position.character])
  | object {members : List (String × Json)} :
    Json.Holds ["line", "character"]
      [("line", .uint32 position.line), ("character", .uint32 position.character)] members →
    Spelled position (.object members)

/-- The values that stand for a range. -/
inductive Range.Spelled (range : Range) : Json → Prop
  | array {start stop : Json} : range.start.Spelled start → range.stop.Spelled stop →
    Spelled range (.array [start, stop])
  | object {start stop : Json} {members : List (String × Json)} :
    range.start.Spelled start → range.stop.Spelled stop →
    Json.Holds ["start", "end"] [("start", start), ("end", stop)] members →
    Spelled range (.object members)

/-- The values of a field that may be missing or null. -/
inductive Range.OptionalSpelled : Option Range → Option Json → Prop
  | missing : OptionalSpelled none none
  | null : OptionalSpelled none (some .null)
  | present {range : Range} {value : Json} : range.Spelled value →
    OptionalSpelled (some range) (some value)

/-- The names of the fields of links and of locations. -/
def Anchor.fieldNames : List String := Link.fieldNames ++ ["uri", "range"]

/-- The values that stand for a location. -/
inductive Location.Spelled (location : Location) : Json → Prop
  | array {range : Json} : location.range.Spelled range →
    Spelled location (.array [.string location.url.print, range])
  | object {range : Json} {members : List (String × Json)} : location.range.Spelled range →
    Json.Holds Anchor.fieldNames [("uri", .string location.url.print), ("range", range)] members →
    Spelled location (.object members)

/-- The values that stand for a link. -/
inductive Link.Spelled (link : Link) : Json → Prop
  | array {origin range selection : Json} : Range.OptionalSpelled link.origin (some origin) →
    link.targetRange.Spelled range → link.targetSelection.Spelled selection →
    Spelled link (.array [origin, .string link.targetUrl.print, range, selection])
  | object {origin : Option Json} {range selection : Json} {members : List (String × Json)} :
    Range.OptionalSpelled link.origin origin →
    link.targetRange.Spelled range → link.targetSelection.Spelled selection →
    Json.Holds Anchor.fieldNames
      ((origin.map ("originSelectionRange", ·)).toList ++
        [("targetUri", .string link.targetUrl.print), ("targetRange", range),
          ("targetSelectionRange", selection)]) members →
    Spelled link (.object members)

/-- The values that stand for an anchor. -/
def Anchor.Spelled : Anchor → Json → Prop
  | .link l => l.Spelled
  | .location l => l.Spelled

/-! ## Reading a spelling -/

theorem Json.uint32?_uint32 (n : UInt32) : (Json.uint32 n).uint32? = some n := by
  have hsize : n.toNat < UInt32.size := n.toNat_lt
  change (if n.toNat < UInt32.size then some n.toNat.toUInt32 else none) = some n
  rw [if_pos hsize]
  simp

theorem Position.ofJson?_of_spelled {position : Position} {value : Json}
    (h : position.Spelled value) : ofJson? value = some position := by
  have hfields : ofFields? (.uint32 position.line) (.uint32 position.character) =
      some position := by
    unfold ofFields?
    rw [Json.uint32?_uint32, Json.uint32?_uint32]
    rfl
  cases h with
  | array => exact hfields
  | object hmembers =>
    rw [ofJson?, hmembers.fields?_eq fun name hname => hname]
    exact hfields

theorem Range.ofJson?_of_spelled {range : Range} {value : Json} (h : range.Spelled value) :
    ofJson? value = some range := by
  have hfields : ∀ start stop, range.start.Spelled start → range.stop.Spelled stop →
      ofFields? start stop = some range := by
    intro start stop hstart hstop
    unfold ofFields?
    rw [Position.ofJson?_of_spelled hstart, Position.ofJson?_of_spelled hstop]
    rfl
  cases h with
  | array hstart hstop => exact hfields _ _ hstart hstop
  | object hstart hstop hmembers =>
    rw [ofJson?, hmembers.fields?_eq fun name hname => hname]
    exact hfields _ _ hstart hstop

theorem Range.ofOptional?_of_spelled {range : Option Range} {value : Option Json}
    (h : OptionalSpelled range value) : ofOptional? value = some range := by
  cases h with
  | missing => rfl
  | null => rfl
  | present hvalue =>
    rw [ofOptional?, ofJson?_of_spelled hvalue]
    · rfl
    · rintro rfl
      cases hvalue

theorem Url.ofJson?_print {url : Url} (h : Url.parse url.print = .ok url) :
    Url.ofJson? (.string url.print) = some url := by
  rw [Url.ofJson?, h]
  rfl

theorem Location.ofJson?_of_spelled {location : Location}
    (hurl : Url.parse location.url.print = .ok location.url) {value : Json}
    (h : location.Spelled value) : ofJson? value = some location := by
  have hfields : ∀ range, location.range.Spelled range →
      ofFields? (.string location.url.print) range = some location := by
    intro range hrange
    unfold ofFields?
    rw [Url.ofJson?_print hurl, Range.ofJson?_of_spelled hrange]
    rfl
  have hknown : ∀ url range : Json, Json.fields? ["uri", "range"] [("uri", url), ("range", range)] =
      some [some url, some range] := fun _ _ => rfl
  cases h with
  | array hrange =>
    rw [ofJson?]
    exact hfields _ hrange
  | object hrange hmembers =>
    rw [ofJson?, hmembers.fields?_eq (by decide), hknown, Option.bind_eq_bind, Option.bind_some]
    exact hfields _ hrange

/-- No location is spelled like a link. -/
theorem Link.ofJson?_eq_none_of_spelled {location : Location} {value : Json}
    (h : location.Spelled value) : ofJson? value = none := by
  cases h with
  | array hrange => rfl
  | object hrange hmembers =>
    rw [ofJson?, hmembers.fields?_eq (by decide)]
    rfl

theorem Link.ofJson?_of_spelled {link : Link}
    (hurl : Url.parse link.targetUrl.print = .ok link.targetUrl) {value : Json}
    (h : link.Spelled value) : ofJson? value = some link := by
  have hfields : ∀ origin range selection, Range.OptionalSpelled link.origin origin →
      link.targetRange.Spelled range → link.targetSelection.Spelled selection →
      ofFields? origin (.string link.targetUrl.print) range selection = some link := by
    intro origin range selection horigin hrange hselection
    unfold ofFields?
    rw [Range.ofOptional?_of_spelled horigin, Url.ofJson?_print hurl,
      Range.ofJson?_of_spelled hrange, Range.ofJson?_of_spelled hselection]
    rfl
  have hknown : ∀ (origin : Option Json) (url range selection : Json),
      Json.fields? fieldNames ((origin.map ("originSelectionRange", ·)).toList ++
        [("targetUri", url), ("targetRange", range), ("targetSelectionRange", selection)]) =
          some [origin, some url, some range, some selection] := by
    intro origin url range selection
    cases origin with
    | none => rfl
    | some origin => rfl
  cases h with
  | array horigin hrange hselection =>
    rw [ofJson?]
    exact hfields _ _ _ horigin hrange hselection
  | object horigin hrange hselection hmembers =>
    rw [ofJson?, hmembers.fields?_eq (by decide), hknown]
    exact hfields _ _ _ horigin hrange hselection

namespace Anchor

theorem ofJson?_of_spelled {anchor : Anchor}
    (hurl : Url.parse anchor.target.url.print = .ok anchor.target.url) {value : Json}
    (h : anchor.Spelled value) : ofJson? value = some anchor := by
  unfold ofJson?
  cases anchor with
  | link l => rw [Link.ofJson?_of_spelled hurl h]
  | location l =>
    rw [Link.ofJson?_eq_none_of_spelled h, Location.ofJson?_of_spelled hurl h]
    rfl

/-- No anchor is spelled like a list: its array holds a text. -/
theorem list?_eq_none_of_spelled {anchor : Anchor} {value : Json} (h : anchor.Spelled value) :
    list? value = none := by
  cases anchor with
  | link l =>
    cases h with
    | @array origin range selection horigin hrange hselection =>
      rw [list?, List.mapM_cons]
      cases ofJson? origin with
      | none => rfl
      | some anchor => rfl
    | object horigin hrange hselection hmembers => rfl
  | location l =>
    cases h with
    | array hrange => rfl
    | object hrange hmembers => rfl

theorem list?_of_spelled {anchors : List Anchor}
    (hurls : ∀ anchor ∈ anchors, Url.parse anchor.target.url.print = .ok anchor.target.url)
    {values : List Json} (h : List.Forall₂ Spelled anchors values) :
    list? (.array values) = some anchors := by
  rw [list?]
  induction h with
  | nil => rfl
  | cons hvalue hvalues ih =>
    obtain ⟨hurl, hurls⟩ := List.forall_mem_cons.1 hurls
    rw [List.mapM_cons, ofJson?_of_spelled hurl hvalue, ih hurls]
    rfl

theorem ofResponse?_list {anchors : List Anchor}
    (hurls : ∀ anchor ∈ anchors, Url.parse anchor.target.url.print = .ok anchor.target.url)
    {values : List Json} (h : List.Forall₂ Spelled anchors values) :
    ofResponse? (.array values) = some anchors := by
  rw [ofResponse?, list?_of_spelled hurls h]
  rintro ⟨⟩

theorem ofResponse?_single {anchor : Anchor}
    (hurl : Url.parse anchor.target.url.print = .ok anchor.target.url) {value : Json}
    (h : anchor.Spelled value) : ofResponse? value = some [anchor] := by
  rw [ofResponse?, list?_eq_none_of_spelled h, ofJson?_of_spelled hurl h]
  · rfl
  · rintro rfl
    have hread := ofJson?_of_spelled hurl h
    cases hread

theorem parseResponse_of_parse {text : String} {value : Json} {anchors : List Anchor}
    (hparse : Json.parse text = .ok value) (hvalue : ofResponse? value = some anchors) :
    parseResponse text = .ok anchors := by
  unfold Json.parse at hparse
  unfold parseResponse
  cases hread : Json.read .keep text.toList with
  | error fault =>
    rw [hread] at hparse
    cases hparse
  | ok result =>
    obtain ⟨value', rest⟩ := result
    rw [hread, Json.ok_bind] at hparse
    rw [Json.ok_bind]
    dsimp only at hparse ⊢
    cases hend : Json.readEnd rest with
    | error fault =>
      rw [hend] at hparse
      cases hparse
    | ok _ =>
      rw [hend, Json.ok_bind] at hparse
      cases hparse
      rw [hvalue]
      rfl

end Anchor

/-! ## Written anchors -/

theorem Position.spelled_toJson (position : Position) : position.Spelled position.toJson :=
  .object (Json.holds_self _ _)

theorem Range.spelled_toJson (range : Range) : range.Spelled range.toJson :=
  .object range.start.spelled_toJson range.stop.spelled_toJson (Json.holds_self _ _)

theorem Location.spelled_toJson (location : Location) : location.Spelled location.toJson :=
  .object location.range.spelled_toJson (Json.holds_self _ _)

theorem Link.spelled_toJson (link : Link) : link.Spelled link.toJson := by
  obtain ⟨origin, url, range, selection⟩ := link
  cases origin with
  | none =>
    exact .object .missing range.spelled_toJson selection.spelled_toJson (Json.holds_self _ _)
  | some origin =>
    exact .object (.present origin.spelled_toJson) range.spelled_toJson selection.spelled_toJson
      (Json.holds_self _ _)

theorem Anchor.spelled_toJson (anchor : Anchor) : anchor.Spelled anchor.toJson := by
  cases anchor with
  | link l => exact l.spelled_toJson
  | location l => exact l.spelled_toJson

theorem Json.plain_uint32 (depth : Nat) (n : UInt32) : Plain depth (.uint32 n) := by
  change Plain depth (.number (.integer (.ofNat n.toNat)))
  rw [Plain]
  exact n.toNat_lt

theorem Position.plain_toJson (depth : Nat) (position : Position) :
    Json.Plain (depth + 1) position.toJson := by
  simp [toJson, Json.Plain, Json.plain_uint32]

theorem Range.plain_toJson (depth : Nat) (range : Range) :
    Json.Plain (depth + 2) range.toJson := by
  simp [toJson, Json.Plain, Position.plain_toJson]

theorem Anchor.plain_toJson (depth : Nat) (anchor : Anchor) :
    Json.Plain (depth + 3) anchor.toJson := by
  cases anchor with
  | link l =>
    obtain ⟨origin, url, range, selection⟩ := l
    cases origin with
    | none => simp [toJson, Link.toJson, Json.record, Json.Plain, Range.plain_toJson]
    | some origin => simp [toJson, Link.toJson, Json.record, Json.Plain, Range.plain_toJson]
  | location l => simp [toJson, Location.toJson, Json.Plain, Range.plain_toJson]

namespace Anchor

/-- Every spelling of anchors with URLs in normal form is read as these anchors, as a list and one
by one, and so is what is written of them. -/
theorem parseResponse_spelled {anchors : List Anchor}
    (hurls : ∀ anchor ∈ anchors, Url.parse anchor.target.url.print = .ok anchor.target.url) :
    (∀ text values, Json.parse text = .ok (.array values) → List.Forall₂ Spelled anchors values →
      parseResponse text = .ok anchors) ∧
    (∀ anchor ∈ anchors, ∀ text value, Json.parse text = .ok value → anchor.Spelled value →
      parseResponse text = .ok [anchor]) ∧
    ∀ layout ∈ [Json.Layout.compact, Json.Layout.pretty],
      parseResponse (Json.print layout 0 (.array (anchors.map toJson))) = .ok anchors ∧
      ∀ anchor ∈ anchors, parseResponse (Json.print layout 0 anchor.toJson) = .ok [anchor] := by
  refine ⟨?_, ?_, ?_⟩
  · intro text values hparse hvalues
    exact parseResponse_of_parse hparse (ofResponse?_list hurls hvalues)
  · intro anchor hanchor text value hparse hvalue
    exact parseResponse_of_parse hparse (ofResponse?_single (hurls anchor hanchor) hvalue)
  · intro layout hlayout
    have hblank : layout.IsBlank := by
      simp only [List.mem_cons, List.not_mem_nil, or_false] at hlayout
      obtain rfl | rfl := hlayout
      · exact Json.Layout.isBlank_compact
      · exact Json.Layout.isBlank_pretty
    constructor
    · have hplain : Json.Plain 127 (.array (anchors.map toJson)) := by
        rw [Json.Plain, List.forall_mem_map]
        exact fun anchor _ => anchor.plain_toJson 123
      have hspelled : List.Forall₂ Spelled anchors (anchors.map toJson) := by
        rw [List.forall₂_map_right_iff]
        exact List.forall₂_same.2 fun anchor _ => anchor.spelled_toJson
      exact parseResponse_of_parse (Json.parse_print hblank hplain)
        (ofResponse?_list hurls hspelled)
    · intro anchor hanchor
      exact parseResponse_of_parse (Json.parse_print hblank (anchor.plain_toJson 124))
        (ofResponse?_single (hurls anchor hanchor) anchor.spelled_toJson)

def mixedLink : Link where
  targetUrl := { scheme := "file", authority := some {}, path := .rooted ["a%20b"] }
  targetRange := ⟨⟨4294967295, 0⟩, ⟨2, 1⟩⟩
  targetSelection := ⟨⟨0, 4⟩, ⟨0, 9⟩⟩

def mixedLocation : Location :=
  ⟨{ scheme := "mailto", path := .bare "x" }, ⟨⟨0, 0⟩, ⟨1, 0⟩⟩⟩

/-- The link as arrays, without an origin, and the location as an object whose members are turned
about, with one more. -/
def mixedValues : List Json :=
  [.array [.null, .string mixedLink.targetUrl.print,
      .array [.array [.uint32 4294967295, .uint32 0], .array [.uint32 2, .uint32 1]],
      .array [.array [.uint32 0, .uint32 4], .array [.uint32 0, .uint32 9]]],
    .object [
      ("kind", .array []),
      ("range", .object [
        ("end", .array [.uint32 1, .uint32 0]), ("start", .array [.uint32 0, .uint32 0])]),
      ("uri", .string mixedLocation.url.print)]]

def mixedText : String :=
  "[[null,\"file:///a%20b\",[[4294967295,0],[2,1]],[[0,4],[0,9]]]," ++
    "\x7b\"kind\":[],\"range\":\x7b\"end\":[1,0],\"start\":[0,0]\x7d,\"uri\":\"mailto:x\"\x7d]"

theorem parseResponse_spelled_mixed :
    parseResponse mixedText = .ok [.link mixedLink, .location mixedLocation] := by
  have hurls : ∀ anchor ∈ [Anchor.link mixedLink, .location mixedLocation],
      Url.parse anchor.target.url.print = .ok anchor.target.url := by
    decide +kernel
  have htext : mixedText = Json.compact (.array mixedValues) := by
    decide +kernel
  have hplain : Json.Plain 127 (.array mixedValues) := by
    simp [mixedValues, Json.Plain, Json.plain_uint32]
  have hparse : Json.parse mixedText = .ok (.array mixedValues) := by
    rw [htext]
    exact Json.parse_print Json.Layout.isBlank_compact hplain
  have hrange : mixedLocation.range.Spelled (.object [
      ("end", .array [.uint32 1, .uint32 0]), ("start", .array [.uint32 0, .uint32 0])]) :=
    .object .array .array ⟨[], .swap _ _ _, by simp⟩
  have hother : ∀ member ∈ [("kind", Json.array [])], member.1 ∉ fieldNames := by
    rw [List.forall_mem_singleton]
    decide
  have hspelled : List.Forall₂ Spelled [.link mixedLink, .location mixedLocation] mixedValues := by
    refine .cons ?_ (.cons ?_ .nil)
    · exact .array .null (.array .array .array) (.array .array .array)
    · exact .object hrange ⟨[("kind", .array [])], List.reverse_perm [_, _, _], hother⟩
  exact (parseResponse_spelled hurls).1 mixedText mixedValues hparse hspelled

end Anchor

end Excerpt
