import Excerpt.Anchor.Json
import Excerpt.Proofs.Json.Fields

/-! The readings of a response. No value fits two of them, although a list and a single anchor may
both be arrays; a single anchor fits both of its forms only as an object, and then it is a link. -/
namespace Excerpt

/-! ## Links and locations -/

theorem Url.exists_string_of_ofJson? {value : Json} {url : Url} (h : ofJson? value = some url) :
    ∃ text, value = .string text := by
  unfold ofJson? at h
  split at h
  · exact ⟨_, rfl⟩
  · cases h

theorem Link.target_of_ofFields? {origin : Option Json} {url range selection : Json} {link : Link}
    (h : ofFields? origin url range selection = some link) :
    Url.ofJson? url = some link.targetUrl ∧ Range.ofJson? range = some link.targetRange := by
  unfold ofFields? at h
  simp only [Option.bind_eq_bind, Option.bind_eq_some_iff] at h
  obtain ⟨origin', -, url', hurl, range', hrange, selection', -, hlink⟩ := h
  obtain rfl := Option.some.inj hlink
  exact ⟨hurl, hrange⟩

theorem Link.exists_items_of_ofJson? {items : List Json} {link : Link}
    (h : ofJson? (.array items) = some link) :
    ∃ origin text range selection, items = [origin, .string text, range, selection] := by
  unfold ofJson? at h
  split at h
  · rename_i origin url range selection hitems
    obtain ⟨text, rfl⟩ := Url.exists_string_of_ofJson? (target_of_ofFields? h).1
    exact ⟨origin, text, range, selection, Json.array.inj hitems⟩
  · rename_i members hitems
    cases hitems
  · cases h

theorem Location.exists_items_of_ofJson? {items : List Json} {location : Location}
    (h : ofJson? (.array items) = some location) :
    ∃ text range, items = [.string text, range] := by
  unfold ofJson? at h
  split at h
  · rename_i url range hitems
    unfold ofFields? at h
    simp only [Option.bind_eq_bind, Option.bind_eq_some_iff] at h
    obtain ⟨url', hurl, -⟩ := h
    obtain ⟨text, rfl⟩ := Url.exists_string_of_ofJson? hurl
    exact ⟨text, range, Json.array.inj hitems⟩
  · rename_i members hitems
    cases hitems
  · cases h

/-- An array has the length of a link or that of a location. -/
theorem Link.ofJson?_eq_none_or (items : List Json) :
    ofJson? (.array items) = none ∨ Location.ofJson? (.array items) = none := by
  cases hlink : ofJson? (.array items) with
  | none => exact Or.inl rfl
  | some link =>
    obtain ⟨origin, text, range, selection, rfl⟩ := exists_items_of_ofJson? hlink
    exact Or.inr rfl

theorem Link.exists_members_of_ofJson? {value : Json} {link : Link} {location : Location}
    (hlink : ofJson? value = some link) (hlocation : Location.ofJson? value = some location) :
    ∃ members, value = .object members := by
  cases value with
  | object members => exact ⟨members, rfl⟩
  | array items =>
    rcases ofJson?_eq_none_or items with hnone | hnone
    · rw [hnone] at hlink
      cases hlink
    · rw [hnone] at hlocation
      cases hlocation
  | null => cases hlink
  | bool value => cases hlink
  | number value => cases hlink
  | string value => cases hlink

theorem Link.target_of_ofJson?_object {members : List (String × Json)} {link : Link}
    (h : ofJson? (.object members) = some link) :
    ∃ url range, ("targetUri", url) ∈ members ∧ ("targetRange", range) ∈ members ∧
      Url.ofJson? url = some link.targetUrl ∧ Range.ofJson? range = some link.targetRange := by
  rw [ofJson?, Option.bind_eq_bind, Option.bind_eq_some_iff] at h
  obtain ⟨fields, hfields, hlink⟩ := h
  have hmem := Json.mem_of_fields? hfields
  split at hlink
  · rename_i origin url range selection
    unfold fieldNames at hmem
    obtain ⟨-, hurl, hrange, -⟩ := by simpa using hmem
    obtain ⟨hurl', hrange'⟩ := target_of_ofFields? hlink
    exact ⟨url, range, hurl, hrange, hurl', hrange'⟩
  · cases hlink

/-- Only the members that a link has names for count. -/
theorem Link.ofJson?_object_congr {members others : List (String × Json)}
    (h : Json.Holds fieldNames (members.filter fun member => member.1 ∈ fieldNames) others) :
    ofJson? (.object others) = ofJson? (.object members) := by
  have hself := Json.holds_filter fieldNames members
  rw [ofJson?, ofJson?, h.fields?_eq fun name hname => hname,
    hself.fields?_eq fun name hname => hname]

namespace Anchor

/-! ## Lists and single anchors -/

/-- The ways to read a response. -/
inductive Reading where
  | null
  | list
  | single
  deriving Repr, DecidableEq

/-- The anchors of a value that fits a reading. -/
def Reading.anchors? : Reading → Json → Option (List Anchor)
  | .null, .null => some []
  | .null, _ => none
  | .list, value => list? value
  | .single, value => (ofJson? value).map fun anchor => [anchor]

theorem list?_eq_none_of_mem {items : List Json} {text : String} (h : .string text ∈ items) :
    list? (.array items) = none := by
  have hitem : ofJson? (.string text) = none := rfl
  rw [list?]
  exact Json.mapM_eq_none_iff.mpr ⟨_, h, hitem⟩

/-- An array that is an anchor holds a text, which is no anchor. -/
theorem list?_eq_none_of_ofJson? {value : Json} {anchor : Anchor}
    (h : ofJson? value = some anchor) : list? value = none := by
  unfold ofJson? at h
  cases value with
  | array items =>
    split at h
    · rename_i link hlink
      obtain ⟨origin, text, range, selection, rfl⟩ := Link.exists_items_of_ofJson? hlink
      have htext : Json.string text ∈ [origin, .string text, range, selection] := by simp
      exact list?_eq_none_of_mem htext
    · obtain ⟨location, hlocation, -⟩ := Option.map_eq_some_iff.mp h
      obtain ⟨text, range, rfl⟩ := Location.exists_items_of_ofJson? hlocation
      have htext : Json.string text ∈ [.string text, range] := by simp
      exact list?_eq_none_of_mem htext
  | null => rfl
  | bool value => rfl
  | number value => rfl
  | string value => rfl
  | object members => rfl

namespace Reading

variable {value : Json}

theorem eq_null_of_anchors? {anchors : List Anchor} (h : anchors? .null value = some anchors) :
    value = .null := by
  unfold anchors? at h
  split at h
  · rfl
  · cases h
  · rename_i heq
    cases heq
  · rename_i heq
    cases heq

theorem anchors?_single_eq_none {anchors : List Anchor} (h : anchors? .list value = some anchors) :
    anchors? .single value = none := by
  cases hsingle : ofJson? value with
  | none => simp [anchors?, hsingle]
  | some anchor =>
    have hlist : list? value = none := list?_eq_none_of_ofJson? hsingle
    rw [anchors?, hlist] at h
    cases h

theorem unique {reading other : Reading} {anchors anchors' : List Anchor}
    (h : reading.anchors? value = some anchors) (h' : other.anchors? value = some anchors') :
    reading = other := by
  cases reading with
  | null =>
    obtain rfl := eq_null_of_anchors? h
    cases other with
    | null => rfl
    | list => cases h'
    | single => cases h'
  | list =>
    cases other with
    | null =>
      obtain rfl := eq_null_of_anchors? h'
      cases h
    | list => rfl
    | single =>
      rw [anchors?_single_eq_none h] at h'
      cases h'
  | single =>
    cases other with
    | null =>
      obtain rfl := eq_null_of_anchors? h'
      cases h
    | list =>
      rw [anchors?_single_eq_none h'] at h
      cases h
    | single => rfl

theorem findSome?_anchors? {reading : Reading} {anchors : List Anchor}
    (h : reading.anchors? value = some anchors) {order : List Reading} (hmem : reading ∈ order) :
    order.findSome? (·.anchors? value) = some anchors := by
  cases hfind : order.findSome? (·.anchors? value) with
  | none =>
    have hnone := List.findSome?_eq_none_iff.mp hfind reading hmem
    rw [h] at hnone
    cases hnone
  | some anchors' =>
    obtain ⟨other, -, hother⟩ := List.exists_of_findSome?_eq_some hfind
    rw [unique hother h, h] at hother
    exact hother.symm

end Reading

theorem ofResponse?_eq_findSome? (value : Json) :
    ofResponse? value = [Reading.null, .list, .single].findSome? (·.anchors? value) := by
  unfold ofResponse?
  split
  · rfl
  · rename_i hnull
    have hfirst : Reading.null.anchors? value = none := by
      cases hread : Reading.null.anchors? value with
      | none => rfl
      | some anchors => exact absurd (Reading.eq_null_of_anchors? hread) hnull
    rw [List.findSome?_cons, hfirst]
    cases hlist : list? value with
    | none => cases hsingle : ofJson? value <;> simp [Reading.anchors?, hlist, hsingle]
    | some anchors => simp [Reading.anchors?, hlist]

theorem ofResponse?_of_link {value : Json} {link : Link} (h : Link.ofJson? value = some link) :
    ofResponse? value = some [.link link] := by
  have hsingle : Reading.single.anchors? value = some [.link link] := by
    simp [Reading.anchors?, ofJson?, h]
  rw [ofResponse?_eq_findSome?]
  exact Reading.findSome?_anchors? hsingle (by decide)

/-- At most one reading fits a value, so that their order does not count. Only an object is both a
link and a location; it is read as the link, by its own members, whatever the others are. -/
theorem ofResponse?_unambiguous (value : Json) :
    (∀ reading other : Reading, (reading.anchors? value).isSome → (other.anchors? value).isSome →
      reading = other) ∧
    (∀ order : List Reading, (∀ reading, reading ∈ order) →
      order.findSome? (·.anchors? value) = ofResponse? value) ∧
    (∀ items, value = .array items →
      Link.ofJson? value = none ∨ Location.ofJson? value = none) ∧
    ∀ link location, Link.ofJson? value = some link → Location.ofJson? value = some location →
      ∃ members url range, value = .object members ∧
        ("targetUri", url) ∈ members ∧ ("targetRange", range) ∈ members ∧
        ∀ others, Json.Holds Link.fieldNames
            (members.filter fun member => member.1 ∈ Link.fieldNames) others →
          ∃ anchor, ofResponse? (.object others) = some [anchor] ∧ anchor = .link link ∧
            Url.ofJson? url = some anchor.target.url ∧
            Range.ofJson? range = some anchor.target.range := by
  refine ⟨?_, ?_, ?_, ?_⟩
  · intro reading other h h'
    obtain ⟨anchors, hanchors⟩ := Option.isSome_iff_exists.mp h
    obtain ⟨anchors', hanchors'⟩ := Option.isSome_iff_exists.mp h'
    exact Reading.unique hanchors hanchors'
  · intro order hall
    cases hresponse : ofResponse? value with
    | none =>
      rw [ofResponse?_eq_findSome?, List.findSome?_eq_none_iff] at hresponse
      rw [List.findSome?_eq_none_iff]
      intro reading _
      exact hresponse reading (by cases reading <;> decide)
    | some anchors =>
      rw [ofResponse?_eq_findSome?] at hresponse
      obtain ⟨reading, -, hreading⟩ := List.exists_of_findSome?_eq_some hresponse
      exact Reading.findSome?_anchors? hreading (hall reading)
  · rintro items rfl
    exact Link.ofJson?_eq_none_or items
  · intro link location hlink hlocation
    obtain ⟨members, rfl⟩ := Link.exists_members_of_ofJson? hlink hlocation
    obtain ⟨url, range, hurl, hrange, hurl', hrange'⟩ := Link.target_of_ofJson?_object hlink
    refine ⟨members, url, range, rfl, hurl, hrange, ?_⟩
    intro others hothers
    have hothers' := ofResponse?_of_link ((Link.ofJson?_object_congr hothers).trans hlink)
    exact ⟨.link link, hothers', rfl, hurl', hrange'⟩

/-- The members of a link to `mem:b` after those of a location in `mem:a`. -/
def bothMembers : List (String × Json) :=
  [("uri", .string "mem:a"),
    ("range", .array [.array [.uint32 1, .uint32 2], .array [.uint32 3, .uint32 4]]),
    ("targetUri", .string "mem:b"),
    ("targetRange", .array [.array [.uint32 5, .uint32 6], .array [.uint32 7, .uint32 8]]),
    ("targetSelectionRange", .array [.array [.uint32 5, .uint32 6], .array [.uint32 5, .uint32 9]])]

def bothLink : Link where
  targetUrl := { scheme := "mem", path := .bare "b" }
  targetRange := ⟨⟨5, 6⟩, ⟨7, 8⟩⟩
  targetSelection := ⟨⟨5, 6⟩, ⟨5, 9⟩⟩

/-- The link is read also when the readings are tried the other way round, and when the location
loses its URL and gets a second range. -/
theorem ofResponse?_unambiguous_both :
    [Reading.single, .list, .null].findSome? (·.anchors? (.object bothMembers)) =
        ofResponse? (.object bothMembers) ∧
      (Location.ofJson? (.object bothMembers)).isSome ∧
      ofResponse? (.object (("range", .null) :: bothMembers.tail)) = some [.link bothLink] := by
  have hlink : Link.ofJson? (.object bothMembers) = some bothLink := by decide +kernel
  have hlocation : Location.ofJson? (.object bothMembers) = some
      ⟨{ scheme := "mem", path := .bare "a" }, ⟨⟨1, 2⟩, ⟨3, 4⟩⟩⟩ := by decide +kernel
  obtain ⟨-, horder, -, hboth⟩ := ofResponse?_unambiguous (.object bothMembers)
  obtain ⟨members, url, range, hmembers, -, -, hothers⟩ := hboth _ _ hlink hlocation
  obtain rfl := Json.object.inj hmembers
  have hholds : Json.Holds Link.fieldNames
      (bothMembers.filter fun member => member.1 ∈ Link.fieldNames)
      (("range", .null) :: bothMembers.tail) :=
    Json.holds_filter Link.fieldNames (("range", .null) :: bothMembers.tail)
  obtain ⟨anchor, hanchor, rfl, -⟩ := hothers _ hholds
  refine ⟨horder _ ?_, by rw [hlocation]; rfl, hanchor⟩
  intro reading
  cases reading <;> decide

end Anchor

end Excerpt
