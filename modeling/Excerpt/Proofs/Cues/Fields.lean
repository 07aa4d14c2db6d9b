import Mathlib.Data.List.Nodup
import Mathlib.Tactic.IntervalCases
import Excerpt.Cues.Json
import Excerpt.Proofs.Json.Fields

/-! Cues by their fields. What a value gives to a field is taken, and the usual list where it gives
nothing; a field that is given twice, or something other than characters, spoils the whole. -/
namespace Excerpt

/-- An array of texts of one character each. -/
def Json.IsChars (value : Json) : Prop :=
  ∃ items, value = .array items ∧
    ∀ item ∈ items, ∃ text, item = .string text ∧ text.toList.length = 1

theorem Json.char?_eq_none_iff {value : Json} :
    value.char? = none ↔ ¬ ∃ text, value = .string text ∧ text.toList.length = 1 := by
  cases value with
  | string text =>
    unfold char?
    match htext : text.toList with
    | [] => simp [htext]
    | [c] => simp [htext]
    | c :: d :: rest => simp [htext]
  | null => simp [char?]
  | bool value => simp [char?]
  | number value => simp [char?]
  | array items => simp [char?]
  | object members => simp [char?]

theorem Json.chars?_eq_none_iff {value : Json} : value.chars? = none ↔ ¬ value.IsChars := by
  unfold IsChars
  cases value with
  | array items =>
    rw [chars?, mapM_eq_none_iff]
    simp only [char?_eq_none_iff, array.injEq, exists_eq_left', not_forall, exists_prop]
  | null => simp [chars?]
  | bool value => simp [chars?]
  | number value => simp [chars?]
  | string text => simp [chars?]
  | object members => simp [chars?]

theorem Json.chars?_chars (cs : List Char) : (chars cs).chars? = some cs := by
  rw [chars, chars?, mapM_eq_some_iff, List.forall₂_map_left_iff]
  apply List.forall₂_same.mpr
  intro c _
  simp [char?]

namespace Cues

/-! ## Fields -/

/-- The six lists. -/
inductive Field where
  | prefixMarkers
  | declarationTerminators
  | continuations
  | closers
  | firstOpeners
  | lastOpeners
  deriving Repr, DecidableEq

namespace Field

/-- All fields, in order. -/
def all : List Field :=
  [.prefixMarkers, .declarationTerminators, .continuations, .closers, .firstOpeners, .lastOpeners]

def name : Field → String
  | .prefixMarkers => "prefix_markers"
  | .declarationTerminators => "declaration_terminators"
  | .continuations => "continuation_chars"
  | .closers => "closing_chars"
  | .firstOpeners => "block_open_first_chars"
  | .lastOpeners => "block_open_last_chars"

def list (cues : Cues) : Field → List Char
  | .prefixMarkers => cues.prefixMarkers
  | .declarationTerminators => cues.declarationTerminators
  | .continuations => cues.continuations
  | .closers => cues.closers
  | .firstOpeners => cues.firstOpeners
  | .lastOpeners => cues.lastOpeners

/-- The member of an object that gives a field its list in `cues`. -/
def member (cues : Cues) (field : Field) : String × Json := (field.name, .chars (field.list cues))

theorem mem_all (field : Field) : field ∈ all := by
  cases field <;> decide

theorem nodup_all : all.Nodup := by decide

theorem name_inj {field other : Field} (h : field.name = other.name) : field = other := by
  cases field <;> cases other <;> first | rfl | exact absurd h (by decide)

theorem map_name_all : all.map name = fieldNames := rfl

theorem list_ofLists (given : Field → Option (List Char)) (field : Field) :
    field.list (ofLists (all.map given)) = (given field).getD (field.list {}) := by
  cases field <;> rfl

end Field

theorem ext_list {cues other : Cues} (h : ∀ field : Field, field.list cues = field.list other) :
    cues = other := by
  obtain ⟨a, b, c, d, e, f⟩ := cues
  obtain ⟨a', b', c', d', e', f'⟩ := other
  have ha : a = a' := h .prefixMarkers
  have hb : b = b' := h .declarationTerminators
  have hc : c = c' := h .continuations
  have hd : d = d' := h .closers
  have he : e = e' := h .firstOpeners
  have hf : f = f' := h .lastOpeners
  rw [ha, hb, hc, hd, he, hf]

/-! ## What a field is given -/

/-- The lists that a name is given, by those that were read before and by some members; none stands
for what is no list. -/
def offers (done : List (String × List Char)) (members : List (String × Json)) (name : String) :
    List (Option (List Char)) :=
  (List.lookup name done).toList.map some ++
    (members.filter fun member => member.1 == name).map fun member => member.2.chars?

/-- No list, or the only one. -/
def onlyOffer? : List (Option (List Char)) → Option (Option (List Char))
  | [] => some none
  | [offer] => offer.map some
  | _ => none

theorem onlyOffer?_eq_none_iff {list : List (Option (List Char))} :
    onlyOffer? list = none ↔ 1 < list.length ∨ none ∈ list := by
  match list with
  | [] => simp [onlyOffer?]
  | [offer] => cases offer <;> simp [onlyOffer?]
  | first :: second :: others => simp [onlyOffer?]

/-- The lists of all fields, if none is given more than one. -/
def given? (done : List (String × List Char)) (members : List (String × Json)) :
    Option (List (Option (List Char))) :=
  fieldNames.mapM fun name => onlyOffer? (offers done members name)

theorem ofJson?_object (members : List (String × Json)) :
    ofJson? (.object members) = (given? [] members).map ofLists := by
  have hfields : ((Json.fields? fieldNames members).bind fun fields =>
      fields.mapM optionalChars?) = given? [] members := by
    rw [Json.fields?, Json.mapM_bind_mapM]
    apply Json.mapM_congr
    intro name _
    unfold offers
    generalize members.filter (fun member => member.1 == name) = list
    rcases list with _ | ⟨first, _ | ⟨second, others⟩⟩
    · rfl
    · rfl
    · rfl
  rw [← hfields, ofJson?, Option.map_bind]
  apply Option.bind_congr
  intro fields _
  exact (Option.map_eq_bind ..).symm

theorem ofJson?_object_congr {known members : List (String × Json)}
    (h : Json.Holds fieldNames known members) :
    ofJson? (.object members) = ofJson? (.object known) := by
  rw [ofJson?, ofJson?, h.fields?_eq fun name hname => hname]

/-! ## Values that are refused -/

theorem onlyOffer?_offers_eq_none_iff {members : List (String × Json)} {name : String} :
    onlyOffer? (offers [] members name) = none ↔
      1 < (members.map Prod.fst).count name ∨
        ∃ value, (name, value) ∈ members ∧ ¬ value.IsChars := by
  have hcount : (offers [] members name).length = (members.map Prod.fst).count name := by
    rw [offers, List.count_eq_countP, List.countP_map, List.countP_eq_length_filter]
    simp
    rfl
  have hnone : none ∈ offers [] members name ↔
      ∃ value, (name, value) ∈ members ∧ ¬ value.IsChars := by
    simp [offers, Json.chars?_eq_none_iff]
  rw [onlyOffer?_eq_none_iff, hcount, hnone]

/-- An object is refused exactly when it repeats a field or gives one anything but characters. -/
theorem ofJson?_object_eq_none_iff (members : List (String × Json)) :
    ofJson? (.object members) = none ↔ ∃ field : Field,
      1 < (members.map Prod.fst).count field.name ∨
        ∃ value, (field.name, value) ∈ members ∧ ¬ value.IsChars := by
  rw [ofJson?_object, Option.map_eq_none_iff, given?, Json.mapM_eq_none_iff, ← Field.map_name_all]
  simp only [onlyOffer?_offers_eq_none_iff]
  constructor
  · rintro ⟨name, hname, hbad⟩
    obtain ⟨field, -, rfl⟩ := List.mem_map.mp hname
    exact ⟨field, hbad⟩
  · rintro ⟨field, hbad⟩
    exact ⟨field.name, List.mem_map_of_mem field.mem_all, hbad⟩

theorem ofJson?_array_eq_none_iff (items : List Json) :
    ofJson? (.array items) = none ↔
      fieldNames.length < items.length ∨ ∃ value ∈ items, ¬ value.IsChars := by
  rw [ofJson?]
  by_cases hlength : items.length ≤ fieldNames.length
  · rw [if_pos hlength, Option.map_eq_none_iff, Json.mapM_eq_none_iff]
    simp only [Json.chars?_eq_none_iff]
    constructor
    · intro h
      exact Or.inr h
    · rintro (h | h)
      · omega
      · exact h
  · rw [if_neg hlength]
    simp only [true_iff]
    exact Or.inl (by omega)

/-! ## Values with chosen fields -/

theorem offers_chosen (cues : Cues) {chosen : List Field} (h : chosen.Nodup) (field : Field) :
    offers [] (chosen.map (Field.member cues)) field.name =
      if field ∈ chosen then [some (field.list cues)] else [] := by
  have hname : ((fun member : String × Json => member.1 == field.name) ∘ Field.member cues) =
      fun other => other == field := by
    funext other
    by_cases heq : other = field
    · simp [heq, Field.member]
    · have hne : other.name ≠ field.name := fun hname => heq (Field.name_inj hname)
      simp [heq, hne, Field.member]
  rw [offers, List.lookup_nil, List.filter_map, hname, List.filter_beq, h.count]
  split
  · simp [Field.member, Json.chars?_chars]
  · simp

/-- The chosen fields are those of `cues` and the others the usual ones. -/
theorem ofJson?_object_chosen (cues : Cues) {chosen : List Field} (h : chosen.Nodup) :
    ofJson? (.object (chosen.map (Field.member cues))) = some (ofLists (Field.all.map fun field =>
      if field ∈ chosen then some (field.list cues) else none)) := by
  have hgiven : given? [] (chosen.map (Field.member cues)) = some (Field.all.map fun field =>
      if field ∈ chosen then some (field.list cues) else none) := by
    rw [given?, ← Field.map_name_all, Json.mapM_eq_some_iff, List.forall₂_map_left_iff,
      List.forall₂_map_right_iff]
    apply List.forall₂_same.mpr
    intro field _
    rw [offers_chosen cues h]
    split <;> rfl
  rw [ofJson?_object, hgiven]
  rfl

theorem list_ofLists_chosen (cues : Cues) (chosen : List Field) (field : Field) :
    field.list (ofLists (Field.all.map fun field =>
      if field ∈ chosen then some (field.list cues) else none)) =
        if field ∈ chosen then field.list cues else field.list {} := by
  rw [Field.list_ofLists]
  split <;> rfl

theorem ofJson?_array_take (cues : Cues) {k : Nat} (h : k ≤ 6) :
    ofJson? (.array ((Field.all.take k).map fun field => .chars (field.list cues))) =
      ofJson? (.object ((Field.all.take k).map (Field.member cues))) := by
  have hlists :
      ((Field.all.take k).map fun field => Json.chars (field.list cues)).mapM Json.chars? =
        some ((Field.all.take k).map (Field.list cues)) := by
    rw [Json.mapM_eq_some_iff, List.forall₂_map_left_iff, List.forall₂_map_right_iff]
    apply List.forall₂_same.mpr
    intro field _
    exact Json.chars?_chars _
  have hlength : ((Field.all.take k).map fun field => Json.chars (field.list cues)).length ≤
      fieldNames.length := by
    rw [List.length_map, List.length_take]
    exact Nat.min_le_right _ _
  have hnodup : (Field.all.take k).Nodup := Field.nodup_all.take
  rw [ofJson?_object_chosen cues hnodup, ofJson?, if_pos hlength, hlists]
  interval_cases k <;> rfl

theorem ofJson?_toJson (cues : Cues) : ofJson? cues.toJson = some cues := by
  have hmembers : cues.toJson = .object (Field.all.map (Field.member cues)) := rfl
  rw [hmembers, ofJson?_object_chosen cues Field.nodup_all, Option.some_inj]
  apply ext_list
  intro field
  rw [list_ofLists_chosen, if_pos field.mem_all]

end Cues

end Excerpt
