import Excerpt.Proofs.Cues.Fields
import Excerpt.Proofs.Json.Values

/-! Cues read in the order of a text. Where the text spells a value, they are those that the value
stands for, and where it stands for none they are refused. -/
namespace Excerpt.Cues
open Json (Fault ReadsAs Listed MemberBy skipBlanks nextItem readName readColon readString
  readScalar)

theorem toOption_bind {α β : Type} (x : Except Fault α) (f : α → Except Fault β) :
    (x >>= f).toOption = x.toOption.bind fun a => (f a).toOption := by
  cases x <;> rfl

/-! ## Lists of characters -/

theorem toOption_readChar_of_ne {cs : List Char} (h : ∀ tail, cs ≠ '"' :: tail) :
    (readChar cs).toOption = none := by
  unfold readChar
  split
  · rename_i tail
    exact absurd rfl (h tail)
  · rfl

theorem toOption_readChar_quote {tail rest : List Char} {text : String}
    (h : readString .keep tail = .ok (text, rest)) :
    (readChar ('"' :: tail)).toOption = (Json.string text).char?.map fun c => (c, rest) := by
  unfold readChar
  split
  · rename_i tail' hcs
    obtain rfl := (List.cons.inj hcs).2
    rw [h, Json.ok_bind, Json.char?]
    dsimp only
    generalize text.toList = chars
    rcases chars with _ | ⟨c, _ | ⟨d, others⟩⟩
    · rfl
    · rfl
    · rfl
  · rename_i hquote
    exact absurd rfl (hquote tail)

theorem toOption_readChar {cs rest : List Char} {value : Json} (hblank : skipBlanks cs = cs)
    (h : ReadsAs cs value rest) : (readChar cs).toOption = value.char?.map fun c => (c, rest) := by
  have hopen : ∀ {c : Char} {tail : List Char}, skipBlanks cs = c :: tail → c ≠ '"' →
      (readChar cs).toOption = none := by
    intro c tail hcs hc
    apply toOption_readChar_of_ne
    intro tail' heq
    rw [hblank, heq] at hcs
    exact hc (List.cons.inj hcs).1.symm
  cases h.kind with
  | array hcs hitems =>
    rw [hopen hcs (by decide)]
    rfl
  | object hcs hmembers =>
    rw [hopen hcs (by decide)]
    rfl
  | scalar hscalar hsquare hcurly =>
    rw [hblank] at hscalar
    rcases Json.readScalar_eq_ok hscalar with ⟨tail, text, rfl, rfl, htext⟩ | ⟨hquote, hvalue⟩
    · exact toOption_readChar_quote htext
    · rw [toOption_readChar_of_ne hquote]
      obtain rfl | ⟨b, rfl⟩ | ⟨number, rfl⟩ := hvalue <;> rfl

theorem toOption_readChars {first : Bool} {cs rest : List Char} {items : List Json}
    (h : Listed ']' ReadsAs first cs items rest) {fuel : Nat} {done : List Char}
    (hdone : done.isEmpty = first) (hfuel : cs.length < fuel) :
    (readChars fuel done cs).toOption =
      (items.mapM Json.char?).map fun chars => (done.reverse ++ chars, rest) := by
  induction h generalizing fuel done with
  | nil hnext =>
    obtain ⟨fuel, rfl⟩ : ∃ n, fuel = n + 1 := ⟨fuel - 1, by omega⟩
    rw [readChars, hdone, hnext, Json.ok_bind]
    simp [Except.toOption]
  | @cons first cs text after rest item items hnext hitem _ ih =>
    obtain ⟨fuel, rfl⟩ : ∃ n, fuel = n + 1 := ⟨fuel - 1, by omega⟩
    obtain ⟨hblank, hle, -⟩ := Json.nextItem_eq_inl hnext
    have hlt := hitem.length_lt
    rw [readChars, hdone, hnext, Json.ok_bind,
      Json.map_mapM_cons item done fun chars => (chars, rest)]
    dsimp only
    rw [toOption_bind, toOption_readChar hblank hitem, Option.bind_map]
    apply Option.bind_congr
    intro c _
    exact ih rfl (by omega)

theorem toOption_readList {cs rest : List Char} {value : Json} (h : ReadsAs cs value rest) :
    (readList cs).toOption = value.chars?.map fun chars => (chars, rest) := by
  unfold readList
  cases h.kind with
  | array hcs hitems =>
    rw [hcs]
    exact toOption_readChars hitems rfl (Nat.lt_succ_self _)
  | object hcs hmembers =>
    rw [hcs]
    rfl
  | scalar hscalar hsquare hcurly =>
    split
    · rename_i tail hcs
      exact absurd hcs (hsquare tail)
    · rcases Json.readScalar_eq_ok hscalar with ⟨-, text, -, rfl, -⟩ | ⟨-, hvalue⟩
      · rfl
      · obtain rfl | ⟨b, rfl⟩ | ⟨number, rfl⟩ := hvalue <;> rfl

/-! ## Arrays of lists -/

theorem toOption_readLists {first : Bool} {cs rest : List Char} {items : List Json}
    (h : Listed ']' ReadsAs first cs items rest) {left : Nat} {done : List (List Char)}
    (hdone : done.isEmpty = first) :
    (readLists left done cs).toOption =
      if items.length ≤ left then
        (items.mapM Json.chars?).map fun lists => (ofLists ((done.reverse ++ lists).map some), rest)
      else none := by
  induction h generalizing left done with
  | @nil first cs rest hnext =>
    rw [List.length_nil, if_pos (Nat.zero_le _)]
    cases left with
    | zero =>
      rw [readLists, Json.nextItem_eq_inr hnext]
      simp [Except.toOption]
    | succ left =>
      rw [readLists, hdone, hnext, Json.ok_bind]
      simp [Except.toOption]
  | @cons first cs text after rest item items hnext hitem _ ih =>
    cases left with
    | zero =>
      have hopen := (Json.nextItem_eq_inl hnext).2.2
      rw [List.length_cons, if_neg (by omega), readLists]
      split
      · rfl
      · rename_i tail hcs
        exact absurd hcs (hopen tail)
      · rfl
    | succ left =>
      have hrest : ∀ list, (readLists left (list :: done) after).toOption = _ := fun list => ih rfl
      rw [readLists, hdone, hnext, Json.ok_bind, List.length_cons]
      dsimp only
      rw [toOption_bind, toOption_readList hitem, Option.bind_map]
      simp only [Function.comp_def, hrest]
      by_cases hlength : items.length ≤ left
      · rw [if_pos (by omega),
          Json.map_mapM_cons item done fun lists => (ofLists (lists.map some), rest)]
        simp only [if_pos hlength]
      · rw [if_neg (by omega)]
        simp [if_neg hlength]

/-! ## Objects -/

section Offers

variable {done : List (String × List Char)} {members : List (String × Json)} {name : String}
  {value : Json}

theorem offers_cons_of_ne {other : String} (h : name ≠ other) :
    offers done ((name, value) :: members) other = offers done members other := by
  have hne : (name == other) = false := beq_false_of_ne h
  simp [offers, hne]

theorem offers_cons_self :
    offers done ((name, value) :: members) name = (List.lookup name done).toList.map some ++
      value.chars? :: (members.filter fun member => member.1 == name).map fun member =>
        member.2.chars? := by
  simp [offers]

theorem given?_nil (done : List (String × List Char)) :
    given? done [] = some (fieldNames.map fun name => List.lookup name done) := by
  rw [given?, Json.mapM_eq_some_iff, List.forall₂_map_right_iff]
  apply List.forall₂_same.mpr
  intro name _
  unfold offers
  cases List.lookup name done <;> rfl

theorem given?_cons_of_notMem (h : name ∉ fieldNames) :
    given? done ((name, value) :: members) = given? done members := by
  apply Json.mapM_congr
  intro other hother
  have hne : name ≠ other := fun heq => h (heq ▸ hother)
  rw [offers_cons_of_ne hne]

/-- A field whose list was read before is not given another. -/
theorem given?_cons_of_isSome (hname : name ∈ fieldNames) (h : (List.lookup name done).isSome) :
    given? done ((name, value) :: members) = none := by
  obtain ⟨list, hlist⟩ := Option.isSome_iff_exists.mp h
  refine Json.mapM_eq_none_iff.mpr ⟨name, hname, ?_⟩
  rw [offers_cons_self, hlist, onlyOffer?_eq_none_iff]
  left
  simp

theorem given?_cons_of_chars? (hname : name ∈ fieldNames) (h : value.chars? = none) :
    given? done ((name, value) :: members) = none := by
  refine Json.mapM_eq_none_iff.mpr ⟨name, hname, ?_⟩
  rw [offers_cons_self, h, onlyOffer?_eq_none_iff]
  right
  simp

/-- A list that was read counts as the member that gave it. -/
theorem given?_read {list : List Char} (hdone : List.lookup name done = none)
    (hlist : value.chars? = some list) :
    given? ((name, list) :: done) members = given? done ((name, value) :: members) := by
  apply Json.mapM_congr
  intro other _
  by_cases heq : name = other
  · subst heq
    rw [offers_cons_self, hdone, hlist]
    simp [offers]
  · have hne : (other == name) = false := beq_false_of_ne (Ne.symm heq)
    rw [offers_cons_of_ne heq, offers, offers, List.lookup_cons, hne]

theorem mem_fieldNames_of_read {list : List Char} (hname : name ∈ fieldNames)
    (hdone : ∀ other, (List.lookup other done).isSome → other ∈ fieldNames) (other : String)
    (h : (List.lookup other ((name, list) :: done)).isSome) : other ∈ fieldNames := by
  by_cases heq : other = name
  · rw [heq]
    exact hname
  · rw [List.lookup_cons, beq_false_of_ne heq] at h
    exact hdone other h

end Offers

theorem toOption_readFields {first : Bool} {cs rest : List Char} {members : List (String × Json)}
    (h : Listed '\x7d' (MemberBy ReadsAs) first cs members rest) {fuel : Nat}
    {done : List (String × List Char)}
    (hdone : ∀ name, (List.lookup name done).isSome → name ∈ fieldNames)
    (hfuel : cs.length < fuel) :
    (readFields fuel first done cs).toOption =
      (given? done members).map fun lists => (ofLists lists, rest) := by
  induction h generalizing fuel done with
  | @nil first cs rest hnext =>
    obtain ⟨fuel, rfl⟩ : ∃ n, fuel = n + 1 := ⟨fuel - 1, by omega⟩
    rw [readFields, hnext, Json.ok_bind, given?_nil]
    rfl
  | @cons first cs text after rest member members hnext hmember _ ih =>
    obtain ⟨fuel, rfl⟩ : ∃ n, fuel = n + 1 := ⟨fuel - 1, by omega⟩
    obtain ⟨name, value⟩ := member
    obtain ⟨afterName, afterColon, hname, hcolon, hvalue⟩ := hmember
    have hle := (Json.nextItem_eq_inl hnext).2.1
    have hlt := (Json.passes_readName _ _ _ hname).1
    have hlt' := Json.length_lt_of_readColon hcolon
    have hlt'' := hvalue.length_lt
    have hafter : after.length < fuel := by omega
    rw [readFields, hnext, Json.ok_bind]
    dsimp only at hname hvalue ⊢
    rw [hname, Json.ok_bind]
    dsimp only
    by_cases hrepeated : (List.lookup name done).isSome
    · rw [if_pos hrepeated, given?_cons_of_isSome (hdone name hrepeated) hrepeated]
      rfl
    · rw [if_neg hrepeated, hcolon, Json.ok_bind]
      dsimp only
      by_cases hknown : name ∈ fieldNames
      · rw [if_pos hknown, toOption_bind, toOption_readList hvalue]
        cases hlist : value.chars? with
        | none =>
          rw [given?_cons_of_chars? hknown hlist]
          rfl
        | some list =>
          have hfresh : List.lookup name done = none := Option.not_isSome_iff_eq_none.mp hrepeated
          rw [← given?_read hfresh hlist]
          exact ih (mem_fieldNames_of_read hknown hdone) hafter
      · obtain ⟨skipped, hskip⟩ := hvalue.read_skip
        rw [if_neg hknown, hskip, Json.ok_bind, given?_cons_of_notMem hknown]
        exact ih hdone hafter

/-! ## Texts -/

theorem toOption_read {cs rest : List Char} {value : Json} (h : ReadsAs cs value rest) :
    (read cs).toOption = (ofJson? value).map fun cues => (cues, rest) := by
  unfold read
  cases h.kind with
  | @array tail items rest hcs hitems =>
    have hlists : (readLists fieldNames.length [] tail).toOption = _ :=
      toOption_readLists hitems rfl
    rw [hcs, ofJson?]
    change (readLists fieldNames.length [] tail).toOption = _
    rw [hlists]
    split
    · rw [Option.map_map]
      rfl
    · rfl
  | @object tail members rest hcs hmembers =>
    have hnone : ∀ name, (List.lookup name ([] : List (String × List Char))).isSome →
        name ∈ fieldNames := by
      intro name hname
      cases hname
    have hfields := toOption_readFields hmembers hnone (Nat.lt_succ_self tail.length)
    rw [hcs, ofJson?_object, Option.map_map]
    exact hfields
  | scalar hscalar hsquare hcurly =>
    split
    · rename_i tail hcs
      exact absurd hcs (hsquare tail)
    · rename_i tail hcs
      exact absurd hcs (hcurly tail)
    · rcases Json.readScalar_eq_ok hscalar with ⟨-, text, -, rfl, -⟩ | ⟨-, hvalue⟩
      · rfl
      · obtain rfl | ⟨b, rfl⟩ | ⟨number, rfl⟩ := hvalue <;> rfl

/-- A text that spells a value is read as the cues that the value stands for, or refused. -/
theorem toOption_parse {text : String} {value : Json} (h : Json.parse text = .ok value) :
    (parse text).toOption = ofJson? value := by
  unfold Json.parse at h
  obtain ⟨⟨value', rest⟩, hread, h⟩ := Json.bind_eq_ok_iff.mp h
  obtain ⟨done, hend, h⟩ := Json.bind_eq_ok_iff.mp h
  obtain rfl := Except.ok.inj h
  have hreads : ReadsAs text.toList value' rest := ⟨_, _, hread⟩
  unfold parse
  rw [toOption_bind, toOption_read hreads, Option.bind_map]
  cases ofJson? value' with
  | none => rfl
  | some cues =>
    change (Json.readEnd rest >>= fun _ => .ok cues).toOption = some cues
    rw [hend]
    rfl

theorem plain_toJson (cues : Cues) : Json.Plain 127 cues.toJson := by
  simp [toJson, fieldNames, toLists, Json.chars, Json.Plain]

/-- Cues come back from their text. -/
theorem parse_print_toJson {layout : Json.Layout} (hlayout : layout.IsBlank) (cues : Cues) :
    parse (Json.print layout 0 cues.toJson) = .ok cues := by
  have hread := toOption_parse (Json.parse_print hlayout cues.plain_toJson)
  rw [ofJson?_toJson] at hread
  cases hparse : parse (Json.print layout 0 cues.toJson) with
  | error fault =>
    rw [hparse] at hread
    cases hread
  | ok cues' =>
    rw [hparse] at hread
    rw [Option.some.inj hread]

/-- The fields that are given, in any order and among other members, are taken and the others are
the usual ones. The array of the first fields stands for the object of them, and cues come back from
what is written of them. Whatever repeats a field or gives it anything but characters is refused,
and a text is read as the value that it spells. -/
theorem ofJson?_overrides (cues : Cues) :
    (∀ (chosen : List Field) (members : List (String × Json)), chosen.Nodup →
      Json.Holds fieldNames (chosen.map (Field.member cues)) members →
      ∃ read, ofJson? (.object members) = some read ∧ ∀ field : Field,
        field.list read = if field ∈ chosen then field.list cues else field.list {}) ∧
    (∀ k ≤ 6, ∀ members,
      Json.Holds fieldNames ((Field.all.take k).map (Field.member cues)) members →
      ofJson? (.array ((Field.all.take k).map fun field => .chars (field.list cues))) =
        ofJson? (.object members)) ∧
    (ofJson? cues.toJson = some cues ∧ ∀ layout ∈ [Json.Layout.compact, Json.Layout.pretty],
      parse (Json.print layout 0 cues.toJson) = .ok cues) ∧
    (∀ members, ofJson? (.object members) = none ↔ ∃ field : Field,
      1 < (members.map Prod.fst).count field.name ∨
        ∃ value, (field.name, value) ∈ members ∧ ¬ value.IsChars) ∧
    (∀ items, ofJson? (.array items) = none ↔
      fieldNames.length < items.length ∨ ∃ value ∈ items, ¬ value.IsChars) ∧
    ∀ text value, Json.parse text = .ok value → (parse text).toOption = ofJson? value := by
  refine ⟨?_, ?_, ⟨ofJson?_toJson cues, ?_⟩, ofJson?_object_eq_none_iff, ofJson?_array_eq_none_iff,
    fun _ _ => toOption_parse⟩
  · intro chosen members hnodup hmembers
    have hread := ofJson?_object_chosen cues hnodup
    rw [← ofJson?_object_congr hmembers] at hread
    exact ⟨_, hread, list_ofLists_chosen cues chosen⟩
  · intro k hk members hmembers
    rw [ofJson?_object_congr hmembers]
    exact ofJson?_array_take cues hk
  · intro layout hlayout
    simp only [List.mem_cons, List.not_mem_nil, or_false] at hlayout
    obtain rfl | rfl := hlayout
    · exact parse_print_toJson Json.Layout.isBlank_compact cues
    · exact parse_print_toJson Json.Layout.isBlank_pretty cues

/-- Two fields of six in the other order, one of them empty and one with a character twice, and a
member that is none. -/
def partMembers : List (String × Json) :=
  [("closing_chars", .chars [']', ']']), ("x", .array [.null]), ("prefix_markers", .chars [])]

def partText : String :=
  "\x7b\"closing_chars\":[\"]\",\"]\"],\"x\":[null],\"prefix_markers\":[]\x7d"

theorem ofJson?_overrides_part :
    (parse partText).toOption = some { prefixMarkers := [], closers := [']', ']'] } ∧
      ofJson? (.object (("closing_chars", .null) :: partMembers)) = none := by
  let cues : Cues := { prefixMarkers := [], closers := [']', ']'] }
  obtain ⟨hchosen, -, -, hrefused, -, htexts⟩ := ofJson?_overrides cues
  have hholds : Json.Holds fieldNames ([.closers, .prefixMarkers].map (Field.member cues))
      partMembers := by
    refine ⟨[("x", .array [.null])], ?_, ?_⟩
    · exact .cons _ (.swap _ _ _)
    · rw [List.forall_mem_singleton]
      decide
  obtain ⟨read, hread, hlists⟩ := hchosen [.closers, .prefixMarkers] partMembers (by decide) hholds
  have hcues : read = cues := by
    apply ext_list
    intro field
    rw [hlists]
    cases field <;> rfl
  have htext : partText = Json.compact (.object partMembers) := by decide +kernel
  have hplain : Json.Plain 127 (.object partMembers) := by
    simp [partMembers, Json.chars, Json.Plain]
  have hparse : Json.parse partText = .ok (.object partMembers) := by
    rw [htext]
    exact Json.parse_print Json.Layout.isBlank_compact hplain
  constructor
  · rw [htexts _ _ hparse, hread, hcues]
  · exact (hrefused _).mpr ⟨.closers, Or.inl (by decide)⟩

end Excerpt.Cues
