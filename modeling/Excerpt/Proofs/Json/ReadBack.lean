import Mathlib.Data.List.Forall2
import Excerpt.Proofs.Json.Scalars

/-! Reading back what was written. A value that is not nested too deeply comes back from its text,
on one line or on many. -/
namespace Excerpt.Json

/-! ## Blanks and brackets -/

/-- The blanks that may stand between tokens. -/
def blanks : List Char := [' ', '\t', '\n', '\r']

theorem skipBlanks_append {lead : List Char} (h : lead ⊆ blanks) (cs : List Char) :
    skipBlanks (lead ++ cs) = skipBlanks cs := by
  induction lead with
  | nil => rfl
  | cons c lead ih =>
    obtain ⟨hc, hlead⟩ := List.cons_subset.1 h
    simp only [blanks, List.mem_cons, List.not_mem_nil, or_false] at hc
    obtain rfl | rfl | rfl | rfl := hc <;> exact ih hlead

theorem skipBlanks_of_notMem {c : Char} (h : c ∉ blanks) (cs : List Char) :
    skipBlanks (c :: cs) = c :: cs := by
  rw [skipBlanks]
  all_goals
    intro rest heq
    obtain ⟨rfl, -⟩ := List.cons.inj heq
    exact h (by decide)

theorem readValue_append {lead : List Char} (h : lead ⊆ blanks) (fuel depth : Nat)
    (cs : List Char) : readValue .keep fuel depth (lead ++ cs) = readValue .keep fuel depth cs := by
  cases fuel with
  | zero => rw [readValue, readValue]
  | succ fuel => rw [readValue, readValue, skipBlanks_append h]

/-- The text of an item begins with something that is neither blank nor the end of a list. -/
def Starts (text : List Char) : Prop :=
  ∃ c cs, text = c :: cs ∧ c ∉ blanks ∧ c ∉ [']', '\x7d']

theorem Starts.length_pos {text : List Char} (h : Starts text) : 0 < text.length := by
  obtain ⟨c, cs, rfl, -⟩ := h
  exact Nat.succ_pos cs.length

theorem Starts.skipBlanks_eq {text : List Char} (h : Starts text) (rest : List Char) :
    skipBlanks (text ++ rest) = text ++ rest := by
  obtain ⟨c, cs, rfl, hc, -⟩ := h
  exact skipBlanks_of_notMem hc (cs ++ rest)

/-- Texts that each follow `lead`, and all but the first of a list a comma too. -/
def separate (lead : List Char) : (first : Bool) → List (List Char) → List Char
  | _, [] => []
  | true, text :: texts => lead ++ (text ++ separate lead false texts)
  | false, text :: texts => ',' :: (lead ++ (text ++ separate lead false texts))

theorem length_separate_cons (lead : List Char) (first : Bool) (text : List Char)
    (texts : List (List Char)) :
    text.length + (separate lead false texts).length ≤
      (separate lead first (text :: texts)).length := by
  cases first with
  | true =>
    simp only [separate, List.length_append]
    omega
  | false =>
    simp only [separate, List.length_cons, List.length_append]
    omega

section Items

variable {close : Char} {lead tail : List Char}

theorem nextItem_close (hclose : close ∈ [']', '\x7d']) (first : Bool) (htail : tail ⊆ blanks)
    (rest : List Char) : nextItem close first (tail ++ close :: rest) = .ok (.inr rest) := by
  have hblank : close ∉ blanks := by
    simp only [List.mem_cons, List.not_mem_nil, or_false] at hclose
    obtain rfl | rfl := hclose <;> decide
  unfold nextItem
  rw [skipBlanks_append htail, skipBlanks_of_notMem hblank]
  exact if_pos rfl

theorem nextItem_separate (hclose : close ∈ [']', '\x7d']) (first : Bool) (hlead : lead ⊆ blanks)
    {text : List Char} (htext : Starts text) (texts : List (List Char)) (rest : List Char) :
    nextItem close first (separate lead first (text :: texts) ++ rest) =
      .ok (.inl (text ++ (separate lead false texts ++ rest))) := by
  have hskip := htext.skipBlanks_eq (separate lead false texts ++ rest)
  obtain ⟨c, cs, rfl, -, hc⟩ := htext
  have hitem : c ≠ close := fun heq => hc (heq ▸ hclose)
  unfold nextItem
  cases first with
  | true =>
    rw [separate, List.append_assoc, List.append_assoc, skipBlanks_append hlead, hskip]
    simp [hitem]
  | false =>
    have hcomma : ',' ≠ close := by
      rintro rfl
      simp at hclose
    rw [separate, List.cons_append, List.append_assoc, List.append_assoc,
      skipBlanks_of_notMem (by decide)]
    dsimp only
    rw [if_neg hcomma, if_neg (by decide), if_pos rfl, skipBlanks_append hlead, hskip]
    simp [hitem]

theorem endsNumber_of_mem {c : Char} (h : c ∈ blanks ++ [',', ']', '\x7d']) (cs : List Char) :
    EndsNumber (c :: cs) := by
  simp only [blanks, List.cons_append, List.nil_append, List.mem_cons, List.not_mem_nil,
    or_false] at h
  rintro c' ⟨⟩
  obtain rfl | rfl | rfl | rfl | rfl | rfl | rfl := h <;> decide

theorem endsNumber_separate (hclose : close ∈ [']', '\x7d']) (lead : List Char)
    (htail : tail ⊆ blanks) (texts : List (List Char)) (rest : List Char) :
    EndsNumber (separate lead false texts ++ (tail ++ close :: rest)) := by
  cases texts with
  | cons text texts => exact endsNumber_of_mem (by decide) _
  | nil =>
    cases tail with
    | nil => exact endsNumber_of_mem (List.mem_append_right _ (List.mem_cons_of_mem _ hclose)) rest
    | cons c tail =>
      exact endsNumber_of_mem (List.mem_append_left _ (List.cons_subset.1 htail).1) _

end Items

/-! ## Values -/

/-- A text that is read as a value up to its end, whatever follows, where fewer than `depth` levels
may be opened. -/
structure Reads (depth : Nat) (text : List Char) (value : Json) : Prop where
  starts : Starts text
  eq_ok {fuel : Nat} {rest : List Char} : text.length ≤ fuel → EndsNumber rest →
    readValue .keep fuel depth (text ++ rest) = .ok (value, rest)

/-- A member as it is written: its name in quotes, a colon, blanks and its value. -/
def memberText (name : String) (gap value : List Char) : List Char :=
  '"' :: (name.toList.flatMap escape ++ '"' :: ':' :: (gap ++ value))

/-- A text that is read as a member up to its end. -/
def ReadsMember (depth : Nat) (text : List Char) (member : String × Json) : Prop :=
  ∃ gap value, text = memberText member.1 gap value ∧ gap ⊆ blanks ∧ Reads depth value member.2

theorem readName_memberText (name : String) (gap value rest : List Char) :
    readName .keep (memberText name gap value ++ rest) =
      .ok (name, ':' :: (gap ++ (value ++ rest))) := by
  unfold memberText readName
  rw [List.cons_append, List.append_assoc, List.cons_append, List.cons_append, List.append_assoc]
  exact readString_quote name _

theorem readColon_cons (cs : List Char) : readColon (':' :: cs) = .ok ((), cs) := rfl

section Values

variable {depth fuel : Nat} {lead tail : List Char} {texts : List (List Char)}

theorem reads_cons {c : Char} {cs : List Char} {value : Json}
    (hc : c ∉ blanks ++ [']', '\x7d'])
    (h : ∀ fuel rest, cs.length ≤ fuel → EndsNumber rest →
      readValue .keep (fuel + 1) depth (c :: (cs ++ rest)) = .ok (value, rest)) :
    Reads depth (c :: cs) value := by
  rw [List.mem_append, not_or] at hc
  constructor
  · exact ⟨c, cs, rfl, hc⟩
  · intro fuel rest hfuel hrest
    rw [List.length_cons] at hfuel
    obtain ⟨fuel, rfl⟩ : ∃ n, fuel = n + 1 := ⟨fuel - 1, by omega⟩
    exact h fuel rest (by omega) hrest

theorem reads_of_readScalar {c : Char} {cs : List Char} {value : Json}
    (hc : c ∉ blanks ++ ['[', ']', '\x7b', '\x7d'])
    (h : ∀ rest, EndsNumber rest → readScalar .keep (c :: (cs ++ rest)) = .ok (value, rest)) :
    Reads depth (c :: cs) value := by
  simp only [List.mem_append, List.mem_cons, List.not_mem_nil, or_false, not_or] at hc
  obtain ⟨hblank, hopen, hclose, hopen', hclose'⟩ := hc
  apply reads_cons (by simp [hblank, hclose, hclose'])
  intro fuel rest _ hrest
  rw [readValue, skipBlanks_of_notMem hblank]
  split
  · rename_i heq
    exact absurd (List.cons.inj heq).1 hopen
  · rename_i heq
    exact absurd (List.cons.inj heq).1 hopen'
  · exact h rest hrest

-- a step of the reader takes one unit of fuel, and every item has at least one character
theorem readItems_separate (hlead : lead ⊆ blanks) (htail : tail ⊆ blanks) {items : List Json}
    (h : List.Forall₂ (Reads depth) texts items) (done : List Json) (rest : List Char)
    (hfuel : (separate lead done.isEmpty texts).length + tail.length + 1 ≤ fuel) :
    readItems .keep fuel depth done (separate lead done.isEmpty texts ++ (tail ++ ']' :: rest)) =
      .ok (.array (done.reverse ++ items), rest) := by
  induction h generalizing fuel done with
  | nil =>
    obtain ⟨fuel, rfl⟩ : ∃ n, fuel = n + 1 := ⟨fuel - 1, by omega⟩
    rw [separate, List.nil_append, readItems, nextItem_close (by decide) _ htail, ok_bind,
      List.append_nil]
  | @cons text item texts items hitem hitems ih =>
    obtain ⟨fuel, rfl⟩ : ∃ n, fuel = n + 1 := ⟨fuel - 1, by omega⟩
    have hpos := hitem.starts.length_pos
    have hlength := length_separate_cons lead done.isEmpty text texts
    have hends : EndsNumber (separate lead false texts ++ (tail ++ ']' :: rest)) :=
      endsNumber_separate (by decide) lead htail texts rest
    have hrest : readItems .keep fuel depth (item :: done)
        (separate lead false texts ++ (tail ++ ']' :: rest)) =
          .ok (.array ((item :: done).reverse ++ items), rest) :=
      ih (item :: done) (by rw [List.isEmpty_cons]; omega)
    rw [readItems, nextItem_separate (by decide) _ hlead hitem.starts, ok_bind]
    dsimp only
    rw [hitem.eq_ok (by omega) hends, ok_bind]
    dsimp only
    rw [hrest, List.reverse_cons, List.append_assoc, List.singleton_append]

theorem readMembers_separate (hlead : lead ⊆ blanks) (htail : tail ⊆ blanks)
    {members : List (String × Json)} (h : List.Forall₂ (ReadsMember depth) texts members)
    (done : List (String × Json)) (rest : List Char)
    (hfuel : (separate lead done.isEmpty texts).length + tail.length + 1 ≤ fuel) :
    readMembers .keep fuel depth done
        (separate lead done.isEmpty texts ++ (tail ++ '\x7d' :: rest)) =
      .ok (.object (done.reverse ++ members), rest) := by
  induction h generalizing fuel done with
  | nil =>
    obtain ⟨fuel, rfl⟩ : ∃ n, fuel = n + 1 := ⟨fuel - 1, by omega⟩
    rw [separate, List.nil_append, readMembers, nextItem_close (by decide) _ htail, ok_bind,
      List.append_nil]
  | @cons text member texts members hmember hmembers ih =>
    obtain ⟨fuel, rfl⟩ : ∃ n, fuel = n + 1 := ⟨fuel - 1, by omega⟩
    obtain ⟨gap, value, rfl, hgap, hvalue⟩ := hmember
    have hstarts : Starts (memberText member.1 gap value) := ⟨'"', _, rfl, by decide⟩
    have hinner : value.length < (memberText member.1 gap value).length := by
      simp only [memberText, List.length_cons, List.length_append]
      omega
    have hlength := length_separate_cons lead done.isEmpty (memberText member.1 gap value) texts
    have hends : EndsNumber (separate lead false texts ++ (tail ++ '\x7d' :: rest)) :=
      endsNumber_separate (by decide) lead htail texts rest
    have hrest : readMembers .keep fuel depth (member :: done)
        (separate lead false texts ++ (tail ++ '\x7d' :: rest)) =
          .ok (.object ((member :: done).reverse ++ members), rest) :=
      ih (member :: done) (by rw [List.isEmpty_cons]; omega)
    rw [readMembers, nextItem_separate (by decide) _ hlead hstarts, ok_bind]
    dsimp only
    rw [readName_memberText, ok_bind]
    dsimp only
    rw [readColon_cons, ok_bind]
    dsimp only
    rw [readValue_append hgap, hvalue.eq_ok (by omega) hends, ok_bind]
    dsimp only
    rw [hrest, List.reverse_cons, List.append_assoc, List.singleton_append]

theorem reads_array (hlead : lead ⊆ blanks) (htail : tail ⊆ blanks) {items : List Json}
    (h : List.Forall₂ (Reads (depth + 1)) texts items) :
    Reads (depth + 2) ('[' :: (separate lead true texts ++ (tail ++ [']']))) (.array items) := by
  apply reads_cons (by decide)
  intro fuel rest hfuel _
  have hopen : ¬ (Care.keep = .keep ∧ depth + 2 ≤ 1) := by omega
  simp only [List.length_append, List.length_cons, List.length_nil] at hfuel
  rw [readValue, skipBlanks_of_notMem (by decide), List.append_assoc, List.append_assoc]
  exact (if_neg hopen).trans (readItems_separate hlead htail h [] rest hfuel)

theorem reads_object (hlead : lead ⊆ blanks) (htail : tail ⊆ blanks)
    {members : List (String × Json)}
    (h : List.Forall₂ (ReadsMember (depth + 1)) texts members) :
    Reads (depth + 2) ('\x7b' :: (separate lead true texts ++ (tail ++ ['\x7d'])))
      (.object members) := by
  apply reads_cons (by decide)
  intro fuel rest hfuel _
  have hopen : ¬ (Care.keep = .keep ∧ depth + 2 ≤ 1) := by omega
  simp only [List.length_append, List.length_cons, List.length_nil] at hfuel
  rw [readValue, skipBlanks_of_notMem (by decide), List.append_assoc, List.append_assoc]
  exact (if_neg hopen).trans (readMembers_separate hlead htail h [] rest hfuel)

theorem reads_quote (s : String) : Reads depth (quote s).toList (.string s) := by
  rw [quote, String.toList_ofList, List.cons_append]
  apply reads_of_readScalar (by decide)
  intro rest _
  rw [List.append_assoc, List.singleton_append, readScalar, readString_quote, ok_bind]
  rfl

theorem reads_nat {n : Nat} (h : n < UInt32.size) :
    Reads depth (Number.print (.integer n)).toList (.nat n) := by
  have htext : (Number.print (.integer n)).toList = Nat.toDigits 10 n := Nat.toList_repr
  obtain ⟨c, cs, hcs⟩ := List.exists_cons_of_ne_nil (Nat.toDigits_ne_nil (n := n) (b := 10))
  have hc : c.isDigit = true := by
    apply Nat.isDigit_of_mem_toDigits (b := 10) (n := n) (by decide) (by decide)
    rw [hcs]
    exact List.mem_cons_self
  rw [htext, hcs]
  apply reads_of_readScalar
  · intro hmem
    simp only [blanks, List.cons_append, List.nil_append, List.mem_cons, List.not_mem_nil,
      or_false] at hmem
    obtain rfl | rfl | rfl | rfl | rfl | rfl | rfl | rfl := hmem <;> revert hc <;> decide
  · intro rest hrest
    rw [readScalar, if_pos hc, ← List.cons_append, ← hcs, readNumber_toDigits h hrest, ok_bind]
    · rfl
    all_goals
      rintro rfl
      revert hc
      decide

end Values

/-! ## Printed values -/

/-- A layout that sets items and values apart by blanks only. -/
structure Layout.IsBlank (layout : Layout) : Prop where
  lead (depth : Nat) : (layout.lead depth).toList ⊆ blanks
  colon : ∃ gap, layout.colon.toList = ':' :: gap ∧ gap ⊆ blanks

theorem Layout.isBlank_compact : Layout.compact.IsBlank :=
  ⟨fun _ => List.nil_subset _, [], rfl, List.nil_subset _⟩

theorem Layout.isBlank_pretty : Layout.pretty.IsBlank := by
  constructor
  · intro depth c hc
    simp only [Layout.pretty, String.toList_append, String.toList_ofList, List.mem_append,
      List.mem_replicate] at hc
    obtain hc | ⟨-, rfl⟩ := hc
    · obtain rfl : c = '\n' := by simpa using hc
      decide
    · decide
  · exact ⟨[' '], rfl, by decide⟩

theorem intercalate_comma (lead : List Char) (texts : List (List Char)) :
    [','].intercalate (texts.map (lead ++ ·)) = separate lead true texts := by
  induction texts with
  | nil => rfl
  | cons text texts ih =>
    cases texts with
    | nil => simp [separate]
    | cons next texts =>
      rw [List.map_cons, List.map_cons, List.intercalate_cons_cons, ← List.map_cons, ih]
      simp [separate]

section Printed

variable {layout : Layout}

theorem toList_bracket (h : layout.IsBlank) (level : Nat) (first last : String)
    (texts : List String) :
    ∃ tail ⊆ blanks, (bracket layout level first last texts).toList = first.toList ++
      (separate (layout.lead (level + 1)).toList true (texts.map String.toList) ++
        (tail ++ last.toList)) := by
  cases texts with
  | nil => exact ⟨[], List.nil_subset _, by simp [bracket, separate]⟩
  | cons text texts =>
    have hmap : ((text :: texts).map (layout.lead (level + 1) ++ ·)).map String.toList =
        ((text :: texts).map String.toList).map ((layout.lead (level + 1)).toList ++ ·) := by
      simp
    refine ⟨(layout.lead level).toList, h.lead level, ?_⟩
    rw [bracket, ← intercalate_comma, ← hmap]
    · rw [String.toList_append, String.toList_append, String.toList_append,
        String.toList_intercalate, List.append_assoc, List.append_assoc]
      rfl
    · exact List.cons_ne_nil _ _

theorem forall₂_printItems {depth level : Nat} {items : List Json}
    (h : ∀ item ∈ items, Reads depth (print layout level item).toList item) :
    List.Forall₂ (Reads depth) ((printItems layout level items).map String.toList) items := by
  induction items with
  | nil => exact .nil
  | cons item items ih =>
    obtain ⟨hitem, hitems⟩ := List.forall_mem_cons.1 h
    rw [printItems, List.map_cons]
    exact .cons hitem (ih hitems)

theorem forall₂_printMembers (hlayout : layout.IsBlank) {depth level : Nat}
    {members : List (String × Json)}
    (h : ∀ member ∈ members, Reads depth (print layout level member.2).toList member.2) :
    List.Forall₂ (ReadsMember depth) ((printMembers layout level members).map String.toList)
      members := by
  induction members with
  | nil => exact .nil
  | cons member members ih =>
    obtain ⟨name, value⟩ := member
    obtain ⟨hmember, hmembers⟩ := List.forall_mem_cons.1 h
    obtain ⟨gap, hcolon, hgap⟩ := hlayout.colon
    have htext : (quote name ++ layout.colon ++ print layout level value).toList =
        memberText name gap (print layout level value).toList := by
      simp [quote, hcolon, memberText]
    rw [printMembers, List.map_cons]
    exact .cons ⟨gap, _, htext, hgap, hmember⟩ (ih hmembers)

/-- A value of at most `depth` levels, in which all numbers are natural ones of 32 bits. -/
def Plain : (depth : Nat) → Json → Prop
  | _, .null => True
  | _, .bool _ => True
  | _, .number (.integer (.ofNat n)) => n < UInt32.size
  | _, .number _ => False
  | _, .string _ => True
  | 0, .array _ => False
  | 0, .object _ => False
  | depth + 1, .array items => ∀ item ∈ items, Plain depth item
  | depth + 1, .object members => ∀ member ∈ members, Plain depth member.2

theorem reads_print (hlayout : layout.IsBlank) {depth : Nat} {value : Json}
    (h : Plain depth value) (level : Nat) :
    Reads (depth + 1) (print layout level value).toList value := by
  fun_induction Plain depth value generalizing level with
  | case1 depth =>
    have hnull : Reads (depth + 1) ('n' :: ['u', 'l', 'l']) .null :=
      reads_of_readScalar (by decide) fun rest _ => rfl
    simpa [print] using hnull
  | case2 depth value =>
    have htrue : Reads (depth + 1) ('t' :: ['r', 'u', 'e']) (.bool true) :=
      reads_of_readScalar (by decide) fun rest _ => rfl
    have hfalse : Reads (depth + 1) ('f' :: ['a', 'l', 's', 'e']) (.bool false) :=
      reads_of_readScalar (by decide) fun rest _ => rfl
    cases value with
    | true => simpa [print] using htrue
    | false => simpa [print] using hfalse
  | case3 depth n => exact reads_nat h
  | case4 => exact h.elim
  | case5 depth text => exact reads_quote text
  | case6 => exact h.elim
  | case7 => exact h.elim
  | case8 depth items ih =>
    obtain ⟨tail, htail, htext⟩ := toList_bracket hlayout level "[" "]"
      (printItems layout (level + 1) items)
    rw [print, htext]
    apply reads_array (hlayout.lead (level + 1)) htail
    exact forall₂_printItems fun item hitem => ih item (h item hitem) (level + 1)
  | case9 depth members ih =>
    obtain ⟨tail, htail, htext⟩ := toList_bracket hlayout level "\x7b" "\x7d"
      (printMembers layout (level + 1) members)
    rw [print, htext]
    apply reads_object (hlayout.lead (level + 1)) htail
    exact forall₂_printMembers hlayout fun member hmember =>
      ih member (h member hmember) (level + 1)

/-- A value comes back from its text. -/
theorem parse_print (hlayout : layout.IsBlank) {value : Json} (h : Plain 127 value) :
    parse (print layout 0 value) = .ok value := by
  have hend : EndsNumber [] := by
    rintro c ⟨⟩
  have hread : readValue .keep (2 * (print layout 0 value).toList.length + 2) nestingLimit
      ((print layout 0 value).toList ++ []) = .ok (value, []) :=
    (reads_print hlayout h 0).eq_ok (by omega) hend
  rw [List.append_nil] at hread
  unfold parse read
  rw [hread, ok_bind]
  rfl

end Printed

end Excerpt.Json
