import Mathlib.Data.List.TakeDrop
import Excerpt.Anchor.Argument
import Excerpt.Proofs.Text.Digits
import Excerpt.Proofs.Text.Ink

/-! The grammar of anchors as typed, and what is wrong with a text outside of it. A text has one
reading: an argument, or the first fault that is met from left to right. -/
namespace Excerpt.AnchorArgument
open Text

/-- A number as it may be typed: decimal digits, perhaps behind a plus sign, with blanks around. -/
structure Numeral where
  before : List Char
  sign : List Char
  digits : List Char
  after : List Char
  isBlank_before : ∀ c ∈ before, isBlank c = true
  sign_eq : sign = [] ∨ sign = ['+']
  digits_ne_nil : digits ≠ []
  isDigit_digits : ∀ c ∈ digits, c.isDigit = true
  isBlank_after : ∀ c ∈ after, isBlank c = true

namespace Numeral

def text (numeral : Numeral) : List Char :=
  numeral.before ++ ((numeral.sign ++ numeral.digits) ++ numeral.after)

def value (numeral : Numeral) : Nat := Nat.ofDigitChars 10 numeral.digits 0

end Numeral

def Spells (text : List Char) (value : Nat) : Prop :=
  ∃ numeral : Numeral, numeral.text = text ∧ numeral.value = value

/-- A line number is a numeral with a value from 1 to 4294967295. -/
def LineNumber (text : List Char) (line : UInt32) : Prop := Spells text line.toNat ∧ 1 ≤ line

/-- What is wrong with a text that is no line number. -/
inductive LineFault (text : List Char) : ParseError → Prop
  | invalid (h : ∀ value, Spells text value → 4294967295 < value) :
    LineFault text (.invalidLine (String.ofList text))
  | zero (h : Spells text 0) : LineFault text .zeroLine

/-- A text with the parts before and after its last colon. -/
inductive Parts : (text : List Char) → (path : Option (List Char)) → (lines : List Char) → Prop
  | whole {lines : List Char} (h : ':' ∉ lines) : Parts lines none lines
  | split (path : List Char) {lines : List Char} (h : ':' ∉ lines) :
    Parts (path ++ ':' :: lines) (some path) lines

/-- The lines of an argument with the parts before and after their first dash. -/
inductive Ends : (lines : List Char) → (first : List Char) → (last : Option (List Char)) → Prop
  | single {first : List Char} (h : '-' ∉ first) : Ends first first none
  | pair {first : List Char} (last : List Char) (h : '-' ∉ first) :
    Ends (first ++ '-' :: last) first (some last)

/-- The texts that are arguments. -/
inductive Grammar (text : List Char) : AnchorArgument → Prop
  | line {path : Option (List Char)} {lines : List Char} {first : UInt32}
    (hparts : Parts text path lines) (hpath : path ≠ some []) (hdash : '-' ∉ lines)
    (hfirst : LineNumber lines first) :
    Grammar text ⟨path.map String.ofList, first, none⟩
  | lines {path : Option (List Char)} {lines before after : List Char} {first last : UInt32}
    (hparts : Parts text path lines) (hpath : path ≠ some [])
    (hends : Ends lines before (some after)) (hfirst : LineNumber before first)
    (hlast : LineNumber after last) (hle : first ≤ last) :
    Grammar text ⟨path.map String.ofList, first, some last⟩

/-- What is wrong with a text that is no argument. A fault counts only where none of those listed
before it is met. -/
inductive ArgumentFault (text : List Char) : ParseError → Prop
  | emptyPath {lines : List Char} (hparts : Parts text (some []) lines) :
    ArgumentFault text .emptyPath
  | first {path : Option (List Char)} {lines before : List Char} {after : Option (List Char)}
    {error : ParseError} (hparts : Parts text path lines) (hpath : path ≠ some [])
    (hends : Ends lines before after) (hfault : LineFault before error) : ArgumentFault text error
  | last {path : Option (List Char)} {lines before after : List Char} {first : UInt32}
    {error : ParseError} (hparts : Parts text path lines) (hpath : path ≠ some [])
    (hends : Ends lines before (some after)) (hfirst : LineNumber before first)
    (hfault : LineFault after error) : ArgumentFault text error
  | inverted {path : Option (List Char)} {lines before after : List Char} {first last : UInt32}
    (hparts : Parts text path lines) (hpath : path ≠ some [])
    (hends : Ends lines before (some after)) (hfirst : LineNumber before first)
    (hlast : LineNumber after last) (hlt : last < first) :
    ArgumentFault text (.invertedRange first last)

section Numbers

theorem isBlank_of_isDigit {c : Char} (h : c.isDigit = true) : isBlank c = false := by
  have hrange : 48 ≤ c.toNat ∧ c.toNat ≤ 57 := by
    simpa [Char.isDigit, UInt32.le_iff_toNat_le] using h
  simp only [isBlank, blankRuns, List.any_cons, List.any_nil, Bool.or_false, Bool.or_eq_false_iff,
    Bool.and_eq_false_iff, decide_eq_false_iff_not]
  omega

/-- What is read as digits: the content of a text without the plus sign that may lead it. -/
def unsigned (text : List Char) : List Char :=
  match trim text with
  | '+' :: digits => digits
  | digits => digits

theorem Numeral.trim_text (numeral : Numeral) :
    trim numeral.text = numeral.sign ++ numeral.digits := by
  apply trim_append numeral.isBlank_before numeral.isBlank_after
  · intro first hfirst
    rcases numeral.sign_eq with hsign | hsign
    · rw [hsign, List.nil_append] at hfirst
      exact isBlank_of_isDigit (numeral.isDigit_digits first (List.mem_of_mem_head? hfirst))
    · rw [hsign] at hfirst
      obtain rfl : '+' = first := by simpa using hfirst
      decide
  · intro last hlast
    rw [List.getLast?_append_of_ne_nil _ numeral.digits_ne_nil] at hlast
    exact isBlank_of_isDigit (numeral.isDigit_digits last (List.mem_of_getLast? hlast))
  · simp [numeral.digits_ne_nil]

theorem Numeral.unsigned_text (numeral : Numeral) : unsigned numeral.text = numeral.digits := by
  unfold unsigned
  rw [numeral.trim_text]
  rcases numeral.sign_eq with hsign | hsign
  · rw [hsign, List.nil_append]
    -- digits without a sign do not start with one
    split
    · rename_i digits hdigits
      have hplus := numeral.isDigit_digits '+' (hdigits ▸ List.mem_cons_self)
      cases hplus
    · rfl
  · rw [hsign]
    rfl

theorem spells_iff {text : List Char} {value : Nat} :
    Spells text value ↔ unsigned text ≠ [] ∧ (∀ c ∈ unsigned text, c.isDigit = true) ∧
      Nat.ofDigitChars 10 (unsigned text) 0 = value := by
  constructor
  · rintro ⟨numeral, rfl, rfl⟩
    rw [numeral.unsigned_text]
    exact ⟨numeral.digits_ne_nil, numeral.isDigit_digits, rfl⟩
  · rintro ⟨hne, hdigit, rfl⟩
    obtain ⟨before, after, htext, hbefore, hafter⟩ := exists_append_trim text
    have hsign : ∃ sign, (sign = [] ∨ sign = ['+']) ∧ trim text = sign ++ unsigned text := by
      unfold unsigned
      split
      · rename_i digits htrim
        exact ⟨['+'], Or.inr rfl, htrim⟩
      · exact ⟨[], Or.inl rfl, rfl⟩
    obtain ⟨sign, hsign, htrim⟩ := hsign
    refine ⟨⟨before, sign, unsigned text, after, hbefore, hsign, hne, hdigit, hafter⟩, ?_, rfl⟩
    rw [Numeral.text, ← htrim]
    exact htext.symm

theorem number?_eq_some_iff {digits : List Char} {line : UInt32} :
    number? digits = some line ↔ digits ≠ [] ∧ (∀ c ∈ digits, c.isDigit = true) ∧
      Nat.ofDigitChars 10 digits 0 = line.toNat := by
  have hvalue : decimalValue digits = Nat.ofDigitChars 10 digits 0 := foldl_decimalDigit_eq digits 0
  have hdigits : (digits.isEmpty || !digits.all Char.isDigit) = false ↔
      digits ≠ [] ∧ ∀ c ∈ digits, c.isDigit = true := by
    simp
  unfold number?
  dsimp only
  rw [hvalue, ← and_assoc, ← hdigits]
  cases digits.isEmpty || !digits.all Char.isDigit with
  | true => simp
  | false =>
    have hlt : line.toNat < UInt32.size := line.toNat_lt
    by_cases hfits : Nat.ofDigitChars 10 digits 0 < UInt32.size
    · simp only [Bool.false_eq_true, if_false, hfits, if_true, Option.some.injEq, true_and]
      rw [← UInt32.toNat_inj, Nat.toUInt32_eq, UInt32.toNat_ofNat_of_lt' hfits]
    · simp only [Bool.false_eq_true, if_false, hfits, reduceCtorEq, true_and, false_iff]
      omega

theorem number?_unsigned {text : List Char} {line : UInt32} :
    number? (unsigned text) = some line ↔ Spells text line.toNat :=
  number?_eq_some_iff.trans spells_iff.symm

theorem parseLine_eq (text : List Char) :
    parseLine text = match number? (unsigned text) with
      | none => .error (.invalidLine (String.ofList text))
      | some 0 => .error .zeroLine
      | some line => .ok line := rfl

theorem LineNumber.parseLine_eq_ok {text : List Char} {line : UInt32} (h : LineNumber text line) :
    parseLine text = .ok line := by
  obtain ⟨hspells, hone⟩ := h
  rw [parseLine_eq, number?_unsigned.mpr hspells]
  split
  · rename_i hnone
    cases hnone
  · rename_i hzero
    rw [Option.some.inj hzero] at hone
    exact absurd hone (by decide)
  · rename_i hsome
    rw [Option.some.inj hsome]

theorem LineFault.parseLine_eq_error {text : List Char} {error : ParseError}
    (h : LineFault text error) : parseLine text = .error error := by
  cases h with
  | invalid h =>
    have hnone : number? (unsigned text) = none := by
      by_contra hne
      obtain ⟨line, hline⟩ := Option.ne_none_iff_exists'.mp hne
      have hvalue := h line.toNat (number?_unsigned.mp hline)
      have hlt := line.toNat_lt
      omega
    rw [parseLine_eq, hnone]
  | zero h =>
    have hzero : number? (unsigned text) = some 0 := number?_unsigned.mpr h
    rw [parseLine_eq, hzero]
    rfl

theorem lineNumber_or_lineFault (text : List Char) :
    (∃ line, LineNumber text line) ∨ ∃ error, LineFault text error := by
  cases hnumber : number? (unsigned text) with
  | none =>
    refine Or.inr ⟨_, .invalid ?_⟩
    intro value hvalue
    by_contra hle
    have hfits : value < UInt32.size := by
      change value < 4294967296
      omega
    rw [← UInt32.toNat_ofNat_of_lt' hfits] at hvalue
    rw [number?_unsigned.mpr hvalue] at hnumber
    cases hnumber
  | some line =>
    have hspells := number?_unsigned.mp hnumber
    by_cases hzero : line = 0
    · subst hzero
      exact Or.inr ⟨_, .zero hspells⟩
    · have hpos := UInt32.lt_iff_toNat_lt.mp (UInt32.pos_iff_ne_zero.mpr hzero)
      exact Or.inl ⟨line, hspells, UInt32.le_iff_toNat_le.mpr hpos⟩

end Numbers

section Separators

theorem bne_of_notMem {separator : Char} {text : List Char} (h : separator ∉ text) :
    ∀ c ∈ text, (c != separator) = true := by
  intro c hc
  rw [bne_iff_ne]
  rintro rfl
  exact h hc

theorem span_of_notMem {separator : Char} {text : List Char} (h : separator ∉ text) :
    text.span (· != separator) = (text, []) := by
  rw [List.span_eq_takeWhile_dropWhile, List.takeWhile_eq_self_iff.mpr (bne_of_notMem h),
    List.dropWhile_eq_nil_iff.mpr (bne_of_notMem h)]

theorem span_append_cons {separator : Char} {front : List Char} (back : List Char)
    (h : separator ∉ front) :
    (front ++ separator :: back).span (· != separator) = (front, separator :: back) := by
  rw [List.span_eq_takeWhile_dropWhile, List.takeWhile_append_of_pos (bne_of_notMem h),
    List.dropWhile_append_of_pos (bne_of_notMem h)]
  simp

theorem splitLastColon?_of_notMem {text : List Char} (h : ':' ∉ text) :
    splitLastColon? text = none := by
  unfold splitLastColon?
  rw [span_of_notMem (mt List.mem_reverse.mp h)]

theorem splitLastColon?_append_cons (path : List Char) {lines : List Char} (h : ':' ∉ lines) :
    splitLastColon? (path ++ ':' :: lines) = some (path, lines) := by
  unfold splitLastColon?
  rw [List.reverse_append, List.reverse_cons, List.append_assoc, List.singleton_append,
    span_append_cons _ (mt List.mem_reverse.mp h)]
  simp

theorem exists_parts (text : List Char) : ∃ path lines, Parts text path lines := by
  by_cases hmem : ':' ∈ text
  · obtain ⟨after, before, htext, hafter⟩ := List.eq_append_cons_of_mem (List.mem_reverse.mpr hmem)
    have hsplit : text = before.reverse ++ ':' :: after.reverse := by
      rw [← List.reverse_reverse text, htext]
      simp
    rw [hsplit]
    exact ⟨_, _, .split _ (mt List.mem_reverse.mp hafter)⟩
  · exact ⟨none, text, .whole hmem⟩

theorem exists_ends (lines : List Char) : ∃ first last, Ends lines first last := by
  by_cases hmem : '-' ∈ lines
  · obtain ⟨first, last, rfl, hfirst⟩ := List.eq_append_cons_of_mem hmem
    exact ⟨first, some last, .pair last hfirst⟩
  · exact ⟨lines, none, .single hmem⟩

end Separators

theorem Ends.parseLines_eq {lines before : List Char} {after : Option (List Char)}
    (h : Ends lines before after) : parseLines lines = do
      let first ← parseLine before
      match after with
      | none => return (first, none)
      | some after =>
        let last ← parseLine after
        if last < first then .error (.invertedRange first last) else return (first, some last) := by
  unfold parseLines
  cases h with
  | single h => rw [span_of_notMem h]
  | pair last h => rw [span_append_cons last h]

theorem Parts.parse_eq {text : String} {path : Option (List Char)} {lines : List Char}
    (h : Parts text.toList path lines) (hpath : path ≠ some []) : parse text = do
      let (first, last) ← parseLines lines
      return ⟨path.map String.ofList, first, last⟩ := by
  unfold parse
  generalize text.toList = chars at h ⊢
  cases h with
  | whole h =>
    rw [splitLastColon?_of_notMem h]
    rfl
  | split path h =>
    rw [splitLastColon?_append_cons path h]
    cases path with
    | nil => exact absurd rfl hpath
    | cons c path => rfl

theorem Parts.parse_eq_emptyPath {text : String} {lines : List Char}
    (h : Parts text.toList (some []) lines) : parse text = .error .emptyPath := by
  unfold parse
  generalize text.toList = chars at h ⊢
  cases h with
  | split path h => rw [splitLastColon?_append_cons [] h]

section Outcomes

theorem Grammar.parse_eq_ok {text : String} {argument : AnchorArgument}
    (h : Grammar text.toList argument) : parse text = .ok argument := by
  cases h with
  | line hparts hpath hdash hfirst =>
    rw [hparts.parse_eq hpath, (Ends.single hdash).parseLines_eq, hfirst.parseLine_eq_ok]
    rfl
  | lines hparts hpath hends hfirst hlast hle =>
    have hnot := UInt32.not_lt.mpr hle
    rw [hparts.parse_eq hpath, hends.parseLines_eq, hfirst.parseLine_eq_ok]
    simp only [hlast.parseLine_eq_ok, Except.bind, bind, pure, Except.pure, hnot, if_false]

theorem ArgumentFault.parse_eq_error {text : String} {error : ParseError}
    (h : ArgumentFault text.toList error) : parse text = .error error := by
  cases h with
  | emptyPath hparts => exact hparts.parse_eq_emptyPath
  | first hparts hpath hends hfault =>
    rw [hparts.parse_eq hpath, hends.parseLines_eq, hfault.parseLine_eq_error]
    rfl
  | last hparts hpath hends hfirst hfault =>
    rw [hparts.parse_eq hpath, hends.parseLines_eq, hfirst.parseLine_eq_ok]
    simp only [hfault.parseLine_eq_error, Except.bind, bind]
  | inverted hparts hpath hends hfirst hlast hlt =>
    rw [hparts.parse_eq hpath, hends.parseLines_eq, hfirst.parseLine_eq_ok]
    simp only [hlast.parseLine_eq_ok, Except.bind, bind, hlt, if_true]

/-- Every text has a reading. -/
theorem grammar_or_fault (text : List Char) :
    (∃ argument, Grammar text argument) ∨ ∃ error, ArgumentFault text error := by
  obtain ⟨path, lines, hparts⟩ := exists_parts text
  -- the cases are split in the order in which the faults count
  by_cases hpath : path = some []
  · subst hpath
    exact Or.inr ⟨_, .emptyPath hparts⟩
  obtain ⟨before, after, hends⟩ := exists_ends lines
  obtain ⟨first, hfirst⟩ | ⟨error, hfault⟩ := lineNumber_or_lineFault before
  swap
  · exact Or.inr ⟨_, .first hparts hpath hends hfault⟩
  cases after with
  | none =>
    cases hends with
    | single h => exact Or.inl ⟨_, .line hparts hpath h hfirst⟩
  | some after =>
    obtain ⟨last, hlast⟩ | ⟨error, hfault⟩ := lineNumber_or_lineFault after
    · by_cases hlt : last < first
      · exact Or.inr ⟨_, .inverted hparts hpath hends hfirst hlast hlt⟩
      · exact Or.inl ⟨_, .lines hparts hpath hends hfirst hlast (UInt32.not_lt.mp hlt)⟩
    · exact Or.inr ⟨_, .last hparts hpath hends hfirst hfault⟩

theorem parse_eq_ok_iff {text : String} {argument : AnchorArgument} :
    parse text = .ok argument ↔ Grammar text.toList argument := by
  constructor
  · intro h
    obtain ⟨argument', hgrammar⟩ | ⟨error, hfault⟩ := grammar_or_fault text.toList
    · rw [hgrammar.parse_eq_ok] at h
      cases h
      exact hgrammar
    · rw [hfault.parse_eq_error] at h
      cases h
  · exact Grammar.parse_eq_ok

theorem parse_eq_error_iff {text : String} {error : ParseError} :
    parse text = .error error ↔ ArgumentFault text.toList error := by
  constructor
  · intro h
    obtain ⟨argument, hgrammar⟩ | ⟨error', hfault⟩ := grammar_or_fault text.toList
    · rw [hgrammar.parse_eq_ok] at h
      cases h
    · rw [hfault.parse_eq_error] at h
      cases h
      exact hfault
  · exact ArgumentFault.parse_eq_error

end Outcomes

section Printed

theorem notMem_toDigits {c : Char} (h : c.isDigit = false) (n : Nat) : c ∉ Nat.toDigits 10 n := by
  intro hmem
  rw [Nat.isDigit_of_mem_toDigits (by decide) (by decide) hmem] at h
  cases h

theorem lineNumber_toDigits {line : UInt32} (h : 1 ≤ line) :
    LineNumber (Nat.toDigits 10 line.toNat) line := by
  have hdigit : ∀ c ∈ Nat.toDigits 10 line.toNat, c.isDigit = true := fun c hc =>
    Nat.isDigit_of_mem_toDigits (by decide) (by decide) hc
  refine ⟨⟨⟨[], [], Nat.toDigits 10 line.toNat, [], by simp, Or.inl rfl, Nat.toDigits_ne_nil,
    hdigit, by simp⟩, ?_, Nat.ofDigitChars_ten_toDigits⟩, h⟩
  simp [Numeral.text]

variable {path : String} (hpath : path ≠ "")

include hpath

theorem grammar_print_line {first : UInt32} (hfirst : 1 ≤ first) :
    Grammar (path ++ ":" ++ toString first).toList ⟨some path, first, none⟩ := by
  have hcolon := notMem_toDigits (show ':'.isDigit = false by decide) first.toNat
  have hdash := notMem_toDigits (show '-'.isDigit = false by decide) first.toNat
  have hprinted : (path ++ ":" ++ toString first).toList =
      path.toList ++ ':' :: Nat.toDigits 10 first.toNat := by
    change (path ++ ":" ++ first.toNat.repr).toList = _
    simp
  have hgrammar := Grammar.line (.split path.toList hcolon) (by simpa using hpath) hdash
    (lineNumber_toDigits hfirst)
  rw [hprinted]
  simpa using hgrammar

theorem grammar_print_lines {first last : UInt32} (hfirst : 1 ≤ first) (hle : first ≤ last) :
    Grammar (path ++ ":" ++ toString first ++ "-" ++ toString last).toList
      ⟨some path, first, some last⟩ := by
  have hcolon (line : UInt32) := notMem_toDigits (show ':'.isDigit = false by decide) line.toNat
  have hdash := notMem_toDigits (show '-'.isDigit = false by decide) first.toNat
  have hlines : ':' ∉ Nat.toDigits 10 first.toNat ++ '-' :: Nat.toDigits 10 last.toNat := by
    simp [hcolon]
  have hprinted : (path ++ ":" ++ toString first ++ "-" ++ toString last).toList =
      path.toList ++ ':' :: (Nat.toDigits 10 first.toNat ++ '-' :: Nat.toDigits 10 last.toNat) := by
    change (path ++ ":" ++ first.toNat.repr ++ "-" ++ last.toNat.repr).toList = _
    simp
  have hgrammar := Grammar.lines (.split path.toList hlines) (by simpa using hpath)
    (.pair _ hdash) (lineNumber_toDigits hfirst)
    (lineNumber_toDigits (UInt32.le_trans hfirst hle)) hle
  rw [hprinted]
  simpa using hgrammar

end Printed

/-- An argument is read exactly as its grammar says, and refused for the first of its faults. Line
numbers written behind a path are read back, whatever colons and dashes the path has. -/
theorem parse_reads_grammar (text : String) :
    (∀ argument, parse text = .ok argument ↔ Grammar text.toList argument) ∧
      (∀ error, parse text = .error error ↔ ArgumentFault text.toList error) ∧
      ∀ (path : String) (first last : UInt32), path ≠ "" → 1 ≤ first → first ≤ last →
        parse (path ++ ":" ++ toString first ++ "-" ++ toString last) =
          .ok ⟨some path, first, some last⟩ ∧
        parse (path ++ ":" ++ toString first) = .ok ⟨some path, first, none⟩ := by
  refine ⟨fun argument => parse_eq_ok_iff, fun error => parse_eq_error_iff, ?_⟩
  intro path first last hpath hfirst hle
  constructor
  · exact (grammar_print_lines hpath hfirst hle).parse_eq_ok
  · exact (grammar_print_line hpath hfirst).parse_eq_ok

/-- A path with a colon and a dash, a plus sign, blanks and leading zeros. -/
theorem parse_reads_grammar_drive :
    Grammar "C:\\a-b:\t+007 - 40".toList ⟨some "C:\\a-b", 7, some 40⟩ ∧
      ArgumentFault "a:9-4294967296".toList (.invalidLine "4294967296") ∧
      parse "C:\\a-b:7-4294967295" = .ok ⟨some "C:\\a-b", 7, some 4294967295⟩ := by
  obtain ⟨hgrammar, -, hprinted⟩ := parse_reads_grammar "C:\\a-b:\t+007 - 40"
  obtain ⟨-, hfault, -⟩ := parse_reads_grammar "a:9-4294967296"
  refine ⟨(hgrammar _).mp (by decide), (hfault _).mp (by decide), ?_⟩
  exact (hprinted "C:\\a-b" 7 4294967295 (by decide) (by decide) (by decide)).1

end Excerpt.AnchorArgument
