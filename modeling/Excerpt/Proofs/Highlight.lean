import Mathlib.Data.List.Forall2
import Excerpt.Highlight

/-! Markup for a terminal and the code in it. However the lines of a code are cut into pieces, the
markup without its escapes is the code, and nothing but a newline follows the final reset. -/
namespace Excerpt
namespace Highlighter

/-! ## Escapes -/

/-- A text without its escapes, each of which goes from an escape character and a bracket to the
next `m`; `inside` tells whether the text starts inside of one. -/
def withoutEscapes : (inside : Bool) → List Char → List Char
  | _, [] => []
  | true, c :: cs => withoutEscapes (c != 'm') cs
  | false, '\x1b' :: '[' :: cs => withoutEscapes true cs
  | false, c :: cs => c :: withoutEscapes false cs

/-- An escape character and a bracket, and all up to the first `m` after them. -/
def IsEscape (text : List Char) : Prop :=
  ∃ body, text = '\x1b' :: '[' :: (body ++ ['m']) ∧ 'm' ∉ body

theorem withoutEscapes_inside {body : List Char} (h : 'm' ∉ body) (rest : List Char) :
    withoutEscapes true (body ++ 'm' :: rest) = withoutEscapes false rest := by
  induction body with
  | nil => simp [withoutEscapes]
  | cons c body ih =>
    rw [List.mem_cons, not_or] at h
    obtain ⟨hc, hbody⟩ := h
    have hstay : (c != 'm') = true := bne_iff_ne.mpr (Ne.symm hc)
    rw [List.cons_append, withoutEscapes, hstay]
    exact ih hbody

theorem withoutEscapes_escape {escape : List Char} (h : IsEscape escape) (rest : List Char) :
    withoutEscapes false (escape ++ rest) = withoutEscapes false rest := by
  obtain ⟨body, rfl, hbody⟩ := h
  have hinside := withoutEscapes_inside hbody rest
  simpa [withoutEscapes] using hinside

theorem withoutEscapes_plain {text : List Char} (h : '\x1b' ∉ text) (rest : List Char) :
    withoutEscapes false (text ++ rest) = text ++ withoutEscapes false rest := by
  induction text with
  | nil => rfl
  | cons c text ih =>
    rw [List.mem_cons, not_or] at h
    obtain ⟨hc, htext⟩ := h
    rw [List.cons_append, withoutEscapes, ih htext]
    · rfl
    · rintro cs rfl
      exact absurd rfl hc

theorem isEscape_resetEscape : IsEscape resetEscape.toList := ⟨['0'], by decide, by decide⟩

theorem isEscape_colorEscape (color : Color) : IsEscape (colorEscape color).toList := by
  have hdigits : ∀ n : Nat, 'm' ∉ (toString n).toList := by
    intro n hmem
    have htext : (toString n).toList = Nat.toDigits 10 n := Nat.toList_repr
    rw [htext] at hmem
    have hdigit := Nat.isDigit_of_mem_toDigits (by decide) (by decide) hmem
    revert hdigit
    decide
  refine ⟨"38;2;".toList ++ (toString color.red.toNat).toList ++ ";".toList ++
    (toString color.green.toNat).toList ++ ";".toList ++ (toString color.blue.toNat).toList, ?_, ?_⟩
  · simp [colorEscape]
  · simp only [List.mem_append, hdigits]
    decide

/-! ## Pieces -/

/-- The text of some pieces. -/
def pieceTexts (pieces : List Piece) : List Char := pieces.flatMap fun piece => piece.text.toList

/-- Some pieces for a terminal, before the reset. -/
def ansiPieces (pieces : List Piece) : List Char :=
  pieces.flatMap fun piece => (ansiPiece piece).toList

theorem withoutEscapes_ansiPieces {pieces : List Piece} (h : '\x1b' ∉ pieceTexts pieces)
    (rest : List Char) :
    withoutEscapes false (ansiPieces pieces ++ rest) =
      pieceTexts pieces ++ withoutEscapes false rest := by
  induction pieces with
  | nil => rfl
  | cons piece pieces ih =>
    have htexts : pieceTexts (piece :: pieces) = piece.text.toList ++ pieceTexts pieces :=
      List.flatMap_cons
    have hansi : ansiPieces (piece :: pieces) =
        (colorEscape piece.color).toList ++ (piece.text.toList ++ ansiPieces pieces) := by
      simp [ansiPieces, ansiPiece]
    rw [htexts, List.mem_append, not_or] at h
    obtain ⟨hpiece, hpieces⟩ := h
    rw [hansi, htexts, List.append_assoc, List.append_assoc,
      withoutEscapes_escape (isEscape_colorEscape piece.color), withoutEscapes_plain hpiece,
      ih hpieces, List.append_assoc]

theorem pieceTexts_concat (pieces : List Piece) (piece : Piece) :
    pieceTexts (pieces ++ [piece]) = pieceTexts pieces ++ piece.text.toList := by
  simp [pieceTexts]

theorem ansiPieces_concat (pieces : List Piece) (piece : Piece) :
    ansiPieces (pieces ++ [piece]) =
      ansiPieces pieces ++ ((colorEscape piece.color).toList ++ piece.text.toList) := by
  simp [ansiPieces, ansiPiece]

-- an escape ends in `m`, so that a newline at the end belongs to a last piece that is not empty
theorem getLast?_ansiPieces_concat (pieces : List Piece) (piece : Piece) :
    (ansiPieces (pieces ++ [piece])).getLast? = some '\n' ↔
      piece.text.toList.getLast? = some '\n' := by
  rw [ansiPieces_concat]
  by_cases htext : piece.text.toList = []
  · obtain ⟨body, hescape, -⟩ := isEscape_colorEscape piece.color
    have hlast : ansiPieces pieces ++ '\x1b' :: '[' :: (body ++ ['m']) =
        (ansiPieces pieces ++ '\x1b' :: '[' :: body) ++ ['m'] := by
      simp
    rw [htext, List.append_nil, hescape, hlast, List.getLast?_concat]
    simp
  · rw [← List.append_assoc, List.getLast?_append_of_ne_nil _ htext]

theorem getLast?_ansiPieces_iff (pieces : List Piece) :
    (ansiPieces pieces).getLast? = some '\n' ↔
      (pieceTexts pieces).getLast? = some '\n' ∧ ∃ piece ∈ pieces.getLast?, piece.text ≠ "" := by
  rcases pieces.eq_nil_or_concat' with rfl | ⟨pieces, piece, rfl⟩
  · simp [ansiPieces]
  · rw [getLast?_ansiPieces_concat, pieceTexts_concat, List.getLast?_concat]
    by_cases htext : piece.text.toList = []
    · have hempty : piece.text = "" := by simpa using htext
      simp [hempty]
    · have hempty : piece.text ≠ "" := by simpa using htext
      rw [List.getLast?_append_of_ne_nil _ htext]
      simp [hempty]

/-! ## Lines -/

theorem flatten_linesWithEnds (text : List Char) : (linesWithEnds text).flatten = text := by
  fun_induction linesWithEnds text with
  | case1 => rfl
  | case2 cs ih => simp [ih]
  | case3 c cs hc hnil ih =>
    rw [hnil, List.flatten_nil] at ih
    simp [← ih]
  | case4 c cs hc line lines hlines ih =>
    rw [hlines, List.flatten_cons] at ih
    simp [← ih]

/-- Pieces that make up a line. -/
def IsCut (line : List Char) (pieces : List Piece) : Prop := pieceTexts pieces = line

theorem pieceTexts_flatten {lines : List (List Char)} {cut : List (List Piece)}
    (h : List.Forall₂ IsCut lines cut) : pieceTexts cut.flatten = lines.flatten := by
  induction h with
  | nil => rfl
  | @cons line pieces lines cut hline _ ih =>
    have hpieces : pieceTexts pieces = line := hline
    rw [List.flatten_cons, List.flatten_cons, ← ih, ← hpieces]
    exact List.flatMap_append

/-- What a terminal gets for a code that was cut into some pieces: without the escapes it is the
code, and it ends in the reset, but for a newline that ends both the code and its last piece. -/
structure Renders (code : String) (pieces : List Piece) (markup : String) : Prop where
  withoutEscapes_eq : withoutEscapes false markup.toList = code.toList
  reset : ∃ before after, markup = before ++ resetEscape ++ after ∧
    (after = "" ∨ after = "\n") ∧
    (after = "\n" ↔ code.toList.getLast? = some '\n' ∧ ∃ piece ∈ pieces.getLast?, piece.text ≠ "")

/-- The reset stands between what is left of the pieces without a final newline and that newline. -/
theorem exists_withReset (pieces : List Piece) :
    ∃ front after, withReset (ansiPieces pieces) =
        ansiPieces front ++ (resetEscape.toList ++ after) ∧
      pieceTexts pieces = pieceTexts front ++ after ∧ (after = [] ∨ after = ['\n']) ∧
      (after = ['\n'] ↔ (ansiPieces pieces).getLast? = some '\n') := by
  unfold withReset
  by_cases hnewline : (ansiPieces pieces).getLast? = some '\n'
  · rw [if_pos hnewline]
    obtain ⟨init, piece, rfl⟩ : ∃ init piece, pieces = init ++ [piece] := by
      rcases pieces.eq_nil_or_concat' with rfl | hconcat
      · cases hnewline
      · exact hconcat
    have htext := (getLast?_ansiPieces_concat init piece).mp hnewline
    obtain ⟨text, htext⟩ := List.getLast?_eq_some_iff.mp htext
    have hansi : ansiPieces (init ++ [piece]) =
        ansiPieces (init ++ [⟨piece.color, String.ofList text⟩]) ++ ['\n'] := by
      simp [ansiPieces_concat, htext]
    refine ⟨init ++ [⟨piece.color, String.ofList text⟩], ['\n'], ?_, ?_, Or.inr rfl,
      by simp [hnewline]⟩
    · rw [hansi, List.dropLast_concat, List.append_assoc]
    · simp [pieceTexts_concat, htext]
  · rw [if_neg hnewline]
    exact ⟨pieces, [], by simp, by simp, Or.inl rfl, by simp [hnewline]⟩

theorem renders_ansiPieces {code : String} (hcode : '\x1b' ∉ code.toList) {pieces : List Piece}
    (h : pieceTexts pieces = code.toList) :
    Renders code pieces (String.ofList (withReset (ansiPieces pieces))) := by
  obtain ⟨front, after, hreset, htexts, hafter, hend⟩ := exists_withReset pieces
  rw [h] at htexts
  rw [getLast?_ansiPieces_iff, h] at hend
  have hfront : '\x1b' ∉ pieceTexts front := by
    rw [htexts, List.mem_append, not_or] at hcode
    exact hcode.1
  have hplain : withoutEscapes false after = after := by
    rcases hafter with rfl | rfl <;> rfl
  refine ⟨?_, String.ofList (ansiPieces front), String.ofList after, ?_, ?_, ?_⟩
  · rw [String.toList_ofList, hreset, withoutEscapes_ansiPieces hfront,
      withoutEscapes_escape isEscape_resetEscape, hplain, htexts]
  · simp [hreset, String.ofList_append, String.append_assoc]
  · rcases hafter with rfl | rfl
    · exact Or.inl rfl
    · exact Or.inr rfl
  · rw [← hend]
    rcases hafter with rfl | rfl <;> simp

/-! ## Engines -/

end Highlighter

namespace SyntaxEngine
open Highlighter

variable {engine : SyntaxEngine} {rules : String} {theme : Theme}

/-- The pieces that an engine gives for a line, below the lines above it, make up the line. -/
def Cuts (engine : SyntaxEngine) (rules : String) (theme : Theme) (lines : List String) : Prop :=
  ∀ above line, above ++ [line] <+: lines →
    ∀ pieces, engine.cut rules theme above line = .ok pieces → IsCut line.toList pieces

theorem cutLines_cons_eq_ok_iff {above below : List String} {line : String}
    {cut : List (List Piece)} :
    engine.cutLines rules theme above (line :: below) = .ok cut ↔
      ∃ pieces rest, engine.cut rules theme above line = .ok pieces ∧
        engine.cutLines rules theme (above ++ [line]) below = .ok rest ∧ pieces :: rest = cut := by
  rw [cutLines]
  cases engine.cut rules theme above line with
  | error message => simp [bind, Except.bind]
  | ok pieces =>
    cases engine.cutLines rules theme (above ++ [line]) below with
    | error message => simp [bind, Except.bind]
    | ok rest => simp [bind, Except.bind, pure, Except.pure]

-- at each step a line moves from those that are left to those above
theorem Cuts.isCut_of_cutLines {above below : List String} {cut : List (List Piece)}
    (h : engine.Cuts rules theme (above ++ below))
    (hcut : engine.cutLines rules theme above below = .ok cut) :
    List.Forall₂ (fun line pieces => IsCut line.toList pieces) below cut := by
  induction below generalizing above cut with
  | nil =>
    obtain rfl := Except.ok.inj hcut
    exact .nil
  | cons line below ih =>
    obtain ⟨pieces, rest, hpieces, hrest, rfl⟩ := cutLines_cons_eq_ok_iff.mp hcut
    rw [List.append_cons] at h
    exact .cons (h above line (List.prefix_append ..) pieces hpieces) (ih h hrest)

theorem exists_cutLines {above below : List String}
    (h : ∀ before line, before ++ [line] <+: above ++ below →
      ∃ pieces, engine.cut rules theme before line = .ok pieces) :
    ∃ cut, engine.cutLines rules theme above below = .ok cut := by
  induction below generalizing above with
  | nil => exact ⟨[], rfl⟩
  | cons line below ih =>
    rw [List.append_cons] at h
    obtain ⟨pieces, hpieces⟩ := h above line (List.prefix_append ..)
    obtain ⟨rest, hrest⟩ := ih h
    exact ⟨_, cutLines_cons_eq_ok_iff.mpr ⟨pieces, rest, hpieces, hrest, rfl⟩⟩

end SyntaxEngine

namespace Highlighter

theorem ansi_eq_ok_iff {engine : SyntaxEngine} {theme : Theme} {languageId code markup : String} :
    ansi engine theme languageId code = .ok markup ↔
      ∃ cut, engine.cutLines (engine.find languageId) theme [] (codeLines code) = .ok cut ∧
        ansiLines cut = markup := by
  unfold ansi
  cases engine.cutLines (engine.find languageId) theme [] (codeLines code) with
  | error message => simp [Except.mapError, bind, Except.bind]
  | ok cut => simp [Except.mapError, bind, Except.bind, pure, Except.pure]

/-- However the lines of a code without escape characters are cut, also where the cut of a line
depends on the lines above it, the markup without its escapes is the code, and ends in the reset. An
engine that cuts every line gives markup. -/
theorem ansi_renders {code : String} (hcode : '\x1b' ∉ code.toList) :
    (∀ cut, List.Forall₂ IsCut (linesWithEnds code.toList) cut →
      Renders code cut.flatten (ansiLines cut)) ∧
    ∀ (engine : SyntaxEngine) (theme : Theme) (languageId : String),
      engine.Cuts (engine.find languageId) theme (codeLines code) →
      (∀ markup, ansi engine theme languageId code = .ok markup →
        ∃ cut, engine.cutLines (engine.find languageId) theme [] (codeLines code) = .ok cut ∧
          Renders code cut.flatten markup) ∧
      ((∀ above line, above ++ [line] <+: codeLines code →
          ∃ pieces, engine.cut (engine.find languageId) theme above line = .ok pieces) →
        ∃ markup, ansi engine theme languageId code = .ok markup) := by
  have hlines : ∀ cut, List.Forall₂ IsCut (linesWithEnds code.toList) cut →
      Renders code cut.flatten (ansiLines cut) := by
    intro cut hcut
    have htexts : pieceTexts cut.flatten = code.toList := by
      rw [pieceTexts_flatten hcut, flatten_linesWithEnds]
    exact renders_ansiPieces hcode htexts
  refine ⟨hlines, ?_⟩
  intro engine theme languageId hcuts
  constructor
  · intro markup hmarkup
    obtain ⟨cut, hcut, rfl⟩ := ansi_eq_ok_iff.mp hmarkup
    have hpieces := hcuts.isCut_of_cutLines hcut
    rw [codeLines, List.forall₂_map_left_iff] at hpieces
    simp only [String.toList_ofList] at hpieces
    exact ⟨cut, hcut, hlines cut hpieces⟩
  · intro hevery
    obtain ⟨cut, hcut⟩ : ∃ cut, engine.cutLines (engine.find languageId) theme []
        (codeLines code) = .ok cut := SyntaxEngine.exists_cutLines hevery
    exact ⟨_, ansi_eq_ok_iff.mpr ⟨cut, hcut, rfl⟩⟩

/-- An empty last piece puts the newline of the code before the reset; a line that is one piece puts
it after. -/
theorem ansi_renders_newline :
    Renders "f\n" [⟨⟨1, 2, 3⟩, "f\n"⟩, ⟨⟨4, 5, 6⟩, ""⟩]
        "\x1b[38;2;1;2;3mf\n\x1b[38;2;4;5;6m\x1b[0m" ∧
      Renders "f\n" [⟨⟨1, 2, 3⟩, "f\n"⟩] "\x1b[38;2;1;2;3mf\x1b[0m\n" := by
  have hcode : '\x1b' ∉ "f\n".toList := by decide
  obtain ⟨hlines, hengine⟩ := ansi_renders hcode
  have hempty := hlines [[⟨⟨1, 2, 3⟩, "f\n"⟩, ⟨⟨4, 5, 6⟩, ""⟩]] (.cons rfl .nil)
  let theme : Theme := ⟨"ink", ⟨1, 2, 3⟩, ⟨0, 0, 0⟩⟩
  have hbare : SyntaxEngine.bare.Cuts (SyntaxEngine.bare.find "plaintext") theme
      (codeLines "f\n") := by
    intro above line _ pieces hpieces
    obtain rfl := Except.ok.inj hpieces
    simp [IsCut, pieceTexts]
  obtain ⟨hrenders, -⟩ := hengine SyntaxEngine.bare theme "plaintext" hbare
  have hansi : ansi .bare theme "plaintext" "f\n" = .ok "\x1b[38;2;1;2;3mf\x1b[0m\n" := by
    decide +kernel
  obtain ⟨cut, hcut, hone⟩ := hrenders _ hansi
  have hcut' : SyntaxEngine.bare.cutLines (SyntaxEngine.bare.find "plaintext") theme []
      (codeLines "f\n") = .ok [[⟨⟨1, 2, 3⟩, "f\n"⟩]] := by
    decide +kernel
  obtain rfl := Except.ok.inj (hcut'.symm.trans hcut)
  have hlines' : ansiLines [[⟨⟨1, 2, 3⟩, "f\n"⟩, ⟨⟨4, 5, 6⟩, ""⟩]] =
      "\x1b[38;2;1;2;3mf\n\x1b[38;2;4;5;6m\x1b[0m" := by decide +kernel
  rw [hlines'] at hempty
  exact ⟨hempty, hone⟩

end Highlighter

end Excerpt
