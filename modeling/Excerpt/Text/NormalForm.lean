import Excerpt.Text.CombiningClass
import Excerpt.Text.Decomposition

/-! The composed normal form of texts: of all texts that are canonically equivalent, the one in
which marks stand in the order of their classes and are joined with their bases where a character
for both exists. -/
namespace Excerpt.Text

/-- Inserts a character, with its combining class, in front of others: it moves behind the marks of
lower classes that follow. -/
def insertMark (mark : Char × Nat) : List (Char × Nat) → List (Char × Nat)
  | [] => [mark]
  | next :: rest =>
    if 0 < next.2 ∧ next.2 < mark.2 then next :: insertMark mark rest else mark :: next :: rest

/-- A text fully decomposed, each character with its combining class, and each run of marks in the
order of the classes. -/
def decomposed (text : List Char) : List (Char × Nat) :=
  ((text.flatMap decompose).map fun c => (c, combiningClass c)).foldr insertMark []

/-- Joins characters with a base. `passed` are the marks since the base that stay, last first: they
keep out a character whose class is not above that of the last. -/
def composeFrom (base : Char) : (passed : List (Char × Nat)) → List (Char × Nat) → List Char
  | passed, [] => base :: (passed.reverse.map Prod.fst)
  | passed, (c, cls) :: rest =>
    let blocked := passed.head?.any fun last => cls ≤ last.2
    match if blocked then none else composite? base c with
    | some joined => composeFrom joined passed rest
    | none =>
      if cls = 0 then base :: (passed.reverse.map Prod.fst) ++ composeFrom c [] rest
      else composeFrom base ((c, cls) :: passed) rest

def normalForm (text : List Char) : List Char :=
  match decomposed text with
  | [] => []
  | (c, _) :: rest => composeFrom c [] rest

def isNormal (text : List Char) : Bool := normalForm text == text

end Excerpt.Text
