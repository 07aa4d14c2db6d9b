import Excerpt.Text.Ascii

/-! Sets of characters, and maps from characters to texts, given as runs of code points. -/
namespace Excerpt.Text

def codePoint (digits : List Char) : Nat := (numeral? 16 digits).getD 0

def words (lines : List String) : List (List Char) :=
  lines.flatMap fun line => line.toList.splitOn ' '

structure Run where
  first : Nat
  last : Nat
  deriving Repr, DecidableEq

namespace Run

/-- Reads a run such as `0041-005A`, or `00AD` for a single code point. -/
def ofWord (word : List Char) : Run :=
  match word.splitOn '-' with
  | [first, last] => ⟨codePoint first, codePoint last⟩
  | _ => ⟨codePoint word, codePoint word⟩

def contains (run : Run) (c : Char) : Bool := run.first ≤ c.toNat && c.toNat ≤ run.last

end Run

structure CharSet where
  runs : List Run
  deriving Repr, DecidableEq

namespace CharSet

def ofLines (lines : List String) : CharSet := ⟨(words lines).map Run.ofWord⟩

def contains (set : CharSet) (c : Char) : Bool := set.runs.any (·.contains c)

end CharSet

/-- The images of the code points from `first` to `last`, counted by `step`: `image` belongs to the
first, and goes up as the code points do. -/
structure CharRule where
  first : Nat
  last : Nat
  step : Nat
  image : List Nat
  deriving Repr, DecidableEq

namespace CharRule

def image? (rule : CharRule) (c : Char) : Option (List Char) :=
  let offset := c.toNat - rule.first
  if rule.first ≤ c.toNat && c.toNat ≤ rule.last && offset % rule.step == 0 then
    some (rule.image.map fun point => Char.ofNat (point + offset))
  else none

/-- Reads the images of the code points from `first` on, which follow each other by `step`. An image
is a text such as `0066.0069`, or a run such as `0061-007A` for as many code points. -/
def ofImages (step : Nat) : (first : Nat) → List (List Char) → List CharRule
  | _, [] => []
  | first, image :: images =>
    let rule : CharRule := match image.splitOn '-' with
      | [low, high] => ⟨first, first + (codePoint high - codePoint low), step, [codePoint low]⟩
      | _ => ⟨first, first, step, (image.splitOn '.').map codePoint⟩
    rule :: ofImages step (rule.last + step) images

/-- Reads a word: a code point, and after a colon the images from there on. After a slash they are
the images of every second code point. -/
def ofWord (word : List Char) : List CharRule :=
  match word.splitOn ':', word.splitOn '/' with
  | [first, images], _ => ofImages 1 (codePoint first) (images.splitOn ',')
  | _, [first, images] => ofImages 2 (codePoint first) (images.splitOn ',')
  | _, _ => []

end CharRule

structure CharMap where
  rules : List CharRule
  deriving Repr, DecidableEq

namespace CharMap

def ofLines (lines : List String) : CharMap := ⟨(words lines).flatMap CharRule.ofWord⟩

def find? (map : CharMap) (c : Char) : Option (List Char) := map.rules.findSome? (·.image? c)

/-- The code points with a given image of their own. -/
def preimages (map : CharMap) (text : List Char) : List Nat :=
  let points := text.map Char.toNat
  (map.rules.filter (·.image == points)).map CharRule.first

end CharMap

end Excerpt.Text
