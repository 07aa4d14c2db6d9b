import Excerpt.Text.Script
import Excerpt.Text.NormalForm
import Excerpt.Url.Domain.Mapping
import Excerpt.Url.Punycode

/-! Domain names, and their labels: the parts between the dots. -/
namespace Excerpt.Url.Domain

open Text (Direction direction)

/-- The sign that a label is written in ASCII and tells other characters by digits. -/
def asciiMark : List Char := ['x', 'n', '-', '-']

def labelLimit : Nat := 1000

def writtenLimit : Nat := 2000

def nonJoiner : Char := '\u200C'

def joiner : Char := '\u200D'

/-- Whether some characters connect with what is beside the first of them: transparent ones are
passed over. -/
def connects (joins : Char → Bool) (cs : List Char) : Bool :=
  (cs.dropWhile Text.isTransparent).head?.any joins

/-- Whether joiners and non-joiners stand only where they show: after a mark that takes a vowel, or,
for a non-joiner, between characters that would connect. `before` is what precedes, last first. -/
def joinersShow : (before : List Char) → List Char → Bool
  | _, [] => true
  | before, c :: rest =>
    (if c == joiner then before.head?.any Text.isVirama
      else if c == nonJoiner then
        before.head?.any Text.isVirama ||
          (connects Text.joinsNext before && connects Text.joinsPrevious rest)
      else true) && joinersShow (c :: before) rest

/-- Whether a label keeps one direction, as those of a name with two directions must. From left to
right it holds nothing of the other direction and ends in a letter or digit. From right to left it
holds no letter of the other direction, ends in a letter or digit, and has digits of one kind only.
Marks at the end do not count. -/
def keepsDirection (label : List Char) : Bool :=
  match label.map direction with
  | [] => true
  | first :: rest =>
    let rest := (rest.reverse.dropWhile (· == .mark)).reverse
    let ends (allowed : List Direction) := rest.getLast?.all allowed.contains
    match first with
    | .leftToRight =>
      !rest.contains .rightToLeft && !rest.contains .arabicDigit &&
        ends [.leftToRight, .europeanDigit]
    | .rightToLeft =>
      !rest.contains .leftToRight && ends [.rightToLeft, .europeanDigit, .arabicDigit] &&
        !(rest.contains .europeanDigit && rest.contains .arabicDigit)
    | _ => false

/-- Whether a label may stand in a domain name: it starts with no mark, its joiners show, and it is
not too long unless it is in ASCII. -/
def isLabel (label : List Char) : Bool :=
  !label.head?.any Text.isMark && joinersShow [] label &&
    (label.all Punycode.isAscii || label.length ≤ labelLimit)

/-- The characters that a text in ASCII tells. They include some outside ASCII, are such as stand
for themselves, and are in normal form. -/
def decodeLabel? (written : List Char) : Option (List Char) := do
  if !written.all Punycode.isAscii || writtenLimit < written.length then none
  else
    let label ← Punycode.decode? written
    if label.all Punycode.isAscii || !label.all isKept || !Text.isNormal label then none
    else some label

/-- Reads a label, from which nothing is left to be replaced. -/
def readLabel? (text : List Char) : Option (List Char) := do
  let label ←
    if asciiMark.isPrefixOf text then decodeLabel? (text.drop asciiMark.length) else some text
  if isLabel label then some label else none

def printLabel (label : List Char) : List Char :=
  if label.all Punycode.isAscii then label else asciiMark ++ Punycode.encode label

/-- Characters that a domain name may not hold, besides controls. -/
def denied : List Char := [' ', '%', '#', '/', ':', '<', '>', '?', '@', '[', '\\', ']', '^', '|']

def isDenied (c : Char) : Bool := c.toNat < 0x20 || c.toNat == 0x7F || denied.contains c

/-- The labels of a domain name. Where one is written from right to left, all keep their direction.
-/
def labels? (name : List Char) : Option (List (List Char)) := do
  let images ← name.mapM image?
  let text := Text.normalForm images.flatten
  if text.any isDenied then none
  else
    let labels ← (text.splitOn '.').mapM readLabel?
    if labels.any (·.any Text.isRightToLeft) && !labels.all keepsDirection then none
    else some labels

def toAscii? (name : List Char) : Option (List Char) :=
  (labels? name).map fun labels => ['.'].intercalate (labels.map printLabel)

end Excerpt.Url.Domain
