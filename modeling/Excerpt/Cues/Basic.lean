/-! The characters by which the extent of a definition is recognised. -/
namespace Excerpt

/-- Six lists of characters, each of which gives one role to the lines that start or end with a
member of it. -/
structure Cues where
  /-- First characters of lines that belong to the definition below them. -/
  prefixMarkers : List Char := ['@', '/', '#', '[', ';', '-']
  /-- Last characters of a head line that has no body. -/
  declarationTerminators : List Char := [';']
  /-- First characters of lines that go on with the definition at its own column. -/
  continuations : List Char := ['\x7b', ')']
  /-- First characters of lines that end the definition at its own column. -/
  closers : List Char := ['\x7d']
  /-- First characters of lines that open a nested scope. -/
  firstOpeners : List Char := ['\x7b']
  /-- Last characters of lines that open a nested scope. -/
  lastOpeners : List Char := [':', '\x7b', ';', '\x7d']
  deriving Repr, DecidableEq, Inhabited

namespace Cues

def isPrefixMarker (cues : Cues) (c : Char) : Bool := cues.prefixMarkers.contains c

def isDeclarationTerminator (cues : Cues) (c : Char) : Bool :=
  cues.declarationTerminators.contains c

def isContinuation (cues : Cues) (c : Char) : Bool := cues.continuations.contains c

def isCloser (cues : Cues) (c : Char) : Bool := cues.closers.contains c

/-- Whether a line that starts with `first` and ends with `last` opens a nested scope. -/
def opensBlock (cues : Cues) (first last : Char) : Bool :=
  cues.firstOpeners.contains first || cues.lastOpeners.contains last

end Cues

end Excerpt
