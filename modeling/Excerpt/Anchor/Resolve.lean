import Excerpt.Anchor.Argument
import Excerpt.Anchor.Json

/-! The anchors of a request: those typed by a user, followed by those of a response. -/
namespace Excerpt

inductive AnchorsError where
  /-- A typed anchor has no document. -/
  | document (error : DocumentError)
  | unreadableFile (path : String) (fault : ReadFault)
  | unreadableInput (fault : ReadFault)
  | invalidResponse (fault : Json.Fault)
  deriving Repr, DecidableEq

namespace AnchorsError

def message : AnchorsError → String
  | .document error => error.message
  | .unreadableFile path _ => "Failed to read anchors file: " ++ path
  | .unreadableInput _ => "Failed to read anchors from stdin"
  | .invalidResponse _ => "Invalid definition JSON"

/-- The error and what caused it, outermost first. -/
def chain (error : AnchorsError) : List String :=
  error.message :: match error with
    | .unreadableFile _ fault | .unreadableInput fault => [fault.message]
    | _ => []

end AnchorsError

namespace Anchor

def ofText (text : String) : Except AnchorsError (List Anchor) :=
  (parseResponse text).mapError .invalidResponse

def ofFile (path : String) (file : Except ReadFault String) :
    Except AnchorsError (List Anchor) := do
  ofText (← file.mapError (.unreadableFile path))

def ofInput (input : Except ReadFault String) : Except AnchorsError (List Anchor) := do
  ofText (← input.mapError .unreadableInput)

/-- The anchors typed by a user, followed by those of a response. -/
def resolve (workDir : Bytes) (viewing : Url) (arguments : List AnchorArgument)
    (response : Except AnchorsError (List Anchor)) : Except AnchorsError (List Anchor) := do
  let typed ← (arguments.mapM (AnchorArgument.toAnchor workDir viewing)).mapError .document
  return typed ++ (← response)

end Anchor

end Excerpt
