import CompileWatch.Json.Reader
import CompileWatch.Json.Writer

/-!
# Frames

A frame is one message as compact JSON text.  Decoding a frame fails in two ways:
its text is no JSON, or the value does not have the shape of the message.
-/

namespace CompileWatch

/-- One message on a link. -/
abbrev Frame := String

/-- Why a frame is no message. -/
inductive DecodeError
  /-- The text does not start with a complete value. -/
  | malformed
  /-- The value is not one of the expected shape. -/
  | unexpected
  deriving DecidableEq, Repr

/-- What can go wrong between a message and its frame. -/
inductive WireError
  | decode (reason : DecodeError)
  /-- The place of the graph does not occur exactly once in its envelope. -/
  | sentinelCollision (occurrences : Nat)
  /-- The text to splice is neither an object nor an array. -/
  | notStructured
  deriving DecidableEq, Repr

def DecodeError.message : DecodeError → String
  | .malformed => "the text is not well-formed"
  | .unexpected => "the value does not fit the message"

def WireError.message : WireError → String
  | .decode reason => "decode frame: " ++ reason.message
  | .sentinelCollision occurrences =>
    "graph sentinel must occur exactly once in the envelope, found " ++ toString occurrences
  | .notStructured => "raw json fragment must start with '\x7b' or '['"

namespace Frame

/-- The frame of a message, given as a value.  Every message has a frame: the writer of JSON texts
is taken never to fail, so `WireError` has no case for it. -/
def encode (message : Json.Value) : Frame :=
  message.render

/-- Decodes a frame with the reader of the expected message. -/
def decode {α : Type} (ofJson? : Json.Value → Option α) (frame : Frame) : Except WireError α :=
  match Json.read? frame with
  | none => .error (.decode .malformed)
  | some value =>
    match ofJson? value with
    | none => .error (.decode .unexpected)
    | some message => .ok message

end Frame

end CompileWatch
