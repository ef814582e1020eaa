import CompileWatch.Frame

/-!
# Links

A link carries frames between two ends.  Each end has a queue of the frames that
wait to be read there, in the order in which they were posted at the other end.
Either end can be dropped, and its queue goes with it; the frames that were posted
from it before stay readable at the other end.

A frame is refused if it is longer than the link allows, counted in bytes, also
when nobody could read it any more.
-/

namespace CompileWatch

inductive Side
  | left
  | right
  deriving DecidableEq, Repr, Inhabited

def Side.other : Side → Side
  | .left => .right
  | .right => .left

/-- What there is at one end of a link. -/
inductive Endpoint
  /-- The end is in use; the frames wait to be read there, oldest first. -/
  | live (queue : List Frame)
  | dropped
  deriving DecidableEq, Repr, Inhabited

namespace Endpoint

def queue : Endpoint → List Frame
  | .live queue => queue
  | .dropped => []

def isLive : Endpoint → Bool
  | .live _ => true
  | .dropped => false

end Endpoint

/-- Why a frame was not delivered, with the name of the link. -/
inductive TransportError
  /-- The other end was dropped. -/
  | closed (link : String)
  | frameTooLarge (link : String) (bytes limit : Nat)
  deriving DecidableEq, Repr

def TransportError.message : TransportError → String
  | .closed link => link ++ " channel closed"
  | .frameTooLarge link bytes limit =>
    "frame too large for " ++ link ++ " channel: " ++ toString bytes ++ " bytes (max " ++
      toString limit ++ ")"

structure Link where
  name : String
  /-- The length in bytes of the longest frame that is delivered. -/
  maxBytes : Nat
  left : Endpoint := .live []
  right : Endpoint := .live []
  deriving DecidableEq, Repr, Inhabited

/-- The usual limit on the length of a frame. -/
def defaultMaxBytes : Nat := 128 * 1024 * 1024

/-- What reading at one end of a link gives. -/
inductive Arrival
  /-- The oldest frame, and the link without it. -/
  | frame (frame : Frame) (link : Link)
  /-- There is no frame and none can come. -/
  | closed
  /-- There is no frame yet. -/
  | waiting
  deriving Repr

namespace Link

def endpoint (link : Link) : Side → Endpoint
  | .left => link.left
  | .right => link.right

def setEndpoint (link : Link) (side : Side) (endpoint : Endpoint) : Link :=
  match side with
  | .left => { link with left := endpoint }
  | .right => { link with right := endpoint }

def queue (link : Link) (side : Side) : List Frame :=
  (link.endpoint side).queue

def isLive (link : Link) (side : Side) : Bool :=
  (link.endpoint side).isLive

def post (link : Link) (side : Side) (frame : Frame) : Except TransportError Link :=
  if link.maxBytes < frame.utf8ByteSize then
    .error (.frameTooLarge link.name frame.utf8ByteSize link.maxBytes)
  else
    match link.endpoint side.other with
    | .dropped => .error (.closed link.name)
    | .live queue => .ok (link.setEndpoint side.other (.live (queue ++ [frame])))

/-- Reads at one end.  The frames that wait there can be read after the other end was dropped. -/
def next (link : Link) (side : Side) : Arrival :=
  match link.endpoint side, link.isLive side.other with
  | .live (frame :: rest), _ => .frame frame (link.setEndpoint side (.live rest))
  | .live [], true => .waiting
  | .live [], false => .closed
  | .dropped, _ => .closed

def close (link : Link) (side : Side) : Link :=
  link.setEndpoint side .dropped

/-- Reads all frames that wait at one end. -/
def drain (link : Link) (side : Side) : List Frame × Link :=
  match link.endpoint side with
  | .dropped => ([], link)
  | .live queue => (queue, link.setEndpoint side (.live []))

end Link

end CompileWatch
