import CompileWatch.Host
import CompileWatch.Link
import CompileWatch.Message.Actor
import CompileWatch.Text.Quoted

/-!
# The front of the actor

The control side talks to the runtime actor through its front, at the left end of
the runtime link.  Requests are made one at a time.  While a reply is awaited,
compilations that arrive are kept in a backlog, in order, and frames that cannot
be decoded are skipped.  The first packet that is not a compilation ends the
request, whether it suits the request or not.
-/

namespace CompileWatch

/-- A reply with which the actor grants a request. -/
inductive ActorReply
  | state (current : AttachState)
  | hello (text : String)
  deriving DecidableEq, Repr

/-- Why a request to the actor failed. -/
inductive FrontError
  | transport (error : TransportError)
  /-- The actor refused the request in its current state. -/
  | wrongState (expected actual : AttachState)
  /-- The actor could not decode the request. -/
  | protocol (message : String)
  /-- The reply belongs to another kind of request. -/
  | unexpectedReply (reply : ActorReply)
  deriving DecidableEq, Repr

/-- The state as it is named in a description. -/
def AttachState.title : AttachState → String
  | .detached => "Detached"
  | .attached => "Attached"

/-- A description of a reply, with its field. -/
def ActorReply.describe : ActorReply → String
  | .state current => "State \x7b state: " ++ current.title ++ " \x7d"
  | .hello text => "Hello \x7b msg: " ++ Text.quoted text ++ " \x7d"

def FrontError.message : FrontError → String
  | .transport error => "actor transport: " ++ error.message
  | .wrongState expected actual =>
    "wrong state: expected '" ++ expected.name ++ "', but current state is '" ++ actual.name ++ "'"
  | .protocol message => "actor protocol error: " ++ message
  | .unexpectedReply reply => "unexpected actor reply: " ++ reply.describe

/-- The front of the actor. -/
structure Front where
  /-- Compilations that arrived while a reply was awaited, oldest first. -/
  backlog : List Compilation := []
  deriving DecidableEq, Repr, Inhabited

/-- What the front of the actor can give when it is asked for a compilation. -/
inductive FrontEvent
  | compilation (compilation : Compilation)
  /-- The actor is gone and so is every compilation it reported. -/
  | closed
  | waiting
  deriving DecidableEq, Repr

namespace Front

/-- Posts a request. -/
def request (link : Link) (request : ActorRequest) : Except FrontError Link :=
  (link.post .left (Frame.encode request.toJson)).mapError .transport

/-- Takes in one frame while a reply is awaited; gives the outcome of the request if the frame ends
it. -/
def receive (front : Front) (frame : Frame) : Front × Option (Except FrontError ActorReply) :=
  match Frame.decode ActorPacket.ofJson? frame with
  | .error _ => (front, none)
  | .ok (.compilation scripts json) => ({ backlog := front.backlog ++ [⟨scripts, json⟩] }, none)
  | .ok (.wrongState expected actual) => (front, some (.error (.wrongState expected actual)))
  | .ok (.protocolError message) => (front, some (.error (.protocol message)))
  | .ok (.state current) => (front, some (.ok (.state current)))
  | .ok (.hello text) => (front, some (.ok (.hello text)))

/-- The state that a reply reports. -/
def stateOf : ActorReply → Except FrontError AttachState
  | .state current => .ok current
  | .hello text => .error (.unexpectedReply (.hello text))

/-- The greeting that a reply holds. -/
def greetingOf : ActorReply → Except FrontError String
  | .state current => .error (.unexpectedReply (.state current))
  | .hello text => .ok text

/-- The outcome of a request when the actor is gone. -/
def goneError (link : Link) : FrontError :=
  .transport (.closed link.name)

/-! ## Waiting on the frames that are there -/

/-- Takes in frames until one ends the request; gives the frames behind it. -/
def receiveAll (front : Front) :
    List Frame → Front × List Frame × Option (Except FrontError ActorReply)
  | [] => (front, [], none)
  | frame :: rest =>
    match front.receive frame with
    | (front, some outcome) => (front, rest, some outcome)
    | (front, none) => front.receiveAll rest

/-- Waits for the reply to a request that was posted; without an outcome, the reply is not there
yet. -/
def awaitReply (front : Front) (link : Link) :
    Front × Link × Option (Except FrontError ActorReply) :=
  let (front, rest, outcome) := front.receiveAll (link.queue .left)
  let link := if link.isLive .left then link.setEndpoint .left (.live rest) else link
  match outcome with
  | some outcome => (front, link, some outcome)
  | none => (front, link, if link.isLive .right then none else some (.error (goneError link)))

/-- Makes a request and waits for its reply. -/
def call (front : Front) (link : Link) (request : ActorRequest) :
    Front × Link × Option (Except FrontError ActorReply) :=
  match Front.request link request with
  | .error error => (front, link, some (.error error))
  | .ok link => front.awaitReply link

/-- The compilation that a frame reports; other packets are dropped when no reply is awaited. -/
def compilationOf? (frame : Frame) : Option Compilation :=
  match Frame.decode ActorPacket.ofJson? frame with
  | .ok (.compilation scripts json) => some ⟨scripts, json⟩
  | _ => none

/-- The first compilation among some frames, and the frames behind it. -/
def firstCompilation? : List Frame → Option (Compilation × List Frame)
  | [] => none
  | frame :: rest =>
    match compilationOf? frame with
    | some compilation => some (compilation, rest)
    | none => firstCompilation? rest

/-- The next compilation, from the backlog or from the link. -/
def nextEvent (front : Front) (link : Link) : FrontEvent × Front × Link :=
  match front.backlog with
  | compilation :: rest => (.compilation compilation, { backlog := rest }, link)
  | [] =>
    match firstCompilation? (link.queue .left) with
    | some (compilation, rest) =>
      (.compilation compilation, front, link.setEndpoint .left (.live rest))
    | none =>
      let link := (link.drain .left).2
      (if link.isLive .right then .waiting else .closed, front, link)

/-- Drops the backlog, and counts what was in it. -/
def discardBacklog (front : Front) : Nat × Front :=
  (front.backlog.length, { backlog := [] })

end Front

end CompileWatch
