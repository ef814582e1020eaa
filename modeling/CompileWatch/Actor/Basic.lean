import CompileWatch.Host
import CompileWatch.Message.Actor

/-!
# The runtime actor

The actor turns the hook of the host into packets.  While it is attached it has a
session with the host; requests that do not fit its state are refused and change
nothing.
-/

namespace CompileWatch

/-- The actor, which has a session while it is attached. -/
inductive Actor
  | detached
  | attached (session : Nat)
  deriving DecidableEq, Repr, Inhabited

/-- Why the actor refuses a request. -/
inductive ActorError
  | wrongState (expected actual : AttachState)
  /-- The request could not be decoded. -/
  | protocol (message : String)
  deriving DecidableEq, Repr

namespace ActorError

def message : ActorError → String
  | .wrongState expected actual =>
    "wrong state: expected '" ++ expected.name ++ "', but current state is '" ++ actual.name ++ "'"
  | .protocol message => "protocol error: " ++ message

def toPacket : ActorError → ActorPacket
  | .wrongState expected actual => .wrongState expected actual
  | .protocol message => .protocolError message

end ActorError

namespace Actor

/-- The text with which the actor answers a greeting. -/
def helloText : String := "Hello from the backend!"

/-- The actor's state as it is named in messages. -/
def state : Actor → AttachState
  | .detached => .detached
  | .attached _ => .attached

/-- Opens a session and starts to receive compilations. -/
def attach (actor : Actor) (host : Host) : Except ActorError (Actor × Host) :=
  match actor with
  | .attached _ => .error (.wrongState .detached .attached)
  | .detached =>
    let (session, host) := host.openSession
    .ok (.attached session, host)

/-- Ends the session.  Compilations that still wait in it are dropped. -/
def detach (actor : Actor) (host : Host) : Except ActorError (Actor × Host) :=
  match actor with
  | .detached => .error (.wrongState .attached .detached)
  | .attached session => .ok (.detached, host.endSession session)

def hello : ActorPacket := .hello helloText

/-- The packet that reports a new state or a refusal; a refusal leaves actor and host alone. -/
def answer (actor : Actor) (host : Host) :
    Except ActorError (Actor × Host) → ActorPacket × Actor × Host
  | .ok (actor, host) => (.state actor.state, actor, host)
  | .error error => (error.toPacket, actor, host)

def handle (actor : Actor) (host : Host) : ActorRequest → ActorPacket × Actor × Host
  | .attach => actor.answer host (actor.attach host)
  | .detach => actor.answer host (actor.detach host)
  | .hello => (hello, actor, host)

def report (compilation : Compilation) : ActorPacket :=
  .compilation compilation.scripts compilation.json

/-- The oldest compilation that waits in the actor's session. -/
def take? (actor : Actor) (host : Host) : Option (Compilation × Host) :=
  match actor with
  | .detached => none
  | .attached session => host.take? session

/-- The host after the actor is gone, which ends its session if it has one. -/
def release (actor : Actor) (host : Host) : Host :=
  match actor with
  | .detached => host
  | .attached session => host.endSession session

end Actor

end CompileWatch
