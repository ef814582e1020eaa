import CompileWatch.Actor.Basic
import CompileWatch.Link
import CompileWatch.Run

/-!
# Serving the runtime link

The actor serves requests at the right end of the runtime link and posts the
compilations of its session there.  A request goes before a compilation that
waits.  A packet that is too long for the link is dropped.  When the left end is
gone the actor ends its session and drops its own end.
-/

namespace CompileWatch

/-- An actor at work, with the host and the link it serves.  There is no actor once the service
has ended. -/
structure ActorService where
  actor : Option Actor
  host : Host
  link : Link
  deriving DecidableEq, Repr, Inhabited

namespace ActorService

def stop (service : ActorService) : ActorService :=
  { actor := none
    host := (service.actor.map fun actor => actor.release service.host).getD service.host
    link := service.link.close .right }

/-- Posts a packet; the service ends if there is nobody to read it. -/
def post (service : ActorService) (packet : ActorPacket) : ActorService :=
  match service.link.post .right (Frame.encode packet.toJson) with
  | .ok link => { service with link }
  | .error (.frameTooLarge _ _ _) => service
  | .error (.closed _) => service.stop

def reply (actor : Actor) (host : Host) (frame : Frame) : ActorPacket × Actor × Host :=
  match Frame.decode ActorRequest.ofJson? frame with
  | .ok request => actor.handle host request
  | .error error => ((ActorError.protocol error.message).toPacket, actor, host)

/-- Takes one request or compilation and posts the packet for it. -/
def step? (service : ActorService) : Option ActorService :=
  match service.actor with
  | none => none
  | some actor =>
    match service.link.next .right with
    | .frame frame link =>
      let (packet, actor, host) := reply actor service.host frame
      some (post { actor := some actor, host, link } packet)
    | .closed => some service.stop
    | .waiting =>
      (actor.take? service.host).map fun (compilation, host) =>
        post { service with host } (Actor.report compilation)

/-- A bound on the steps that the service can take by itself. -/
def potential (service : ActorService) : Nat :=
  (service.link.queue .right).length + service.host.waiting + 1

/-- Lets the service run until it is blocked. -/
def settle (service : ActorService) : ActorService :=
  untilBlocked step? service.potential service

end ActorService

end CompileWatch
