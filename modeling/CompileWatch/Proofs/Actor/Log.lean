import CompileWatch.Proofs.Actor.Turn
import CompileWatch.Proofs.Session.History

/-!
# The log of the actor

The actor serves one link and watches one host.  At the other end of the link anybody may
post any frame, read, or leave, and the host may complete a compilation, in any order
and between any two steps of the actor.  The log of such a run keeps the frames that the
actor took as requests, the frames that it posted, and the compilations that the host
accepted.
-/

namespace CompileWatch

/-! ## Runs of the service -/

/-- Something that happens while the actor serves its link. -/
inductive ServiceMove
  /-- The party at the other end of the link does something. -/
  | peer (act : Link.Act)
  | compile (compilation : Compilation)
  /-- The actor takes a step. -/
  | step
  deriving DecidableEq, Repr

namespace ActorService

/-- A detached actor on a host where some sessions were opened and ended earlier. -/
def fresh (earlier maxBytes : Nat) : ActorService where
  actor := some .detached
  host := { opened := earlier }
  link := { name := "runtime", maxBytes }

def move (service : ActorService) : ServiceMove → ActorService
  | .peer act => { service with link := service.link.act .left act }
  | .compile compilation =>
    { service with host := (service.host.compile? compilation).getD service.host }
  | .step => service.step?.getD service

/-- The frame that the actor takes as a request in its next step. -/
def request? (service : ActorService) : Option Frame :=
  service.actor.bind fun _ =>
    match service.link.next .right with
    | .frame frame _ => some frame
    | _ => none

def takenIn (service : ActorService) : ServiceMove → List Frame
  | .step => service.request?.toList
  | _ => []

def postedIn (service : ActorService) : ServiceMove → List Frame
  | .step => ((service.move .step).link.queue .left).drop (service.link.queue .left).length
  | _ => []

/-- The compilation that the host accepts, with the session whose hook is fired. -/
def acceptedIn (service : ActorService) : ServiceMove → List (Nat × Compilation)
  | .compile compilation =>
    match service.host.hook, service.host.compile? compilation with
    | some number, some _ => [(number, compilation)]
    | _, _ => []
  | _ => []

/-- In a move no packet of the actor is too long for the link. -/
def fits (service : ActorService) : ServiceMove → Bool
  | .step =>
    service.packet?.all fun packet =>
      (Frame.encode packet.toJson).utf8ByteSize ≤ service.link.maxBytes
  | _ => true

def runFits (service : ActorService) : List ServiceMove → Bool
  | [] => true
  | first :: rest => service.fits first && (service.move first).runFits rest

end ActorService

/-- An actor at work, with the log of what it did. -/
structure LoggedService where
  service : ActorService
  taken : List Frame := []
  posted : List Frame := []
  accepted : List (Nat × Compilation) := []

namespace LoggedService

def move (logged : LoggedService) (move : ServiceMove) : LoggedService where
  service := logged.service.move move
  taken := logged.taken ++ logged.service.takenIn move
  posted := logged.posted ++ logged.service.postedIn move
  accepted := logged.accepted ++ logged.service.acceptedIn move

def run (logged : LoggedService) (moves : List ServiceMove) : LoggedService :=
  moves.foldl move logged

/-- The compilations that were accepted in a session, oldest first. -/
def acceptedBy (logged : LoggedService) (number : Nat) : List Compilation :=
  (logged.accepted.filter fun entry => entry.1 = number).map Prod.snd

end LoggedService

/-! ## What a reader of the log expects -/

namespace AttachState

/-- The packet that answers a frame in a state. -/
def answerTo (state : AttachState) (frame : Frame) : ActorPacket :=
  match Frame.decode ActorRequest.ofJson? frame with
  | .ok .attach =>
    if state = .detached then .state .attached else .wrongState .detached state
  | .ok .detach =>
    if state = .attached then .state .detached else .wrongState .attached state
  | .ok .hello => .hello Actor.helloText
  | .error error => .protocolError error.message

/-- The state after a reply. -/
def after (state : AttachState) : ActorPacket → AttachState
  | .state next => next
  | _ => state

/-- The replies to some frames, one for each. -/
def answers (state : AttachState) : List Frame → List ActorPacket
  | [] => []
  | frame :: rest =>
    state.answerTo frame :: (state.after (state.answerTo frame)).answers rest

/-- The state after some frames were answered. -/
def afterAll (state : AttachState) (frames : List Frame) : AttachState :=
  frames.foldl (fun state frame => state.after (state.answerTo frame)) state

theorem answers_append (state : AttachState) (frames : List Frame) (frame : Frame) :
    state.answers (frames ++ [frame]) =
      state.answers frames ++ [(state.afterAll frames).answerTo frame] := by
  induction frames generalizing state with
  | nil => rfl
  | cons first rest ih =>
      rw [List.cons_append, answers, ih, answers]
      rfl

theorem afterAll_append (state : AttachState) (frames : List Frame) (frame : Frame) :
    state.afterAll (frames ++ [frame]) =
      (state.afterAll frames).after ((state.afterAll frames).answerTo frame) := by
  rw [afterAll, List.foldl_append]
  rfl

end AttachState

/-- What a packet tells of the course of a session. -/
def ActorPacket.notice? : ActorPacket → Option Notice
  | .state .attached => some .attached
  | .state .detached => some .detached
  | .compilation scripts json => some (.recorded (.of ⟨scripts, json⟩))
  | _ => none

/-- What the packets tell, session by session. -/
def Told.ofPackets (packets : List ActorPacket) : Told :=
  .of (packets.filterMap ActorPacket.notice?)

/-- There is no hook, and no session is left on the host. -/
structure Host.Clear (host : Host) : Prop where
  hook : host.hook = none
  enabled : host.enabled = false
  hasDebuggees : host.hasDebuggees = false
  live : host.live = 0

end CompileWatch
