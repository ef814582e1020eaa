import CompileWatch.Proofs.Actor.Hosted
import CompileWatch.Proofs.Session.History

/-!
# Where the compilations of a session are

A compilation that the host accepted waits in the mailbox of its session, then on the
runtime link, perhaps in the backlog of the front, and is announced at last.  On the
link there is at most one request, and at most one reply to it, with compilations in
front of the reply and behind it.

`Standing` says what the controller, the actor and the panel make of the latest
session.  The controller is behind the actor while a reply that grants its request is
on the way, and only then; which of the parties has begun or ended a session by itself
is therefore known from that reply.
-/

namespace CompileWatch

/-! ## Compilations on their way -/

/-- The session has announced the compilations that were accepted in it, up to those that are on
their way and those that wait in the mailbox.  Once the actor has left the session, some are
lost in the place of the latter. -/
def Balanced (actor : Option Actor) (host : Host) (accepted : List Compilation) (number : Nat)
    (told : List Announcement) (underway : List Compilation) : Prop :=
  ∃ rest, told ++ announcements (underway ++ rest) = announcements accepted ∧
    (actor = some (.attached number) → host.mailboxes = [(number, rest)])

namespace Balanced

variable {actor : Option Actor} {host : Host} {accepted underway : List Compilation} {number : Nat}
  {told : List Announcement}

theorem told_isPrefix (hbalanced : Balanced actor host accepted number told underway) :
    told <+: announcements accepted := by
  obtain ⟨rest, hrest, -⟩ := hbalanced
  exact ⟨_, hrest⟩

/-- Nothing is missing when nothing is on its way and the mailbox is empty. -/
theorem told_eq (hbalanced : Balanced (some (.attached number)) host accepted number told [])
    (hmailbox : host.mailboxes = [(number, [])]) : told = announcements accepted := by
  obtain ⟨rest, hrest, hwaiting⟩ := hbalanced
  have hempty : rest = [] := by
    have := (hwaiting rfl).symm.trans hmailbox
    simpa using this
  simpa [hempty] using hrest

/-- The actor leaves the session. -/
theorem leave (hbalanced : Balanced actor host accepted number told underway)
    {left : Option Actor} (hleft : left ≠ some (.attached number)) (next : Host) :
    Balanced left next accepted number told underway := by
  obtain ⟨rest, hrest, -⟩ := hbalanced
  exact ⟨rest, hrest, fun h => absurd h hleft⟩

/-- One more compilation is accepted and waits in the mailbox. -/
theorem accept {waiting : List Compilation}
    (hbalanced : Balanced (some (.attached number)) host accepted number told underway)
    (hwaiting : host.mailboxes = [(number, waiting)]) (compilation : Compilation) :
    Balanced (some (.attached number))
      { host with mailboxes := [(number, waiting ++ [compilation])] }
      (accepted ++ [compilation]) number told underway := by
  obtain ⟨rest, hrest, hmailbox⟩ := hbalanced
  obtain rfl : rest = waiting := by
    have := (hmailbox rfl).symm.trans hwaiting
    simpa using this
  refine ⟨rest ++ [compilation], ?_, fun _ => rfl⟩
  rw [announcements_append accepted, ← hrest]
  simp

/-- The first compilation of the mailbox is posted. -/
theorem report {waiting : List Compilation} {compilation : Compilation}
    (hbalanced : Balanced (some (.attached number)) host accepted number told underway)
    (hwaiting : host.mailboxes = [(number, compilation :: waiting)]) :
    Balanced (some (.attached number)) { host with mailboxes := [(number, waiting)] }
      accepted number told (underway ++ [compilation]) := by
  obtain ⟨rest, hrest, hmailbox⟩ := hbalanced
  obtain rfl : rest = compilation :: waiting := by
    have := (hmailbox rfl).symm.trans hwaiting
    simpa using this
  exact ⟨waiting, by simpa using hrest, fun _ => rfl⟩

/-- The first compilation on its way is announced, or ignored. -/
theorem announce {compilation : Compilation}
    (hbalanced : Balanced actor host accepted number told (compilation :: underway)) :
    Balanced actor host accepted number (told ++ announcements [compilation]) underway := by
  obtain ⟨rest, hrest, hmailbox⟩ := hbalanced
  refine ⟨rest, ?_, hmailbox⟩
  rw [← hrest, List.append_assoc, ← announcements_append]
  rfl

end Balanced

/-! ## The request on the link -/

/-- How the actor answers an attach or a detach. -/
inductive Verdict
  | granted
  | refused (expected actual : AttachState)

/-- The state in which a request leaves the actor that grants it. -/
def Pending.target : Pending → AttachState
  | .attach => .attached
  | .detach => .detached

/-- The reply with a verdict. -/
def Verdict.packet (pending : Pending) : Verdict → ActorPacket
  | .granted => .state pending.target
  | .refused expected actual => .wrongState expected actual

/-- The outcome of a request with a verdict. -/
def Verdict.outcome (pending : Pending) : Verdict → Except FrontError ActorReply
  | .granted => .ok (.state pending.target)
  | .refused expected actual => .error (.wrongState expected actual)

/-- How far a request to the actor has come. -/
inductive Progress
  /-- There is no request. -/
  | quiet
  /-- The actor has not read it, and never will if it is gone. -/
  | asked (pending : Pending)
  /-- The reply is on the link, with compilations behind it. -/
  | answered (pending : Pending) (verdict : Verdict) (later : List Compilation)

namespace Progress

/-- The reply that the controller waits for. -/
def pending : Progress → Option Pending
  | .quiet => none
  | .asked pending => some pending
  | .answered pending _ _ => some pending

/-- The request on the link. -/
def requests : Progress → List Frame
  | .asked pending => [Frame.encode (Controller.requestOf pending).toJson]
  | _ => []

/-- The frame of a compilation. -/
def frameOf (compilation : Compilation) : Frame :=
  Frame.encode (Actor.report compilation).toJson

/-- The reply on the link and the frames behind it. -/
def frames : Progress → List Frame
  | .answered pending verdict later =>
    Frame.encode (verdict.packet pending).toJson :: later.map frameOf
  | _ => []

/-- The compilations behind the reply. -/
def later : Progress → List Compilation
  | .answered _ _ later => later
  | _ => []

/-- The request that was granted by a reply on the link. -/
def granted : Progress → Option Pending
  | .answered pending .granted _ => some pending
  | _ => none

@[simp]
theorem later_quiet : quiet.later = [] :=
  rfl

theorem later_of_frames {progress : Progress} (hframes : progress.frames = []) :
    progress.later = [] := by
  cases progress with
  | quiet => rfl
  | asked => rfl
  | answered => cases hframes

/-- What was granted does not depend on the compilations behind the reply. -/
theorem granted_answered (pending : Pending) (verdict : Verdict)
    (later after : List Compilation) :
    (answered pending verdict later).granted = (answered pending verdict after).granted := by
  cases verdict <;> rfl

end Progress

/-! ## The latest session -/

/-- What the parties make of the latest session, while `sent` are the compilations in front of the
reply, or all that are on the link if there is no reply. -/
inductive Standing (actor : Option Actor) (host : Host) (accepted : Nat → List Compilation)
    (told : Told) (controller : Controller) (sent : List Compilation) (progress : Progress) : Prop
  /-- It is over, if there ever was one. -/
  | idle : controller.attached = false → progress.granted = none →
      (∀ present, actor = some present → present = .detached) →
      controller.front.backlog = [] → sent = [] → progress.later = [] →
      told.sessions.length = host.opened →
      Standing actor host accepted told controller sent progress
  /-- The actor has begun it, and the controller will when it reads the reply. -/
  | beginning : controller.attached = false → progress.granted = some .attach →
      (∀ present, actor = some present → present = .attached told.sessions.length) →
      controller.front.backlog = [] → sent = [] →
      told.sessions.length + 1 = host.opened →
      Balanced actor host (accepted told.sessions.length) told.sessions.length [] progress.later →
      Standing actor host accepted told controller sent progress
  /-- It lasts, or the actor is gone and the controller will see that. -/
  | lasting {list : List Announcement} : controller.attached = true → progress.granted = none →
      (∀ present, actor = some present → present = .attached told.finished.length) →
      told.current = some list → told.finished.length + 1 = host.opened →
      Balanced actor host (accepted told.finished.length) told.finished.length list
        (controller.front.backlog ++ (sent ++ progress.later)) →
      Standing actor host accepted told controller sent progress
  /-- The actor has ended it, and the controller will when it reads the reply. -/
  | ending {list : List Announcement} : controller.attached = true →
      progress.granted = some .detach →
      (∀ present, actor = some present → present = .detached) →
      told.current = some list → progress.later = [] →
      told.finished.length + 1 = host.opened →
      Balanced actor host (accepted told.finished.length) told.finished.length list
        (controller.front.backlog ++ sent) →
      Standing actor host accepted told controller sent progress

/-- The runtime link and what is on it agree with the controller and the actor. -/
structure Matched (actor : Option Actor) (runtime : Link) (controller : Controller)
    (sent : List Compilation) (progress : Progress) : Prop where
  left : runtime.left = .live (sent.map Progress.frameOf ++ progress.frames)
  right : actor.isSome → runtime.right = .live progress.requests
  gone : actor = none → runtime.right = .dropped
  pending : controller.pending = progress.pending

/-- Every compilation that the host accepted is accounted for. -/
structure Accounted {Image : Type} (observed : Observed Image) : Prop where
  hosted : Hosted observed.session.actor observed.session.host
  numbered : ∀ entry ∈ observed.accepted, entry.1 < observed.session.host.opened
  told_isPrefix : ∀ (number : Nat) (list : List Announcement),
    (Told.of observed.notices).sessions[number]? = some list →
      list <+: announcements (observed.acceptedBy number)
  panel : observed.session.panel.isSome → observed.session.panelLink.left.isLive
  /-- As long as the controller is there and can reach the panel. -/
  standing : ∀ controller, observed.session.controller = some controller →
    observed.session.panelLink.left.isLive → ∃ sent progress,
      Matched observed.session.actor observed.session.runtime controller sent progress ∧
      Standing observed.session.actor observed.session.host observed.acceptedBy
        (Told.of observed.notices) controller sent progress

end CompileWatch
