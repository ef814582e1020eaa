import CompileWatch.Proofs.Controller.Turn
import CompileWatch.Proofs.Session.History

/-!
# The log of the controller

At the far ends of its two links the controller may find anybody: they may post any
frame, read, or drop their end, in any order and between any two steps.  The log of such
a run notes, step by step, which compilation the controller takes up, when it sees that
the actor is gone, and which events it posts to the panel.
-/

namespace CompileWatch

/-- Something that happens at the desk of the controller. -/
inductive DeskMove
  | panel (act : Link.Act)
  | actor (act : Link.Act)
  /-- The controller takes a step. -/
  | step
  deriving DecidableEq, Repr

namespace DeskMove

/-- The panel posts a request, and the controller takes it up. -/
def asking (request : PanelRequest) : List DeskMove :=
  [.panel (.post (Frame.encode request.toJson)), .step]

/-- The actor posts a packet, and the controller takes it up. -/
def telling (packet : ActorPacket) : List DeskMove :=
  [.actor (.post (Frame.encode packet.toJson)), .step]

end DeskMove

/-- An entry of the log. -/
inductive Note
  /-- A compilation was taken from the backlog or from the runtime link. -/
  | took (compilation : Compilation)
  /-- The actor is gone, and nothing of it is left to read. -/
  | hungUp
  | posted (event : PanelEvent)
  deriving Repr

namespace ControlDesk

/-- A desk at which nothing has happened yet. -/
def fresh (runtimeBytes panelBytes : Nat) : ControlDesk where
  controller := some {}
  runtime := { name := "runtime", maxBytes := runtimeBytes }
  panel := { name := "panel", maxBytes := panelBytes }

def move (desk : ControlDesk) : DeskMove → ControlDesk
  | .panel act => { desk with panel := desk.panel.act .left act }
  | .actor act => { desk with runtime := desk.runtime.act .right act }
  | .step => desk.step?.getD desk

/-- The compilation that the controller takes up in its next step. -/
def nextCompilation? (desk : ControlDesk) : Option Compilation :=
  desk.controller.bind fun controller =>
    match controller.pending, desk.panel.next .right with
    | none, .waiting => controller.nextCompilation? desk.runtime
    | _, _ => none

/-- Whether the controller reckons with an actor in the first state and no longer in the second. -/
def hangsUp (desk next : ControlDesk) : Bool :=
  desk.controller.any Controller.actorOpen &&
    next.controller.any fun controller => !controller.actorOpen

def notesIn (desk : ControlDesk) : DeskMove → List Note
  | .step =>
    match desk.step? with
    | none => []
    | some next =>
      let added := (next.panel.queue .left).drop (desk.panel.queue .left).length
      desk.nextCompilation?.toList.map .took ++ (if desk.hangsUp next then [.hungUp] else []) ++
        added.map fun frame => .posted (Panel.eventOf frame)
  | _ => []

/-- No news of the controller are rejected in a move, for their length or because the panel is
gone. -/
def delivers (desk : ControlDesk) : DeskMove → Bool
  | .step => desk.news?.all fun news => (desk.panel.post .right (Frame.encode news.toJson)).toBool
  | _ => true

def runDelivers (desk : ControlDesk) : List DeskMove → Bool
  | [] => true
  | first :: rest => desk.delivers first && (desk.move first).runDelivers rest

end ControlDesk

/-- A desk with the log of what has happened at it. -/
structure LoggedDesk where
  desk : ControlDesk
  notes : List Note := []
  deriving Repr

namespace LoggedDesk

def move (logged : LoggedDesk) (move : DeskMove) : LoggedDesk where
  desk := logged.desk.move move
  notes := logged.notes ++ logged.desk.notesIn move

def run (logged : LoggedDesk) (moves : List DeskMove) : LoggedDesk :=
  moves.foldl move logged

end LoggedDesk

/-! ## Replies of the actor -/

/-- A reply begins a session, ends it, or leaves it as it is and tells no news. -/
theorem Controller.conclude_eq (controller : Controller) (panel : Link) (pending : Pending)
    (outcome : Except FrontError ActorReply) :
    (outcomeNews? pending outcome = some .attached ∧
      controller.conclude panel pending outcome =
        ({ controller with pending := none, store := {}, attached := true },
          send panel .attached)) ∨
    (outcomeNews? pending outcome = some .detached ∧
      controller.conclude panel pending outcome =
        ({ controller with
            pending := none, attached := false, front := controller.front.discardBacklog.2 },
          send (send panel .detached) .unregistered)) ∨
    (outcomeNews? pending outcome = none ∧ ∃ next, panel.Hushed next ∧
      controller.conclude panel pending outcome = ({ controller with pending := none }, next)) := by
  cases houtcome : outcome.bind Front.stateOf with
  | ok state =>
      cases pending with
      | attach => exact .inl ⟨by simp [outcomeNews?, houtcome], by simp [conclude, houtcome]⟩
      | detach =>
          exact .inr (.inl ⟨by simp [outcomeNews?, houtcome], by simp [conclude, houtcome]⟩)
  | error error =>
      obtain ⟨next, hnext, heq⟩ := conclude_error controller panel pending error
      refine .inr (.inr ⟨by simp [outcomeNews?, houtcome], next, hnext, ?_⟩)
      -- the error of an outcome that reports no state is concluded like any other error
      rw [← heq, conclude.eq_def controller panel pending outcome, houtcome]
      rfl

/-! ## Notes of a step -/

namespace ControlDesk

variable {desk next : ControlDesk} {frames : List Frame}

theorem notesIn_step (hstep : desk.step? = some next)
    (hleft : next.panel.left = desk.panel.left.push frames) :
    desk.notesIn .step =
      desk.nextCompilation?.toList.map .took ++ (if desk.hangsUp next then [.hungUp] else []) ++
        if desk.panel.left.isLive then frames.map fun frame => .posted (Panel.eventOf frame)
        else [] := by
  simp only [notesIn, hstep, Link.queue, Link.endpoint, hleft, Endpoint.queue_push]
  by_cases hlive : desk.panel.left.isLive
  · simp [hlive]
  · simp [hlive]

/-- The controller still reckons with the actor if it did before. -/
theorem hangsUp_eq_false {controller after : Controller}
    (hcontroller : desk.controller = some controller) (hafter : next.controller = some after)
    (hopen : after.actorOpen = controller.actorOpen) : desk.hangsUp next = false := by
  simp [hangsUp, hcontroller, hafter, hopen]

/-- While a reply is awaited, no compilation is taken up. -/
theorem nextCompilation?_of_pending {controller : Controller} {pending : Pending}
    (hcontroller : desk.controller = some controller) (hpending : controller.pending = some pending) :
    desk.nextCompilation? = none := by
  simp [nextCompilation?, hcontroller, hpending]

/-- When the panel has nothing, a compilation is taken up if there is one. -/
theorem nextCompilation?_of_waiting {controller : Controller} {runtime panel : Link}
    (hpending : controller.pending = none) (hnext : panel.next .right = .waiting) :
    nextCompilation? { controller := some controller, runtime, panel } =
      controller.nextCompilation? runtime := by
  simp [nextCompilation?, hpending, hnext]

theorem news?_of_taken {controller : Controller} {compilation : Compilation}
    (hcontroller : desk.controller = some controller)
    (htaken : desk.nextCompilation? = some compilation) :
    desk.news? = controller.recordNews? compilation := by
  rw [nextCompilation?, hcontroller, Option.bind_some] at htaken
  rw [news?, hcontroller, Option.bind_some]
  cases hpending : controller.pending with
  | some pending => simp [hpending] at htaken
  | none =>
      cases hnext : desk.panel.next .right with
      | waiting =>
          simp only [hpending, hnext] at htaken
          simp [htaken]
      | frame | closed => simp [hpending, hnext] at htaken

/-- News that are not rejected are posted. -/
theorem send_of_delivers {event : PanelEvent} (hnews : desk.news? = some event)
    (hdelivers : desk.delivers .step) :
    Controller.send desk.panel event = desk.panel.posted [Frame.encode event.toJson] ∧
      desk.panel.left.isLive := by
  simp only [delivers, hnews, Option.all_some] at hdelivers
  cases hpost : desk.panel.post .right (Frame.encode event.toJson) with
  | error error => simp [hpost, Except.toBool] at hdelivers
  | ok after =>
      refine ⟨?_, Link.isLive_of_post hpost⟩
      rw [Controller.send, hpost]
      exact Link.eq_posted_of_post hpost

end ControlDesk

end CompileWatch
