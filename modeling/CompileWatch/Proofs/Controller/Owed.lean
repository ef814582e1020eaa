import CompileWatch.Proofs.Controller.Register
import CompileWatch.Proofs.Front.Receiving

/-!
# Compilations that are owed

A compilation that the actor has reported waits on the runtime link, or in the backlog if it came
while a reply was awaited.  Until it is taken up it is owed.  Only a disconnect that is granted
drops what is owed; otherwise everything that arrives is taken up, in order.
-/

namespace CompileWatch

namespace ControlDesk

open Controller

variable {desk next : ControlDesk}

/-! ## What is owed -/

/-- The compilations that have arrived and were not taken up yet, oldest first. -/
def owed (desk : ControlDesk) : List Compilation :=
  (desk.controller.map fun controller => controller.front.backlog).getD [] ++
    (desk.runtime.queue .left).filterMap Front.compilationOf?

/-- The compilations that arrive in a move. -/
def arrivedIn (desk : ControlDesk) : DeskMove → List Compilation
  | .actor act =>
    (((desk.runtime.act .right act).queue .left).drop
      (desk.runtime.queue .left).length).filterMap Front.compilationOf?
  | _ => []

/-- The compilation that is taken up in a move. -/
def takenIn (desk : ControlDesk) : DeskMove → List Compilation
  | .step => desk.nextCompilation?.toList
  | _ => []

/-- Whether a disconnect is granted in a move. -/
def releasesIn (desk : ControlDesk) : DeskMove → Bool
  | .step =>
    match desk.news? with
    | some .detached => true
    | _ => false
  | _ => false

def run (desk : ControlDesk) (moves : List DeskMove) : ControlDesk :=
  moves.foldl move desk

theorem run_nil (desk : ControlDesk) : desk.run [] = desk :=
  rfl

def arrivedOver (desk : ControlDesk) : List DeskMove → List Compilation
  | [] => []
  | first :: rest => desk.arrivedIn first ++ (desk.move first).arrivedOver rest

def takenOver (desk : ControlDesk) : List DeskMove → List Compilation
  | [] => []
  | first :: rest => desk.takenIn first ++ (desk.move first).takenOver rest

def releasesOver (desk : ControlDesk) : List DeskMove → Bool
  | [] => false
  | first :: rest => desk.releasesIn first || (desk.move first).releasesOver rest

theorem owed_eq {controller : Controller} (hcontroller : desk.controller = some controller) :
    desk.owed = controller.front.backlog ++
      (desk.runtime.queue .left).filterMap Front.compilationOf? := by
  rw [owed, hcontroller]
  rfl

theorem owed_of_left {controller : Controller} {queue : List Frame}
    (hcontroller : desk.controller = some controller) (hleft : desk.runtime.left = .live queue) :
    desk.owed = controller.front.backlog ++ queue.filterMap Front.compilationOf? := by
  rw [owed_eq hcontroller, Link.queue, Link.endpoint, hleft, Endpoint.queue]

/-! ## Moves -/

theorem left_ask (controller : Controller) (runtime panel : Link) (pending : Pending) :
    (ask controller runtime panel pending).runtime.left = runtime.left := by
  rw [ask, Front.request]
  cases hpost : runtime.post .left (Frame.encode (requestOf pending).toJson) with
  | ok next =>
      obtain ⟨queue, -, rfl⟩ := Link.eq_of_post_left hpost
      rfl
  | error error => rfl

theorem left_handleFrame (controller : Controller) (runtime panel : Link) (frame : Frame) :
    (handleFrame controller runtime panel frame).runtime.left = runtime.left := by
  rw [handleFrame]
  cases Frame.decode PanelRequest.ofJson? frame with
  | error error => rfl
  | ok request =>
      cases request with
      | connect => exact left_ask controller runtime _ .attach
      | disconnect => exact left_ask controller runtime panel .detach
      | selectCompilation | removeCompilation | message => rfl

theorem front_record (controller : Controller) (panel : Link) (compilation : Compilation) :
    (controller.record panel compilation).1.front = controller.front := by
  rcases record_eq controller panel compilation with ⟨graph, -, -, heq⟩ | ⟨-, heq⟩ <;> rw [heq]

theorem outcomeNews?_cases (pending : Pending) (outcome : Except FrontError ActorReply) :
    outcomeNews? pending outcome = none ∨ outcomeNews? pending outcome = some .attached ∨
      outcomeNews? pending outcome = some .detached := by
  rw [outcomeNews?.eq_def]
  cases outcome.bind Front.stateOf <;> cases pending <;> simp

/-- A granted disconnect drops the backlog, and no other reply touches it. -/
theorem front_conclude {pending : Pending} {outcome : Except FrontError ActorReply}
    (controller : Controller) (panel : Link)
    (hnews : ∀ event, outcomeNews? pending outcome = some event → event = .attached) :
    (controller.conclude panel pending outcome).1.front = controller.front := by
  rcases conclude_eq controller panel pending outcome with
    ⟨-, heq⟩ | ⟨hdetached, -⟩ | ⟨-, next, -, heq⟩
  · rw [heq]
  · cases hnews _ hdetached
  · rw [heq]

theorem actorOpen_record (controller : Controller) (panel : Link) (compilation : Compilation) :
    (controller.record panel compilation).1.actorOpen = controller.actorOpen := by
  rcases record_eq controller panel compilation with ⟨graph, -, -, heq⟩ | ⟨-, heq⟩ <;> rw [heq]

theorem actorOpen_conclude (controller : Controller) (panel : Link) (pending : Pending)
    (outcome : Except FrontError ActorReply) :
    (controller.conclude panel pending outcome).1.actorOpen = controller.actorOpen := by
  rcases conclude_eq controller panel pending outcome with
    ⟨-, heq⟩ | ⟨-, heq⟩ | ⟨-, next, -, heq⟩ <;> rw [heq]

/-- **Nothing that is owed is lost or overtaken in a step**, unless a disconnect is granted or the
controller stops. -/
theorem owed_step (hstep : desk.step? = some next) (hpresent : next.controller.isSome)
    (hreleases : desk.releasesIn .step = false) :
    desk.takenIn .step ++ next.owed = desk.owed := by
  rcases desk with ⟨_ | controller, runtime, panel⟩
  · cases hstep
  cases turn_of_step? hstep with
  | @handled frame rest hpending hright =>
      have hnone : nextCompilation? { controller := some controller, runtime, panel } = none := by
        simp [ControlDesk.nextCompilation?, Link.next, Link.endpoint, hright]
      obtain ⟨awaited, hafter⟩ :=
        controller_handleFrame controller runtime { panel with right := .live rest } frame
      have hleft := left_handleFrame controller runtime { panel with right := .live rest } frame
      rw [takenIn, hnone, owed_eq hafter, owed_eq rfl, Link.queue, Link.queue, Link.endpoint,
        Link.endpoint, hleft]
      rfl
  | stopped hpending hnext => cases hpresent
  | @kept pending frame rest front hpending hleft hreceive =>
      rw [takenIn, nextCompilation?_of_pending rfl hpending, owed_of_left rfl rfl,
        owed_of_left rfl hleft, Front.backlog_of_receive_none hreceive]
      cases hcompilation : Front.compilationOf? frame <;> simp [hcompilation]
  | @concluded pending frame rest front outcome hpending hleft hreceive =>
      obtain ⟨rfl, hcompilation⟩ := Front.of_receive_some hreceive
      have hnews : ∀ event, outcomeNews? pending outcome = some event → event = .attached := by
        intro event hevent
        rw [releasesIn, news?_of_reply hpending hleft hreceive] at hreleases
        rcases outcomeNews?_cases pending outcome with h | h | h
        · rw [h] at hevent
          cases hevent
        · rw [h] at hevent
          exact (Option.some.inj hevent).symm
        · rw [h] at hreleases
          cases hreleases
      rw [takenIn, nextCompilation?_of_pending rfl hpending, owed_of_left rfl rfl,
        owed_of_left rfl hleft, front_conclude _ panel hnews]
      simp [hcompilation]
  | @failed pending hpending hgone =>
      have hnews : ∀ event, outcomeNews? pending (.error (Front.goneError runtime)) = some event →
          event = .attached := by
        intro event hevent
        cases pending <;> cases hevent
      rw [takenIn, nextCompilation?_of_pending rfl hpending, owed_eq rfl, owed_eq rfl,
        front_conclude _ panel hnews]
      rfl
  | @caughtUp compilation rest hpending hbacklog hopen hnext =>
      have htaken := @nextCompilation?_of_backlog controller runtime _ _ hopen hbacklog
      rw [takenIn, nextCompilation?_of_waiting hpending hnext, htaken, owed_eq rfl, owed_eq rfl,
        front_record, hbacklog]
      rfl
  | @read frame rest next hpending hbacklog hopen hnext hleft heq =>
      have htaken := nextCompilation?_of_left hopen hbacklog hleft
      have hfront : next.1.front = controller.front := by
        rw [heq]
        cases Front.compilationOf? frame with
        | none => rfl
        | some compilation => exact front_record controller panel compilation
      rw [takenIn, nextCompilation?_of_waiting hpending hnext, htaken, owed_of_left rfl rfl,
        owed_of_left rfl hleft, hfront, hbacklog]
      cases hcompilation : Front.compilationOf? frame <;> simp [hcompilation]
  | ended hpending hbacklog hopen hnext hgone =>
      have htaken := nextCompilation?_of_gone hopen hbacklog hgone
      rw [takenIn, nextCompilation?_of_waiting hpending hnext, htaken, owed_eq rfl, owed_eq rfl]
      rfl

theorem queue_act_actor (runtime : Link) (act : Link.Act) :
    ∃ frames, (runtime.act .right act).queue .left = runtime.queue .left ++ frames := by
  obtain ⟨frames, hleft⟩ := runtime.left_act_right act
  rw [Link.queue, Link.queue, Link.endpoint, Link.endpoint, hleft]
  cases runtime.left with
  | dropped => exact ⟨[], rfl⟩
  | live queue => exact ⟨frames, rfl⟩

theorem takenIn_of_blocked (hstep : desk.step? = none) : desk.takenIn .step = [] := by
  rw [takenIn]
  rcases desk with ⟨_ | controller, runtime, panel⟩
  · rfl
  cases hpending : controller.pending with
  | some pending => rw [nextCompilation?_of_pending rfl hpending, Option.toList_none]
  | none =>
      cases hnext : panel.next .right with
      | frame | closed => simp [step?, hpending, hnext] at hstep
      | waiting =>
          simp only [step?, hpending, hnext] at hstep
          simp only [ControlDesk.nextCompilation?, Option.bind_some, hpending, hnext,
            Controller.nextCompilation?]
          cases hopen : controller.actorOpen with
          | false => rfl
          | true =>
              rw [hopen, if_pos rfl, eventStep?] at hstep
              cases hbacklog : controller.front.backlog with
              | cons compilation rest => simp [hbacklog] at hstep
              | nil =>
                  simp only [hbacklog] at hstep
                  split at hstep
                  · rename_i hwaiting
                    obtain ⟨hleft, -⟩ := Link.next_eq_waiting hwaiting
                    have hleft' : runtime.left = .live [] := hleft
                    simp [hleft']
                  · cases hstep
                  · split at hstep <;> cases hstep

/-- Nothing that is owed is lost or overtaken in a move. -/
theorem owed_move (desk : ControlDesk) (move : DeskMove)
    (hpresent : (desk.move move).controller.isSome) (hreleases : desk.releasesIn move = false) :
    desk.takenIn move ++ (desk.move move).owed = desk.owed ++ desk.arrivedIn move := by
  cases move with
  | panel act =>
      show [] ++ desk.owed = desk.owed ++ []
      rw [List.nil_append, List.append_nil]
  | actor act =>
      obtain ⟨frames, hqueue⟩ := queue_act_actor desk.runtime act
      simp only [takenIn, owed, arrivedIn, ControlDesk.move, hqueue, List.nil_append,
        List.filterMap_append, List.append_assoc, List.drop_left]
  | step =>
      show desk.takenIn .step ++ (desk.move .step).owed = desk.owed ++ []
      rw [List.append_nil]
      cases hstep : desk.step? with
      | none =>
          rw [ControlDesk.move, hstep, takenIn_of_blocked hstep]
          rfl
      | some next =>
          have hmove : desk.move .step = next := by
            rw [ControlDesk.move, hstep, Option.getD_some]
          rw [hmove] at hpresent ⊢
          exact owed_step hstep hpresent hreleases

theorem controller_run_of_none (hcontroller : desk.controller = none) (moves : List DeskMove) :
    (desk.run moves).controller = none := by
  induction moves generalizing desk with
  | nil => exact hcontroller
  | cons first rest ih =>
      refine ih ?_
      cases first with
      | panel | actor => exact hcontroller
      | step => simp [ControlDesk.move, step?, hcontroller]

theorem isSome_of_run {moves : List DeskMove} (hpresent : (desk.run moves).controller.isSome) :
    desk.controller.isSome := by
  cases hcontroller : desk.controller with
  | some controller => rfl
  | none =>
      rw [controller_run_of_none hcontroller moves] at hpresent
      cases hpresent

/-- **What is owed is delivered in order.**  Over a run in which no disconnect is granted, what was
taken up and what is still owed at the end are what was owed at the start and what has arrived
since. -/
theorem owed_run (desk : ControlDesk) (moves : List DeskMove)
    (hpresent : (desk.run moves).controller.isSome) (hreleases : desk.releasesOver moves = false) :
    desk.takenOver moves ++ (desk.run moves).owed = desk.owed ++ desk.arrivedOver moves := by
  induction moves generalizing desk with
  | nil => exact (List.append_nil _).symm
  | cons first rest ih =>
      rw [releasesOver, Bool.or_eq_false_iff] at hreleases
      have hpresent' : ((desk.move first).run rest).controller.isSome := hpresent
      have hrest := ih (desk.move first) hpresent' hreleases.2
      have hfirst := owed_move desk first (isSome_of_run hpresent') hreleases.1
      calc desk.takenOver (first :: rest) ++ (desk.run (first :: rest)).owed
          = desk.takenIn first ++
              ((desk.move first).takenOver rest ++ ((desk.move first).run rest).owed) :=
            List.append_assoc ..
        _ = (desk.takenIn first ++ (desk.move first).owed) ++
              (desk.move first).arrivedOver rest := by
            rw [hrest, List.append_assoc]
        _ = desk.owed ++ desk.arrivedOver (first :: rest) := by
            rw [hfirst, List.append_assoc, arrivedOver]

/-! ## Delivery -/

/-- Once the controller has found the actor gone, nothing is owed and nothing more can arrive. -/
def Spent (desk : ControlDesk) : Prop :=
  ∀ controller, desk.controller = some controller → controller.actorOpen = false →
    controller.front.backlog = [] ∧ desk.runtime.queue .left = [] ∧
      (desk.runtime.left = .dropped ∨ desk.runtime.right = .dropped)

theorem spent_fresh (runtimeBytes panelBytes : Nat) : Spent (fresh runtimeBytes panelBytes) := by
  intro controller hcontroller hclosed
  obtain rfl := Option.some.inj hcontroller
  cases hclosed

theorem right_ask (controller : Controller) (runtime panel : Link) (pending : Pending)
    (hright : runtime.right = .dropped) :
    (ask controller runtime panel pending).runtime.right = .dropped := by
  rw [ask, Front.request]
  cases hpost : runtime.post .left (Frame.encode (requestOf pending).toJson) with
  | ok next =>
      obtain ⟨queue, hqueue, -⟩ := Link.eq_of_post_left hpost
      rw [hright] at hqueue
      cases hqueue
  | error error => exact hright

theorem right_handleFrame (controller : Controller) (runtime panel : Link) (frame : Frame)
    (hright : runtime.right = .dropped) :
    (handleFrame controller runtime panel frame).runtime.right = .dropped := by
  rw [handleFrame]
  cases Frame.decode PanelRequest.ofJson? frame with
  | error error => exact hright
  | ok request =>
      cases request with
      | connect => exact right_ask controller runtime _ .attach hright
      | disconnect => exact right_ask controller runtime panel .detach hright
      | selectCompilation | removeCompilation | message => exact hright

theorem Spent.of_controller {controller : Controller}
    (hcontroller : next.controller = some controller)
    (hspent : controller.actorOpen = false → controller.front.backlog = [] ∧
      next.runtime.queue .left = [] ∧
        (next.runtime.left = .dropped ∨ next.runtime.right = .dropped)) : Spent next := by
  intro present hpresent hclosed
  obtain rfl := Option.some.inj (hcontroller.symm.trans hpresent)
  exact hspent hclosed

/-- A frame of the actor can only be read while the controller still reckons with the actor. -/
theorem Spent.unread (hspent : Spent desk) {controller : Controller}
    (hcontroller : desk.controller = some controller) (hclosed : controller.actorOpen = false)
    {frame : Frame} {rest : List Frame} : desk.runtime.left ≠ .live (frame :: rest) := by
  intro hleft
  have hqueue := (hspent controller hcontroller hclosed).2.1
  simp [Link.queue, Link.endpoint, hleft, Endpoint.queue] at hqueue

theorem Spent.step (hspent : Spent desk) (hstep : desk.step? = some next) : Spent next := by
  rcases desk with ⟨_ | controller, runtime, panel⟩
  · cases hstep
  have hclosed := hspent controller rfl
  have hunread : ∀ {frame rest}, runtime.left = .live (frame :: rest) →
      controller.actorOpen ≠ false := fun hleft hfalse => hspent.unread rfl hfalse hleft
  cases turn_of_step? hstep with
  | @handled frame rest hpending hright =>
      obtain ⟨awaited, hafter⟩ :=
        controller_handleFrame controller runtime { panel with right := .live rest } frame
      have hleft := left_handleFrame controller runtime { panel with right := .live rest } frame
      refine .of_controller hafter fun hfalse => ?_
      obtain ⟨hbacklog, hqueue, hgone⟩ := hclosed hfalse
      refine ⟨hbacklog, ?_, ?_⟩
      · rw [Link.queue, Link.endpoint, hleft]
        exact hqueue
      · rcases hgone with hgone | hgone
        · exact .inl (hleft.trans hgone)
        · exact .inr (right_handleFrame _ _ _ _ hgone)
  | stopped hpending hnext =>
      intro present hpresent
      cases hpresent
  | kept hpending hleft hreceive =>
      exact .of_controller rfl fun hfalse => absurd hfalse (hunread hleft)
  | @concluded pending frame rest front outcome hpending hleft hreceive =>
      refine .of_controller rfl fun hfalse => absurd ?_ (hunread hleft)
      rw [actorOpen_conclude] at hfalse
      exact hfalse
  | @failed pending hpending hgone =>
      refine .of_controller rfl fun hfalse => ?_
      rw [actorOpen_conclude] at hfalse
      have hnone : outcomeNews? pending (.error (Front.goneError runtime)) = none := by
        cases pending <;> rfl
      rw [front_conclude controller panel (by simp [hnone])]
      exact hclosed hfalse
  | @caughtUp compilation rest hpending hbacklog hopen hnext =>
      refine .of_controller rfl fun hfalse => ?_
      rw [actorOpen_record] at hfalse
      exact absurd hopen (by simpa using hfalse)
  | @read frame rest next hpending hbacklog hopen hnext hleft heq =>
      refine .of_controller rfl fun hfalse => absurd ?_ (hunread hleft)
      rw [heq] at hfalse
      cases hcompilation : Front.compilationOf? frame with
      | none =>
          rw [hcompilation] at hfalse
          exact hfalse
      | some compilation =>
          rw [hcompilation, Option.map_some, Option.getD_some, actorOpen_record] at hfalse
          exact hfalse
  | ended hpending hbacklog hopen hnext hgone =>
      refine .of_controller rfl fun _ => ⟨hbacklog, ?_, ?_⟩
      · rcases hgone with ⟨hleft, -⟩ | hleft <;>
          simp [Link.queue, Link.endpoint, hleft, Endpoint.queue]
      · rcases hgone with ⟨-, hright⟩ | hleft
        · right
          cases hend : runtime.right with
          | dropped => rfl
          | live queue => simp [hend, Endpoint.isLive] at hright
        · exact .inl hleft

theorem Spent.move (hspent : Spent desk) (move : DeskMove) : Spent (desk.move move) := by
  cases move with
  | panel act => exact hspent
  | actor act =>
      intro controller hcontroller hclosed
      obtain ⟨hbacklog, hqueue, hgone⟩ := hspent controller hcontroller hclosed
      refine ⟨hbacklog, ?_⟩
      rcases hgone with hleft | hright
      · obtain ⟨frames, hact⟩ := desk.runtime.left_act_right act
        rw [hleft] at hact
        exact ⟨by simp [ControlDesk.move, Link.queue, Link.endpoint, hact, Endpoint.push,
          Endpoint.queue], .inl hact⟩
      · have hact : desk.runtime.act .right act = desk.runtime := by
          cases act <;> simp [Link.act, Link.endpoint, hright]
        rw [ControlDesk.move, hact]
        exact ⟨hqueue, .inr hright⟩
  | step =>
      rw [ControlDesk.move]
      cases hstep : desk.step? with
      | none => exact hspent
      | some next => exact hspent.step hstep

theorem Spent.run (hspent : Spent desk) (moves : List DeskMove) : Spent (desk.run moves) := by
  induction moves generalizing desk with
  | nil => exact hspent
  | cons first rest ih => exact ih (hspent.move first)

/-- The controller has nothing else to do than to take up compilations. -/
def Quiet (desk : ControlDesk) : Prop :=
  ∃ controller, desk.controller = some controller ∧ controller.pending = none ∧
    desk.panel.next .right = .waiting

/-- How many steps it takes at most until nothing is owed. -/
def load (desk : ControlDesk) : Nat :=
  ((desk.controller.map fun controller => controller.front.backlog.length).getD 0) +
    (desk.runtime.queue .left).length

theorem next_of_sends {panel next : Link} {frames : List Frame} (hsends : panel.Sends frames next)
    (hwaiting : panel.next .right = .waiting) : next.next .right = .waiting := by
  obtain ⟨sent, -, rfl⟩ := hsends.exists_posted
  obtain ⟨hright, hleft⟩ := Link.next_eq_waiting hwaiting
  have hright' : (panel.posted sent).endpoint .right = .live [] := hright
  have hleft' : (panel.posted sent).isLive .left = true := by
    rw [Link.isLive, Link.endpoint, Link.left_posted, Endpoint.isLive_push]
    exact hleft
  simp [Link.next, hright', Side.other, hleft']

theorem pending_record (controller : Controller) (panel : Link) (compilation : Compilation) :
    (controller.record panel compilation).1.pending = controller.pending := by
  rcases record_eq controller panel compilation with ⟨graph, -, -, heq⟩ | ⟨-, heq⟩ <;> rw [heq]

/-- A step in quiet uses up what waits there. -/
theorem Quiet.step (hquiet : Quiet desk) (hstep : desk.step? = some next) :
    Quiet next ∧ next.load ≤ desk.load - 1 := by
  obtain ⟨controller, hcontroller, hpending, hwaiting⟩ := hquiet
  rcases desk with ⟨_ | present, runtime, panel⟩
  · cases hcontroller
  obtain rfl := Option.some.inj hcontroller
  cases turn_of_step? hstep with
  | handled _ hright => simp [Link.next, Link.endpoint, hright] at hwaiting
  | stopped _ hnext =>
      rw [hwaiting] at hnext
      cases hnext
  | kept hsome | concluded hsome | failed hsome =>
      rw [hpending] at hsome
      cases hsome
  | @caughtUp compilation rest _ hbacklog hopen hnext =>
      refine ⟨⟨_, rfl, ?_, ?_⟩, ?_⟩
      · rw [pending_record]
        exact hpending
      · exact next_of_sends (sends_record _ panel compilation) hwaiting
      · simp [load, front_record, hbacklog]
  | @read frame rest next _ hbacklog hopen hnext hleft heq =>
      have hload : next.1.front = present.front := by
        rw [heq]
        cases Front.compilationOf? frame with
        | none => rfl
        | some compilation => exact front_record present panel compilation
      refine ⟨⟨_, rfl, ?_, ?_⟩, ?_⟩
      · rw [heq]
        cases Front.compilationOf? frame with
        | none => exact hpending
        | some compilation => exact (pending_record present panel compilation).trans hpending
      · show next.2.next .right = .waiting
        rw [heq]
        cases Front.compilationOf? frame with
        | none => exact hwaiting
        | some compilation => exact next_of_sends (sends_record present panel compilation) hwaiting
      · simp [load, hload, hbacklog, Link.queue, Link.endpoint, hleft, Endpoint.queue]
  | ended _ hbacklog hopen hnext hgone =>
      refine ⟨⟨_, rfl, hpending, hwaiting⟩, ?_⟩
      rcases hgone with ⟨hleft, -⟩ | hleft <;>
        simp [load, hbacklog, Link.queue, Link.endpoint, hleft, Endpoint.queue]

/-- No disconnect is granted while no reply is awaited. -/
theorem Quiet.releasesIn (hquiet : Quiet desk) : desk.releasesIn .step = false := by
  obtain ⟨controller, hcontroller, hpending, hwaiting⟩ := hquiet
  rw [ControlDesk.releasesIn, news?, hcontroller, Option.bind_some]
  simp only [hpending, hwaiting]
  cases controller.nextCompilation? desk.runtime with
  | none => rfl
  | some compilation =>
      rw [Option.bind_some, recordNews?]
      cases controller.attached && compilation.isGraph <;> rfl

/-- In quiet the controller is only blocked when nothing is left to take up. -/
theorem Quiet.owed_eq_nil (hquiet : Quiet desk) (hspent : Spent desk)
    (hstep : desk.step? = none) : desk.owed = [] := by
  obtain ⟨controller, hcontroller, hpending, hwaiting⟩ := hquiet
  rw [owed_eq hcontroller]
  cases hopen : controller.actorOpen with
  | false =>
      obtain ⟨hbacklog, hqueue, -⟩ := hspent controller hcontroller hopen
      rw [hbacklog, hqueue]
      rfl
  | true =>
      simp only [step?, hcontroller, hpending, hwaiting, hopen, if_pos, eventStep?] at hstep
      cases hbacklog : controller.front.backlog with
      | cons compilation rest => simp [hbacklog] at hstep
      | nil =>
          simp only [hbacklog] at hstep
          split at hstep
          · rename_i hnext
            obtain ⟨hleft, -⟩ := Link.next_eq_waiting hnext
            rw [Link.queue, hleft]
            rfl
          · cases hstep
          · split at hstep <;> cases hstep

theorem takenOver_of_blocked (hstep : desk.step? = none) (steps : Nat) :
    desk.takenOver (List.replicate steps .step) = [] := by
  induction steps with
  | zero => rfl
  | succ steps ih =>
      have hmove : desk.move .step = desk := by
        rw [ControlDesk.move, hstep, Option.getD_none]
      rw [List.replicate_succ, takenOver, hmove, ih, takenIn_of_blocked hstep]
      rfl

theorem owed_of_load (hload : desk.load = 0) : desk.owed = [] := by
  rw [load, Nat.add_eq_zero_iff, List.length_eq_zero_iff] at hload
  rw [owed, hload.2]
  cases hcontroller : desk.controller with
  | none => rfl
  | some controller =>
      rw [hcontroller] at hload
      rw [Option.map_some, Option.getD_some, List.length_eq_zero_iff.mp hload.1]
      rfl

/-- **In quiet, everything that is owed is taken up.** -/
theorem Quiet.takenOver (hquiet : Quiet desk) (hspent : Spent desk) {steps : Nat}
    (hsteps : desk.load ≤ steps) : desk.takenOver (List.replicate steps .step) = desk.owed := by
  induction steps generalizing desk with
  | zero => rw [owed_of_load (Nat.le_zero.mp hsteps), List.replicate_zero, ControlDesk.takenOver]
  | succ steps ih =>
      cases hstep : desk.step? with
      | none => rw [takenOver_of_blocked hstep, hquiet.owed_eq_nil hspent hstep]
      | some next =>
          obtain ⟨hnext, hload⟩ := hquiet.step hstep
          have hmove : desk.move .step = next := by
            rw [ControlDesk.move, hstep, Option.getD_some]
          have hpresent : next.controller.isSome := by
            obtain ⟨controller, hcontroller, -⟩ := hnext
            rw [hcontroller]
            rfl
          rw [List.replicate_succ, ControlDesk.takenOver, hmove,
            ih hnext (hspent.step hstep) (by omega)]
          exact owed_step hstep hpresent hquiet.releasesIn

end ControlDesk

end CompileWatch
