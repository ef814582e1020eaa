import CompileWatch.Proofs.Controller.News

/-!
# Turns of the controller

Every step of the controller is one of eight turns.  `Turn` lists them with what each of
them reads, changes and leaves alone, so that an invariant of the controller is proved
turn by turn.
-/

namespace CompileWatch.ControlDesk

open Controller

/-- What a step of the controller can be. -/
inductive Turn (controller : Controller) (runtime panel : Link) : ControlDesk → Prop
  /-- A frame of the panel was handled. -/
  | handled {frame : Frame} {rest : List Frame} : controller.pending = none →
      panel.right = .live (frame :: rest) →
      Turn controller runtime panel
        (handleFrame controller runtime { panel with right := .live rest } frame)
  /-- The panel is gone. -/
  | stopped : controller.pending = none → panel.next .right = .closed →
      Turn controller runtime panel (stop { controller := some controller, runtime, panel })
  /-- A frame came before the reply that is awaited. -/
  | kept {pending : Pending} {frame : Frame} {rest : List Frame} {front : Front} :
      controller.pending = some pending → runtime.left = .live (frame :: rest) →
      controller.front.receive frame = (front, none) →
      Turn controller runtime panel
        { controller := some { controller with front }
          runtime := { runtime with left := .live rest }
          panel }
  /-- The reply that was awaited has come. -/
  | concluded {pending : Pending} {frame : Frame} {rest : List Frame} {front : Front}
      {outcome : Except FrontError ActorReply} :
      controller.pending = some pending → runtime.left = .live (frame :: rest) →
      controller.front.receive frame = (front, some outcome) →
      Turn controller runtime panel
        { controller := some ({ controller with front }.conclude panel pending outcome).1
          runtime := { runtime with left := .live rest }
          panel := ({ controller with front }.conclude panel pending outcome).2 }
  /-- The actor is gone, and no reply will come. -/
  | failed {pending : Pending} :
      controller.pending = some pending →
      (runtime.left = .live [] ∧ runtime.right.isLive = false) ∨ runtime.left = .dropped →
      Turn controller runtime panel
        { controller :=
            some (controller.conclude panel pending (.error (Front.goneError runtime))).1
          runtime
          panel := (controller.conclude panel pending (.error (Front.goneError runtime))).2 }
  /-- A compilation from the backlog was recorded or ignored. -/
  | caughtUp {compilation : Compilation} {rest : List Compilation} :
      controller.pending = none → controller.front.backlog = compilation :: rest →
      controller.actorOpen = true → panel.next .right = .waiting →
      Turn controller runtime panel
        { controller :=
            some ({ controller with front := { backlog := rest } }.record panel compilation).1
          runtime
          panel := ({ controller with front := { backlog := rest } }.record panel compilation).2 }
  /-- A frame of the actor was read; a compilation in it was recorded or ignored. -/
  | read {frame : Frame} {rest : List Frame} {next : Controller × Link} :
      controller.pending = none → controller.front.backlog = [] → controller.actorOpen = true →
      panel.next .right = .waiting → runtime.left = .live (frame :: rest) →
      next = ((Front.compilationOf? frame).map (controller.record panel)).getD (controller, panel) →
      Turn controller runtime panel
        { controller := some next.1
          runtime := { runtime with left := .live rest }
          panel := next.2 }
  /-- The actor is gone, which ends the session. -/
  | ended : controller.pending = none → controller.front.backlog = [] →
      controller.actorOpen = true → panel.next .right = .waiting →
      (runtime.left = .live [] ∧ runtime.right.isLive = false) ∨ runtime.left = .dropped →
      Turn controller runtime panel
        { controller := some { controller with actorOpen := false, attached := false }
          runtime
          panel }

theorem turn_await {controller : Controller} {pending : Pending} {runtime panel : Link}
    {next : ControlDesk} (hpending : controller.pending = some pending)
    (hstep : awaitStep? controller pending runtime panel = some next) :
    Turn controller runtime panel next := by
  rw [awaitStep?] at hstep
  split at hstep
  · cases hstep
  · rename_i hnext
    simp only [Option.some.injEq] at hstep
    rw [← hstep]
    exact .failed hpending (Link.next_eq_closed hnext)
  · rename_i frame after hnext
    obtain ⟨rest, hleft, rfl⟩ := Link.next_eq_frame hnext
    rcases hreceive : controller.front.receive frame with ⟨front, outcome⟩
    cases outcome with
    | none =>
        simp only [hreceive, Option.some.injEq] at hstep
        rw [← hstep]
        exact .kept hpending hleft hreceive
    | some outcome =>
        simp only [hreceive, Option.some.injEq] at hstep
        rw [← hstep]
        exact .concluded hpending hleft hreceive

theorem turn_event {controller : Controller} {runtime panel : Link} {next : ControlDesk}
    (hpending : controller.pending = none) (hopen : controller.actorOpen = true)
    (hpanel : panel.next .right = .waiting)
    (hstep : eventStep? controller runtime panel = some next) :
    Turn controller runtime panel next := by
  rw [eventStep?] at hstep
  split at hstep
  · rename_i compilation rest hbacklog
    simp only [Option.some.injEq] at hstep
    rw [← hstep]
    exact .caughtUp hpending hbacklog hopen hpanel
  · rename_i hbacklog
    split at hstep
    · cases hstep
    · rename_i hnext
      simp only [Option.some.injEq] at hstep
      rw [← hstep]
      exact .ended hpending hbacklog hopen hpanel (Link.next_eq_closed hnext)
    · rename_i frame after hnext
      obtain ⟨rest, hleft, rfl⟩ := Link.next_eq_frame hnext
      cases hcompilation : Front.compilationOf? frame with
      | none =>
          simp only [hcompilation, Option.some.injEq] at hstep
          rw [← hstep]
          exact @Turn.read _ _ _ frame rest (controller, panel) hpending hbacklog hopen hpanel hleft
            (by rw [hcompilation]; rfl)
      | some compilation =>
          simp only [hcompilation, Option.some.injEq] at hstep
          rw [← hstep]
          exact @Turn.read _ _ _ frame rest (controller.record panel compilation) hpending hbacklog
            hopen hpanel hleft (by rw [hcompilation]; rfl)

/-- **Every step of the controller is one of the turns.** -/
theorem turn_of_step? {controller : Controller} {runtime panel : Link} {next : ControlDesk}
    (hstep : step? { controller := some controller, runtime, panel } = some next) :
    Turn controller runtime panel next := by
  simp only [step?] at hstep
  cases hpending : controller.pending with
  | some pending =>
      simp only [hpending] at hstep
      exact turn_await hpending hstep
  | none =>
      simp only [hpending] at hstep
      -- the panel comes first, and the actor only when the panel has nothing
      split at hstep
      · rename_i frame after hnext
        obtain ⟨rest, hright, rfl⟩ := Link.next_eq_frame hnext
        simp only [Option.some.injEq] at hstep
        rw [← hstep]
        exact .handled hpending hright
      · rename_i hnext
        simp only [Option.some.injEq] at hstep
        rw [← hstep]
        exact .stopped hpending hnext
      · rename_i hnext
        split at hstep
        · rename_i hopen
          exact turn_event hpending hopen hnext hstep
        · cases hstep

/-- A frame of the panel that was read leaves no news behind. -/
theorem handled_of_read {controller : Controller} (hpending : controller.pending = none)
    (runtime panel : Link) (frame : Frame) (rest : List Frame) :
    Handled controller runtime panel
      (handleFrame controller runtime { panel with right := .live rest } frame) := by
  refine .of_left ?_ (handled_handleFrame hpending runtime _ frame)
  rfl

/-- The controller only ever posts on the panel link. -/
theorem Turn.exists_left {controller : Controller} {runtime panel : Link} {desk : ControlDesk}
    (hturn : Turn controller runtime panel desk) :
    ∃ frames, desk.panel.left = panel.left.push frames := by
  cases hturn with
  | handled hpending _ => exact (handled_of_read hpending runtime panel _ _).hushed.exists_left
  | stopped => exact ⟨[], (Endpoint.push_nil _).symm⟩
  | kept => exact ⟨[], (Endpoint.push_nil _).symm⟩
  | concluded => exact exists_left_conclude ..
  | failed => exact exists_left_conclude ..
  | caughtUp => exact exists_left_record ..
  | @read frame _ next _ _ _ _ _ hnext =>
      cases hcompilation : Front.compilationOf? frame with
      | none => exact ⟨[], by simp [hnext, hcompilation]⟩
      | some compilation =>
          rw [hnext, hcompilation]
          exact exists_left_record ..
  | ended => exact ⟨[], (Endpoint.push_nil _).symm⟩

end CompileWatch.ControlDesk
