import CompileWatch.Proofs.Controller.Turn
import CompileWatch.Proofs.Session.Standing

/-!
# Answers of the controller

Some events only pass by an operation that waits for its answer: they tell that a
compilation was recorded, or announce an answer that is still to come.  When the
controller has handled a request it has posted events that pass by, and behind them at
most one answer; the answer is missing if it was too long for the link.
-/

namespace CompileWatch

/-- Whether the event ends no operation that was begun with a request. -/
def PanelEvent.isPassing : PanelEvent → Bool
  | .recordCompilation _ _ => true
  | .registered => true
  | .detached => true
  | _ => false

def Passing (frame : Frame) : Prop :=
  (Panel.eventOf frame).isPassing

/-- The frame holds a request that begins no operation. -/
def Background (frame : Frame) : Prop :=
  (∃ id, frame = Frame.encode (PanelRequest.removeCompilation id).toJson) ∨
    ∃ text, frame = Frame.encode (PanelRequest.message text).toJson

namespace Link

variable {answer : Frame → Prop} {first second third : Link}

/-- At its left end, the second link has passing frames behind those of the first. -/
def Passes (first second : Link) : Prop :=
  ∃ frames, (∀ frame ∈ frames, Passing frame) ∧ second = first.posted frames

/-- Behind passing frames the second link has an answer, unless that was lost. -/
def Answers (answer : Frame → Prop) (first second : Link) : Prop :=
  ∃ (frames : List Frame) (last : Option Frame), (∀ frame ∈ frames, Passing frame) ∧
    (∀ frame, last = some frame → answer frame) ∧ second = first.posted (frames ++ last.toList)

theorem Passes.refl (link : Link) : link.Passes link :=
  ⟨[], by simp, link.posted_nil.symm⟩

theorem Passes.answers (hpasses : first.Passes second) (hanswers : second.Answers answer third) :
    first.Answers answer third := by
  obtain ⟨frames, hframes, rfl⟩ := hpasses
  obtain ⟨further, last, hfurther, hlast, rfl⟩ := hanswers
  refine ⟨frames ++ further, last, ?_, hlast, ?_⟩
  · intro frame hframe
    rcases List.mem_append.mp hframe with hframe | hframe
    · exact hframes frame hframe
    · exact hfurther frame hframe
  · rw [posted_posted, List.append_assoc]

theorem Answers.mono {other : Frame → Prop} (hanswers : first.Answers answer second)
    (himp : ∀ frame, answer frame → other frame) : first.Answers other second := by
  obtain ⟨frames, last, hframes, hlast, heq⟩ := hanswers
  exact ⟨frames, last, hframes, fun frame hframe => himp frame (hlast frame hframe), heq⟩

end Link

namespace Controller

variable {answer : Frame → Prop}

/-! ## Sending -/

theorem passes_send (panel : Link) {event : PanelEvent} (hgraph : event.hasGraph = false)
    (hpassing : event.isPassing) : panel.Passes (send panel event) := by
  rcases send_eq panel event with h | h
  · rw [h]
    exact .refl panel
  · rw [h]
    refine ⟨[Frame.encode event.toJson], ?_, rfl⟩
    simpa [Passing, eventOf_encode hgraph] using hpassing

theorem answers_send (panel : Link) {event : PanelEvent}
    (hanswer : answer (Frame.encode event.toJson)) : panel.Answers answer (send panel event) := by
  rcases send_eq panel event with h | h
  · rw [h]
    exact ⟨[], none, by simp, by simp, panel.posted_nil.symm⟩
  · rw [h]
    refine ⟨[], some (Frame.encode event.toJson), by simp, ?_, rfl⟩
    rintro frame ⟨⟩
    exact hanswer

theorem passes_record (controller : Controller) (panel : Link) (compilation : Compilation) :
    ∃ after next, controller.record panel compilation = (after, next) ∧
      after.pending = controller.pending ∧ panel.Passes next := by
  rcases record_eq controller panel compilation with ⟨graph, -, -, heq⟩ | ⟨-, heq⟩
  · exact ⟨_, _, heq, rfl, passes_send panel rfl rfl⟩
  · exact ⟨_, _, heq, rfl, .refl panel⟩

/-- The frame holds an error about the given compilation, or about none. -/
def Fails (id : Option CompilationId) (frame : Frame) : Prop :=
  ∃ message, Panel.eventOf frame = .error id message

theorem answers_sendError (panel : Link) (id : Option CompilationId) (message : String) :
    panel.Answers (Fails id) (sendError panel id message) :=
  answers_send panel ⟨message, eventOf_encode rfl⟩

/-! ## Selections -/

/-- The frame shows what the store holds under the id, or it holds an error about it. -/
def Shows (store : Store) (id : CompilationId) (frame : Frame) : Prop :=
  (∃ snapshot, store.get id.slot = .ok snapshot ∧
    GraphFrame.encode { id, scripts := snapshot.scripts, graph := snapshot.graph } = .ok frame) ∨
  Fails (some id) frame

theorem answers_sendGraph {panel next : Link} {frame : GraphFrame}
    (hsend : sendGraph panel frame = .ok next) :
    panel.Answers (fun text => frame.encode = .ok text) next := by
  cases htext : frame.encode with
  | error error => simp [sendGraph, htext, Except.mapError, bind, Except.bind] at hsend
  | ok text =>
      cases hpost : panel.post .right text with
      | error error =>
          simp [sendGraph, htext, hpost, Except.mapError, bind, Except.bind] at hsend
      | ok posted =>
          simp only [sendGraph, htext, hpost, Except.mapError, bind, Except.bind,
            Except.ok.injEq] at hsend
          rw [← hsend, Link.eq_posted_of_post hpost]
          refine ⟨[], some text, by simp, ?_, rfl⟩
          rintro frame ⟨⟩
          rfl

theorem answers_select (controller : Controller) (panel : Link) (id : CompilationId) :
    panel.Answers (Shows controller.store id) (controller.select panel id) := by
  rw [select]
  cases hget : controller.store.get id.slot with
  | error error => exact (answers_sendError panel _ _).mono fun frame hfails => .inr hfails
  | ok snapshot =>
      dsimp only
      split
      · rename_i next hsend
        exact (answers_sendGraph hsend).mono fun frame htext => .inl ⟨snapshot, hget, htext⟩
      · exact (answers_sendError panel _ _).mono fun frame hfails => .inr hfails

/-! ## Requests to the actor -/

/-- The event that ends an operation well. -/
def success : Pending → PanelEvent
  | .attach => .attached
  | .detach => .unregistered

/-- The frame ends the operation well if the request was granted, and with an error otherwise. -/
def Settles (pending : Pending) (granted : Prop) (frame : Frame) : Prop :=
  (granted ∧ Panel.eventOf frame = success pending) ∨ (¬granted ∧ Fails none frame)

theorem answers_conclude (controller : Controller) (panel : Link) (pending : Pending)
    (verdict : Verdict) :
    ∃ after next, controller.conclude panel pending (verdict.outcome pending) = (after, next) ∧
      after.pending = none ∧ panel.Answers (Settles pending (verdict = .granted)) next := by
  cases verdict with
  | refused expected actual =>
      have herror : panel.Answers (Settles pending (Verdict.refused expected actual = .granted))
          (sendError panel none (FrontError.wrongState expected actual).message) :=
        (answers_sendError panel _ _).mono fun frame hfails => .inr ⟨nofun, hfails⟩
      cases pending <;> exact ⟨_, _, rfl, rfl, herror⟩
  | granted =>
      cases pending with
      | attach =>
          exact ⟨_, _, rfl, rfl, answers_send panel (.inl ⟨rfl, eventOf_encode rfl⟩)⟩
      | detach =>
          exact ⟨_, _, rfl, rfl, (passes_send panel rfl rfl).answers
            (answers_send _ (.inl ⟨rfl, eventOf_encode rfl⟩))⟩

end Controller

namespace ControlDesk

open Controller

/-- A request to the actor is posted and awaited, or it fails at once. -/
theorem answers_ask (controller : Controller) (runtime panel : Link) (pending : Pending) :
    (∃ queue, runtime.right = .live queue ∧
      ask controller runtime panel pending =
        { controller := some { controller with pending := some pending }
          runtime := { runtime with
            right := .live (queue ++ [Frame.encode (requestOf pending).toJson]) }
          panel }) ∨
    ∃ next, panel.Answers (Fails none) next ∧
      ask controller runtime panel pending =
        { controller := some { controller with pending := none }, runtime, panel := next } := by
  rw [ask, Front.request]
  cases hpost : runtime.post .left (Frame.encode (requestOf pending).toJson) with
  | ok next =>
      obtain ⟨queue, hqueue, rfl⟩ := Link.eq_of_post_left hpost
      exact .inl ⟨queue, hqueue, rfl⟩
  | error error =>
      refine .inr ⟨_, answers_sendError panel none (FrontError.transport error).message, ?_⟩
      cases pending <;> rfl

/-- Nothing is posted for a request that begins no operation, unless a removal is refused. -/
theorem handleFrame_background (controller : Controller) (runtime panel : Link) {frame : Frame}
    (hframe : Background frame)
    (hremoves : ∀ id, Frame.decode PanelRequest.ofJson? frame = .ok (.removeCompilation id) →
      (controller.store.remove id.slot).toBool) :
    ∃ store, handleFrame controller runtime panel frame =
      { controller := some { controller with store }, runtime, panel } := by
  rw [handleFrame]
  rcases hframe with ⟨id, rfl⟩ | ⟨text, rfl⟩
  · have hremove := hremoves id (PanelRequest.decode_encode _)
    rw [PanelRequest.decode_encode]
    cases hresult : controller.store.remove id.slot with
    | error error => simp [hresult, Except.toBool] at hremove
    | ok store => exact ⟨store, by simp [handle, remove, hresult]⟩
  · rw [PanelRequest.decode_encode]
    exact ⟨controller.store, rfl⟩

end ControlDesk

end CompileWatch
