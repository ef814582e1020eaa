import CompileWatch.Controller.Basic
import CompileWatch.Panel.Basic
import CompileWatch.Proofs.Link
import CompileWatch.Proofs.Message.GraphFrame
import CompileWatch.Proofs.Store

/-!
# What the controller tells the panel

Three events tell the panel of the course of a session: that it has begun, that it is
over, and that a compilation was recorded.  These are the news.  All other frames are
silent, the ones with a graph among them, whatever the graph text is.

Here is what each part of the controller posts, as a row of frames at the left end of
the panel link.
-/

namespace CompileWatch

/-! ## News and silent frames -/

/-- Whether an event tells of the course of a session. -/
def PanelEvent.isNews : PanelEvent → Bool
  | .attached => true
  | .detached => true
  | .recordCompilation _ _ => true
  | _ => false

/-- The panel learns nothing of the course of the session from the frame. -/
def Silent (frame : Frame) : Prop :=
  (Panel.eventOf frame).isNews = false

theorem eventOf_encode {event : PanelEvent} (hevent : event.hasGraph = false) :
    Panel.eventOf (Frame.encode event.toJson) = event := by
  rw [Panel.eventOf, PanelEvent.decode_encode hevent]

theorem silent_encode {event : PanelEvent} (hgraph : event.hasGraph = false)
    (hnews : event.isNews = false) : Silent (Frame.encode event.toJson) := by
  rw [Silent, eventOf_encode hgraph, hnews]

theorem silent_graphFrame {frame : GraphFrame} {text : Frame} (htext : frame.encode = .ok text) :
    Silent text := by
  rw [Silent, Panel.eventOf]
  cases hdecode : Frame.decode PanelEvent.ofJson? text with
  | error error => rfl
  | ok event =>
      have hgraph := GraphFrame.hasGraph_of_encode htext hdecode
      cases event <;> simp_all [PanelEvent.hasGraph, PanelEvent.isNews]

/-- At the left end, the second link has at most silent frames behind those of the first. -/
def Link.Hushed (panel next : Link) : Prop :=
  ∃ frames, (∀ frame ∈ frames, Silent frame) ∧ next.left = panel.left.push frames

theorem Link.Hushed.of_left {panel next : Link} (hleft : next.left = panel.left) :
    panel.Hushed next :=
  ⟨[], by simp, by simp [hleft]⟩

theorem Link.Hushed.exists_left {panel next : Link} (hhushed : panel.Hushed next) :
    ∃ frames, next.left = panel.left.push frames := by
  obtain ⟨frames, -, hleft⟩ := hhushed
  exact ⟨frames, hleft⟩

theorem Link.Hushed.posted {panel : Link} {frame : Frame} (hframe : Silent frame) :
    panel.Hushed (panel.posted [frame]) :=
  ⟨[frame], by simpa using hframe, rfl⟩

theorem Link.Hushed.trans {first second third : Link} (hfirst : first.Hushed second)
    (hsecond : second.Hushed third) : first.Hushed third := by
  obtain ⟨frames, hframes, hfirst⟩ := hfirst
  obtain ⟨further, hfurther, hsecond⟩ := hsecond
  refine ⟨frames ++ further, fun frame hframe => ?_, by simp [hsecond, hfirst]⟩
  rcases List.mem_append.mp hframe with hframe | hframe
  · exact hframes frame hframe
  · exact hfurther frame hframe

namespace Controller

/-! ## Sending -/

/-- An event is posted, or it is lost. -/
theorem send_eq (panel : Link) (event : PanelEvent) :
    send panel event = panel ∨ send panel event = panel.posted [Frame.encode event.toJson] := by
  rw [send]
  cases hpost : panel.post .right (Frame.encode event.toJson) with
  | error error => exact .inl rfl
  | ok next => exact .inr (Link.eq_posted_of_post hpost)

theorem send_of_fits {panel : Link} {event : PanelEvent}
    (hfits : (Frame.encode event.toJson).utf8ByteSize ≤ panel.maxBytes) :
    send panel event = panel.posted [Frame.encode event.toJson] := by
  cases hlive : panel.left.isLive with
  | true => rw [send, Link.post_of_fits hfits hlive]
  | false =>
      cases hleft : panel.left with
      | live queue => simp [hleft, Endpoint.isLive] at hlive
      | dropped =>
          rcases send_eq panel event with h | h
          · rw [h, Link.posted_of_dropped hleft]
          · exact h

theorem hushed_send (panel : Link) {event : PanelEvent} (hgraph : event.hasGraph = false)
    (hnews : event.isNews = false) : panel.Hushed (send panel event) := by
  rcases send_eq panel event with h | h
  · rw [h]
    exact .of_left rfl
  · rw [h]
    exact .posted (silent_encode hgraph hnews)

theorem hushed_sendError (panel : Link) (id : Option CompilationId) (message : String) :
    panel.Hushed (sendError panel id message) :=
  hushed_send panel rfl rfl

/-! ## Requests that need no reply of the actor -/

theorem hushed_sendGraph {panel next : Link} {frame : GraphFrame}
    (hsend : sendGraph panel frame = .ok next) : panel.Hushed next := by
  cases htext : frame.encode with
  | error error => simp [sendGraph, htext, Except.mapError, bind, Except.bind] at hsend
  | ok text =>
      cases hpost : panel.post .right text with
      | error error =>
          simp [sendGraph, htext, hpost, Except.mapError, bind, Except.bind] at hsend
      | ok posted =>
          simp only [sendGraph, htext, hpost, Except.mapError, bind, Except.bind,
            Except.ok.injEq] at hsend
          rw [← hsend, Link.eq_posted_of_post hpost]
          exact .posted (silent_graphFrame htext)

theorem hushed_select (controller : Controller) (panel : Link) (id : CompilationId) :
    panel.Hushed (controller.select panel id) := by
  rw [select]
  cases controller.store.get id.slot with
  | error error => exact hushed_sendError panel _ _
  | ok snapshot =>
      dsimp only
      split
      · rename_i next hsend
        exact hushed_sendGraph hsend
      · exact hushed_sendError panel _ _

/-- Removing a compilation takes at most that out of the store. -/
theorem remove_eq (controller : Controller) (panel : Link) (id : CompilationId) :
    ∃ store next, panel.Hushed next ∧ controller.store.Reduces store ∧
      controller.remove panel id = ({ controller with store }, next) := by
  rw [remove]
  cases hremove : controller.store.remove id.slot with
  | error error => exact ⟨controller.store, _, hushed_sendError panel _ _, .refl _, rfl⟩
  | ok store => exact ⟨store, panel, .of_left rfl, Store.reduces_of_remove hremove, rfl⟩

/-! ## Sessions -/

/-- The compilation is recorded if a session lasts and its graph is the text of an object or
array, and ignored otherwise. -/
theorem record_eq (controller : Controller) (panel : Link) (compilation : Compilation) :
    (∃ graph, controller.attached = true ∧ RawJson.ofText? compilation.json = .ok graph ∧
      controller.record panel compilation =
        ({ controller with store := controller.store.append compilation.scripts graph },
          send panel (.recordCompilation (.ofSlot controller.store.size) compilation.scripts))) ∨
    ((controller.attached = false ∨ ∃ error, RawJson.ofText? compilation.json = .error error) ∧
      controller.record panel compilation = (controller, panel)) := by
  cases hattached : controller.attached with
  | false => exact .inr ⟨.inl rfl, by simp [record, hattached]⟩
  | true =>
      cases hgraph : RawJson.ofText? compilation.json with
      | error error => exact .inr ⟨.inr ⟨error, rfl⟩, by simp [record, hattached, hgraph]⟩
      | ok graph => exact .inl ⟨graph, rfl, rfl, by simp [record, hattached, hgraph]⟩

/-- A request that failed changes nothing, and the panel hears of it. -/
theorem conclude_error (controller : Controller) (panel : Link) (pending : Pending)
    (error : FrontError) :
    ∃ next, panel.Hushed next ∧
      controller.conclude panel pending (.error error) =
        ({ controller with pending := none }, next) := by
  cases pending <;> exact ⟨_, hushed_sendError panel _ _, rfl⟩

/-! ## Posts of the controller -/

theorem exists_left_send (panel : Link) (event : PanelEvent) :
    ∃ frames, (send panel event).left = panel.left.push frames := by
  rcases send_eq panel event with h | h
  · exact ⟨[], by rw [h, Endpoint.push_nil]⟩
  · exact ⟨_, by rw [h, Link.left_posted]⟩

theorem exists_left_conclude (controller : Controller) (panel : Link)
    (pending : Pending) (outcome : Except FrontError ActorReply) :
    ∃ frames, (controller.conclude panel pending outcome).2.left = panel.left.push frames := by
  rw [conclude.eq_def]
  dsimp only
  split
  · exact exists_left_send panel _
  · obtain ⟨first, hfirst⟩ := exists_left_send panel .detached
    obtain ⟨second, hsecond⟩ := exists_left_send (send panel .detached) .unregistered
    exact ⟨first ++ second, by rw [hsecond, hfirst, Endpoint.push_push]⟩
  · exact exists_left_send panel _

theorem exists_left_record (controller : Controller) (panel : Link)
    (compilation : Compilation) :
    ∃ frames, (controller.record panel compilation).2.left = panel.left.push frames := by
  rcases record_eq controller panel compilation with ⟨_, _, _, h⟩ | ⟨_, h⟩
  · rw [h]
    exact exists_left_send panel _
  · exact ⟨[], by rw [h, Endpoint.push_nil]⟩

end Controller

namespace ControlDesk

open Controller

/-- What handling a request of the panel can leave behind.  There is no news in it. -/
inductive Handled (controller : Controller) (runtime panel : Link) : ControlDesk → Prop
  /-- A request to the actor was posted and is awaited. -/
  | asked {pending : Pending} {queue : List Frame} {next : Link} : panel.Hushed next →
      runtime.right = .live queue →
      Handled controller runtime panel
        { controller := some { controller with pending := some pending }
          runtime := { runtime with
            right := .live (queue ++ [Frame.encode (requestOf pending).toJson]) }
          panel := next }
  /-- At most a compilation was taken out of the store. -/
  | done {store : Store} {next : Link} : panel.Hushed next → controller.store.Reduces store →
      Handled controller runtime panel
        { controller := some { controller with store }, runtime, panel := next }

/-- A frame of the panel that was read before does not count. -/
theorem Handled.of_left {controller : Controller} {runtime panel read : Link} {next : ControlDesk}
    (hleft : read.left = panel.left) (hhandled : Handled controller runtime read next) :
    Handled controller runtime panel next := by
  cases hhandled with
  | asked hhushed hqueue => exact .asked (.trans (.of_left hleft) hhushed) hqueue
  | done hhushed hreduces => exact .done (.trans (.of_left hleft) hhushed) hreduces

theorem Handled.hushed {controller : Controller} {runtime panel : Link} {next : ControlDesk}
    (hhandled : Handled controller runtime panel next) : panel.Hushed next.panel := by
  cases hhandled with
  | asked hhushed => exact hhushed
  | done hhushed => exact hhushed

/-- A request to the actor is posted and awaited, or it fails at once. -/
theorem handled_ask {controller : Controller} (hpending : controller.pending = none)
    (runtime : Link) {panel opening : Link} (hopening : panel.Hushed opening) (pending : Pending) :
    Handled controller runtime panel (ask controller runtime opening pending) := by
  rw [ask, Front.request]
  cases hpost : runtime.post .left (Frame.encode (requestOf pending).toJson) with
  | error error =>
      obtain ⟨next, hnext, heq⟩ :=
        conclude_error controller opening pending (.transport error)
      have hidle : { controller with pending := none } =
          { controller with store := controller.store } := by
        cases controller
        simp_all
      simp only [Except.mapError, heq, hidle]
      exact .done (hopening.trans hnext) (.refl _)
  | ok next =>
      obtain ⟨queue, hqueue, rfl⟩ := Link.eq_of_post_left hpost
      exact .asked hopening hqueue

theorem handled_handleFrame {controller : Controller} (hpending : controller.pending = none)
    (runtime panel : Link) (frame : Frame) :
    Handled controller runtime panel (handleFrame controller runtime panel frame) := by
  rw [handleFrame]
  cases Frame.decode PanelRequest.ofJson? frame with
  | error error => exact .done (hushed_sendError panel none _) (.refl controller.store)
  | ok request =>
      cases request with
      | connect => exact handled_ask hpending runtime (hushed_send panel rfl rfl) .attach
      | disconnect => exact handled_ask hpending runtime (.of_left rfl) .detach
      | selectCompilation id =>
          exact .done (hushed_select controller panel id) (.refl controller.store)
      | removeCompilation id =>
          obtain ⟨store, next, hnext, hreduces, heq⟩ := remove_eq controller panel id
          simp only [handle, heq]
          exact .done hnext hreduces
      | message text => exact .done (.of_left rfl) (.refl controller.store)

end ControlDesk

end CompileWatch
