import CompileWatch.Proofs.Controller.Log

/-!
# What the controller sends

For each of its steps the controller has some frames to send, and which ones these are can be
told from the state that it is in.  A frame that is too long is lost, and so is every frame when
the panel is gone; all others arrive in order.
-/

namespace CompileWatch

/-! ## Sending some frames -/

/-- The frames of some events. -/
def framesOf (events : List PanelEvent) : List Frame :=
  events.map fun event => Frame.encode event.toJson

/-- Of the frames that were sent over the first link, some are behind those that waited at its
left end, and all of them are if none is too long. -/
structure Link.Sends (panel : Link) (frames : List Frame) (next : Link) : Prop where
  exists_posted : ∃ sent, sent.Sublist frames ∧ next = panel.posted sent
  of_fits : (∀ frame ∈ frames, frame.utf8ByteSize ≤ panel.maxBytes) → next = panel.posted frames

namespace Link.Sends

variable {first second third : Link} {frames further : List Frame}

theorem nil (link : Link) : link.Sends [] link where
  exists_posted := ⟨[], .slnil, link.posted_nil.symm⟩
  of_fits := fun _ => link.posted_nil.symm

theorem append (hfirst : first.Sends frames second) (hsecond : second.Sends further third) :
    first.Sends (frames ++ further) third where
  exists_posted := by
    obtain ⟨sent, hsent, rfl⟩ := hfirst.exists_posted
    obtain ⟨rest, hrest, rfl⟩ := hsecond.exists_posted
    exact ⟨sent ++ rest, hsent.append hrest, Link.posted_posted ..⟩
  of_fits := by
    intro hfits
    rw [List.forall_mem_append] at hfits
    have hnext := hfirst.of_fits hfits.1
    subst hnext
    rw [hsecond.of_fits hfits.2, Link.posted_posted]

end Link.Sends

namespace Controller

theorem sends_send (panel : Link) (event : PanelEvent) :
    panel.Sends (framesOf [event]) (send panel event) where
  exists_posted := by
    rcases send_eq panel event with h | h
    · exact ⟨[], List.nil_sublist _, by rw [h, Link.posted_nil]⟩
    · exact ⟨_, .refl _, h⟩
  of_fits := fun hfits => send_of_fits (hfits _ (List.mem_singleton.mpr rfl))

theorem sends_events (panel : Link) (events : List PanelEvent) :
    panel.Sends (framesOf events) (events.foldl send panel) := by
  induction events generalizing panel with
  | nil => exact .nil panel
  | cons event rest ih => exact (sends_send panel event).append (ih (send panel event))

/-! ## Requests that need no reply of the actor -/

/-- The error that names the compilation of a request. -/
def errorAbout (id : CompilationId) (message : String) : Frame :=
  Frame.encode (PanelEvent.error (some id) message).toJson

/-- The answer to a selection: the frame with the graph, if it can be written and posted, and
otherwise the error that says why not. -/
def selectionFrame (store : Store) (panel : Link) (id : CompilationId) : Frame :=
  match store.get id.slot with
  | .error error => errorAbout id error.message
  | .ok snapshot =>
    match GraphFrame.encode { id, scripts := snapshot.scripts, graph := snapshot.graph } with
    | .error error => errorAbout id error.message
    | .ok text =>
      match panel.post .right text with
      | .error error => errorAbout id error.message
      | .ok _ => text

theorem sends_sendError (panel : Link) (id : CompilationId) (message : String) :
    panel.Sends [errorAbout id message] (sendError panel (some id) message) :=
  sends_send panel (.error (some id) message)

theorem sends_select (controller : Controller) (panel : Link) (id : CompilationId) :
    panel.Sends [selectionFrame controller.store panel id] (controller.select panel id) := by
  rw [selectionFrame, select]
  cases controller.store.get id.slot with
  | error error => exact sends_sendError panel id _
  | ok snapshot =>
      cases htext : GraphFrame.encode ⟨id, snapshot.scripts, snapshot.graph⟩ with
      | error error =>
          simp only [sendGraph, htext, Except.mapError, bind, Except.bind]
          exact sends_sendError panel id _
      | ok text =>
          cases hpost : panel.post .right text with
          | error error =>
              simp only [sendGraph, htext, hpost, Except.mapError, bind, Except.bind]
              exact sends_sendError panel id _
          | ok next =>
              simp only [sendGraph, htext, hpost, Except.mapError, bind, Except.bind]
              have hnext := Link.eq_posted_of_post hpost
              exact ⟨⟨[text], .refl _, hnext⟩, fun _ => hnext⟩

/-- The answer to a removal: there is one only if the compilation was never recorded. -/
def removalFrames (store : Store) (id : CompilationId) : List Frame :=
  match store.remove id.slot with
  | .ok _ => []
  | .error error => [errorAbout id error.message]

theorem sends_remove (controller : Controller) (panel : Link) (id : CompilationId) :
    panel.Sends (removalFrames controller.store id) (controller.remove panel id).2 := by
  rw [removalFrames, remove]
  cases controller.store.remove id.slot with
  | ok store => exact .nil panel
  | error error =>
      dsimp only
      exact sends_sendError panel id _

theorem sends_record (controller : Controller) (panel : Link) (compilation : Compilation) :
    panel.Sends (framesOf (controller.recordNews? compilation).toList)
      (controller.record panel compilation).2 := by
  rcases record_eq controller panel compilation with ⟨graph, hattached, hgraph, heq⟩ | ⟨hor, heq⟩
  · have hnews : controller.recordNews? compilation =
        some (.recordCompilation (.ofSlot controller.store.size) compilation.scripts) := by
      simp [recordNews?, hattached, Compilation.isGraph, hgraph, Except.toBool]
    rw [heq, hnews, Option.toList_some]
    dsimp only
    exact sends_send panel _
  · have hnews : controller.recordNews? compilation = none := by
      rcases hor with h | ⟨error, h⟩ <;>
        simp [recordNews?, Compilation.isGraph, h, Except.toBool]
    rw [heq, hnews]
    exact .nil panel

/-! ## Requests that wait for a reply of the actor -/

/-- The events that tell the panel of the outcome of a connect or disconnect. -/
def outcomeEvents (pending : Pending) (outcome : Except FrontError ActorReply) :
    List PanelEvent :=
  match pending, outcome.bind Front.stateOf with
  | .attach, .ok _ => [.attached]
  | .detach, .ok _ => [.detached, .unregistered]
  | _, .error error => [.error none error.message]

theorem conclude_panel (controller : Controller) (panel : Link) (pending : Pending)
    (outcome : Except FrontError ActorReply) :
    (controller.conclude panel pending outcome).2 =
      (outcomeEvents pending outcome).foldl send panel := by
  rw [conclude.eq_def, outcomeEvents.eq_def]
  cases outcome.bind Front.stateOf <;> cases pending <;>
    simp only [List.foldl_cons, List.foldl_nil, sendError]

theorem sends_conclude (controller : Controller) (panel : Link) (pending : Pending)
    (outcome : Except FrontError ActorReply) :
    panel.Sends (framesOf (outcomeEvents pending outcome))
      (controller.conclude panel pending outcome).2 := by
  rw [conclude_panel]
  exact sends_events panel _

/-- The events that tell the panel at once that a request cannot be made of the actor. -/
def askEvents (runtime : Link) (pending : Pending) : List PanelEvent :=
  match Front.request runtime (requestOf pending) with
  | .ok _ => []
  | .error error => outcomeEvents pending (.error error)

/-- The frames that are sent when a request of the panel is handled. -/
def requestFrames (store : Store) (runtime panel : Link) : PanelRequest → List Frame
  | .connect => framesOf [.registered] ++ framesOf (askEvents runtime .attach)
  | .disconnect => framesOf (askEvents runtime .detach)
  | .selectCompilation id => [selectionFrame store panel id]
  | .removeCompilation id => removalFrames store id
  | .message _ => []

/-- The frames that are sent when a frame of the panel is handled. -/
def handledFrames (store : Store) (runtime panel : Link) (frame : Frame) : List Frame :=
  match Frame.decode PanelRequest.ofJson? frame with
  | .ok request => requestFrames store runtime panel request
  | .error error => framesOf [.error none error.message]

end Controller

namespace ControlDesk

open Controller

theorem sends_ask (controller : Controller) (runtime panel : Link) (pending : Pending) :
    panel.Sends (framesOf (askEvents runtime pending))
      (ask controller runtime panel pending).panel := by
  rw [askEvents, ask]
  cases Front.request runtime (requestOf pending) with
  | ok next => exact .nil panel
  | error error => exact sends_conclude controller panel pending (.error error)

theorem sends_handleFrame (controller : Controller) (runtime panel : Link) (frame : Frame) :
    panel.Sends (handledFrames controller.store runtime panel frame)
      (handleFrame controller runtime panel frame).panel := by
  rw [handledFrames, handleFrame]
  cases Frame.decode PanelRequest.ofJson? frame with
  | error error =>
      dsimp only
      exact sends_send panel (.error none error.message)
  | ok request =>
      cases request with
      | connect =>
          simp only [requestFrames, handle]
          exact (sends_send panel .registered).append (sends_ask controller runtime _ .attach)
      | disconnect => exact sends_ask controller runtime panel .detach
      | selectCompilation id => exact sends_select controller panel id
      | removeCompilation id => exact sends_remove controller panel id
      | message text => exact .nil panel

/-! ## Steps -/

/-- The frames that the controller sends in its next step. -/
def outgoing (desk : ControlDesk) : List Frame :=
  match desk.controller with
  | none => []
  | some controller =>
    match controller.pending, desk.runtime.next .left, desk.panel.next .right with
    | some pending, .frame frame _, _ =>
      framesOf ((controller.front.receive frame).2.toList.flatMap (outcomeEvents pending))
    | some pending, .closed, _ =>
      framesOf (outcomeEvents pending (.error (Front.goneError desk.runtime)))
    | none, _, .frame frame panel => handledFrames controller.store desk.runtime panel frame
    | none, _, .waiting =>
      framesOf ((controller.nextCompilation? desk.runtime).bind controller.recordNews?).toList
    | _, _, _ => []

/-- **Each step sends its outgoing frames**, whatever else becomes of the panel link. -/
theorem sends_step {desk next : ControlDesk} (hstep : desk.step? = some next) :
    ∃ panel : Link, panel.left = desk.panel.left ∧ panel.maxBytes = desk.panel.maxBytes ∧
      panel.Sends desk.outgoing next.panel := by
  rcases desk with ⟨_ | controller, runtime, panel⟩
  · cases hstep
  cases turn_of_step? hstep with
  | @handled frame rest hpending hright =>
      refine ⟨{ panel with right := .live rest }, rfl, rfl, ?_⟩
      have hnext : panel.next .right = .frame frame { panel with right := .live rest } :=
        Link.next_of_frame hright
      rw [outgoing]
      simp only [hpending, hnext]
      exact sends_handleFrame controller runtime _ frame
  | stopped hpending hnext =>
      refine ⟨panel.close .right, rfl, rfl, ?_⟩
      rw [outgoing]
      simp only [hpending, hnext]
      exact .nil _
  | kept hpending hleft hreceive =>
      refine ⟨panel, rfl, rfl, ?_⟩
      have hnext := @Link.next_of_frame runtime .left _ _ hleft
      rw [outgoing]
      simp only [hpending, hnext, hreceive]
      exact .nil panel
  | @concluded pending frame rest front outcome hpending hleft hreceive =>
      refine ⟨panel, rfl, rfl, ?_⟩
      have hnext := @Link.next_of_frame runtime .left _ _ hleft
      rw [outgoing]
      simp only [hpending, hnext, hreceive, Option.toList_some, List.flatMap_singleton]
      exact sends_conclude { controller with front } panel pending outcome
  | @failed pending hpending hgone =>
      refine ⟨panel, rfl, rfl, ?_⟩
      have hnext := @Link.next_of_gone runtime .left hgone
      rw [outgoing]
      simp only [hpending, hnext]
      exact sends_conclude controller panel pending _
  | @caughtUp compilation rest hpending hbacklog hopen hnext =>
      refine ⟨panel, rfl, rfl, ?_⟩
      have htaken := @nextCompilation?_of_backlog controller runtime _ _ hopen hbacklog
      have hsent : outgoing { controller := some controller, runtime, panel } =
          framesOf (controller.recordNews? compilation).toList := by
        simp only [outgoing, hpending, hnext, htaken, Option.bind_some]
      rw [hsent]
      exact sends_record { controller with front := { backlog := rest } } panel compilation
  | @read frame rest next hpending hbacklog hopen hnext hleft heq =>
      refine ⟨panel, rfl, rfl, ?_⟩
      have htaken := nextCompilation?_of_left hopen hbacklog hleft
      rw [outgoing, heq]
      simp only [hpending, hnext, htaken]
      cases Front.compilationOf? frame with
      | none => exact .nil panel
      | some compilation => exact sends_record controller panel compilation
  | ended hpending hbacklog hopen hnext hgone =>
      refine ⟨panel, rfl, rfl, ?_⟩
      have htaken := nextCompilation?_of_gone hopen hbacklog hgone
      rw [outgoing]
      simp only [hpending, hnext, htaken]
      exact .nil panel

/-- In a step the controller posts some of the frames that it sends behind those that wait. -/
theorem exists_sent {desk next : ControlDesk} (hstep : desk.step? = some next)
    (hlive : desk.panel.left.isLive) :
    ∃ sent, sent.Sublist desk.outgoing ∧
      next.panel.queue .left = desk.panel.queue .left ++ sent := by
  obtain ⟨link, hleft, -, hsends⟩ := sends_step hstep
  obtain ⟨sent, hsent, hnext⟩ := hsends.exists_posted
  refine ⟨sent, hsent, ?_⟩
  rw [hnext, Link.queue_posted (hleft ▸ hlive), Link.queue, Link.queue, Link.endpoint,
    Link.endpoint, hleft]

theorem maxBytes_move (desk : ControlDesk) (move : DeskMove) :
    (desk.move move).panel.maxBytes = desk.panel.maxBytes := by
  cases move with
  | panel act => exact Link.maxBytes_act desk.panel .left act
  | actor act => rfl
  | step =>
      rw [ControlDesk.move]
      cases hstep : desk.step? with
      | none => rfl
      | some next =>
          obtain ⟨panel, -, hmax, hsends⟩ := sends_step hstep
          obtain ⟨sent, -, hnext⟩ := hsends.exists_posted
          rw [Option.getD_some, hnext, ← hmax]
          rfl

end ControlDesk

end CompileWatch
