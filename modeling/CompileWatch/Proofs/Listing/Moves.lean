import CompileWatch.Proofs.Correlation.PanelMoves
import CompileWatch.Proofs.Listing.Mirror

/-!
# Moves of a session and the two copies

Every move keeps the mirror up: the user may do anything at the panel but remove a compilation that
is not listed, or remove one while a connect is under way, and every post has to arrive.
-/

namespace CompileWatch

variable {Image : Type}

/-! ## Posts that arrive -/

/-- The request that is posted when the user makes a move at the panel. -/
def Move.request? : Move → Option PanelRequest
  | .call begun => begun.request?
  | .remove id => some (.removeCompilation id)
  | .message text => some (.message text)
  | _ => none

/-- The request that the controller makes of the actor in its next step. -/
def ControlDesk.asked? (desk : ControlDesk) : Option ActorRequest :=
  desk.request?.bind fun
    | .connect => some .attach
    | .disconnect => some .detach
    | _ => none

namespace Session

/-- No post is rejected in a move, for its length or because there is nobody to read it. -/
def accepts (session : Session Image) : Move → Bool
  | .step .panel => true
  | .step .controller =>
    session.controlDesk.outgoing.all (fun frame => (session.panelLink.post .right frame).toBool) &&
      session.controlDesk.asked?.all fun request => (Front.request session.runtime request).toBool
  | .step .actor =>
    session.service.packet?.all fun packet =>
      (session.runtime.post .right (Frame.encode packet.toJson)).toBool
  | move =>
    session.panel.isNone ||
      move.request?.all fun request => (Panel.post session.panelLink request).toBool

/-- A compilation is removed in a move only if it is in the listing. -/
def removesListed (session : Session Image) : Move → Bool
  | .remove id => session.panel.all fun panel => panel.entries.any fun entry => entry.id = id
  | _ => true

/-- A connect is under way. -/
def connecting (session : Session Image) : Bool :=
  connectUnderWay (session.controller.bind Controller.pending) (session.panelLink.queue .right)
    (session.panelLink.queue .left)

/-- A compilation is removed in a move only if no connect is under way. -/
def removesSettled (session : Session Image) : Move → Bool
  | .remove _ => session.panel.isNone || !session.connecting
  | _ => true

/-- After a move there still are different ids for the slots of the store. -/
def numbers (session : Session Image) (move : Move) : Bool :=
  (session.move move).controller.all fun controller => controller.store.size ≤ UInt64.size

end Session

theorem Controller.mem_outcomeEvents_of_news {pending : Pending}
    {outcome : Except FrontError ActorReply} {event : PanelEvent}
    (hnews : outcomeNews? pending outcome = some event) :
    event ∈ outcomeEvents pending outcome := by
  rw [outcomeNews?.eq_def] at hnews
  rw [outcomeEvents.eq_def]
  cases hstate : outcome.bind Front.stateOf with
  | error error => cases pending <;> simp [hstate] at hnews
  | ok state => cases pending <;> simp_all

/-- News are among the frames that a step sends. -/
theorem ControlDesk.mem_outgoing_of_news {desk : ControlDesk} {event : PanelEvent}
    (hnews : desk.news? = some event) : Frame.encode event.toJson ∈ desk.outgoing := by
  rcases desk with ⟨_ | controller, runtime, panel⟩
  · cases hnews
  rw [news?, Option.bind_some] at hnews
  rw [outgoing]
  dsimp only at hnews ⊢
  cases hpending : controller.pending with
  | none =>
      cases hnext : panel.next .right with
      | frame | closed => simp [hpending, hnext] at hnews
      | waiting =>
          simp only [hpending, hnext] at hnews ⊢
          rw [hnews]
          exact List.mem_singleton_self _
  | some pending =>
      cases hleft : runtime.left with
      | dropped => simp [hpending, hleft] at hnews
      | live queue =>
          cases queue with
          | nil => simp [hpending, hleft] at hnews
          | cons frame rest =>
              have hnext := @Link.next_of_frame runtime .left frame rest hleft
              simp only [hpending, hleft] at hnews
              simp only [hnext]
              obtain ⟨outcome, houtcome, hevent⟩ := Option.bind_eq_some_iff.mp hnews
              rw [houtcome, Option.toList_some, List.flatMap_singleton]
              exact List.mem_map_of_mem (Controller.mem_outcomeEvents_of_news hevent)

theorem Session.delivers_of_accepts {session : Session Image}
    (haccepts : session.accepts (.step .controller)) : session.controlDesk.delivers .step := by
  rw [accepts, Bool.and_eq_true, List.all_eq_true] at haccepts
  rw [ControlDesk.delivers]
  cases hnews : session.controlDesk.news? with
  | none => rfl
  | some event => exact haccepts.1 _ (ControlDesk.mem_outgoing_of_news hnews)

/-! ## Posts of the controller that leave the listing alone -/

namespace Link

/-- The second link has at most frames that leave the listing alone behind those at the left end of
the first. -/
structure Spares (panel next : Link) : Prop where
  left : ∃ frames, (∀ frame ∈ frames, (Panel.eventOf frame).changesListing = false) ∧
    next.queue .left = panel.queue .left ++ frames
  right : next.right = panel.right

theorem Spares.refl (panel : Link) : panel.Spares panel :=
  ⟨⟨[], by simp, (List.append_nil _).symm⟩, rfl⟩

theorem Spares.trans {first second third : Link} (hfirst : first.Spares second)
    (hsecond : second.Spares third) : first.Spares third := by
  obtain ⟨frames, hframes, hleft⟩ := hfirst.left
  obtain ⟨further, hfurther, hlater⟩ := hsecond.left
  refine ⟨⟨frames ++ further, ?_, ?_⟩, hsecond.right.trans hfirst.right⟩
  · rw [List.forall_mem_append]
    exact ⟨hframes, hfurther⟩
  · rw [hlater, hleft, List.append_assoc]

theorem Hushed.spares {panel next : Link} (hhushed : panel.Hushed next)
    (hright : next.right = panel.right) : panel.Spares next where
  left := by
    obtain ⟨frames, hframes, hleft⟩ := hhushed
    obtain ⟨sent, hsent, hqueue⟩ := exists_queue_push panel next hleft
    refine ⟨sent, fun frame hframe => ?_, hqueue⟩
    have hsilent := hframes frame (hsent frame hframe)
    rw [Silent] at hsilent
    cases hevent : Panel.eventOf frame <;>
      simp_all [PanelEvent.isNews, PanelEvent.changesListing]
  right := hright

end Link

namespace Controller

theorem right_send (panel : Link) (event : PanelEvent) :
    (send panel event).right = panel.right := by
  rcases send_eq panel event with h | h
  · rw [h]
  · rw [h]
    rfl

theorem spares_send (panel : Link) {event : PanelEvent} (hgraph : event.hasGraph = false)
    (hevent : event.changesListing = false) : panel.Spares (send panel event) := by
  refine ⟨?_, right_send panel event⟩
  rcases send_eq panel event with h | h
  · rw [h]
    exact (Link.Spares.refl panel).left
  · obtain ⟨sent, hsent, hqueue⟩ :=
      Link.exists_queue_push panel (send panel event) (by rw [h, Link.left_posted])
    refine ⟨sent, fun frame hframe => ?_, hqueue⟩
    rw [List.mem_singleton.mp (hsent frame hframe), eventOf_encode hgraph]
    exact hevent

theorem right_conclude (controller : Controller) (panel : Link) (pending : Pending)
    (outcome : Except FrontError ActorReply) :
    (controller.conclude panel pending outcome).2.right = panel.right := by
  obtain ⟨sent, -, hpanel⟩ := (sends_conclude controller panel pending outcome).exists_posted
  rw [hpanel]
  rfl

end Controller

namespace ControlDesk

open Controller

/-- Only a request to connect makes the controller wait for the reply to a connect. -/
theorem connects_of_handleFrame {controller after : Controller} {runtime panel : Link}
    {frame : Frame} (hpending : controller.pending = none)
    (hafter : (handleFrame controller runtime panel frame).controller = some after)
    (hattach : after.pending = some .attach) : frame.request? = some .connect := by
  rw [handleFrame] at hafter
  rw [Frame.request?]
  cases hdecode : Frame.decode PanelRequest.ofJson? frame with
  | error error =>
      simp only [hdecode, Option.some.injEq] at hafter
      rw [← hafter, hpending] at hattach
      cases hattach
  | ok request =>
      simp only [hdecode] at hafter
      cases request with
      | connect => rfl
      | disconnect =>
          rw [handle, ask] at hafter
          cases hrequest : Front.request runtime (requestOf .detach) with
          | ok next =>
              simp only [hrequest, Option.some.injEq] at hafter
              rw [← hafter] at hattach
              cases hattach
          | error error =>
              simp only [hrequest, Option.some.injEq] at hafter
              rw [← hafter] at hattach
              cases hattach
      | selectCompilation id | message text =>
          simp only [handle, Option.some.injEq] at hafter
          rw [← hafter, hpending] at hattach
          cases hattach
      | removeCompilation id =>
          obtain ⟨store, sent, -, -, heq⟩ := remove_eq controller panel id
          simp only [handle, heq, Option.some.injEq] at hafter
          rw [← hafter] at hattach
          simp [hpending] at hattach

theorem spares_handleFrame {controller : Controller} (hpending : controller.pending = none)
    (runtime panel : Link) (frame : Frame) :
    panel.Spares (handleFrame controller runtime panel frame).panel := by
  refine (handled_handleFrame hpending runtime panel frame).hushed.spares ?_
  obtain ⟨sent, -, hpanel⟩ := (sends_handleFrame controller runtime panel frame).exists_posted
  rw [hpanel]
  rfl

end ControlDesk

namespace Mirrored

open Controller ControlDesk

variable {entries : List ListEntry} {desk next : ControlDesk} {controller after : Controller}
  {requests : List Frame}

theorem spared {panel link : Link}
    (hmirrored : Mirrored entries controller requests (panel.queue .left))
    (hspares : panel.Spares link) (hstore : after.store = controller.store)
    (hpending : after.pending = some .attach → controller.pending = some .attach) :
    Mirrored entries after requests (link.queue .left) := by
  obtain ⟨frames, hframes, hleft⟩ := hspares.left
  rw [hleft]
  exact hmirrored.unchanged hframes hstore hpending

/-- A compilation is recorded and announced, or it is ignored. -/
theorem taken {compilation : Compilation} (base : Controller)
    (hmirrored : Mirrored entries base requests (desk.panel.queue .left))
    (hnews : desk.news? = base.recordNews? compilation) (hdelivers : desk.delivers .step)
    (hsize : (base.record desk.panel compilation).1.store.size ≤ UInt64.size) :
    Mirrored entries (base.record desk.panel compilation).1 requests
        ((base.record desk.panel compilation).2.queue .left) ∧
      (base.record desk.panel compilation).2.right = desk.panel.right := by
  rcases record_eq base desk.panel compilation with ⟨graph, hattached, hgraph, heq⟩ | ⟨-, heq⟩
  · rw [heq] at hsize ⊢
    refine ⟨?_, right_send ..⟩
    have hannounced : desk.news? =
        some (.recordCompilation (.ofSlot base.store.size) compilation.scripts) := by
      simp [hnews, recordNews?, hattached, Compilation.isGraph, hgraph, Except.toBool]
    obtain ⟨hsend, hlive⟩ := send_of_delivers hannounced hdelivers
    rw [hsend, Link.queue_posted hlive]
    exact hmirrored.record hgraph hsize
  · rw [heq]
    exact ⟨hmirrored, rfl⟩

/-- A reply begins a session, or the store and the listing stay as they are. -/
theorem concluded {pending : Pending} {outcome : Except FrontError ActorReply} (base : Controller)
    (hmirrored : Mirrored entries base requests (desk.panel.queue .left))
    (hpending : base.pending = some pending) (hnews : desk.news? = outcomeNews? pending outcome)
    (hdelivers : desk.delivers .step) :
    Mirrored entries (base.conclude desk.panel pending outcome).1 requests
      ((base.conclude desk.panel pending outcome).2.queue .left) := by
  have hright := right_conclude base desk.panel pending outcome
  rcases conclude_eq base desk.panel pending outcome with
    ⟨hbegun, heq⟩ | ⟨-, heq⟩ | ⟨-, panel, hhushed, heq⟩
  · obtain ⟨hsend, hlive⟩ := send_of_delivers (hnews.trans hbegun) hdelivers
    have hattach : pending = .attach := by
      cases pending with
      | attach => rfl
      | detach =>
          rw [outcomeNews?.eq_def] at hbegun
          cases houtcome : outcome.bind Front.stateOf <;> simp [houtcome] at hbegun
    rw [heq, hsend, Link.queue_posted hlive]
    exact hmirrored.begin (hattach ▸ hpending)
  · rw [heq]
    have hdetached : desk.panel.Spares (send desk.panel .detached) := spares_send _ rfl rfl
    exact hmirrored.spared (hdetached.trans (spares_send _ rfl rfl)) rfl nofun
  · rw [heq] at hright ⊢
    exact hmirrored.spared (hhushed.spares hright) rfl nofun

/-- **Every step of the controller keeps the mirror up.** -/
theorem step (hmirrored : Mirrored entries controller (desk.panel.queue .right)
      (desk.panel.queue .left))
    (hcontroller : desk.controller = some controller) (hstep : desk.step? = some next)
    (hafter : next.controller = some after) (hdelivers : desk.delivers .step)
    (hsize : after.store.size ≤ UInt64.size) :
    Mirrored entries after (next.panel.queue .right) (next.panel.queue .left) := by
  rcases desk with ⟨_, runtime, panel⟩
  obtain rfl := hcontroller
  have hqueue : ∀ link : Link, link.right = panel.right →
      link.queue .right = panel.queue .right := by
    intro link hright
    rw [Link.queue, Link.queue, Link.endpoint, Link.endpoint, hright]
  cases turn_of_step? hstep with
  | @handled frame rest hpending hright =>
      obtain ⟨awaited, hnext⟩ :=
        controller_handleFrame controller runtime { panel with right := .live rest } frame
      have hconnects := connects_of_handleFrame hpending hnext
      have hspares := spares_handleFrame hpending runtime { panel with right := .live rest } frame
      obtain rfl := Option.some.inj (hnext.symm.trans hafter)
      have hrequests : panel.queue .right = frame :: rest := Link.queue_of_live hright
      have hrest := @Link.queue_of_live _ .right rest hspares.right
      dsimp only at hmirrored
      rw [hrequests] at hmirrored
      rw [hrest]
      have htaken := hmirrored.takeUp hconnects
      exact @spared _ _ _ _ { panel with right := .live rest } _ htaken hspares rfl id
  | stopped => cases hafter
  | kept =>
      obtain rfl := Option.some.inj hafter
      exact hmirrored.spared (.refl panel) rfl id
  | @concluded pending frame rest front outcome hpending hleft hreceive =>
      obtain rfl := Option.some.inj hafter
      have hnews := @news?_of_reply _ _ panel _ _ _ _ _ hpending hleft hreceive
      have hbase : Mirrored entries { controller with front } (panel.queue .right)
          (panel.queue .left) := hmirrored.spared (.refl panel) rfl id
      dsimp only
      rw [hqueue _ (right_conclude ..)]
      exact concluded { controller with front } hbase hpending hnews hdelivers
  | @failed pending hpending hgone =>
      obtain rfl := Option.some.inj hafter
      have hnews := @news?_of_gone _ _ panel _ hpending hgone
      dsimp only
      rw [hqueue _ (right_conclude ..)]
      exact concluded controller hmirrored hpending hnews hdelivers
  | @caughtUp compilation rest hpending hbacklog hopen hnext =>
      obtain rfl := Option.some.inj hafter
      have htaken : ControlDesk.nextCompilation? { controller := some controller, runtime, panel } =
          some compilation :=
        (nextCompilation?_of_waiting hpending hnext).trans
          (nextCompilation?_of_backlog hopen hbacklog)
      have hbase : Mirrored entries { controller with front := { backlog := rest } }
          (panel.queue .right) (panel.queue .left) := hmirrored.spared (.refl panel) rfl id
      have hnews := news?_of_taken rfl htaken
      obtain ⟨hrecorded, hright⟩ := taken { controller with front := { backlog := rest } } hbase
        hnews hdelivers hsize
      dsimp only
      rw [hqueue _ hright]
      exact hrecorded
  | @read frame rest next hpending hbacklog hopen hnext hleft heq =>
      obtain rfl := Option.some.inj hafter
      have htaken : ControlDesk.nextCompilation? { controller := some controller, runtime, panel } =
          Front.compilationOf? frame :=
        (nextCompilation?_of_waiting hpending hnext).trans
          (nextCompilation?_of_left hopen hbacklog hleft)
      cases hcompilation : Front.compilationOf? frame with
      | none =>
          rw [hcompilation, Option.map_none, Option.getD_none] at heq
          obtain rfl := heq
          exact hmirrored
      | some compilation =>
          rw [hcompilation, Option.map_some, Option.getD_some] at heq
          obtain rfl := heq
          have hnews := news?_of_taken rfl (htaken.trans hcompilation)
          obtain ⟨hrecorded, hright⟩ := taken controller hmirrored hnews hdelivers hsize
          dsimp only
          rw [hqueue _ hright]
          exact hrecorded
  | ended =>
      obtain rfl := Option.some.inj hafter
      exact hmirrored.spared (.refl panel) rfl id

end Mirrored

/-! ## Posts of the panel -/

theorem Panel.queue_post {link next : Link} {request : PanelRequest}
    (hpost : Panel.post link request = .ok next) :
    next.queue .right = link.queue .right ++ [Frame.encode request.toJson] ∧
      next.queue .left = link.queue .left := by
  obtain ⟨queue, hright, rfl⟩ := Panel.eq_of_post hpost
  rw [@Link.queue_of_live link .right queue hright]
  exact ⟨rfl, rfl⟩

/-- No operation begins with a removal. -/
theorem Panel.Call.keeps {call : Panel.Call} {request : PanelRequest}
    (hrequest : call.request? = some request) : request.removed? = none := by
  cases call with
  | event => cases hrequest
  | connect | disconnect | select =>
      obtain rfl := Option.some.inj hrequest
      rfl

theorem Mirrored.posted {entries : List ListEntry} {controller : Controller} {link next : Link}
    (hmirrored : Mirrored entries controller (link.queue .right) (link.queue .left))
    {request : PanelRequest} (hkeeps : request.removed? = none)
    (hpost : Panel.post link request = .ok next) :
    Mirrored entries controller (next.queue .right) (next.queue .left) := by
  obtain ⟨hright, hleft⟩ := Panel.queue_post hpost
  rw [hright, hleft]
  exact hmirrored.post hkeeps

/-! ## Moves of a session -/

/-- The listing of the panel mirrors the store, as long as there are a panel and a controller. -/
def Session.Listed (session : Session Image) : Prop :=
  ∀ (panel : Panel Image) (controller : Controller), session.panel = some panel →
    session.controller = some controller →
      Mirrored panel.entries controller (session.panelLink.queue .right)
        (session.panelLink.queue .left)

namespace Session.Listed

variable {session next : Session Image}

/-- What happens at the runtime link does not matter. -/
theorem congr (hlisted : session.Listed) (hpanel : next.panel = session.panel)
    (hcontroller : next.controller = session.controller)
    (hlink : next.panelLink = session.panelLink) : next.Listed := by
  intro panel controller hpresent hcontrols
  rw [hlink]
  exact hlisted panel controller (hpanel ▸ hpresent) (hcontroller ▸ hcontrols)

/-- A change at the panel, if it keeps the mirror up. -/
theorem onPanel (hlisted : session.Listed) (change : PanelDesk Image → PanelDesk Image)
    (hchange : ∀ (panel : Panel Image) (controller : Controller), session.panel = some panel →
      session.controller = some controller →
      Mirrored panel.entries controller (session.panelLink.queue .right)
        (session.panelLink.queue .left) →
      ∀ desk, desk = change { panel, link := session.panelLink, call := session.call } →
        Mirrored desk.panel.entries controller (desk.link.queue .right) (desk.link.queue .left)) :
    (session.onPanel change).Listed := by
  cases hpresent : session.panel with
  | none =>
      have hsame : session.onPanel change = session := by
        simp [Session.onPanel, panelDesk?, hpresent]
      rw [hsame]
      exact hlisted
  | some panel =>
      rw [onPanel_eq hpresent]
      intro after controller hafter hcontrols
      obtain rfl := Option.some.inj hafter
      have hmirrored := hlisted panel controller hpresent hcontrols
      exact hchange panel controller hpresent hcontrols hmirrored _ rfl

theorem call (hlisted : session.Listed) (call : Panel.Call) :
    (session.move (.call call)).Listed := by
  refine hlisted.onPanel (fun desk => desk.start call) ?_
  rintro panel controller - - hmirrored _ rfl
  rw [PanelDesk.start]
  cases hrequest : call.request? with
  | none => exact hmirrored
  | some request =>
      cases hpost : Panel.post session.panelLink request with
      | error error => simpa [hpost] using hmirrored
      | ok link => simpa [hpost] using hmirrored.posted (Panel.Call.keeps hrequest) hpost

theorem message (hlisted : session.Listed) (text : String) :
    (session.move (.message text)).Listed := by
  refine hlisted.onPanel (fun desk => (desk.message text).1) ?_
  rintro panel controller - - hmirrored _ rfl
  rw [PanelDesk.message]
  cases hpost : Panel.post session.panelLink (.message text) with
  | error error => simpa [hpost] using hmirrored
  | ok link => simpa [hpost] using hmirrored.posted rfl hpost

theorem remove (hlisted : session.Listed) {id : CompilationId}
    (haccepts : session.accepts (.remove id)) (hin : session.removesListed (.remove id))
    (hsettled : session.removesSettled (.remove id)) : (session.move (.remove id)).Listed := by
  refine hlisted.onPanel (fun desk => (desk.remove id).1) ?_
  rintro panel controller hpanel hcontroller hmirrored _ rfl
  have hentry : ∃ entry ∈ panel.entries, entry.id = id := by
    simpa [removesListed, hpanel] using hin
  have hquiet : connectUnderWay controller.pending (session.panelLink.queue .right)
      (session.panelLink.queue .left) = false := by
    simpa [removesSettled, hpanel, connecting, hcontroller] using hsettled
  rw [PanelDesk.remove]
  cases hpost : Panel.post session.panelLink (.removeCompilation id) with
  | error error => simp [accepts, hpanel, Move.request?, hpost, Except.toBool] at haccepts
  | ok link =>
      obtain ⟨hright, hleft⟩ := Panel.queue_post hpost
      simp only [Panel.entries_forget, hright, hleft]
      exact hmirrored.remove hentry hquiet

theorem stepPanel (hlisted : session.Listed) : (session.move (.step .panel)).Listed := by
  rcases session.stepPanel_cases with hsame | ⟨error, hended⟩ |
    ⟨panel, call, frame, rest, hpanel, hcall, hleft, hread⟩
  · rw [hsame]
    exact hlisted
  · rw [hended]
    exact hlisted.congr rfl rfl rfl
  · rw [hread]
    intro after controller hafter hcontroller
    obtain rfl := Option.some.inj hafter
    have hmirrored := hlisted panel controller hpanel hcontroller
    have hqueue : session.panelLink.queue .left = frame :: rest := Link.queue_of_live hleft
    rw [hqueue] at hmirrored
    rw [PanelDesk.read, Panel.entries_receive]
    exact hmirrored.read

theorem stepController (hlisted : session.Listed) (haccepts : session.accepts (.step .controller))
    (hnumbers : session.numbers (.step .controller)) :
    (session.move (.step .controller)).Listed := by
  cases hstep : session.controlDesk.step? with
  | none =>
      have hsame : session.move (.step .controller) = session := by
        simp [Session.move, step?, hstep]
      rw [hsame]
      exact hlisted
  | some next =>
      have hmove : session.move (.step .controller) = session.withControlDesk next := by
        simp [Session.move, step?, hstep]
      rw [numbers, hmove] at hnumbers
      rw [hmove]
      intro panel after hpanel hafter
      obtain ⟨controller, hcontroller⟩ : ∃ controller, session.controller = some controller := by
        cases hcontroller : session.controller with
        | some controller => exact ⟨controller, rfl⟩
        | none => simp [ControlDesk.step?, controlDesk, hcontroller] at hstep
      have hafter' : next.controller = some after := hafter
      have hsize : after.store.size ≤ UInt64.size := by
        simpa [withControlDesk, hafter'] using hnumbers
      exact Mirrored.step (hlisted panel controller hpanel hcontroller) hcontroller hstep hafter
        (delivers_of_accepts haccepts) hsize

/-- **Every move keeps the mirror up** if it removes only what is listed, and that only while no
connect is under way. -/
theorem move (hlisted : session.Listed) (move : Move) (haccepts : session.accepts move)
    (hin : session.removesListed move) (hsettled : session.removesSettled move)
    (hnumbers : session.numbers move) : (session.move move).Listed := by
  cases move with
  | compile compilation => exact hlisted.congr rfl rfl rfl
  | call call => exact hlisted.call call
  | clearCall =>
      refine hlisted.onPanel PanelDesk.clearCall ?_
      rintro panel controller - - hmirrored _ rfl
      exact hmirrored
  | setMode mode =>
      refine hlisted.onPanel (fun desk => desk.setMode mode) ?_
      rintro panel controller - - hmirrored _ rfl
      simpa only [PanelDesk.setMode, Panel.entries_setMode] using hmirrored
  | remove id => exact hlisted.remove haccepts hin hsettled
  | message text => exact hlisted.message text
  | stopActor =>
      rw [Session.move]
      split
      · exact hlisted.congr rfl rfl rfl
      · exact hlisted
  | stopController =>
      rw [Session.move]
      split
      · intro panel controller _ hcontroller
        cases hcontroller
      · exact hlisted
  | closePanel =>
      intro panel controller hpanel
      cases hpanel
  | step party =>
      cases party with
      | panel => exact hlisted.stepPanel
      | controller => exact hlisted.stepController haccepts hnumbers
      | actor =>
          rw [Session.move, step?]
          cases session.service.step? with
          | none => exact hlisted
          | some service => exact hlisted.congr rfl rfl rfl

end Session.Listed

end CompileWatch
