import CompileWatch.Proofs.Correlation.Phase

/-!
# The controller in an orderly run

The controller takes up a request only when it has answered the one before, and all that
it posts meanwhile carries the number of that request.
-/

namespace CompileWatch

variable {Image : Type}

/-- The frames and the store that move in a step of the controller. -/
structure Transfer where
  /-- The requests that are left at the panel link. -/
  left : List Frame
  /-- The events that are posted. -/
  sent : List Frame := []
  /-- The requests that were posted to the actor before. -/
  waiting : List Frame
  asked : List Frame := []
  /-- The frames of the actor that are left. -/
  replies : List Frame
  /-- The store that the controller has when it takes up a request. -/
  taken : List Store := []
  /-- The request that is handled. -/
  handled : Option Nat

/-- The step takes the controller and its links from what was observed to the next state. -/
structure Transfer.Leads (transfer : Transfer) (traced : Traced Image) (requests : List Frame)
    (inbox : List (Frame × Option Nat)) (next : ControlDesk) (after : Controller) : Prop where
  step : traced.session.controlDesk.step? = some next
  present : next.controller = some after
  taken : (traced.session.request?.bind fun _ =>
    traced.session.controller.map Controller.store).toList = transfer.taken
  handled : traced.handled? = transfer.handled
  right : next.panel.right = .live transfer.left
  left : next.panel.left = .live (inbox.map Prod.fst ++ transfer.sent)
  waiting : traced.session.runtime.right = .live transfer.waiting
  asks : next.runtime.right = .live (transfer.waiting ++ transfer.asked)
  replies : next.runtime.left = .live transfer.replies
  count : transfer.taken.length + transfer.left.length = requests.length
  /-- Only the request that is taken up is passed on to the actor. -/
  asked : transfer.asked = [] ∨ transfer.handled = some traced.stores.length
  errand : Errand ((traced.stores ++ transfer.taken).length - 1) traced.switches after.pending
    (traced.asked ++ List.replicate transfer.asked.length transfer.handled)
    (transfer.waiting ++ transfer.asked) transfer.replies
  phase : Phase (traced.stores ++ transfer.taken) traced.switches traced.own traced.session.call
    after.pending transfer.left (inbox ++ Phase.row transfer.sent transfer.handled)

namespace Correlated

variable {traced : Traced Image} {controller : Controller} {requests : List Frame}
  {inbox : List (Frame × Option Nat)}

/-- While the controller waits for nothing, there is nothing but reports on the runtime link. -/
theorem quiet (hcorrelated : Correlated traced controller requests inbox)
    (hpending : controller.pending = none) :
    traced.asked = [] ∧ traced.session.runtime.right = .live [] ∧
      ∃ reports : List Compilation,
        traced.session.runtime.left = .live (reports.map Progress.frameOf) := by
  obtain ⟨waiting, replies, hwaiting, hreplies, herrand⟩ := hcorrelated.errand
  rw [hpending] at herrand
  obtain ⟨hasked, rfl, reports, rfl⟩ := herrand.of_none
  exact ⟨hasked, hwaiting, reports, hreplies⟩

theorem control (hcorrelated : Correlated traced controller requests inbox) {transfer : Transfer}
    {next : ControlDesk} {after : Controller}
    (hleads : transfer.Leads traced requests inbox next after) :
    Correlated (traced.move (.step .controller)) after transfer.left
      (inbox ++ Phase.row transfer.sent transfer.handled) := by
  have hnext : traced.session.move (.step .controller) = traced.session.withControlDesk next := by
    simp [Session.move, Session.step?, hleads.step]
  have hmove : traced.move (.step .controller) =
      { traced with
        session := traced.session.withControlDesk next
        stores := traced.stores ++ transfer.taken
        asked := traced.asked ++ List.replicate transfer.asked.length transfer.handled
        origins := traced.origins ++ List.replicate transfer.sent.length transfer.handled } := by
    rw [Traced.move, hnext, Traced.controller, hleads.taken, hleads.handled]
    simp [Session.withControlDesk, Link.queue, Link.endpoint, hleads.waiting, hleads.asks,
      hleads.left, hcorrelated.left, Endpoint.queue]
  have hgrown : (traced.stores ++ transfer.taken).length =
      traced.stores.length + transfer.taken.length := List.length_append
  rw [hmove]
  constructor
  case panel => exact hcorrelated.panel
  case actor => exact hcorrelated.actor
  case present => exact hleads.present
  case right => exact hleads.right
  case left =>
    rw [List.map_append, Phase.map_fst_row]
    exact hleads.left
  case origins =>
    rw [List.map_append, Phase.map_snd_row, hcorrelated.origins]
  case posted =>
    have hcounted := hcorrelated.posted
    have hcount := hleads.count
    simp only [hgrown]
    omega
  case errand => exact ⟨_, _, hleads.asks, hleads.replies, hleads.errand⟩
  case phase => exact hleads.phase
  case switches =>
    intro number state hswitch
    have hnumber := hcorrelated.switches number state hswitch
    simp only [hgrown]
    omega
  case older =>
    intro ending hending
    obtain ⟨holder, hbefore⟩ := hcorrelated.older ending hending
    refine ⟨?_, ?_⟩
    · simp only [hgrown]
      omega
    · intro number hnumber
      rcases List.mem_append.mp hnumber with hnumber | hnumber
      · exact hbefore number hnumber
      · obtain ⟨hne, heq⟩ := List.mem_replicate.mp hnumber
        rcases hleads.asked with hnothing | hhandling
        · rw [hnothing] at hne
          exact absurd rfl hne
        · obtain rfl := Option.some.inj (heq.trans hhandling)
          exact holder
  case correct =>
    intro ending hending
    exact (hcorrelated.correct ending hending).mono (hcorrelated.older ending hending).1
      fun _ => Iff.rfl

/-- A step in which no request is taken up and nothing is posted but what passes. -/
theorem control_passes (hcorrelated : Correlated traced controller requests inbox)
    {next : ControlDesk} (hstep : traced.session.controlDesk.step? = some next) {after : Controller}
    (hafter : next.controller = some after) (hrequest : traced.session.request? = none)
    (hpasses : traced.session.panelLink.Passes next.panel)
    (hpending : after.pending = controller.pending) {waiting replies : List Frame}
    (hwaiting : traced.session.runtime.right = .live waiting)
    (hright : next.runtime.right = .live waiting) (hreplies : next.runtime.left = .live replies)
    (herrand : Errand (traced.stores.length - 1) traced.switches controller.pending traced.asked
      waiting replies) :
    ∃ inbox, Correlated (traced.move (.step .controller)) after requests inbox := by
  obtain ⟨frames, hframes, hpanel⟩ := hpasses
  let transfer : Transfer :=
    { left := requests, sent := frames, waiting, replies, handled := traced.handled? }
  have hleads : transfer.Leads traced requests inbox next after := by
    constructor
    case step => exact hstep
    case present => exact hafter
    case taken => simp [transfer, hrequest]
    case handled => rfl
    case right =>
      rw [hpanel]
      exact hcorrelated.right
    case left =>
      rw [hpanel, Link.left_posted, hcorrelated.left]
      rfl
    case waiting => exact hwaiting
    case asks => rw [hright, List.append_nil]
    case replies => exact hreplies
    case count => exact Nat.zero_add _
    case asked => exact .inl rfl
    case errand => simpa [transfer, hpending] using herrand
    case phase =>
      rw [hpending, List.append_nil]
      exact hcorrelated.phase.passes hframes _
  exact ⟨_, hcorrelated.control hleads⟩

/-- A request that begins no operation is handled. -/
theorem control_background (hcorrelated : Correlated traced controller requests inbox)
    {frame : Frame} {rest : List Frame} (hrequests : requests = frame :: rest)
    (hpending : controller.pending = none) (hframe : Background frame)
    (hremoves : traced.session.removes (.step .controller))
    (hstep : traced.session.controlDesk.step? = some (ControlDesk.handleFrame controller
      traced.session.runtime { traced.session.panelLink with right := .live rest } frame))
    (hphase : ∀ store, Phase (traced.stores ++ [store]) traced.switches traced.own
      traced.session.call none rest inbox) :
    ∃ after, Correlated (traced.move (.step .controller)) after rest inbox := by
  have hright := hcorrelated.right
  rw [hrequests] at hright
  have hrequest : traced.session.request? = some frame := by
    simp [Session.request?, hcorrelated.present, hpending, Link.next, Link.endpoint, hright]
  have hgranted : ∀ id, Frame.decode PanelRequest.ofJson? frame = .ok (.removeCompilation id) →
      (controller.store.remove id.slot).toBool := by
    intro id hdecode
    simpa [Session.removes, hcorrelated.present, hrequest, hdecode] using hremoves
  obtain ⟨store, hhandle⟩ := ControlDesk.handleFrame_background controller traced.session.runtime
    { traced.session.panelLink with right := .live rest } hframe hgranted
  rw [hhandle] at hstep
  obtain ⟨hasked, hwaiting, reports, hreplies⟩ := hcorrelated.quiet hpending
  let transfer : Transfer :=
    { left := rest
      waiting := []
      replies := reports.map Progress.frameOf
      taken := [controller.store]
      handled := traced.handled? }
  have hleads : transfer.Leads traced requests inbox
      { controller := some { controller with store }
        runtime := traced.session.runtime
        panel := { traced.session.panelLink with right := .live rest } }
      { controller with store } := by
    constructor
    case step => exact hstep
    case present => rfl
    case taken => simp [transfer, hrequest, hcorrelated.present]
    case handled => rfl
    case right => rfl
    case left =>
      rw [List.append_nil]
      exact hcorrelated.left
    case waiting => exact hwaiting
    case asks => exact hwaiting
    case replies => exact hreplies
    case count =>
      rw [hrequests]
      exact Nat.add_comm _ _
    case asked => exact .inl rfl
    case errand =>
      simp only [transfer, hasked, List.length_nil, List.replicate_zero, List.append_nil, hpending]
      exact .quiet reports
    case phase =>
      simp only [transfer, Phase.row, List.map_nil, List.append_nil, hpending]
      exact hphase controller.store
  have hcontrol := hcorrelated.control hleads
  simp only [transfer, Phase.row, List.map_nil, List.append_nil] at hcontrol
  exact ⟨_, hcontrol⟩

/-- The request of the operation is taken up. -/
structure TakesUp (traced : Traced Image) (controller : Controller) (call : Panel.Call)
    (request : PanelRequest) (inbox : List (Frame × Option Nat)) : Prop where
  correlated : Correlated traced controller [Frame.encode request.toJson] inbox
  waiting : traced.session.call = .waiting call
  begins : call.request? = some request
  own : traced.own = traced.stores.length
  passing : ∀ entry ∈ inbox, Passing entry.1
  pending : controller.pending = none

theorem TakesUp.request? {call : Panel.Call} {request : PanelRequest}
    (htakes : TakesUp traced controller call request inbox) :
    traced.session.request? = some (Frame.encode request.toJson) := by
  have hright := htakes.correlated.right
  simp [Session.request?, htakes.correlated.present, htakes.pending, Link.next, Link.endpoint,
    hright]

theorem TakesUp.handled? {call : Panel.Call} {request : PanelRequest}
    (htakes : TakesUp traced controller call request inbox) :
    traced.handled? = some traced.own := by
  simp [Traced.handled?, htakes.correlated.present, htakes.pending, htakes.request?, htakes.own]

/-- The controller answers the request at once. -/
theorem TakesUp.answered {call : Panel.Call} {request : PanelRequest}
    (htakes : TakesUp traced controller call request inbox) {answer : Frame → Prop}
    {after : Controller} {next : Link}
    (hstep : traced.session.controlDesk.step? =
      some { controller := some after, runtime := traced.session.runtime, panel := next })
    (hpending : after.pending = none)
    (hanswers : { traced.session.panelLink with right := .live [] }.Answers answer next)
    (hright : ∀ frame, answer frame → RightAnswer (traced.stores ++ [controller.store])
      traced.switches traced.own call frame) :
    ∃ inbox, Correlated (traced.move (.step .controller)) after [] inbox := by
  have hcorrelated := htakes.correlated
  obtain ⟨hasked, hwaiting, reports, hreplies⟩ := hcorrelated.quiet htakes.pending
  have hgrown : traced.own + 1 = (traced.stores ++ [controller.store]).length := by
    rw [htakes.own, List.length_append, List.length_singleton]
  obtain ⟨frames, rfl, hphase⟩ := Phase.of_answers (by rw [htakes.begins]; rfl) hgrown
    htakes.passing hanswers hright
  let transfer : Transfer :=
    { left := []
      sent := frames
      waiting := []
      replies := reports.map Progress.frameOf
      taken := [controller.store]
      handled := some traced.own }
  have hleads : transfer.Leads traced [Frame.encode request.toJson] inbox
      { controller := some after
        runtime := traced.session.runtime
        panel := { traced.session.panelLink with right := .live [] }.posted frames } after := by
    constructor
    case step => exact hstep
    case present => rfl
    case taken => simp [transfer, htakes.request?, hcorrelated.present]
    case handled => exact htakes.handled?
    case right => rfl
    case left =>
      rw [Link.left_posted, hcorrelated.left]
      rfl
    case waiting => exact hwaiting
    case asks => exact hwaiting
    case replies => exact hreplies
    case count => rfl
    case asked => exact .inl rfl
    case errand =>
      simp only [transfer, hasked, List.length_nil, List.replicate_zero, List.append_nil, hpending]
      exact .quiet reports
    case phase =>
      rw [htakes.waiting, hpending]
      exact hphase
  exact ⟨_, hcorrelated.control hleads⟩

/-- The controller asks the actor, or says at once that it cannot. -/
theorem TakesUp.asked {pending : Pending} {request : PanelRequest}
    (htakes : TakesUp traced controller pending.call request inbox) {opening : Link}
    (hopening : { traced.session.panelLink with right := .live [] }.Passes opening)
    (hstep : traced.session.controlDesk.step? =
      some (ControlDesk.ask controller traced.session.runtime opening pending)) :
    ∃ after inbox, Correlated (traced.move (.step .controller)) after [] inbox := by
  have hcorrelated := htakes.correlated
  obtain ⟨hasked, hwaiting, reports, hreplies⟩ := hcorrelated.quiet htakes.pending
  have hnone : ∀ state, (some traced.own, state) ∉ traced.switches := by
    intro state hswitch
    have hlt := hcorrelated.switches traced.own state hswitch
    rw [htakes.own] at hlt
    exact Nat.lt_irrefl _ hlt
  rcases ControlDesk.answers_ask controller traced.session.runtime opening pending with
    ⟨queue, hqueue, hask⟩ | ⟨next, hanswers, hask⟩
  · obtain rfl := Endpoint.live.inj (hwaiting.symm.trans hqueue)
    rw [hask] at hstep
    obtain ⟨frames, hframes, rfl⟩ := hopening
    let transfer : Transfer :=
      { left := []
        sent := frames
        waiting := []
        asked := [Frame.encode (Controller.requestOf pending).toJson]
        replies := reports.map Progress.frameOf
        taken := [controller.store]
        handled := some traced.own }
    have hleads : transfer.Leads traced [Frame.encode request.toJson] inbox
        { controller := some { controller with pending := some pending }
          runtime := { traced.session.runtime with
            right := .live [Frame.encode (Controller.requestOf pending).toJson] }
          panel := { traced.session.panelLink with right := .live [] }.posted frames }
        { controller with pending := some pending } := by
      constructor
      case step => exact hstep
      case present => rfl
      case taken => simp [transfer, htakes.request?, hcorrelated.present]
      case handled => exact htakes.handled?
      case right => rfl
      case left =>
        rw [Link.left_posted, hcorrelated.left]
        rfl
      case waiting => exact hwaiting
      case asks => rfl
      case replies => exact hreplies
      case count => rfl
      case asked =>
        rw [← htakes.own]
        exact .inr rfl
      case errand =>
        have hnumber : (traced.stores ++ [controller.store]).length - 1 = traced.own := by
          rw [htakes.own, List.length_append, List.length_singleton, Nat.add_sub_cancel]
        simp only [transfer, hnumber, hasked]
        exact .asked reports hnone
      case phase =>
        rw [htakes.waiting]
        refine .serving ?_ (Phase.passing_append htakes.passing hframes _)
        rw [htakes.own, List.length_append, List.length_singleton]
    exact ⟨_, _, hcorrelated.control hleads⟩
  · rw [hask] at hstep
    refine ⟨_, htakes.answered hstep rfl (hopening.answers hanswers) ?_⟩
    intro frame hfails
    rw [rightAnswer_call]
    exact .inr ⟨hnone _, hfails⟩

theorem TakesUp.step {call : Panel.Call} {request : PanelRequest}
    (htakes : TakesUp traced controller call request inbox)
    (hstep : traced.session.controlDesk.step? = some (ControlDesk.handleFrame controller
      traced.session.runtime { traced.session.panelLink with right := .live [] }
      (Frame.encode request.toJson))) :
    ∃ after inbox, Correlated (traced.move (.step .controller)) after [] inbox := by
  have hbegins := htakes.begins
  rw [ControlDesk.handleFrame, PanelRequest.decode_encode] at hstep
  cases call with
  | event => cases hbegins
  | connect =>
      obtain rfl := Option.some.inj hbegins
      exact @TakesUp.asked _ _ _ _ .attach _ htakes _ (Controller.passes_send _ rfl rfl) hstep
  | disconnect =>
      obtain rfl := Option.some.inj hbegins
      exact @TakesUp.asked _ _ _ _ .detach _ htakes _ (.refl _) hstep
  | select id =>
      obtain rfl := Option.some.inj hbegins
      refine ⟨controller, htakes.answered hstep htakes.pending
        (Controller.answers_select controller _ id) ?_⟩
      intro frame hshows
      refine ⟨controller.store, ?_, hshows⟩
      rw [htakes.own]
      simp

/-- The reply of the actor ends the errand, and the panel has its answer. -/
theorem control_concluded (hcorrelated : Correlated traced controller requests inbox)
    {request : Pending} (hpending : controller.pending = some request) {frame : Frame}
    {rest : List Frame} (hleft : traced.session.runtime.left = .live (frame :: rest))
    {front : Front} {outcome : Except FrontError ActorReply}
    (hreceive : controller.front.receive frame = (front, some outcome))
    (hstep : traced.session.controlDesk.step? = some
      { controller :=
          some ({ controller with front }.conclude traced.session.panelLink request outcome).1
        runtime := { traced.session.runtime with left := .live rest }
        panel := ({ controller with front }.conclude traced.session.panelLink request outcome).2 }) :
    ∃ after inbox, Correlated (traced.move (.step .controller)) after requests inbox := by
  obtain ⟨waiting, replies, hwaiting, hreplies, herrand⟩ := hcorrelated.errand
  obtain rfl := Endpoint.live.inj (hleft.symm.trans hreplies)
  have hphase := hcorrelated.phase
  rw [hpending] at herrand hphase
  rcases herrand.first with ⟨compilation, rfl, -⟩ |
    ⟨verdict, later, hasked, rfl, rfl, rfl, hverdict⟩
  · rw [Front.receive_report] at hreceive
    cases hreceive
  rw [Front.receive_verdict] at hreceive
  obtain ⟨rfl, houtcome⟩ := Prod.mk.inj hreceive
  obtain rfl := Option.some.inj houtcome
  obtain ⟨after, next, hconclude, hidle, hanswers⟩ :=
    Controller.answers_conclude controller traced.session.panelLink request verdict
  rw [hconclude] at hstep
  generalize hcall : traced.session.call = call at hphase
  cases hphase with
  | serving hown hpassing =>
      have hrequest : traced.session.request? = none := by
        simp [Session.request?, hcorrelated.present, hpending]
      have hhandled : traced.handled? = some traced.own := by
        simp [Traced.handled?, hcorrelated.present, hpending, ← hown]
      obtain ⟨frames, rfl, hanswered⟩ := @Phase.of_answers traced.stores traced.switches traced.own
        _ request.call _ _ _ (by cases request <;> rfl) hown hpassing hanswers (by
          intro frame hsettles
          rw [rightAnswer_call]
          simpa [hverdict, ← hown] using hsettles)
      let transfer : Transfer :=
        { left := []
          sent := frames
          waiting := []
          replies := later.map Progress.frameOf
          handled := some traced.own }
      have hleads : transfer.Leads traced [] inbox
          { controller := some after
            runtime := { traced.session.runtime with left := .live (later.map Progress.frameOf) }
            panel := traced.session.panelLink.posted frames } after := by
        constructor
        case step => exact hstep
        case present => rfl
        case taken => simp [transfer, hrequest]
        case handled => exact hhandled
        case right => exact hcorrelated.right
        case left =>
          rw [Link.left_posted, hcorrelated.left]
          rfl
        case waiting => exact hwaiting
        case asks => exact hwaiting
        case replies => rfl
        case count => rfl
        case asked => exact .inl rfl
        case errand =>
          simp only [transfer, hasked, hidle, List.length_nil, List.replicate_zero,
            List.append_nil]
          exact .quiet later
        case phase =>
          rw [hcall, hidle, List.append_nil]
          exact hanswered
      exact ⟨_, _, hcorrelated.control hleads⟩

theorem control_handled (hcorrelated : Correlated traced controller requests inbox)
    (hpending : controller.pending = none) {frame : Frame} {rest : List Frame}
    (hright : traced.session.panelLink.right = .live (frame :: rest))
    (hremoves : traced.session.removes (.step .controller))
    (hstep : traced.session.controlDesk.step? = some (ControlDesk.handleFrame controller
      traced.session.runtime { traced.session.panelLink with right := .live rest } frame)) :
    ∃ after requests inbox, Correlated (traced.move (.step .controller)) after requests inbox := by
  obtain rfl := Endpoint.live.inj (hcorrelated.right.symm.trans hright)
  have hphase := hcorrelated.phase
  rw [hpending] at hphase
  generalize hcall : traced.session.call = state at hphase
  generalize hrequests : frame :: rest = left at hphase
  cases hphase with
  | free hidle hbackground hpassing =>
      rw [← hrequests, List.forall_mem_cons] at hbackground
      obtain ⟨after, hcorrelated⟩ := hcorrelated.control_background rfl hpending hbackground.1
        hremoves hstep fun store => by
          rw [hcall]
          exact .free hidle hbackground.2 hpassing
      exact ⟨after, rest, inbox, hcorrelated⟩
  | @posted call request before _ hrequest hown hbefore hpassing =>
      cases before with
      | cons first before =>
          obtain ⟨rfl, rfl⟩ := List.cons.inj hrequests
          rw [List.forall_mem_cons] at hbefore
          obtain ⟨after, hcorrelated⟩ := hcorrelated.control_background rfl hpending hbefore.1
            hremoves hstep fun store => by
              rw [hcall]
              refine .posted hrequest ?_ hbefore.2 hpassing
              rw [hown, List.length_append, List.length_cons, List.length_singleton]
              omega
          exact ⟨after, _, inbox, hcorrelated⟩
      | nil =>
          -- the request of the operation is at the head of the queue
          obtain ⟨rfl, rfl⟩ := List.cons.inj hrequests
          have htakes : TakesUp traced controller call request inbox :=
            ⟨hcorrelated, hcall, hrequest, hown, hpassing, hpending⟩
          obtain ⟨after, inbox, hcorrelated⟩ := htakes.step hstep
          exact ⟨after, [], inbox, hcorrelated⟩
  | answered => cases hrequests
  | unanswered => cases hrequests

theorem controller_blocked (hcorrelated : Correlated traced controller requests inbox)
    (hstep : traced.session.controlDesk.step? = none) :
    traced.move (.step .controller) = traced := by
  have hstays : traced.session.move (.step .controller) = traced.session := by
    simp [Session.move, Session.step?, hstep]
  have hrequest : traced.session.request? = none := by
    rw [Session.controlDesk, hcorrelated.present] at hstep
    cases hpending : controller.pending with
    | some request => simp [Session.request?, hcorrelated.present, hpending]
    | none =>
        cases hnext : traced.session.panelLink.next .right with
        | frame frame next => simp [ControlDesk.step?, hpending, hnext] at hstep
        | closed | waiting => simp [Session.request?, hcorrelated.present, hnext]
  rw [Traced.move, hstays, Traced.controller, hrequest, Nat.sub_self, Nat.sub_self]
  simp

/-- **Every step of the controller keeps requests and answers together.** -/
theorem stepController (hcorrelated : Correlated traced controller requests inbox)
    (hremoves : traced.session.removes (.step .controller)) :
    ∃ after requests inbox, Correlated (traced.move (.step .controller)) after requests inbox := by
  obtain ⟨waiting, replies, hwaiting, hreplies, herrand⟩ := hcorrelated.errand
  have hopen : ¬((traced.session.runtime.left = .live [] ∧
      traced.session.runtime.right.isLive = false) ∨ traced.session.runtime.left = .dropped) := by
    rw [hreplies, hwaiting]
    simp [Endpoint.isLive]
  cases hstep : traced.session.controlDesk.step? with
  | none =>
      rw [hcorrelated.controller_blocked hstep]
      exact ⟨controller, requests, inbox, hcorrelated⟩
  | some next =>
      have hturn : ControlDesk.Turn controller traced.session.runtime traced.session.panelLink
          next := by
        apply ControlDesk.turn_of_step?
        rw [← hstep, Session.controlDesk, hcorrelated.present]
      cases hturn with
      | handled hpending hright => exact hcorrelated.control_handled hpending hright hremoves hstep
      | stopped hpending hnext =>
          have hclosed := Link.next_eq_closed hnext
          simp [Link.endpoint, Side.other, Link.isLive, hcorrelated.right, hcorrelated.left,
            Endpoint.isLive] at hclosed
      | failed _ hgone => exact absurd hgone hopen
      | ended _ _ _ _ hgone => exact absurd hgone hopen
      | concluded hpending hleft hreceive =>
          obtain ⟨after, inbox, hcorrelated⟩ :=
            hcorrelated.control_concluded hpending hleft hreceive hstep
          exact ⟨after, requests, inbox, hcorrelated⟩
      | @kept request frame rest front hpending hleft hreceive =>
          obtain rfl := Endpoint.live.inj (hleft.symm.trans hreplies)
          rw [hpending] at herrand
          rcases herrand.first with ⟨compilation, rfl, hafter⟩ | ⟨verdict, later, -, -, rfl, -, -⟩
          · have hrequest : traced.session.request? = none := by
              simp [Session.request?, hcorrelated.present, hpending]
            rw [← hpending] at hafter
            obtain ⟨inbox, hcorrelated⟩ :=
              hcorrelated.control_passes hstep rfl hrequest (.refl _) rfl hwaiting hwaiting rfl hafter
            exact ⟨_, requests, inbox, hcorrelated⟩
          · rw [Front.receive_verdict] at hreceive
            cases hreceive
      | @caughtUp compilation rest hpending hbacklog hopen hnext =>
          have hrequest : traced.session.request? = none := by
            simp [Session.request?, hcorrelated.present, hnext]
          obtain ⟨after, next, hrecord, hidle, hpasses⟩ := Controller.passes_record
            { controller with front := { backlog := rest } } traced.session.panelLink compilation
          rw [hrecord] at hstep
          obtain ⟨inbox, hcorrelated⟩ := hcorrelated.control_passes hstep rfl hrequest hpasses hidle
            hwaiting hwaiting hreplies herrand
          exact ⟨after, requests, inbox, hcorrelated⟩
      | @read frame rest next hpending hbacklog hopen hnext hleft heq =>
          have hrequest : traced.session.request? = none := by
            simp [Session.request?, hcorrelated.present, hnext]
          obtain ⟨hasked, hwaiting, reports, hreports⟩ := hcorrelated.quiet hpending
          have hqueue := Endpoint.live.inj (hleft.symm.trans hreports)
          obtain ⟨-, later, -, -, rfl⟩ := List.map_eq_cons_iff.mp hqueue.symm
          have hafter : Errand (traced.stores.length - 1) traced.switches controller.pending
              traced.asked [] (later.map Progress.frameOf) := by
            rw [hpending, hasked]
            exact .quiet later
          cases hcompilation : Front.compilationOf? frame with
          | none =>
              rw [hcompilation, Option.map_none, Option.getD_none] at heq
              obtain rfl := heq
              obtain ⟨inbox, hcorrelated⟩ := hcorrelated.control_passes hstep rfl hrequest (.refl _)
                rfl hwaiting hwaiting rfl hafter
              exact ⟨_, requests, inbox, hcorrelated⟩
          | some compilation =>
              rw [hcompilation, Option.map_some, Option.getD_some] at heq
              obtain rfl := heq
              obtain ⟨after, next, hrecord, hidle, hpasses⟩ :=
                Controller.passes_record controller traced.session.panelLink compilation
              rw [hrecord] at hstep
              obtain ⟨inbox, hcorrelated⟩ := hcorrelated.control_passes hstep rfl hrequest hpasses
                hidle hwaiting hwaiting rfl hafter
              exact ⟨after, requests, inbox, hcorrelated⟩

end Correlated

end CompileWatch
