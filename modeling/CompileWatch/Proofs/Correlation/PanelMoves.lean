import CompileWatch.Proofs.Correlation.Phase
import CompileWatch.Proofs.Panel.Turn

/-!
# The panel in an orderly run

The user begins an operation, or posts a request that begins none, only while no answer
is awaited.  The panel reads frames that pass by and at last the answer, which ends the
operation.
-/

namespace CompileWatch

variable {Image : Type}

theorem Session.onPanel_eq {session : Session Image} {panel : Panel Image}
    (hpanel : session.panel = some panel) (change : PanelDesk Image → PanelDesk Image) :
    session.onPanel change = session.withPanelDesk
      (change { panel, link := session.panelLink, call := session.call }) := by
  simp [onPanel, panelDesk?, hpanel]

/-- A request is posted, or the panel link stays as it is. -/
theorem Panel.post_eq {link : Link} {requests : List Frame} (hright : link.right = .live requests)
    (request : PanelRequest) :
    Panel.post link request =
        .ok { link with right := .live (requests ++ [Frame.encode request.toJson]) } ∨
      ∃ error, Panel.post link request = .error error := by
  cases hpost : Panel.post link request with
  | error error => exact .inr ⟨error, rfl⟩
  | ok next =>
      obtain ⟨queue, hqueue, rfl⟩ := Panel.eq_of_post hpost
      obtain rfl := Endpoint.live.inj (hright.symm.trans hqueue)
      exact .inl rfl

namespace Correlated

variable {traced : Traced Image} {controller : Controller} {requests : List Frame}
  {inbox : List (Frame × Option Nat)}

theorem user (hcorrelated : Correlated traced controller requests inbox) {next : Session Image}
    {frames : List Frame} (own : Nat) (hpanel : next.panel.isSome)
    (hactor : next.actor = traced.session.actor)
    (hcontroller : next.controller = traced.session.controller)
    (hruntime : next.runtime = traced.session.runtime)
    (hleft : next.panelLink.left = traced.session.panelLink.left)
    (hright : next.panelLink.right = .live (requests ++ frames))
    (hphase : Phase traced.stores traced.switches own next.call controller.pending
      (requests ++ frames) inbox) :
    Correlated { traced.user next with own } controller (requests ++ frames) inbox where
  panel := hpanel
  actor := hactor ▸ hcorrelated.actor
  present := hcontroller.trans hcorrelated.present
  right := hright
  left := hleft.trans hcorrelated.left
  origins := hcorrelated.origins
  posted := by
    have hposted := hcorrelated.posted
    simp only [Traced.user, Link.queue, Link.endpoint, hright, hcorrelated.right, Endpoint.queue,
      List.length_append]
    omega
  errand := by
    obtain ⟨waiting, replies, hwaiting, hreplies, herrand⟩ := hcorrelated.errand
    exact ⟨waiting, replies, hruntime ▸ hwaiting, hruntime ▸ hreplies, herrand⟩
  phase := hphase
  switches := hcorrelated.switches
  older := hcorrelated.older
  correct := hcorrelated.correct

/-- Something that the user does at the panel while no operation waits for its answer. -/
theorem onPanel (hcorrelated : Correlated traced controller requests inbox)
    {panel : Panel Image} (hpanel : traced.session.panel = some panel)
    (change : PanelDesk Image → PanelDesk Image) {desk : PanelDesk Image} {frames : List Frame}
    (own : Nat) (hchange :
      change { panel, link := traced.session.panelLink, call := traced.session.call } = desk)
    (hleft : desk.link.left = traced.session.panelLink.left)
    (hright : desk.link.right = .live (requests ++ frames))
    (hphase : Phase traced.stores traced.switches own desk.call controller.pending
      (requests ++ frames) inbox) :
    Correlated { traced.user (traced.session.onPanel change) with own } controller
      (requests ++ frames) inbox := by
  rw [Session.onPanel_eq hpanel, hchange]
  exact hcorrelated.user own rfl rfl rfl rfl hleft hright hphase

theorem call (hcorrelated : Correlated traced controller requests inbox) (call : Panel.Call)
    (hidle : ∀ call, traced.session.call = .waiting call → call.request? = none) :
    ∃ requests, Correlated (traced.move (.call call)) controller requests inbox := by
  obtain ⟨panel, hpanel⟩ := Option.isSome_iff_exists.mp hcorrelated.panel
  obtain ⟨hpending, hrequests, hinbox⟩ := hcorrelated.phase.idle hidle
  have hright : traced.session.panelLink.right = .live (requests ++ []) := by
    rw [List.append_nil]
    exact hcorrelated.right
  cases hrequest : call.request? with
  | none =>
      have hstart : PanelDesk.start
          { panel, link := traced.session.panelLink, call := traced.session.call } call =
          { panel, link := traced.session.panelLink, call := .waiting call } := by
        simp [PanelDesk.start, hrequest]
      refine ⟨_, hcorrelated.onPanel hpanel _ _ hstart rfl hright ?_⟩
      rw [hpending, List.append_nil]
      refine .free ?_ hrequests hinbox
      rintro _ ⟨⟩
      exact hrequest
  | some request =>
      rcases Panel.post_eq hcorrelated.right request with hpost | ⟨error, hpost⟩
      · have hstart : PanelDesk.start
            { panel, link := traced.session.panelLink, call := traced.session.call } call =
            { panel
              link := { traced.session.panelLink with
                right := .live (requests ++ [Frame.encode request.toJson]) }
              call := .waiting call } := by
          simp [PanelDesk.start, hrequest, hpost]
        refine ⟨_, hcorrelated.onPanel hpanel _ _ hstart rfl rfl ?_⟩
        rw [hpending]
        refine .posted hrequest ?_ hrequests hinbox
        rw [hrequest]
        exact hcorrelated.posted
      · -- the operation has failed at once
        have hstart : PanelDesk.start
            { panel, link := traced.session.panelLink, call := traced.session.call } call =
            { panel, link := traced.session.panelLink, call := .ended (.error error) } := by
          simp [PanelDesk.start, hrequest, hpost]
        refine ⟨_, hcorrelated.onPanel hpanel _ _ hstart rfl hright ?_⟩
        rw [hpending, List.append_nil]
        exact .free nofun hrequests hinbox

/-- A request that begins no operation is posted, or it fails. -/
theorem background (hcorrelated : Correlated traced controller requests inbox)
    (hidle : ∀ call, traced.session.call = .waiting call → call.request? = none)
    {request : PanelRequest} (hbackground : Background (Frame.encode request.toJson))
    {panel : Panel Image} (hpanel : traced.session.panel = some panel)
    (change : PanelDesk Image → PanelDesk Image) (after : Panel Image)
    (hchange : change { panel, link := traced.session.panelLink, call := traced.session.call } =
      { panel := after
        link := (Panel.post traced.session.panelLink request).toOption.getD traced.session.panelLink
        call := traced.session.call }) :
    ∃ requests, Correlated (traced.user (traced.session.onPanel change)) controller requests
      inbox := by
  obtain ⟨hpending, hrequests, hinbox⟩ := hcorrelated.phase.idle hidle
  rcases Panel.post_eq hcorrelated.right request with hpost | ⟨error, hpost⟩
  · rw [hpost] at hchange
    refine ⟨_, hcorrelated.onPanel hpanel change traced.own hchange rfl rfl ?_⟩
    rw [hpending]
    refine .free hidle ?_ hinbox
    intro frame hframe
    rcases List.mem_append.mp hframe with hframe | hframe
    · exact hrequests frame hframe
    · rw [List.mem_singleton.mp hframe]
      exact hbackground
  · rw [hpost] at hchange
    refine ⟨_, @onPanel _ _ _ _ _ hcorrelated _ hpanel change _ [] traced.own hchange rfl ?_ ?_⟩
    · rw [List.append_nil]
      exact hcorrelated.right
    · rw [hpending, List.append_nil]
      exact .free hidle hrequests hinbox

/-- Everything but the steps of the parties. -/
theorem outside (hcorrelated : Correlated traced controller requests inbox) (move : Move)
    (horderly : traced.session.orderly move) (houtside : ∀ party, move ≠ .step party) :
    ∃ requests, Correlated (traced.move move) controller requests inbox := by
  obtain ⟨panel, hpanel⟩ := Option.isSome_iff_exists.mp hcorrelated.panel
  have hright : traced.session.panelLink.right = .live (requests ++ []) := by
    rw [List.append_nil]
    exact hcorrelated.right
  have hidle : traced.session.awaitsAnswer = false →
      ∀ call, traced.session.call = .waiting call → call.request? = none := by
    intro hawaits call hcall
    simpa [Session.awaitsAnswer, hcall] using hawaits
  cases move with
  | step party => exact absurd rfl (houtside party)
  | stopActor | stopController | closePanel => cases horderly
  | compile compilation =>
      refine ⟨requests ++ [],
        hcorrelated.user traced.own hcorrelated.panel rfl rfl rfl rfl hright ?_⟩
      rw [List.append_nil]
      exact hcorrelated.phase
  | call call => exact hcorrelated.call call (hidle (by simpa [Session.orderly] using horderly))
  | clearCall =>
      obtain ⟨hpending, hrequests, hinbox⟩ :=
        hcorrelated.phase.idle (hidle (by simpa [Session.orderly] using horderly))
      refine ⟨requests ++ [], hcorrelated.onPanel hpanel _ traced.own rfl rfl hright ?_⟩
      rw [hpending, List.append_nil]
      exact .free nofun hrequests hinbox
  | setMode mode =>
      refine ⟨requests ++ [], hcorrelated.onPanel hpanel _ traced.own rfl rfl hright ?_⟩
      rw [List.append_nil]
      exact hcorrelated.phase
  | remove id =>
      refine hcorrelated.background (hidle (by simpa [Session.orderly] using horderly))
        (.inl ⟨id, rfl⟩) hpanel (fun desk => (desk.remove id).1) (panel.forget id) ?_
      rw [PanelDesk.remove]
      cases Panel.post traced.session.panelLink (.removeCompilation id) <;> rfl
  | message text =>
      refine hcorrelated.background (hidle (by simpa [Session.orderly] using horderly))
        (.inr ⟨text, rfl⟩) hpanel (fun desk => (desk.message text).1) panel ?_
      rw [PanelDesk.message]
      cases Panel.post traced.session.panelLink (.message text) <;> rfl

/-! ## Reading -/

/-- The panel reads the frame that has waited longest. -/
theorem panel_read (hcorrelated : Correlated traced controller requests inbox)
    {panel : Panel Image} (hpanel : traced.session.panel = some panel) {call : Panel.Call}
    (hcall : traced.session.call = .waiting call) {frame : Frame} {origin : Option Nat}
    {rest : List (Frame × Option Nat)} (hinbox : inbox = (frame, origin) :: rest)
    {after : Panel Image} {result : Option (Except PanelError Panel.Answer)}
    (hreceive : panel.receive call frame = (after, result))
    (hphase : Phase traced.stores traced.switches traced.own
      ((result.map CallState.ended).getD (.waiting call)) controller.pending requests rest)
    (hcorrect : ∀ ending, result = some ending → call.request?.isSome →
      traced.own < traced.stores.length ∧ (∀ number, some number ∈ traced.asked →
        traced.own < number) ∧ Ending.Correct traced.stores traced.switches
          { call, request := traced.own, origin, frame, result := ending, panel := after }) :
    Correlated (traced.move (.step .panel)) controller requests rest := by
  have hleft := hcorrelated.left
  rw [hinbox, List.map_cons] at hleft
  have hnext : traced.session.panelLink.next .left = .frame frame
      { traced.session.panelLink with left := .live (rest.map Prod.fst) } := by
    simp [Link.next, Link.endpoint, hleft, Link.setEndpoint]
  have hstep : traced.session.move (.step .panel) =
      { traced.session with
        panel := some after
        panelLink := { traced.session.panelLink with left := .live (rest.map Prod.fst) }
        call := (result.map CallState.ended).getD (.waiting call) } := by
    simp [Session.move, Session.step?, Session.panelDesk?, hpanel, PanelDesk.step?, hcall, hnext,
      hreceive, Session.withPanelDesk]
  have horigins : traced.origins = origin :: rest.map Prod.snd := by
    rw [hcorrelated.origins, hinbox, List.map_cons]
  have hended : traced.ended? (traced.session.move (.step .panel)) = result.bind fun ending =>
      call.request?.map fun _ =>
        { call, request := traced.own, origin, frame, result := ending, panel := after } := by
    rw [hstep, Traced.ended?, hcall, hnext, horigins]
    cases result <;> rfl
  have htaken : (traced.session.panelLink.queue .left).length -
      ((traced.session.move (.step .panel)).panelLink.queue .left).length = 1 := by
    rw [hstep]
    simp [Link.queue, Link.endpoint, hleft, Endpoint.queue]
  have hmove : traced.move (.step .panel) =
      { traced with
        session := traced.session.move (.step .panel)
        origins := rest.map Prod.snd
        endings := traced.endings ++
          (traced.ended? (traced.session.move (.step .panel))).toList } := by
    rw [Traced.move, Traced.panel, htaken, horigins]
    rfl
  have hnew : ∀ ending ∈ (traced.ended? (traced.session.move (.step .panel))).toList,
      ending.request < traced.stores.length ∧
        (∀ number, some number ∈ traced.asked → ending.request < number) ∧
        ending.Correct traced.stores traced.switches := by
    intro ending hending
    rw [hended, Option.mem_toList, Option.bind_eq_some_iff] at hending
    obtain ⟨resolved, hresult, hending⟩ := hending
    obtain ⟨request, hrequest, rfl⟩ := Option.map_eq_some_iff.mp hending
    exact hcorrect resolved hresult (by rw [hrequest]; rfl)
  rw [hmove]
  constructor
  case panel => rw [hstep]; rfl
  case actor => rw [hstep]; exact hcorrelated.actor
  case present => rw [hstep]; exact hcorrelated.present
  case right => rw [hstep]; exact hcorrelated.right
  case left => rw [hstep]
  case origins => rfl
  case posted => exact hcorrelated.posted
  case errand => rw [hstep]; exact hcorrelated.errand
  case phase => rw [hstep]; exact hphase
  case switches => exact hcorrelated.switches
  case older =>
    intro ending hending
    rcases List.mem_append.mp hending with hending | hending
    · exact hcorrelated.older ending hending
    · exact ⟨(hnew ending hending).1, (hnew ending hending).2.1⟩
  case correct =>
    intro ending hending
    rcases List.mem_append.mp hending with hending | hending
    · exact hcorrelated.correct ending hending
    · exact (hnew ending hending).2.2

theorem panel_blocked (hstep : traced.session.step? .panel = none) :
    traced.move (.step .panel) = traced := by
  have hstays : traced.session.move (.step .panel) = traced.session := by
    simp [Session.move, hstep]
  have hended : traced.ended? traced.session = none := by
    cases hcall : traced.session.call <;> simp [Traced.ended?, hcall]
  rw [Traced.move, hstays, Traced.panel, hended, Nat.sub_self]
  simp

/-- What passes leaves the operation waiting, and the right answer ends it. -/
theorem panel_first (hcorrelated : Correlated traced controller requests inbox)
    {panel : Panel Image} (hpanel : traced.session.panel = some panel) {call : Panel.Call}
    (hcall : traced.session.call = .waiting call) {frame : Frame} {origin : Option Nat}
    {rest : List (Frame × Option Nat)} (hinbox : inbox = (frame, origin) :: rest) :
    Correlated (traced.move (.step .panel)) controller requests rest := by
  have hphase := hcorrelated.phase
  rw [hcall, hinbox] at hphase
  rcases hphase.first with ⟨rfl, hended⟩ | ⟨hrequest, hframe, hwaits⟩ |
    ⟨hrequest, rfl, hown, hpending, rfl, hanswer, hpassing⟩
  · refine hcorrelated.panel_read hpanel hcall hinbox rfl (hended _) ?_
    intro _ _ hrequest
    cases hrequest
  · have hreceive : panel.receive call frame = ((panel.receive call frame).1, none) :=
      Prod.ext rfl (panel.receive_passing hrequest hframe)
    refine hcorrelated.panel_read hpanel hcall hinbox hreceive hwaits ?_
    intro ending hending
    cases hending
  · rcases panel.receive_rightAnswer hanswer with hnone | ⟨after, result, hreceive, hright⟩
    · have hreceive : panel.receive call frame = ((panel.receive call frame).1, none) :=
        Prod.ext rfl hnone
      refine hcorrelated.panel_read hpanel hcall hinbox hreceive ?_ ?_
      · rw [hpending]
        exact .unanswered hrequest hpassing
      · intro ending hending
        cases hending
    · refine hcorrelated.panel_read hpanel hcall hinbox hreceive ?_ ?_
      · rw [hpending]
        exact .free nofun (by simp) hpassing
      · intro ending hending _
        obtain rfl := Option.some.inj hending
        obtain ⟨waiting, replies, -, -, herrand⟩ := hcorrelated.errand
        rw [hpending] at herrand
        refine ⟨by omega, ?_, hright⟩
        rw [herrand.of_none.1]
        simp

/-- **Every step of the panel keeps requests and answers together.** -/
theorem stepPanel (hcorrelated : Correlated traced controller requests inbox) :
    ∃ inbox, Correlated (traced.move (.step .panel)) controller requests inbox := by
  obtain ⟨panel, hpanel⟩ := Option.isSome_iff_exists.mp hcorrelated.panel
  by_cases hcall : ∃ call, traced.session.call = .waiting call
  · obtain ⟨call, hcall⟩ := hcall
    cases hinbox : inbox with
    | cons entry rest => exact ⟨rest, hcorrelated.panel_first hpanel hcall hinbox⟩
    | nil =>
        -- there is no frame, and the controller may still post one
        have hleft := hcorrelated.left
        have hright := hcorrelated.right
        rw [hinbox, List.map_nil] at hleft
        have hblocked : traced.session.step? .panel = none := by
          simp [Session.step?, Session.panelDesk?, hpanel, PanelDesk.step?, hcall, Link.next,
            Link.endpoint, Link.isLive, Side.other, hleft, hright, Endpoint.isLive]
        rw [panel_blocked hblocked]
        exact ⟨inbox, hcorrelated⟩
  · have hblocked : traced.session.step? .panel = none := by
      cases hstate : traced.session.call with
      | waiting call => exact absurd ⟨call, hstate⟩ hcall
      | idle | ended => simp [Session.step?, Session.panelDesk?, hpanel, PanelDesk.step?, hstate]
    rw [panel_blocked hblocked]
    exact ⟨inbox, hcorrelated⟩

end Correlated

end CompileWatch
