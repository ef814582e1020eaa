import CompileWatch.Proofs.Controller.Selection
import CompileWatch.Proofs.Listing.Run

/-!
# Graphs on their way to the panel

The controller sends a graph only when it takes up a selection, and at that time nothing else is
under way that could change the listing.  So when the graph arrives, the compilation that was
selected is in the listing.  Its scripts are those of the entry if the graph is a JSON text; another
text might close the member that it stands in and name other scripts behind it.
-/

namespace CompileWatch

variable {Image : Type}

/-! ## Frames without a graph -/

/-- The frame holds no event that shows a graph. -/
def Plain (frame : Frame) : Prop :=
  (Panel.eventOf frame).hasGraph = false

theorem Passing.plain {frame : Frame} (hframe : Passing frame) : Plain frame := by
  rw [Passing] at hframe
  rw [Plain]
  cases hevent : Panel.eventOf frame <;> simp_all [PanelEvent.isPassing, PanelEvent.hasGraph]

theorem plain_framesOf {events : List PanelEvent}
    (hevents : ∀ event ∈ events, event.hasGraph = false) :
    ∀ frame ∈ framesOf events, Plain frame := by
  intro frame hframe
  obtain ⟨event, hevent, rfl⟩ := List.mem_map.mp hframe
  rw [Plain, eventOf_encode (hevents event hevent)]
  exact hevents event hevent

/-! ## Graphs of listed compilations -/

/-- The listing has an entry with the id, and with the scripts too if the graphs are trusted to be
JSON texts. -/
def Enlisted (trusted : Prop) (entries : List ListEntry) (id : CompilationId)
    (scripts : List Script) : Prop :=
  ∃ entry ∈ entries, entry.id = id ∧ (trusted → entry.scripts = scripts)

/-- Whenever one of the frames shows the graph that is waited for, the listing has the
compilation. -/
def Backs (trusted : Prop) (id : CompilationId) : List ListEntry → List Frame → Prop
  | _, [] => True
  | entries, frame :: rest =>
    (∀ scripts graph, Panel.eventOf frame = .compilationGraph id scripts graph →
      Enlisted trusted entries id scripts) ∧
      Backs trusted id ((Panel.eventOf frame).list entries) rest

section

variable {trusted : Prop} {id : CompilationId} {entries more : List ListEntry}
  {scripts : List Script} {inbox frames : List Frame}

theorem Enlisted.mono (henlisted : Enlisted trusted entries id scripts) (hmore : entries ⊆ more) :
    Enlisted trusted more id scripts := by
  obtain ⟨entry, hentry, hsame⟩ := henlisted
  exact ⟨entry, hmore hentry, hsame⟩

theorem backs_append :
    Backs trusted id entries (inbox ++ frames) ↔
      Backs trusted id entries inbox ∧ Backs trusted id (preview entries inbox) frames := by
  induction inbox generalizing entries with
  | nil => simp [Backs, preview]
  | cons frame rest ih =>
      rw [List.cons_append, Backs, Backs, ih, and_assoc]
      rfl

theorem backs_of_plain (hframes : ∀ frame ∈ frames, Plain frame) :
    Backs trusted id entries frames := by
  induction frames generalizing entries with
  | nil => trivial
  | cons frame rest ih =>
      rw [List.forall_mem_cons] at hframes
      refine ⟨fun scripts graph hevent => ?_, ih hframes.2⟩
      have hplain := hframes.1
      rw [Plain, hevent] at hplain
      cases hplain

/-- **A graph that answers a selection belongs to a compilation in the listing**, as the listing is
going to be when the panel has taken in what waits before it. -/
theorem Mirrored.enlisted {controller : Controller}
    (hmirrored : Mirrored entries controller
      [Frame.encode (PanelRequest.selectCompilation id).toJson] inbox)
    (htrusted : trusted → ∀ snapshot ∈ controller.store.live,
      Json.WellFormed snapshot.graph.text) {panel : Link} {graph : Graph}
    (hevent : Panel.eventOf (Controller.selectionFrame controller.store panel id) =
      .compilationGraph id scripts graph) :
    Enlisted trusted (preview entries inbox) id scripts := by
  obtain ⟨snapshot, hget, htext⟩ : ∃ snapshot, controller.store.get id.slot = .ok snapshot ∧
      GraphFrame.encode { id, scripts := snapshot.scripts, graph := snapshot.graph } =
        .ok (Controller.selectionFrame controller.store panel id) := by
    rcases Controller.selectionFrame_cases controller.store panel id with ⟨message, herror⟩ | hheld
    · rw [herror, Controller.errorAbout, eventOf_encode rfl] at hevent
      cases hevent
    · exact hheld
  obtain ⟨hlive, hid⟩ := hmirrored.tidy.mem_live_of_get hget
  have hentry : ListEntry.ofSnapshot snapshot ∈ preview entries inbox := by
    rw [hmirrored.agrees]
    have hlisted : ListEntry.ofSnapshot snapshot ∈ controller.store.listing :=
      List.mem_map_of_mem hlive
    simpa [removals, PanelRequest.removed?] using hlisted
  refine ⟨_, hentry, hid, fun htrust => ?_⟩
  have hdecode := GraphFrame.decode_of_encode htext (htrusted htrust snapshot hlive)
  rw [Panel.eventOf, hdecode] at hevent
  cases hresult : Frame.decode Graph.ofJson? snapshot.graph.text with
  | error error => simp [hresult, Except.map] at hevent
  | ok found =>
      simp only [hresult, Except.map, PanelEvent.compilationGraph.injEq] at hevent
      exact hevent.2.1

end

/-! ## Sessions -/

/-- If a request to select a compilation is taken up while an operation waits, it is the request of
that operation, and no other request is behind it. -/
theorem Phase.of_selection {stores : List Store} {switches : List (Option Nat × AttachState)}
    {own : Nat} {call : Panel.Call} {received : Frame} {rest : List Frame}
    {inbox : List (Frame × Option Nat)} {wanted : CompilationId}
    (hphase : Phase stores switches own (.waiting call) none (received :: rest) inbox)
    (hcall : call.request?.isSome)
    (hreceived : Frame.decode PanelRequest.ofJson? received = .ok (.selectCompilation wanted)) :
    call = .select wanted ∧ rest = [] ∧
      received = Frame.encode (PanelRequest.selectCompilation wanted).toJson := by
  have hforeground : ¬ Background received := by
    rintro (⟨id, rfl⟩ | ⟨text, rfl⟩) <;> simp [PanelRequest.decode_encode] at hreceived
  generalize hrequests : received :: rest = requests at hphase
  cases hphase with
  | free hidle => simp [hidle call rfl] at hcall
  | answered | unanswered => cases hrequests
  | @posted _ request before _ hrequest hown hbefore hinbox =>
      cases before with
      | cons first before =>
          obtain ⟨rfl, -⟩ := List.cons.inj hrequests
          exact absurd (hbefore _ List.mem_cons_self) hforeground
      | nil =>
          obtain ⟨rfl, rfl⟩ := List.cons.inj hrequests
          rw [PanelRequest.decode_encode, Except.ok.injEq] at hreceived
          subst hreceived
          refine ⟨?_, rfl, rfl⟩
          cases call <;> simp [Panel.Call.request?] at hrequest
          rw [hrequest]

/-- When the graph arrives that the panel waits for, its compilation is going to be in the
listing. -/
def Session.Backed (trusted : Prop) (session : Session Image) : Prop :=
  ∀ panel id, session.panel = some panel → session.call = .waiting (.select id) →
    Backs trusted id panel.entries (session.panelLink.queue .left)

namespace Session.Backed

variable {trusted : Prop} {session next : Session Image} {traced : Traced Image}
  {controller : Controller} {requests : List Frame} {inbox : List (Frame × Option Nat)}

theorem congr (hbacked : session.Backed trusted) (hpanel : next.panel = session.panel)
    (hcall : next.call = session.call) (hlink : next.panelLink = session.panelLink) :
    next.Backed trusted := by
  intro panel id hpresent hwaiting
  rw [hlink]
  exact hbacked panel id (hpanel ▸ hpresent) (hcall ▸ hwaiting)

/-- The user begins an operation, or does something else while none waits for its answer. -/
theorem user (hcorrelated : Correlated traced controller requests inbox) {move : Move}
    (horderly : traced.session.orderly move) (houtside : ∀ party, move ≠ .step party)
    (hidle : traced.session.awaitsAnswer = false) : (traced.session.move move).Backed trusted := by
  obtain ⟨-, -, hinbox⟩ := hcorrelated.phase.idle fun call hcall => by
    simpa [awaitsAnswer, hcall] using hidle
  obtain ⟨requests, hnext⟩ := hcorrelated.outside move horderly houtside
  have hleft := hnext.left
  rw [traced.session_move] at hleft
  intro panel id hpanel hcall
  rw [@Link.queue_of_live _ .left _ hleft]
  refine backs_of_plain fun frame hframe => ?_
  obtain ⟨entry, hentry, rfl⟩ := List.mem_map.mp hframe
  exact (hinbox entry hentry).plain

theorem stepPanel (hbacked : session.Backed trusted) :
    (session.move (.step .panel)).Backed trusted := by
  rcases session.stepPanel_cases with hsame | ⟨error, hended⟩ |
    ⟨panel, call, frame, rest, hpanel, hcall, hleft, hread⟩
  · rw [hsame]
    exact hbacked
  · rw [hended]
    intro panel id hpanel hcall
    cases hcall
  · rw [hread]
    intro after id hafter hwaiting
    obtain rfl := Option.some.inj hafter
    -- the operation still waits, and it is the same one
    have hselect : call = .select id := by
      simp only [withPanelDesk, PanelDesk.read] at hwaiting
      cases hresult : (panel.receive call frame).2 <;> simp_all
    have hbacks := hbacked panel id hpanel (hcall.trans (by rw [hselect]))
    rw [@Link.queue_of_live session.panelLink .left _ hleft] at hbacks
    rw [PanelDesk.read, Panel.entries_receive]
    exact hbacks.2

/-- What the controller sends in a step is backed by the listing. -/
theorem backs_sent (hcorrelated : Correlated traced controller requests inbox)
    (hlisted : traced.session.Listed)
    (htrusted : trusted → ∀ snapshot ∈ controller.store.live,
      Json.WellFormed snapshot.graph.text)
    {panel : Panel Image} {id : CompilationId} (hpanel : traced.session.panel = some panel)
    (hcall : traced.session.call = .waiting (.select id)) {sent : List Frame}
    (hsent : sent.Sublist traced.session.controlDesk.outgoing) :
    Backs trusted id (preview panel.entries (traced.session.panelLink.queue .left)) sent := by
  have hpresent : traced.session.controlDesk.controller = some controller := hcorrelated.present
  rcases ControlDesk.outgoing_cases hpresent with ⟨events, hevents, houtgoing⟩ |
    ⟨received, rest, wanted, hpending, hright, hrequest, houtgoing⟩
  · rw [houtgoing] at hsent
    exact backs_of_plain fun frame hframe => plain_framesOf hevents frame (hsent.subset hframe)
  · have hrequests : requests = received :: rest :=
      Endpoint.live.inj (hcorrelated.right.symm.trans hright)
    have hphase := hcorrelated.phase
    rw [hcall, hpending, hrequests] at hphase
    obtain ⟨hselect, rfl, rfl⟩ := hphase.of_selection rfl hrequest
    obtain rfl : id = wanted := by simpa using hselect
    have hmirrored := hlisted panel controller hpanel hpresent
    rw [@Link.queue_of_live traced.session.panelLink .right _ hright] at hmirrored
    rw [houtgoing] at hsent
    rcases List.sublist_singleton.mp hsent with rfl | rfl
    · trivial
    · exact ⟨fun scripts graph hevent => hmirrored.enlisted htrusted hevent, trivial⟩

theorem stepController (hbacked : traced.session.Backed trusted)
    (hcorrelated : Correlated traced controller requests inbox) (hlisted : traced.session.Listed)
    (htrusted : trusted → ∀ snapshot ∈ controller.store.live,
      Json.WellFormed snapshot.graph.text) :
    (traced.session.move (.step .controller)).Backed trusted := by
  rw [Session.move, step?]
  cases hstep : traced.session.controlDesk.step? with
  | none => exact hbacked
  | some next =>
      have hlive : traced.session.controlDesk.panel.left.isLive := by
        rw [controlDesk, hcorrelated.left]
        rfl
      obtain ⟨sent, hsent, hqueue⟩ := ControlDesk.exists_sent hstep hlive
      intro panel id hpanel hcall
      show Backs trusted id panel.entries (next.panel.queue .left)
      rw [hqueue, backs_append]
      exact ⟨hbacked panel id hpanel hcall,
        backs_sent hcorrelated hlisted htrusted hpanel hcall hsent⟩

/-- **Every move keeps graphs backed by the listing.** -/
theorem move (hbacked : traced.session.Backed trusted)
    (hcorrelated : Correlated traced controller requests inbox) (hlisted : traced.session.Listed)
    (htrusted : trusted → ∀ snapshot ∈ controller.store.live,
      Json.WellFormed snapshot.graph.text) (move : Move) (horderly : traced.session.orderly move) :
    (traced.session.move move).Backed trusted := by
  cases move with
  | compile compilation => exact hbacked.congr rfl rfl rfl
  | call | clearCall | setMode | remove | message =>
      exact user hcorrelated horderly (by simp) (by simpa [orderly] using horderly)
  | stopActor | stopController | closePanel => cases horderly
  | step party =>
      cases party with
      | panel => exact hbacked.stepPanel
      | controller => exact hbacked.stepController hcorrelated hlisted htrusted
      | actor =>
          rw [Session.move, step?]
          cases traced.session.service.step? <;> exact hbacked.congr rfl rfl rfl

end Session.Backed

end CompileWatch
