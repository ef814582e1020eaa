import CompileWatch.Proofs.Controller.Turn
import CompileWatch.Proofs.Session.Standing

/-!
# Moves of the controller

The controller takes compilations from the runtime link to the backlog or to the store,
and begins and ends sessions with the replies of the actor.  The news that it sends keep
the panel's account of the session in step with its own.
-/

namespace CompileWatch

variable {Image : Type} {observed : Observed Image}

/-! ## Steps of the controller -/

theorem Session.noticesIn_controller {session : Session Image} {desk : ControlDesk}
    {frames : List Frame} (hstep : session.controlDesk.step? = some desk)
    (hleft : desk.panel.left = session.panelLink.left.push frames) :
    session.noticesIn (.step .controller) =
      if session.panelLink.left.isLive then
        frames.filterMap fun frame =>
          Notice.of? (desk.controller.bind fun controller => controller.store.newest?)
            (Panel.eventOf frame)
      else [] := by
  have hmove : session.move (.step .controller) = session.withControlDesk desk := by
    simp [move, step?, hstep]
  have hqueue : (session.withControlDesk desk).panelLink.queue .left =
      (session.panelLink.left.push frames).queue := congrArg Endpoint.queue hleft
  rw [noticesIn, hmove, hqueue]
  simp only [Link.queue, Link.endpoint, Endpoint.queue_push]
  split <;> rfl

/-- A step of the controller, with the frames in it. -/
theorem Observed.move_controller {desk : ControlDesk} {frames : List Frame}
    (hstep : observed.session.controlDesk.step? = some desk)
    (hleft : desk.panel.left = observed.session.panelLink.left.push frames) :
    observed.move (.step .controller) =
      { session := observed.session.withControlDesk desk
        accepted := observed.accepted
        notices := observed.notices ++
          if observed.session.panelLink.left.isLive then
            frames.filterMap fun frame =>
              Notice.of? (desk.controller.bind fun controller => controller.store.newest?)
                (Panel.eventOf frame)
          else [] } := by
  rw [Observed.move, Session.noticesIn_controller hstep hleft]
  simp [Session.move, Session.step?, hstep, Session.acceptedIn]

/-- A step of the controller that cannot reach the panel any more. -/
theorem Accounted.unheard (haccounted : Accounted observed) {desk : ControlDesk}
    {frames : List Frame} (hstep : observed.session.controlDesk.step? = some desk)
    (hleft : desk.panel.left = observed.session.panelLink.left.push frames)
    (hlive : observed.session.panelLink.left.isLive = false) :
    Accounted (observed.move (.step .controller)) := by
  have hsame : desk.panel.left.isLive = false := by
    rw [hleft, Endpoint.isLive_push, hlive]
  rw [Observed.move_controller hstep hleft, hlive, if_neg (by simp), List.append_nil]
  exact ⟨haccounted.hosted, haccounted.numbered, haccounted.told_isPrefix,
    fun hpanel => absurd (haccounted.panel hpanel) (by simp [hlive]),
    fun _ _ hheard => absurd hheard (by simp [Session.withControlDesk, hsame])⟩

/-- A step of the controller with the news that the panel hears. -/
theorem Accounted.heard (haccounted : Accounted observed) {desk : ControlDesk}
    {frames : List Frame} {notices : List Notice}
    (hstep : observed.session.controlDesk.step? = some desk)
    (hlive : observed.session.panelLink.left.isLive)
    (hleft : desk.panel.left = observed.session.panelLink.left.push frames)
    (hnotices : (frames.filterMap fun frame =>
      Notice.of? (desk.controller.bind fun controller => controller.store.newest?)
        (Panel.eventOf frame)) = notices)
    (htold : ∀ (number : Nat) (list : List Announcement),
      (Told.of (observed.notices ++ notices)).sessions[number]? = some list →
        list <+: announcements (observed.acceptedBy number))
    (hserve : ∀ controller, desk.controller = some controller → ∃ sent progress,
      Matched observed.session.actor desk.runtime controller sent progress ∧
      Standing observed.session.actor observed.session.host observed.acceptedBy
        (Told.of (observed.notices ++ notices)) controller sent progress) :
    Accounted (observed.move (.step .controller)) := by
  have hsame : desk.panel.left.isLive := by
    rw [hleft, Endpoint.isLive_push, hlive]
  rw [Observed.move_controller hstep hleft, hlive, if_pos rfl, hnotices]
  exact ⟨haccounted.hosted, haccounted.numbered, htold, fun _ => hsame,
    fun controller hcontroller _ => hserve controller hcontroller⟩

/-- A step of the controller without news. -/
theorem Accounted.hushed (haccounted : Accounted observed) {desk : ControlDesk}
    (hstep : observed.session.controlDesk.step? = some desk)
    (hlive : observed.session.panelLink.left.isLive)
    (hhushed : observed.session.panelLink.Hushed desk.panel)
    (hserve : ∀ controller, desk.controller = some controller → ∃ sent progress,
      Matched observed.session.actor desk.runtime controller sent progress ∧
      Standing observed.session.actor observed.session.host observed.acceptedBy
        (Told.of observed.notices) controller sent progress) :
    Accounted (observed.move (.step .controller)) := by
  obtain ⟨frames, hframes, hleft⟩ := hhushed
  have hnotices := notices_of_silent hframes
    (desk.controller.bind fun controller => controller.store.newest?)
  refine haccounted.heard hstep hlive hleft hnotices ?_ ?_
  · rw [List.append_nil]
    exact haccounted.told_isPrefix
  · rw [List.append_nil]
    exact hserve

/-! ## Turns that wait for a reply -/

variable {controller : Controller} {desk : ControlDesk}

/-- A request of the panel was handled.  The actor can only be asked while it is there and no other
request is on the link. -/
theorem Accounted.handled (haccounted : Accounted observed)
    (hlive : observed.session.panelLink.left.isLive)
    (hcontroller : observed.session.controller = some controller)
    (hstep : observed.session.controlDesk.step? = some desk)
    (hpending : controller.pending = none)
    (hhandled : ControlDesk.Handled controller observed.session.runtime observed.session.panelLink
      desk) : Accounted (observed.move (.step .controller)) := by
  obtain ⟨sent, progress, hmatched, hstanding⟩ := haccounted.standing controller hcontroller hlive
  cases hhandled with
  | @asked pending queue next hhushed hqueue =>
      refine haccounted.hushed hstep hlive hhushed fun after hafter => ?_
      -- the actor is there to be asked, and no older request is on the link
      obtain rfl := hmatched.quiet hpending
      obtain rfl := Option.some.inj hafter
      have hpresent : observed.session.actor ≠ none := fun h => by
        simp [hmatched.gone h] at hqueue
      obtain rfl : queue = [] := by
        have := hqueue.symm.trans (hmatched.right (Option.isSome_iff_ne_none.mpr hpresent))
        simpa [Progress.requests] using this
      exact ⟨sent, .asked pending,
        ⟨hmatched.left, fun _ => rfl, fun h => absurd h hpresent, rfl⟩,
        hstanding.congr rfl rfl rfl rfl⟩
  | done hhushed _ =>
      refine haccounted.hushed hstep hlive hhushed fun after hafter => ?_
      obtain rfl := Option.some.inj hafter
      exact ⟨sent, progress,
        ⟨hmatched.left, hmatched.right, hmatched.gone, hmatched.pending⟩,
        hstanding.congr rfl rfl rfl rfl⟩

/-- A frame came before the reply, so it holds a compilation. -/
theorem Accounted.kept (haccounted : Accounted observed) {front : Front} {frame : Frame}
    {rest : List Frame} (hlive : observed.session.panelLink.left.isLive)
    (hcontroller : observed.session.controller = some controller)
    (hstep : observed.session.controlDesk.step? = some
      { controller := some { controller with front }
        runtime := { observed.session.runtime with left := .live rest }
        panel := observed.session.panelLink })
    (hleft : observed.session.runtime.left = .live (frame :: rest))
    (hreceive : controller.front.receive frame = (front, none)) :
    Accounted (observed.move (.step .controller)) := by
  obtain ⟨sent, progress, hmatched, hstanding⟩ := haccounted.standing controller hcontroller hlive
  refine haccounted.hushed hstep hlive (.of_left rfl) fun after hafter => ?_
  obtain rfl := Option.some.inj hafter
  obtain ⟨compilation, behind, rfl, rfl, rfl⟩ | ⟨pending, verdict, later, -, -, rfl, -⟩ :=
    hmatched.first hleft
  · rw [Front.receive_report] at hreceive
    obtain rfl := (Prod.mk.inj hreceive).1
    exact ⟨behind, progress, ⟨rfl, hmatched.right, hmatched.gone, hmatched.pending⟩,
      hstanding.keep⟩
  · -- a reply is not kept but ends the wait
    rw [Front.receive_verdict] at hreceive
    simp at hreceive

/-- No reply will come, because the actor is gone. -/
theorem Accounted.failed (haccounted : Accounted observed) {pending : Pending}
    (hlive : observed.session.panelLink.left.isLive)
    (hcontroller : observed.session.controller = some controller)
    (hstep : observed.session.controlDesk.step? = some
      { controller := some (controller.conclude observed.session.panelLink pending
          (.error (Front.goneError observed.session.runtime))).1
        runtime := observed.session.runtime
        panel := (controller.conclude observed.session.panelLink pending
          (.error (Front.goneError observed.session.runtime))).2 })
    (hpending : controller.pending = some pending)
    (hclosed : (observed.session.runtime.left = .live [] ∧
      observed.session.runtime.right.isLive = false) ∨ observed.session.runtime.left = .dropped) :
    Accounted (observed.move (.step .controller)) := by
  obtain ⟨sent, progress, hmatched, hstanding⟩ := haccounted.standing controller hcontroller hlive
  obtain ⟨next, hhushed, hconclude⟩ := Controller.conclude_error controller
    observed.session.panelLink pending (Front.goneError observed.session.runtime)
  rw [hconclude] at hstep
  refine haccounted.hushed hstep hlive hhushed fun after hafter => ?_
  obtain rfl := Option.some.inj hafter
  obtain ⟨hgone, rfl, hframes⟩ := hmatched.closed hclosed
  cases progress with
  | quiet => simp [hmatched.pending, Progress.pending] at hpending
  | answered => simp [Progress.frames] at hframes
  | asked =>
      exact ⟨[], .quiet, ⟨hmatched.left, by simp [hgone], hmatched.gone, rfl⟩,
        hstanding.congr rfl rfl rfl rfl⟩

section

variable {later : List Compilation}

/-- The reply refuses the request, and no more happens than that it is read. -/
theorem Accounted.refused (haccounted : Accounted observed) {pending : Pending}
    {expected actual : AttachState} (hlive : observed.session.panelLink.left.isLive)
    (hmatched : Matched observed.session.actor observed.session.runtime controller []
      (.answered pending (.refused expected actual) later))
    (hstanding : Standing observed.session.actor observed.session.host observed.acceptedBy
      (Told.of observed.notices) controller [] (.answered pending (.refused expected actual) later))
    (hstep : observed.session.controlDesk.step? = some
      { controller := some (controller.conclude observed.session.panelLink pending
          (.error (.wrongState expected actual))).1
        runtime := { observed.session.runtime with left := .live (later.map Progress.frameOf) }
        panel := (controller.conclude observed.session.panelLink pending
          (.error (.wrongState expected actual))).2 }) :
    Accounted (observed.move (.step .controller)) := by
  obtain ⟨next, hnext, hconclude⟩ := Controller.conclude_error controller
    observed.session.panelLink pending (.wrongState expected actual)
  rw [hconclude] at hstep
  refine haccounted.hushed hstep hlive hnext fun after hafter => ?_
  obtain rfl := Option.some.inj hafter
  exact ⟨later, .quiet, hmatched.readReply rfl, hstanding.refuse rfl rfl⟩

/-- The reply begins a session, and the panel hears of it. -/
theorem Accounted.begun (haccounted : Accounted observed)
    (hlive : observed.session.panelLink.left.isLive)
    (hfits : (Frame.encode PanelEvent.attached.toJson).utf8ByteSize ≤
      observed.session.panelLink.maxBytes)
    (hmatched : Matched observed.session.actor observed.session.runtime controller []
      (.answered .attach .granted later))
    (hstanding : Standing observed.session.actor observed.session.host observed.acceptedBy
      (Told.of observed.notices) controller [] (.answered .attach .granted later))
    (hstep : observed.session.controlDesk.step? = some
      { controller := some { controller with pending := none, store := {}, attached := true }
        runtime := { observed.session.runtime with left := .live (later.map Progress.frameOf) }
        panel := Controller.send observed.session.panelLink .attached }) :
    Accounted (observed.move (.step .controller)) := by
  rw [Controller.send_of_fits hfits] at hstep
  refine haccounted.heard hstep hlive rfl (notices_of_news rfl rfl) ?_ ?_
  · rw [Told.of_attached]
    exact Told.isPrefix_of_begun haccounted.told_isPrefix
  · intro after hafter
    obtain rfl := Option.some.inj hafter
    rw [Told.of_attached]
    exact ⟨later, .quiet, hmatched.readReply rfl, hstanding.begin rfl rfl⟩

/-- The reply ends a session, and the panel hears of it. -/
theorem Accounted.finished (haccounted : Accounted observed)
    (hlive : observed.session.panelLink.left.isLive)
    (hfits : (Frame.encode PanelEvent.detached.toJson).utf8ByteSize ≤
      observed.session.panelLink.maxBytes)
    (hmatched : Matched observed.session.actor observed.session.runtime controller []
      (.answered .detach .granted later))
    (hstanding : Standing observed.session.actor observed.session.host observed.acceptedBy
      (Told.of observed.notices) controller [] (.answered .detach .granted later))
    (hstep : observed.session.controlDesk.step? = some
      { controller := some { controller with
          pending := none, attached := false, front := controller.front.discardBacklog.2 }
        runtime := { observed.session.runtime with left := .live (later.map Progress.frameOf) }
        panel := Controller.send (Controller.send observed.session.panelLink .detached)
          .unregistered }) :
    Accounted (observed.move (.step .controller)) := by
  rw [Controller.send_of_fits hfits] at hstep
  have hhushed : (observed.session.panelLink.posted [Frame.encode PanelEvent.detached.toJson]).Hushed
      (Controller.send (observed.session.panelLink.posted
        [Frame.encode PanelEvent.detached.toJson]) .unregistered) :=
    Controller.hushed_send _ rfl rfl
  obtain ⟨frames, hframes, hleft⟩ := hhushed
  rw [Link.left_posted, Endpoint.push_push] at hleft
  -- whether the last event is delivered or not, it is not news
  have hnotices : ∀ kept, (([Frame.encode PanelEvent.detached.toJson] ++ frames).filterMap
      fun frame => Notice.of? kept (Panel.eventOf frame)) = [.detached] := by
    intro kept
    rw [List.filterMap_append, notices_of_news rfl rfl, notices_of_silent hframes]
    rfl
  refine haccounted.heard hstep hlive hleft (hnotices _) ?_ ?_
  · rw [Told.of_detached]
    intro number list hlist
    exact haccounted.told_isPrefix number list (by simpa [Told.sessions] using hlist)
  · intro after hafter
    obtain rfl := Option.some.inj hafter
    rw [Told.of_detached]
    exact ⟨later, .quiet, hmatched.readReply rfl, hstanding.finish rfl rfl⟩

end

/-- The reply that was awaited begins a session, ends one, or refuses to. -/
theorem Accounted.concluded (haccounted : Accounted observed) {pending : Pending} {frame : Frame}
    {rest : List Frame} {front : Front} {outcome : Except FrontError ActorReply}
    (hlive : observed.session.panelLink.left.isLive)
    (hcontroller : observed.session.controller = some controller)
    (hfits : ∀ news ∈ Controller.outcomeNews? pending outcome,
      (Frame.encode news.toJson).utf8ByteSize ≤ observed.session.panelLink.maxBytes)
    (hstep : observed.session.controlDesk.step? = some
      { controller := some ({ controller with front }.conclude observed.session.panelLink pending
          outcome).1
        runtime := { observed.session.runtime with left := .live rest }
        panel := ({ controller with front }.conclude observed.session.panelLink pending
          outcome).2 })
    (hpending : controller.pending = some pending)
    (hleft : observed.session.runtime.left = .live (frame :: rest))
    (hreceive : controller.front.receive frame = (front, some outcome)) :
    Accounted (observed.move (.step .controller)) := by
  obtain ⟨sent, progress, hmatched, hstanding⟩ := haccounted.standing controller hcontroller hlive
  obtain ⟨rfl, rfl, asked, verdict, later, rfl, rfl, rfl⟩ := hmatched.replied hleft hreceive
  obtain rfl : asked = pending :=
    Option.some.inj (hmatched.pending.symm.trans hpending)
  cases verdict with
  | refused expected actual => exact haccounted.refused hlive hmatched hstanding hstep
  | granted =>
      cases asked with
      | attach => exact haccounted.begun hlive (hfits _ rfl) hmatched hstanding hstep
      | detach => exact haccounted.finished hlive (hfits _ rfl) hmatched hstanding hstep

/-! ## Turns that take in compilations -/

/-- The oldest compilation that the controller can take in is recorded and announced, or
ignored. -/
theorem Accounted.recorded (haccounted : Accounted observed) {base : Controller} {runtime : Link}
    {compilation : Compilation} {sent behind : List Compilation}
    (hlive : observed.session.panelLink.left.isLive)
    (hstep : observed.session.controlDesk.step? = some
      { controller := some (base.record observed.session.panelLink compilation).1
        runtime
        panel := (base.record observed.session.panelLink compilation).2 })
    (hfits : ∀ news ∈ base.recordNews? compilation,
      (Frame.encode news.toJson).utf8ByteSize ≤ observed.session.panelLink.maxBytes)
    (hstanding : Standing observed.session.actor observed.session.host observed.acceptedBy
      (Told.of observed.notices) controller sent .quiet)
    (hmatched : ∀ next : Controller, next.pending = base.pending →
      Matched observed.session.actor runtime next behind .quiet)
    (hfirst : controller.front.backlog ++ sent =
      compilation :: (base.front.backlog ++ behind))
    (hattached : base.attached = controller.attached) :
    Accounted (observed.move (.step .controller)) := by
  obtain ⟨hlasting, list, hcurrent, hrecorded⟩ := hstanding.record hfirst hattached
  rcases Controller.record_eq base observed.session.panelLink compilation with
    ⟨graph, hbase, hgraph, hrecord⟩ | ⟨hignored, hrecord⟩
  · -- it is announced with the number of its slot, and the store ends with it
    have hisGraph : compilation.isGraph = true := by
      rw [Compilation.isGraph, hgraph]
      rfl
    have hnews : base.recordNews? compilation =
        some (.recordCompilation (.ofSlot base.store.size) compilation.scripts) := by
      rw [Controller.recordNews?, hbase, hisGraph]
      rfl
    have hnotice : Notice.of? (base.store.append compilation.scripts graph).newest?
        (.recordCompilation (.ofSlot base.store.size) compilation.scripts) =
          some (.recorded (.of compilation)) := by
      rw [Store.newest?_append, RawJson.text_of_ofText? hgraph]
      rfl
    rw [hrecord, Controller.send_of_fits (hfits _ hnews)] at hstep
    rw [announcements_of_isGraph hisGraph] at hrecorded
    refine haccounted.heard hstep hlive rfl (notices_of_news rfl hnotice) ?_ ?_
    · rw [Told.of_recorded hcurrent]
      exact Told.isPrefix_of_recorded haccounted.told_isPrefix
        (hrecorded.told_isPrefix (hattached.trans hlasting) rfl)
    · intro after hafter
      obtain rfl := Option.some.inj hafter
      rw [Told.of_recorded hcurrent]
      exact ⟨behind, .quiet, hmatched _ rfl, hrecorded.congr rfl rfl rfl rfl⟩
  · -- the session lasts, so it is the graph that was not taken in
    have hisGraph : compilation.isGraph = false := by
      rcases hignored with hdetached | ⟨error, herror⟩
      · simp [hattached, hlasting] at hdetached
      · rw [Compilation.isGraph, herror]
        rfl
    have htold : (⟨(Told.of observed.notices).finished, some (list ++ [])⟩ : Told) =
        Told.of observed.notices := by
      rw [List.append_nil, ← hcurrent]
    rw [hrecord] at hstep
    rw [announcements_of_not_isGraph hisGraph, htold] at hrecorded
    refine haccounted.hushed hstep hlive (.of_left rfl) fun after hafter => ?_
    obtain rfl := Option.some.inj hafter
    exact ⟨behind, .quiet, hmatched _ rfl, hrecorded⟩

/-- A compilation is taken from the backlog. -/
theorem Accounted.caughtUp (haccounted : Accounted observed) {compilation : Compilation}
    {rest : List Compilation} (hlive : observed.session.panelLink.left.isLive)
    (hcontroller : observed.session.controller = some controller)
    (hfits : ∀ news ∈ controller.recordNews? compilation,
      (Frame.encode news.toJson).utf8ByteSize ≤ observed.session.panelLink.maxBytes)
    (hstep : observed.session.controlDesk.step? = some
      { controller := some ({ controller with front := { backlog := rest } }.record
          observed.session.panelLink compilation).1
        runtime := observed.session.runtime
        panel := ({ controller with front := { backlog := rest } }.record
          observed.session.panelLink compilation).2 })
    (hpending : controller.pending = none)
    (hbacklog : controller.front.backlog = compilation :: rest) :
    Accounted (observed.move (.step .controller)) := by
  obtain ⟨sent, progress, hmatched, hstanding⟩ := haccounted.standing controller hcontroller hlive
  obtain rfl := hmatched.quiet hpending
  have hafter : ∀ next : Controller, next.pending = controller.pending →
      Matched observed.session.actor observed.session.runtime next sent .quiet := by
    intro next hnext
    exact ⟨hmatched.left, hmatched.right, hmatched.gone, hnext.trans hpending⟩
  have hfirst : controller.front.backlog ++ sent = compilation :: (rest ++ sent) := by
    rw [hbacklog, List.cons_append]
  exact haccounted.recorded hlive hstep hfits hstanding hafter hfirst rfl

/-- With an empty backlog, a compilation is taken from the runtime link. -/
theorem Accounted.read (haccounted : Accounted observed) {frame : Frame} {rest : List Frame}
    {next : Controller × Link} (hlive : observed.session.panelLink.left.isLive)
    (hcontroller : observed.session.controller = some controller)
    (hfits : ∀ compilation, Front.compilationOf? frame = some compilation →
      ∀ news ∈ controller.recordNews? compilation,
        (Frame.encode news.toJson).utf8ByteSize ≤ observed.session.panelLink.maxBytes)
    (hstep : observed.session.controlDesk.step? = some
      { controller := some next.1
        runtime := { observed.session.runtime with left := .live rest }
        panel := next.2 })
    (hpending : controller.pending = none) (hbacklog : controller.front.backlog = [])
    (hleft : observed.session.runtime.left = .live (frame :: rest))
    (hnext : next = ((Front.compilationOf? frame).map
      (controller.record observed.session.panelLink)).getD
        (controller, observed.session.panelLink)) :
    Accounted (observed.move (.step .controller)) := by
  obtain ⟨sent, progress, hmatched, hstanding⟩ := haccounted.standing controller hcontroller hlive
  obtain rfl := hmatched.quiet hpending
  obtain ⟨compilation, behind, rfl, rfl, rfl⟩ | ⟨_, _, _, -, hreply, -, -⟩ := hmatched.first hleft
  · have hcompilation := Front.compilationOf?_report compilation
    rw [hcompilation] at hnext
    obtain rfl := hnext
    have hafter : ∀ next : Controller, next.pending = controller.pending →
        Matched observed.session.actor { observed.session.runtime with
          left := .live (behind.map Progress.frameOf ++ []) } next behind .quiet := by
      intro next hnext
      exact ⟨rfl, hmatched.right, hmatched.gone, hnext.trans hpending⟩
    have hfirst : controller.front.backlog ++ compilation :: behind =
        compilation :: (controller.front.backlog ++ behind) := by
      rw [hbacklog, List.nil_append, List.nil_append]
    exact haccounted.recorded hlive hstep (hfits compilation hcompilation) hstanding hafter hfirst
      rfl
  · -- no request is on the link, so neither is a reply
    cases hreply

/-- The actor is gone, and with it the session. -/
theorem Accounted.ended (haccounted : Accounted observed)
    (hlive : observed.session.panelLink.left.isLive)
    (hcontroller : observed.session.controller = some controller)
    (hstep : observed.session.controlDesk.step? = some
      { controller := some { controller with actorOpen := false, attached := false }
        runtime := observed.session.runtime
        panel := observed.session.panelLink })
    (hpending : controller.pending = none) (hbacklog : controller.front.backlog = [])
    (hclosed : (observed.session.runtime.left = .live [] ∧
      observed.session.runtime.right.isLive = false) ∨ observed.session.runtime.left = .dropped) :
    Accounted (observed.move (.step .controller)) := by
  obtain ⟨sent, progress, hmatched, hstanding⟩ := haccounted.standing controller hcontroller hlive
  obtain rfl := hmatched.quiet hpending
  obtain ⟨hgone, rfl, -⟩ := hmatched.closed hclosed
  refine haccounted.hushed hstep hlive (.of_left rfl) fun after hafter => ?_
  obtain rfl := Option.some.inj hafter
  refine ⟨[], .quiet, ⟨hmatched.left, hmatched.right, hmatched.gone, hpending⟩, ?_⟩
  rw [hgone] at hstanding ⊢
  exact hstanding.abandon rfl rfl hbacklog

/-! ## All steps -/

section

variable {session : Session Image} (hfits : session.fits (.step .controller))
  (hcontroller : session.controller = some controller)

include hfits hcontroller

/-- The limit of the panel link holds for what a reply brings. -/
theorem Session.outcomeNews_fits {pending : Pending} {frame : Frame} {rest : List Frame}
    {front : Front} {outcome : Except FrontError ActorReply}
    (hpending : controller.pending = some pending)
    (hleft : session.runtime.left = .live (frame :: rest))
    (hreceive : controller.front.receive frame = (front, some outcome)) :
    ∀ news ∈ Controller.outcomeNews? pending outcome,
      (Frame.encode news.toJson).utf8ByteSize ≤ session.panelLink.maxBytes := by
  simpa [fits, ControlDesk.news?, controlDesk, hcontroller, hpending, hleft, hreceive,
    Option.all_eq_true] using hfits

/-- The limit of the panel link holds for the compilation that is taken in. -/
theorem Session.recordNews_fits {compilation : Compilation} (hpending : controller.pending = none)
    (hpanel : session.panelLink.next .right = .waiting)
    (hnext : controller.nextCompilation? session.runtime = some compilation) :
    ∀ news ∈ controller.recordNews? compilation,
      (Frame.encode news.toJson).utf8ByteSize ≤ session.panelLink.maxBytes := by
  simpa [fits, ControlDesk.news?, controlDesk, hcontroller, hpending, hpanel, hnext,
    Option.all_eq_true] using hfits

end

/-- **Every step of the controller keeps every compilation accounted for.** -/
theorem Accounted.stepController (haccounted : Accounted observed)
    (hfits : observed.session.fits (.step .controller))
    (hstep : observed.session.controlDesk.step? = some desk) :
    Accounted (observed.move (.step .controller)) := by
  obtain ⟨controller, hcontroller⟩ :
      ∃ controller, observed.session.controller = some controller := by
    cases hcontroller : observed.session.controller with
    | none => simp [ControlDesk.step?, Session.controlDesk, hcontroller] at hstep
    | some controller => exact ⟨controller, rfl⟩
  have hturn : ControlDesk.Turn controller observed.session.runtime observed.session.panelLink
      desk := by
    refine ControlDesk.turn_of_step? ?_
    rw [← hcontroller]
    exact hstep
  by_cases hlive : observed.session.panelLink.left.isLive
  · cases hturn with
    | handled hpending _ =>
        exact haccounted.handled hlive hcontroller hstep hpending
          (ControlDesk.handled_of_read hpending ..)
    | stopped =>
        -- there is no controller any more for which something must hold
        refine haccounted.hushed hstep hlive (.of_left rfl) fun after hafter => ?_
        cases hafter
    | kept _ hleft hreceive => exact haccounted.kept hlive hcontroller hstep hleft hreceive
    | concluded hpending hleft hreceive =>
        have hnews := Session.outcomeNews_fits hfits hcontroller hpending hleft hreceive
        exact haccounted.concluded hlive hcontroller hnews hstep hpending hleft hreceive
    | failed hpending hclosed =>
        exact haccounted.failed hlive hcontroller hstep hpending hclosed
    | caughtUp hpending hbacklog hopen hpanel =>
        have hnews := Session.recordNews_fits hfits hcontroller hpending hpanel
          (by rw [Controller.nextCompilation?, hopen, hbacklog])
        exact haccounted.caughtUp hlive hcontroller hnews hstep hpending hbacklog
    | read hpending hbacklog hopen hpanel hleft hnext =>
        refine haccounted.read hlive hcontroller ?_ hstep hpending hbacklog hleft hnext
        intro compilation hcompilation
        exact Session.recordNews_fits hfits hcontroller hpending hpanel
          (by rw [Controller.nextCompilation?, hopen, hbacklog, hleft]; exact hcompilation)
    | ended hpending hbacklog _ _ hclosed =>
        exact haccounted.ended hlive hcontroller hstep hpending hbacklog hclosed
  · obtain ⟨frames, hleft⟩ := hturn.exists_left
    exact haccounted.unheard hstep hleft (by simpa using hlive)

end CompileWatch
