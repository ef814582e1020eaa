import CompileWatch.Proofs.Actor.Turn
import CompileWatch.Proofs.Session.Account

/-!
# Moves of the host and the actor

A compilation that is accepted joins those of its session, a step of the actor moves one
to the runtime link or answers a request, and an actor that stops leaves its session.
Every compilation stays accounted for in each of these moves.
-/

namespace CompileWatch

variable {Image : Type} {observed : Observed Image}

/-! ## Moves without news -/

theorem Session.noticesIn_eq_nil {session : Session Image} {move : Move}
    (hqueue : ((session.move move).panelLink.queue .left).length ≤
      (session.panelLink.queue .left).length) : session.noticesIn move = [] := by
  rw [noticesIn, List.drop_eq_nil_of_le hqueue]
  rfl

/-- A move of the panel leaves the other parties and the runtime link alone. -/
theorem Accounted.ofPanel (haccounted : Accounted observed) {next : Session Image}
    (hactor : next.actor = observed.session.actor) (hhost : next.host = observed.session.host)
    (hruntime : next.runtime = observed.session.runtime)
    (hcontroller : next.controller = observed.session.controller)
    (hlive : next.panelLink.left.isLive → observed.session.panelLink.left.isLive)
    (hpanel : next.panel.isSome → next.panelLink.left.isLive) :
    Accounted { observed with session := next } where
  hosted := by rw [hactor, hhost]; exact haccounted.hosted
  numbered := by rw [hhost]; exact haccounted.numbered
  told_isPrefix := haccounted.told_isPrefix
  panel := hpanel
  standing := by
    intro controller hpresent hleft
    rw [hactor, hhost, hruntime]
    exact haccounted.standing controller (hcontroller ▸ hpresent) (hlive hleft)

/-! ## Compilations -/

theorem Observed.acceptedBy_append (observed : Observed Image) (session : Session Image)
    (number : Nat) (compilation : Compilation) (notices : List Notice) :
    Observed.acceptedBy
        { session, accepted := observed.accepted ++ [(number, compilation)], notices } =
      fun other => observed.acceptedBy other ++ if other = number then [compilation] else [] := by
  funext other
  by_cases h : other = number
  · simp [acceptedBy, h]
  · simp [acceptedBy, h, Ne.symm h]

/-- Sessions that were not opened have no compilations. -/
theorem Accounted.acceptedBy_eq_nil (haccounted : Accounted observed) {number : Nat}
    (hnumber : observed.session.host.opened ≤ number) : observed.acceptedBy number = [] := by
  rw [Observed.acceptedBy, List.map_eq_nil_iff, List.filter_eq_nil_iff]
  intro entry hentry
  have := haccounted.numbered entry hentry
  simp
  omega

theorem Standing.compile {host : Host} {number : Nat} {waiting : List Compilation}
    {accepted : Nat → List Compilation} {told : Told} {controller : Controller}
    {sent : List Compilation} {progress : Progress}
    (hstanding : Standing (some (.attached number)) host accepted told controller sent progress)
    (hwaiting : host.mailboxes = [(number, waiting)]) (compilation : Compilation) :
    Standing (some (.attached number)) { host with mailboxes := [(number, waiting ++ [compilation])] }
      (fun other => accepted other ++ if other = number then [compilation] else [])
      told controller sent progress := by
  cases hstanding with
  | idle _ _ hactor => exact absurd (hactor _ rfl) (by simp)
  | beginning hattached hgranted hactor hbacklog hsent hopened hbalanced =>
      obtain rfl : number = told.sessions.length := by simpa using hactor _ rfl
      refine .beginning hattached hgranted hactor hbacklog hsent hopened ?_
      simpa using hbalanced.accept hwaiting compilation
  | lasting hattached hgranted hactor hcurrent hopened hbalanced =>
      obtain rfl : number = told.finished.length := by simpa using hactor _ rfl
      refine .lasting hattached hgranted hactor hcurrent hopened ?_
      simpa using hbalanced.accept hwaiting compilation
  | ending _ _ hactor => exact absurd (hactor _ rfl) (by simp)

theorem Accounted.compile (haccounted : Accounted observed) (compilation : Compilation) :
    Accounted (observed.move (.compile compilation)) := by
  have hnotices : observed.session.noticesIn (.compile compilation) = [] :=
    Session.noticesIn_eq_nil (Nat.le_refl _)
  by_cases hactor : ∃ number, observed.session.actor = some (.attached number)
  · obtain ⟨number, hactor⟩ := hactor
    have hhosted := haccounted.hosted
    rw [hactor] at hhosted
    obtain ⟨hopened, waiting, hwaiting⟩ := hhosted.exists_mailbox
    obtain ⟨hhook, hcompile⟩ := hhosted.compile?_eq hwaiting compilation
    have hmove : observed.move (.compile compilation) =
        { session := { observed.session with
            host := { observed.session.host with
              mailboxes := [(number, waiting ++ [compilation])] } }
          accepted := observed.accepted ++ [(number, compilation)]
          notices := observed.notices } := by
      rw [Observed.move, hnotices]
      simp [Session.move, Session.acceptedIn, hhook, hcompile]
    rw [hmove]
    constructor
    case hosted =>
      rw [hactor]
      exact hhosted.setMailbox _
    case numbered =>
      intro entry hentry
      rcases List.mem_append.mp hentry with hentry | hentry
      · exact haccounted.numbered entry hentry
      · rw [List.mem_singleton.mp hentry]
        exact hopened ▸ Nat.lt_succ_self number
    case told_isPrefix =>
      intro other list hlist
      rw [Observed.acceptedBy_append]
      refine (haccounted.told_isPrefix other list hlist).trans ?_
      rw [announcements_append]
      exact List.prefix_append _ _
    case panel => exact haccounted.panel
    case standing =>
      intro controller hcontroller hlive
      obtain ⟨sent, progress, hmatched, hstanding⟩ :=
        haccounted.standing controller hcontroller hlive
      refine ⟨sent, progress, hmatched, ?_⟩
      rw [hactor] at hstanding
      rw [hactor, Observed.acceptedBy_append]
      exact hstanding.compile hwaiting compilation
  · -- without a session, the host accepts nothing
    have hcompile := haccounted.hosted.compile?_eq_none
      (fun number h => hactor ⟨number, h⟩) compilation
    have hmove : observed.move (.compile compilation) = observed := by
      rw [Observed.move, hnotices]
      cases hhook : observed.session.host.hook <;>
        simp [Session.move, Session.acceptedIn, hcompile, hhook]
    rw [hmove]
    exact haccounted

/-! ## The actor stops -/

/-- The actor may leave at any time; what waits in its mailbox is lost then. -/
theorem Standing.leave {actor : Option Actor} {host next : Host}
    {accepted : Nat → List Compilation} {told : Told} {controller : Controller}
    {sent : List Compilation} {progress : Progress}
    (hstanding : Standing actor host accepted told controller sent progress)
    (hopened : next.opened = host.opened) :
    Standing none next accepted told controller sent progress := by
  cases hstanding with
  | idle hattached hgranted _ hbacklog hsent hlater hlength =>
      exact .idle hattached hgranted nofun hbacklog hsent hlater (hlength.trans hopened.symm)
  | beginning hattached hgranted _ hbacklog hsent hlength hbalanced =>
      exact .beginning hattached hgranted nofun hbacklog hsent (hlength.trans hopened.symm)
        (hbalanced.leave (by simp) next)
  | lasting hattached hgranted _ hcurrent hlength hbalanced =>
      exact .lasting hattached hgranted nofun hcurrent (hlength.trans hopened.symm)
        (hbalanced.leave (by simp) next)
  | ending hattached hgranted _ hcurrent hlater hlength hbalanced =>
      exact .ending hattached hgranted nofun hcurrent hlater (hlength.trans hopened.symm)
        (hbalanced.leave (by simp) next)

/-- A change at the actor's side of the runtime link. -/
theorem Accounted.withService (haccounted : Accounted observed) {next : ActorService}
    (hhosted : Hosted next.actor next.host)
    (hopened : observed.session.host.opened ≤ next.host.opened)
    (hserve : ∀ controller sent progress,
      Matched observed.session.actor observed.session.runtime controller sent progress →
      Standing observed.session.actor observed.session.host observed.acceptedBy
        (Told.of observed.notices) controller sent progress →
      ∃ sent progress, Matched next.actor next.link controller sent progress ∧
        Standing next.actor next.host observed.acceptedBy (Told.of observed.notices) controller
          sent progress) :
    Accounted { observed with session := observed.session.withService next } where
  hosted := hhosted
  numbered := fun entry hentry => Nat.lt_of_lt_of_le (haccounted.numbered entry hentry) hopened
  told_isPrefix := haccounted.told_isPrefix
  panel := haccounted.panel
  standing := by
    intro controller hcontroller hlive
    obtain ⟨sent, progress, hmatched, hstanding⟩ := haccounted.standing controller hcontroller hlive
    exact hserve controller sent progress hmatched hstanding

theorem Accounted.stopActor (haccounted : Accounted observed) {actor : Actor}
    (hactor : observed.session.actor = some actor) :
    Accounted
      { observed with session := observed.session.withService observed.session.service.stop } := by
  have hhosted := haccounted.hosted
  rw [hactor] at hhosted
  have hhost : observed.session.service.stop.host = actor.release observed.session.host := by
    simp [Session.service, ActorService.stop, hactor]
  refine haccounted.withService ?_ ?_ ?_
  · rw [hhost]
    exact hhosted.release
  · rw [hhost, actor.opened_release]
  · intro controller sent progress hmatched hstanding
    refine ⟨sent, progress, ⟨hmatched.left, nofun, fun _ => rfl, hmatched.pending⟩, ?_⟩
    rw [hhost]
    exact hstanding.leave (actor.opened_release _)

/-! ## The actor takes a step -/

/-- The actor answers the request that was waiting. -/
theorem Standing.answer {actor : Actor} {host : Host} {accepted : Nat → List Compilation}
    {told : Told} {controller : Controller} {sent : List Compilation} {pending : Pending}
    (hstanding : Standing (some actor) host accepted told controller sent (.asked pending))
    (hhosted : Hosted (some actor) host)
    (hfresh : accepted host.opened = []) :
    ∃ verdict : Verdict,
      (actor.handle host (Controller.requestOf pending)).1 = verdict.packet pending ∧
      Standing (some (actor.handle host (Controller.requestOf pending)).2.1)
        (actor.handle host (Controller.requestOf pending)).2.2 accepted told controller sent
        (.answered pending verdict []) := by
  cases hstanding with
  | idle hattached _ hactor hbacklog hsent _ hlength =>
      obtain rfl := hactor actor rfl
      cases pending with
      | attach =>
          -- the session that is opened is new, and no compilation was accepted in it
          refine ⟨.granted, rfl, .beginning hattached rfl ?_ hbacklog hsent ?_ ?_⟩
          · intro present hpresent
            rw [hlength]
            exact (Option.some.inj hpresent).symm
          · exact congrArg Nat.succ hlength
          · rw [hlength, hfresh]
            refine ⟨[], rfl, fun _ => ?_⟩
            cases hhosted with
            | idle _ _ hmailboxes =>
                simp [Controller.requestOf, Actor.handle, Actor.answer, Actor.attach,
                  Host.openSession, hmailboxes, Assoc.set]
      | detach =>
          exact ⟨.refused .attached .detached, rfl,
            .idle hattached rfl hactor hbacklog hsent rfl hlength⟩
  | beginning _ hgranted => cases hgranted
  | lasting hattached _ hactor hcurrent hlength hbalanced =>
      obtain rfl := hactor actor rfl
      cases pending with
      | attach =>
          exact ⟨.refused .detached .attached, rfl,
            .lasting hattached rfl hactor hcurrent hlength hbalanced⟩
      | detach =>
          refine ⟨.granted, rfl, .ending hattached rfl ?_ hcurrent rfl hlength ?_⟩
          · intro present hpresent
            exact (Option.some.inj hpresent).symm
          · have hleave : Balanced (some .detached) (host.endSession told.finished.length)
                (accepted told.finished.length) told.finished.length _
                (controller.front.backlog ++ (sent ++ [])) := hbalanced.leave (by simp) _
            rwa [List.append_nil] at hleave
  | ending _ hgranted => cases hgranted

/-- The actor reports the first compilation of its mailbox, in front of the reply or behind it. -/
theorem Standing.report {number : Nat} {host : Host} {accepted : Nat → List Compilation}
    {told : Told} {controller : Controller} {sent : List Compilation} {progress : Progress}
    {compilation : Compilation} {waiting : List Compilation}
    (hstanding : Standing (some (.attached number)) host accepted told controller sent progress)
    (hwaiting : host.mailboxes = [(number, compilation :: waiting)])
    (hrequests : progress.requests = []) :
    ∃ sent' progress', progress'.pending = progress.pending ∧ progress'.requests = [] ∧
      sent'.map Progress.frameOf ++ progress'.frames =
        sent.map Progress.frameOf ++ progress.frames ++ [Progress.frameOf compilation] ∧
      Standing (some (.attached number)) { host with mailboxes := [(number, waiting)] }
        accepted told controller sent' progress' := by
  cases hstanding with
  | idle _ _ hactor => exact absurd (hactor _ rfl) (by simp)
  | ending _ _ hactor => exact absurd (hactor _ rfl) (by simp)
  | beginning hattached hgranted hactor hbacklog hsent hlength hbalanced =>
      obtain rfl : number = told.sessions.length := by simpa using hactor _ rfl
      -- the reply that begins the session is on the link
      cases progress with
      | quiet => cases hgranted
      | asked pending => cases hgranted
      | answered pending verdict later =>
          refine ⟨sent, .answered pending verdict (later ++ [compilation]), rfl, rfl, ?_,
            .beginning hattached ((Progress.granted_answered ..).trans hgranted) hactor hbacklog
              hsent hlength ?_⟩
          · simp [Progress.frames]
          · exact hbalanced.report hwaiting
  | lasting hattached hgranted hactor hcurrent hlength hbalanced =>
      obtain rfl : number = told.finished.length := by simpa using hactor _ rfl
      have hreport := hbalanced.report hwaiting
      simp only [List.append_assoc] at hreport
      -- a reply that is still on the link refuses a request
      cases progress with
      | quiet =>
          refine ⟨sent ++ [compilation], .quiet, rfl, rfl, ?_,
            .lasting hattached hgranted hactor hcurrent hlength ?_⟩
          · simp [Progress.frames]
          · simpa [Progress.later] using hreport
      | asked pending => cases hrequests
      | answered pending verdict later =>
          refine ⟨sent, .answered pending verdict (later ++ [compilation]), rfl, rfl, ?_,
            .lasting hattached ((Progress.granted_answered ..).trans hgranted) hactor hcurrent
              hlength hreport⟩
          simp [Progress.frames]

/-- The actor posts a packet after a change at its side of the runtime link. -/
theorem Accounted.post (haccounted : Accounted observed) {actor : Actor} {host : Host}
    {link : Link} {packet : ActorPacket} (hhosted : Hosted (some actor) host)
    (hopened : observed.session.host.opened ≤ host.opened)
    (hleft : link.left = observed.session.runtime.left)
    (hfits : (Frame.encode packet.toJson).utf8ByteSize ≤ link.maxBytes)
    (hserve : ∀ controller sent progress,
      Matched observed.session.actor observed.session.runtime controller sent progress →
      Standing observed.session.actor observed.session.host observed.acceptedBy
        (Told.of observed.notices) controller sent progress →
      ∃ sent progress,
        Matched (some actor) (link.posted [Frame.encode packet.toJson]) controller sent progress ∧
        Standing (some actor) host observed.acceptedBy (Told.of observed.notices) controller sent
          progress) :
    Accounted { observed with
      session := observed.session.withService
        (ActorService.post { actor := some actor, host, link } packet) } := by
  rw [ActorService.post_of_fits hfits]
  split
  · exact haccounted.withService hhosted hopened hserve
  · rename_i hlive
    refine haccounted.withService hhosted.release ?_ ?_
    · exact hopened.trans (Nat.le_of_eq (actor.opened_release host).symm)
    · -- as long as there is a controller, its end of the link is in use
      intro controller sent progress hmatched _
      refine absurd ?_ hlive
      rw [hleft, hmatched.left]
      rfl

/-- The frame that the actor reads is the request. -/
theorem Matched.asked {actor : Actor} {runtime : Link} {controller : Controller}
    {sent : List Compilation} {progress : Progress} {frame : Frame} {rest : List Frame}
    (hmatched : Matched (some actor) runtime controller sent progress)
    (hright : runtime.right = .live (frame :: rest)) :
    ∃ pending, progress = .asked pending ∧
      frame = Frame.encode (Controller.requestOf pending).toJson ∧ rest = [] := by
  have hrequests := (hmatched.right rfl).symm.trans hright
  cases progress with
  | quiet => simp [Progress.requests] at hrequests
  | answered => simp [Progress.requests] at hrequests
  | asked pending =>
      simp only [Progress.requests, Endpoint.live.injEq, List.cons.injEq] at hrequests
      exact ⟨pending, rfl, hrequests.1.symm, hrequests.2.symm⟩

/-- The actor reads a request and posts its answer. -/
theorem Accounted.answer (haccounted : Accounted observed) {actor : Actor} {frame : Frame}
    {rest : List Frame} (hactor : observed.session.actor = some actor)
    (hright : observed.session.runtime.right = .live (frame :: rest))
    (hfits : (Frame.encode
      (ActorService.reply actor observed.session.host frame).1.toJson).utf8ByteSize ≤
        observed.session.runtime.maxBytes) :
    Accounted { observed with
      session := observed.session.withService (ActorService.post
        { actor := some (ActorService.reply actor observed.session.host frame).2.1
          host := (ActorService.reply actor observed.session.host frame).2.2
          link := { observed.session.runtime with right := .live rest } }
        (ActorService.reply actor observed.session.host frame).1) } := by
  have hhosted := haccounted.hosted
  rw [hactor] at hhosted
  obtain ⟨hreplied, hopened⟩ := hhosted.reply frame
  refine haccounted.post hreplied hopened rfl hfits ?_
  intro controller sent progress hmatched hstanding
  rw [hactor] at hmatched hstanding
  obtain ⟨pending, rfl, rfl, rfl⟩ := hmatched.asked hright
  have hfresh : observed.acceptedBy observed.session.host.opened = [] :=
    haccounted.acceptedBy_eq_nil (Nat.le_refl _)
  obtain ⟨verdict, hpacket, hanswer⟩ := hstanding.answer hhosted hfresh
  rw [ActorService.reply_request, hpacket]
  refine ⟨sent, .answered pending verdict [], ⟨?_, fun _ => rfl, by simp, hmatched.pending⟩, hanswer⟩
  have hleft : observed.session.runtime.left = .live (sent.map Progress.frameOf ++ []) :=
    hmatched.left
  rw [Link.left_posted, hleft, List.append_nil]
  rfl

/-- The actor posts the first compilation of its mailbox. -/
theorem Accounted.report (haccounted : Accounted observed) {number : Nat}
    {compilation : Compilation} {waiting : List Compilation}
    (hactor : observed.session.actor = some (.attached number))
    (hright : observed.session.runtime.right = .live [])
    (hwaiting : observed.session.host.mailboxes = [(number, compilation :: waiting)])
    (hfits : (Frame.encode (Actor.report compilation).toJson).utf8ByteSize ≤
      observed.session.runtime.maxBytes) :
    Accounted { observed with
      session := observed.session.withService (ActorService.post
        { actor := some (.attached number)
          host := { observed.session.host with mailboxes := [(number, waiting)] }
          link := observed.session.runtime } (Actor.report compilation)) } := by
  have hhosted := haccounted.hosted
  rw [hactor] at hhosted
  refine haccounted.post (hhosted.setMailbox waiting) (Nat.le_refl _) rfl hfits ?_
  intro controller sent progress hmatched hstanding
  rw [hactor] at hmatched hstanding
  have hrequests : progress.requests = [] :=
    Endpoint.live.inj ((hmatched.right rfl).symm.trans hright)
  obtain ⟨sent', progress', hpending, hquiet, hframes, hreport⟩ :=
    hstanding.report hwaiting hrequests
  refine ⟨sent', progress', ⟨?_, fun _ => ?_, by simp, ?_⟩, hreport⟩
  · rw [Link.left_posted, hmatched.left, hframes]
    rfl
  · rw [hquiet]
    exact hright
  · rw [hpending]
    exact hmatched.pending

/-- **Every step of the actor keeps every compilation accounted for.** -/
theorem Accounted.stepActor (haccounted : Accounted observed) {next : ActorService}
    (hfits : observed.session.fits (.step .actor))
    (hstep : observed.session.service.step? = some next) :
    Accounted { observed with session := observed.session.withService next } := by
  cases hactor : observed.session.actor with
  | none => simp [ActorService.step?, Session.service, hactor] at hstep
  | some actor =>
      rw [Session.service, hactor] at hstep
      simp only [Session.fits, ActorService.packet?, Session.service, hactor, Option.bind_some]
        at hfits
      cases ActorService.turn_of_step? hstep with
      | stopped =>
          have hstop := haccounted.stopActor hactor
          rw [Session.service, hactor] at hstop
          exact hstop
      | answered hright =>
          simp only [Link.next, Link.endpoint, hright, Option.all_some, decide_eq_true_eq] at hfits
          exact haccounted.answer hactor hright hfits
      | reported hright hlive htake =>
          have hnext : observed.session.runtime.next .right = .waiting := by
            simp [Link.next, Link.endpoint, Link.isLive, Side.other, hright, hlive]
          simp only [hnext, htake, Option.map_some, Option.all_some, decide_eq_true_eq] at hfits
          have hhosted := haccounted.hosted
          rw [hactor] at hhosted
          obtain ⟨number, waiting, rfl, hwaiting, rfl⟩ := hhosted.take?_eq_some htake
          exact haccounted.report hactor hright hwaiting hfits

end CompileWatch
