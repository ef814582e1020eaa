import CompileWatch.Proofs.Actor.Hosted
import CompileWatch.Proofs.Actor.Log

/-!
# What the actor posts

The packets that the actor posts are replies and reports, mixed.  The replies answer the
frames that it took, one by one.  The reports of a session stand behind the reply that
began it and in front of the reply that ends it, and they are the compilations that were
accepted in the session, up to those that still wait in the mailbox or were dropped with
it.  When the other end of the link is gone, the actor stops and leaves the host as it
was before its first session.
-/

namespace CompileWatch

/-! ## The state of the host -/

/-- An attached actor has the only session that is left on the host. -/
inductive Sole : Option Actor → Host → Prop
  | attached {host : Host} {session : Nat} : host.live = 1 → Sole (some (.attached session)) host
  | idle {actor : Option Actor} {host : Host} :
      (∀ present, actor = some present → present = .detached) → host.Clear → Sole actor host

namespace Sole

variable {actor : Actor} {host : Host}

theorem clear (hsole : Sole none host) : host.Clear := by
  cases hsole with
  | idle _ hclear => exact hclear

theorem setMailboxes {actor : Option Actor} (hsole : Sole actor host)
    (mailboxes : Assoc Nat (List Compilation)) : Sole actor { host with mailboxes } := by
  cases hsole with
  | attached hlive => exact .attached hlive
  | idle hactor hclear =>
      exact .idle hactor ⟨hclear.hook, hclear.enabled, hclear.hasDebuggees, hclear.live⟩

theorem openSession (hsole : Sole (some .detached) host) :
    Sole (some (.attached host.opened)) host.openSession.2 := by
  cases hsole with
  | idle _ hclear => exact .attached (congrArg Nat.succ hclear.live)

theorem endSession {session : Nat} (hsole : Sole (some (.attached session)) host)
    {left : Option Actor} (hleft : ∀ present, left = some present → present = .detached) :
    Sole left (host.endSession session) := by
  cases hsole with
  | attached hlive => exact .idle hleft ⟨rfl, rfl, rfl, by rw [Host.endSession, hlive]⟩
  | idle hactor => exact absurd (hactor _ rfl) (by simp)

theorem release (hsole : Sole (some actor) host) : Sole none (actor.release host) := by
  cases actor with
  | attached session => exact hsole.endSession nofun
  | detached =>
      cases hsole with
      | idle _ hclear => exact .idle nofun hclear

theorem reply (hsole : Sole (some actor) host) (frame : Frame) :
    Sole (some (ActorService.reply actor host frame).2.1)
      (ActorService.reply actor host frame).2.2 := by
  rw [ActorService.reply]
  cases Frame.decode ActorRequest.ofJson? frame with
  | error error => exact hsole
  | ok request =>
      cases request <;> cases actor
      case attach.detached => exact hsole.openSession
      case detach.attached session =>
        exact hsole.endSession fun present hpresent => (Option.some.inj hpresent).symm
      all_goals exact hsole

end Sole

/-! ## Replies -/

theorem ActorService.reply_eq_answerTo (actor : Actor) (host : Host) (frame : Frame) :
    (reply actor host frame).1 = actor.state.answerTo frame ∧
      (reply actor host frame).2.1.state = actor.state.after (actor.state.answerTo frame) := by
  rw [reply, AttachState.answerTo]
  cases Frame.decode ActorRequest.ofJson? frame with
  | error error => exact ⟨rfl, rfl⟩
  | ok request => cases request <;> cases actor <;> exact ⟨rfl, rfl⟩

theorem AttachState.isReply_answerTo (state : AttachState) (frame : Frame) :
    (state.answerTo frame).isReply := by
  rw [answerTo]
  cases Frame.decode ActorRequest.ofJson? frame with
  | error error => rfl
  | ok request => cases request <;> cases state <;> rfl

/-! ## Sessions -/

theorem Told.ofPackets_append (packets : List ActorPacket) (packet : ActorPacket) :
    ofPackets (packets ++ [packet]) =
      (packet.notice?.map (ofPackets packets).hear).getD (ofPackets packets) := by
  cases hnotice : packet.notice? with
  | none => simp [ofPackets, hnotice]
  | some notice => simp [ofPackets, of, hnotice]

/-- A packet begins a session, ends it, leaves all sessions as they are, or adds to the one that has
begun last. -/
theorem Told.isPrefix_of_packet {packets : List ActorPacket} {all : Nat → List Announcement}
    (htold : ∀ (number : Nat) (list : List Announcement),
      (ofPackets packets).sessions[number]? = some list → list <+: all number)
    {packet : ActorPacket}
    (hpacket : ∀ scripts json, packet = .compilation scripts json →
      ∃ list, (ofPackets packets).current = some list ∧
        list ++ [.of ⟨scripts, json⟩] <+: all (ofPackets packets).finished.length)
    (number : Nat) (list : List Announcement)
    (hlist : (ofPackets (packets ++ [packet])).sessions[number]? = some list) :
    list <+: all number := by
  rw [ofPackets_append] at hlist
  cases packet with
  | hello | wrongState | protocolError => exact htold number list hlist
  | state current =>
      cases current with
      | attached => exact isPrefix_of_begun htold number list hlist
      | detached =>
          simp only [ActorPacket.notice?, Option.map_some, Option.getD_some, hear, sessions,
            Option.toList_none, List.append_nil] at hlist
          exact htold number list hlist
  | compilation scripts json =>
      obtain ⟨told, hcurrent, htold'⟩ := hpacket scripts json rfl
      simp only [ActorPacket.notice?, Option.map_some, Option.getD_some, hear, hcurrent] at hlist
      exact isPrefix_of_recorded htold htold' number list hlist

/-- What the actor has told of its sessions on a host where some were opened earlier. -/
inductive Reporting (earlier : Nat) (host : Host) (accepted : Nat → List Compilation)
    (told : Told) : Actor → Prop
  | detached : told.current = none → host.opened = earlier + told.sessions.length →
      Reporting earlier host accepted told .detached
  /-- What was accepted has been reported, or it waits in the mailbox. -/
  | attached {session : Nat} {list : List Announcement} {waiting : List Compilation} :
      session = earlier + told.finished.length → told.current = some list →
      host.mailboxes = [(session, waiting)] →
      list ++ waiting.map .of = (accepted session).map .of →
      Reporting earlier host accepted told (.attached session)

namespace Reporting

variable {earlier session : Nat} {host : Host} {accepted : Nat → List Compilation} {told : Told}

/-- The session that begins is new, and no compilation was accepted in it. -/
theorem begin (hreporting : Reporting earlier host accepted told .detached)
    (hhosted : Hosted (some .detached) host) (hfresh : accepted host.opened = []) :
    Reporting earlier host.openSession.2 accepted (told.hear .attached)
      (.attached host.opened) := by
  cases hreporting with
  | detached hcurrent hopened =>
      cases hhosted with
      | idle _ _ hmailboxes =>
          refine @attached _ _ _ _ _ [] [] hopened rfl ?_ ?_
          · simp [Host.openSession, hmailboxes, Assoc.set]
          · rw [hfresh]
            rfl

theorem finish (hreporting : Reporting earlier host accepted told (.attached session))
    (hhosted : Hosted (some (.attached session)) host) :
    Reporting earlier (host.endSession session) accepted (told.hear .detached)
      .detached := by
  have hopened := hhosted.exists_mailbox.1
  cases hreporting with
  | attached hsession hcurrent _ _ =>
      refine .detached rfl ?_
      have hlength : (told.hear .detached).sessions.length = told.finished.length + 1 := by
        rw [← Told.length_sessions hcurrent]
        simp [Told.hear, Told.sessions]
      rw [hlength, ← Nat.add_assoc, ← hsession]
      exact hopened

/-- The compilation that has waited longest is reported. -/
theorem report {compilation : Compilation} {waiting : List Compilation}
    (hreporting : Reporting earlier host accepted told (.attached session))
    (hwaiting : host.mailboxes = [(session, compilation :: waiting)]) :
    Reporting earlier { host with mailboxes := [(session, waiting)] } accepted
      (told.hear (.recorded (.of compilation))) (.attached session) := by
  cases hreporting with
  | @attached _ list earliest hsession hcurrent hmailboxes haccepted =>
      obtain rfl : earliest = compilation :: waiting := by
        simpa using hmailboxes.symm.trans hwaiting
      have hheard : told.hear (.recorded (.of compilation)) =
          ⟨told.finished, some (list ++ [.of compilation])⟩ := by
        rw [Told.hear, hcurrent]
        rfl
      rw [hheard]
      refine .attached hsession rfl rfl ?_
      rw [← haccepted]
      simp

/-- One more compilation is accepted. -/
theorem compile {waiting : List Compilation}
    (hreporting : Reporting earlier host accepted told (.attached session))
    (hwaiting : host.mailboxes = [(session, waiting)]) (compilation : Compilation) :
    Reporting earlier { host with mailboxes := [(session, waiting ++ [compilation])] }
      (fun other => accepted other ++ if other = session then [compilation] else []) told
      (.attached session) := by
  cases hreporting with
  | @attached _ list earliest hsession hcurrent hmailboxes haccepted =>
      obtain rfl : earliest = waiting := by
        simpa using hmailboxes.symm.trans hwaiting
      refine .attached hsession hcurrent rfl ?_
      simp [← haccepted]

theorem exists_current
    (hreporting : Reporting earlier host accepted told (.attached session)) :
    ∃ list, told.current = some list := by
  cases hreporting with
  | attached _ hcurrent _ _ => exact ⟨_, hcurrent⟩

/-- What was reported last was accepted before what still waits. -/
theorem isPrefix {list : List Announcement}
    (hreporting : Reporting earlier host accepted told (.attached session))
    (hcurrent : told.current = some list) :
    session = earlier + told.finished.length ∧ list <+: (accepted session).map .of := by
  cases hreporting with
  | attached hsession hlist _ haccepted =>
      obtain rfl := Option.some.inj (hlist.symm.trans hcurrent)
      exact ⟨hsession, _, haccepted⟩

/-- A reply begins a session, ends it, or leaves it as it is. -/
theorem answer {packets : List ActorPacket} {actor : Actor}
    (hreporting : Reporting earlier host accepted (.ofPackets packets) actor)
    (hhosted : Hosted (some actor) host) (hfresh : accepted host.opened = []) (frame : Frame) :
    Reporting earlier (ActorService.reply actor host frame).2.2 accepted
      (.ofPackets (packets ++ [(ActorService.reply actor host frame).1]))
      (ActorService.reply actor host frame).2.1 := by
  rw [ActorService.reply, Told.ofPackets_append]
  cases Frame.decode ActorRequest.ofJson? frame with
  | error error => exact hreporting
  | ok request =>
      cases request <;> cases actor
      case attach.detached => exact hreporting.begin hhosted hfresh
      case detach.attached => exact hreporting.finish hhosted
      all_goals exact hreporting

end Reporting

/-! ## The log and the service -/

/-- What the log has in common with the actor as long as there is somebody to read its packets. -/
structure Answering (earlier : Nat) (logged : LoggedService) (packets : List ActorPacket) :
    Prop where
  replies : packets.filter ActorPacket.isReply = AttachState.detached.answers logged.taken
  working : ∃ actor, logged.service.actor = some actor ∧
    AttachState.detached.afterAll logged.taken = actor.state ∧
    Reporting earlier logged.service.host logged.acceptedBy (.ofPackets packets) actor

/-- The packets were posted, and they are the right ones. -/
structure Served (earlier : Nat) (logged : LoggedService) (packets : List ActorPacket) :
    Prop where
  posted : logged.posted = packets.map fun packet => Frame.encode packet.toJson
  hosted : Hosted logged.service.actor logged.service.host
  sole : Sole logged.service.actor logged.service.host
  right : logged.service.actor.isSome → logged.service.link.right.isLive
  numbered : ∀ entry ∈ logged.accepted, entry.1 < logged.service.host.opened
  /-- No compilation is reported outside a session. -/
  reported : ∀ (place : Nat) (scripts : List Script) (json : String),
    packets[place]? = some (.compilation scripts json) →
      (Told.ofPackets (packets.take place)).current.isSome
  told_isPrefix : ∀ (number : Nat) (list : List Announcement),
    (Told.ofPackets packets).sessions[number]? = some list →
      list <+: (logged.acceptedBy (earlier + number)).map .of
  answering : logged.service.link.left.isLive → Answering earlier logged packets

namespace Served

variable {earlier : Nat} {logged : LoggedService} {packets : List ActorPacket} {actor : Actor}
  {host : Host} {link : Link}

/-- Sessions that were not opened have no compilations. -/
theorem acceptedBy_eq_nil (hserved : Served earlier logged packets) {number : Nat}
    (hnumber : logged.service.host.opened ≤ number) : logged.acceptedBy number = [] := by
  rw [LoggedService.acceptedBy, List.map_eq_nil_iff, List.filter_eq_nil_iff]
  intro entry hentry
  have := hserved.numbered entry hentry
  simp
  omega

/-! ### Compilations -/

theorem compile (hserved : Served earlier logged packets) (compilation : Compilation) :
    Served earlier (logged.move (.compile compilation)) packets := by
  by_cases hactor : ∃ session, logged.service.actor = some (.attached session)
  · obtain ⟨session, hactor⟩ := hactor
    have hhosted := hserved.hosted
    rw [hactor] at hhosted
    obtain ⟨hopened, waiting, hwaiting⟩ := hhosted.exists_mailbox
    obtain ⟨hhook, hcompile⟩ := hhosted.compile?_eq hwaiting compilation
    have hmove : logged.move (.compile compilation) =
        { service := { logged.service with
            host := { logged.service.host with
              mailboxes := [(session, waiting ++ [compilation])] } }
          taken := logged.taken
          posted := logged.posted
          accepted := logged.accepted ++ [(session, compilation)] } := by
      simp [LoggedService.move, ActorService.move, ActorService.takenIn, ActorService.postedIn,
        ActorService.acceptedIn, hhook, hcompile]
    have haccepted : (logged.move (.compile compilation)).acceptedBy = fun other =>
        logged.acceptedBy other ++ if other = session then [compilation] else [] := by
      rw [hmove]
      funext other
      by_cases h : other = session
      · simp [LoggedService.acceptedBy, h]
      · simp [LoggedService.acceptedBy, h, Ne.symm h]
    rw [hmove] at haccepted ⊢
    constructor
    case posted => exact hserved.posted
    case hosted =>
      rw [hactor]
      exact hhosted.setMailbox _
    case sole => exact hserved.sole.setMailboxes _
    case right => exact hserved.right
    case numbered =>
      intro entry hentry
      rcases List.mem_append.mp hentry with hentry | hentry
      · exact hserved.numbered entry hentry
      · rw [List.mem_singleton.mp hentry]
        exact hopened ▸ Nat.lt_succ_self session
    case reported => exact hserved.reported
    case told_isPrefix =>
      intro number list hlist
      refine (hserved.told_isPrefix number list hlist).trans ?_
      rw [haccepted, List.map_append]
      exact List.prefix_append _ _
    case answering =>
      intro hlive
      obtain ⟨hreplies, present, hpresent, hstate, hreporting⟩ := hserved.answering hlive
      obtain rfl := Option.some.inj (hactor.symm.trans hpresent)
      refine ⟨hreplies, _, hactor, hstate, ?_⟩
      rw [haccepted]
      exact hreporting.compile hwaiting compilation
  · -- without a session, the host accepts nothing
    have hcompile := hserved.hosted.compile?_eq_none
      (fun session h => hactor ⟨session, h⟩) compilation
    have hmove : logged.move (.compile compilation) = logged := by
      cases hhook : logged.service.host.hook <;>
        simp [LoggedService.move, ActorService.move, ActorService.takenIn, ActorService.postedIn,
          ActorService.acceptedIn, hhook, hcompile]
    rw [hmove]
    exact hserved

/-! ### Steps -/

theorem move_step {next : ActorService} {frames : List Frame}
    (hstep : logged.service.step? = some next)
    (hleft : next.link.left = logged.service.link.left.push frames) :
    logged.move .step =
      { service := next
        taken := logged.taken ++ logged.service.request?.toList
        posted := logged.posted ++ if logged.service.link.left.isLive then frames else []
        accepted := logged.accepted } := by
  simp only [LoggedService.move, ActorService.move, ActorService.takenIn, ActorService.postedIn,
    ActorService.acceptedIn, hstep, Option.getD_some, Link.queue, Link.endpoint, hleft,
    Endpoint.queue_push, List.append_nil]

theorem stop (hserved : Served earlier logged packets) (hhosted : Hosted (some actor) host)
    (hsole : Sole (some actor) host) (hopened : logged.service.host.opened ≤ host.opened)
    (hgone : link.left.isLive = false) (taken : List Frame) :
    Served earlier
      { service := ActorService.stop { actor := some actor, host, link }
        taken
        posted := logged.posted
        accepted := logged.accepted } packets where
  posted := hserved.posted
  hosted := hhosted.release
  sole := hsole.release
  right := nofun
  numbered := by
    intro entry hentry
    have hlt := Nat.lt_of_lt_of_le (hserved.numbered entry hentry) hopened
    exact Nat.lt_of_lt_of_eq hlt (actor.opened_release host).symm
  reported := hserved.reported
  told_isPrefix := hserved.told_isPrefix
  answering := by
    intro hlive
    exact absurd (hgone.symm.trans hlive) (by simp)

/-- The actor posts a packet to somebody who can read it. -/
theorem post (hserved : Served earlier logged packets) (hhosted : Hosted (some actor) host)
    (hsole : Sole (some actor) host) (hopened : logged.service.host.opened ≤ host.opened)
    (hright : link.right.isLive) (taken : List Frame) (packet : ActorPacket)
    (hpacket : ∀ scripts json, packet = .compilation scripts json →
      ∃ list, (Told.ofPackets packets).current = some list ∧ list ++ [.of ⟨scripts, json⟩] <+:
        (logged.acceptedBy (earlier + (Told.ofPackets packets).finished.length)).map .of)
    (hreplies : (packets ++ [packet]).filter ActorPacket.isReply =
      AttachState.detached.answers taken)
    (hstate : AttachState.detached.afterAll taken = actor.state)
    (hreporting :
      Reporting earlier host logged.acceptedBy (.ofPackets (packets ++ [packet])) actor) :
    Served earlier
      { service := { actor := some actor, host, link }
        taken
        posted := logged.posted ++ [Frame.encode packet.toJson]
        accepted := logged.accepted } (packets ++ [packet]) where
  posted := by
    rw [hserved.posted]
    simp
  hosted := hhosted
  sole := hsole
  right := fun _ => hright
  numbered := fun entry hentry => Nat.lt_of_lt_of_le (hserved.numbered entry hentry) hopened
  reported := by
    intro place scripts json hplace
    by_cases holder : place < packets.length
    · rw [List.getElem?_append_left holder] at hplace
      rw [List.take_append_of_le_length (Nat.le_of_lt holder)]
      exact hserved.reported place scripts json hplace
    · -- the place is the last one
      rw [List.getElem?_append_right (Nat.le_of_not_lt holder), List.getElem?_singleton] at hplace
      split at hplace
      · obtain ⟨list, hcurrent, -⟩ := hpacket scripts json (Option.some.inj hplace)
        obtain rfl : place = packets.length := by omega
        rw [List.take_left, hcurrent]
        rfl
      · cases hplace
  told_isPrefix := Told.isPrefix_of_packet hserved.told_isPrefix hpacket
  answering := fun _ => ⟨hreplies, actor, rfl, hstate, hreporting⟩

/-- The actor answers a frame, or it stops because nobody can read the answer. -/
theorem answer (hserved : Served earlier logged packets) {frame : Frame} {rest : List Frame}
    (hactor : logged.service.actor = some actor)
    (hright : logged.service.link.right = .live (frame :: rest))
    (hfits : logged.service.fits .step)
    (hstep : logged.service.step? = some (ActorService.post
      { actor := some (ActorService.reply actor logged.service.host frame).2.1
        host := (ActorService.reply actor logged.service.host frame).2.2
        link := { logged.service.link with right := .live rest } }
      (ActorService.reply actor logged.service.host frame).1)) :
    ∃ packets, Served earlier (logged.move .step) packets := by
  have hhosted := hserved.hosted
  have hsole := hserved.sole
  rw [hactor] at hhosted hsole
  obtain ⟨hreplied, hopened⟩ := hhosted.reply frame
  have hrequest : logged.service.request? = some frame := by
    simp [ActorService.request?, hactor, Link.next, Link.endpoint, hright]
  simp only [ActorService.fits, ActorService.packet?, hactor, Option.bind_some, Link.next,
    Link.endpoint, hright, Option.all_some, decide_eq_true_eq] at hfits
  rw [ActorService.post_of_fits (by exact hfits)] at hstep
  by_cases hlive : logged.service.link.left.isLive
  · obtain ⟨hreplies, present, hpresent, hstate, hreporting⟩ := hserved.answering hlive
    obtain rfl := Option.some.inj (hactor.symm.trans hpresent)
    obtain ⟨hpacket, hafter⟩ := ActorService.reply_eq_answerTo actor logged.service.host frame
    rw [if_pos hlive] at hstep
    rw [move_step hstep (Link.left_posted _ _), if_pos hlive, hrequest]
    refine ⟨_, hserved.post hreplied (hsole.reply frame) hopened rfl _ _ ?_ ?_ ?_ ?_⟩
    · intro scripts json hcompilation
      rw [hpacket] at hcompilation
      have hreply := actor.state.isReply_answerTo frame
      rw [hcompilation] at hreply
      cases hreply
    · rw [Option.toList_some, AttachState.answers_append, hstate, List.filter_append, hreplies,
        hpacket]
      simp [actor.state.isReply_answerTo frame]
    · rw [Option.toList_some, AttachState.afterAll_append, hstate, hafter]
    · exact hreporting.answer hhosted (hserved.acceptedBy_eq_nil (Nat.le_refl _)) frame
  · rw [if_neg hlive] at hstep
    rw [move_step hstep (Endpoint.push_nil _).symm, if_neg hlive, List.append_nil]
    exact ⟨packets, hserved.stop hreplied (hsole.reply frame) hopened (by simpa using hlive) _⟩

theorem report (hserved : Served earlier logged packets) {compilation : Compilation} {next : Host}
    (hactor : logged.service.actor = some actor) (hright : logged.service.link.right = .live [])
    (hlive : logged.service.link.left.isLive)
    (htake : actor.take? logged.service.host = some (compilation, next))
    (hfits : logged.service.fits .step)
    (hstep : logged.service.step? = some (ActorService.post
      { actor := some actor, host := next, link := logged.service.link }
      (Actor.report compilation))) :
    ∃ packets, Served earlier (logged.move .step) packets := by
  have hhosted := hserved.hosted
  have hsole := hserved.sole
  obtain ⟨hreplies, present, hpresent, hstate, hreporting⟩ := hserved.answering hlive
  obtain rfl := Option.some.inj (hactor.symm.trans hpresent)
  rw [hactor] at hhosted hsole
  obtain ⟨session, waiting, rfl, hwaiting, rfl⟩ := hhosted.take?_eq_some htake
  have hnext : logged.service.link.next .right = .waiting := by
    simp [Link.next, Link.endpoint, Link.isLive, Side.other, hright, hlive]
  have hrequest : logged.service.request? = none := by
    simp [ActorService.request?, hnext]
  simp only [ActorService.fits, ActorService.packet?, hactor, Option.bind_some, hnext, htake,
    Option.map_some, Option.all_some, decide_eq_true_eq] at hfits
  rw [ActorService.post_of_fits (by exact hfits), if_pos hlive] at hstep
  rw [move_step hstep (Link.left_posted _ _), if_pos hlive, hrequest, Option.toList_none,
    List.append_nil]
  have hreport := hreporting.report hwaiting
  have htold : Told.ofPackets (packets ++ [Actor.report compilation]) =
      (Told.ofPackets packets).hear (.recorded (.of compilation)) := Told.ofPackets_append ..
  rw [← htold] at hreport
  refine ⟨_, hserved.post (hhosted.setMailbox waiting) (hsole.setMailboxes _) (Nat.le_refl _) ?_ _ _
    ?_ ?_ hstate hreport⟩
  · rw [Link.posted, hright]
    rfl
  · intro scripts json hcompilation
    obtain ⟨rfl, rfl⟩ := ActorPacket.compilation.inj hcompilation
    obtain ⟨list, hcurrent⟩ := hreporting.exists_current
    rw [htold, Told.hear, hcurrent] at hreport
    obtain ⟨hsession, hprefix⟩ := hreport.isPrefix rfl
    rw [hsession] at hprefix
    exact ⟨list, hcurrent, hprefix⟩
  · rw [List.filter_append, hreplies]
    simp [Actor.report, ActorPacket.isReply]

theorem step (hserved : Served earlier logged packets) (hfits : logged.service.fits .step) :
    ∃ packets, Served earlier (logged.move .step) packets := by
  rcases logged with ⟨⟨_ | actor, host, link⟩, taken, posted, accepted⟩
  · -- there is no actor any more, and nothing happens
    have hmove : LoggedService.move ⟨⟨none, host, link⟩, taken, posted, accepted⟩ .step =
        ⟨⟨none, host, link⟩, taken, posted, accepted⟩ := by
      simp [LoggedService.move, ActorService.move, ActorService.takenIn, ActorService.postedIn,
        ActorService.acceptedIn, ActorService.request?, ActorService.step?]
    rw [hmove]
    exact ⟨packets, hserved⟩
  cases hstep : ActorService.step? { actor := some actor, host, link } with
  | none =>
      have hrequest : ActorService.request? { actor := some actor, host, link } = none := by
        cases hnext : link.next .right with
        | frame frame after => simp [ActorService.step?, hnext] at hstep
        | closed | waiting => simp [ActorService.request?, hnext]
      have hmove : LoggedService.move ⟨⟨some actor, host, link⟩, taken, posted, accepted⟩ .step =
          ⟨⟨some actor, host, link⟩, taken, posted, accepted⟩ := by
        simp [LoggedService.move, ActorService.move, ActorService.takenIn, ActorService.postedIn,
          ActorService.acceptedIn, hrequest, hstep]
      rw [hmove]
      exact ⟨packets, hserved⟩
  | some next =>
      cases ActorService.turn_of_step? hstep with
      | answered hright => exact hserved.answer rfl hright hfits hstep
      | reported hright hlive htake => exact hserved.report rfl hright hlive htake hfits hstep
      | stopped hgone =>
          have hleft : link.left.isLive = false := by
            rcases hgone with ⟨-, hleft⟩ | hright
            · exact hleft
            · have hopen : link.right.isLive := hserved.right rfl
              rw [hright] at hopen
              cases hopen
          have hmoved := @move_step ⟨⟨some actor, host, link⟩, taken, posted, accepted⟩ _ [] hstep
            (Endpoint.push_nil _).symm
          rw [hmoved]
          rw [ite_self, List.append_nil]
          exact ⟨packets, hserved.stop hserved.hosted hserved.sole (Nat.le_refl _) hleft _⟩

theorem move (hserved : Served earlier logged packets) (move : ServiceMove)
    (hfits : logged.service.fits move) : ∃ packets, Served earlier (logged.move move) packets := by
  cases move with
  | step => exact hserved.step hfits
  | compile compilation => exact ⟨packets, hserved.compile compilation⟩
  | peer act =>
      obtain ⟨hleft, hright⟩ := logged.service.link.isLive_act act
      have hmove : logged.move (.peer act) =
          { logged with
            service := { logged.service with link := logged.service.link.act .left act } } := by
        simp [LoggedService.move, ActorService.move, ActorService.takenIn, ActorService.postedIn,
          ActorService.acceptedIn]
      rw [hmove]
      refine ⟨packets, hserved.posted, hserved.hosted, hserved.sole, ?_, hserved.numbered,
        hserved.reported, hserved.told_isPrefix, ?_⟩
      · intro hactor
        rw [hright]
        exact hserved.right hactor
      · intro hlive
        obtain ⟨hreplies, hworking⟩ := hserved.answering (hleft hlive)
        exact ⟨hreplies, hworking⟩

theorem run (hserved : Served earlier logged packets) (moves : List ServiceMove)
    (hfits : logged.service.runFits moves) :
    ∃ packets, Served earlier (logged.run moves) packets := by
  induction moves generalizing logged packets with
  | nil => exact ⟨packets, hserved⟩
  | cons first rest ih =>
      rw [ActorService.runFits, Bool.and_eq_true] at hfits
      obtain ⟨packets, hserved⟩ := hserved.move first hfits.1
      exact ih hserved hfits.2

theorem fresh (earlier maxBytes : Nat) :
    Served earlier { service := ActorService.fresh earlier maxBytes } [] where
  posted := rfl
  hosted := .idle (fun _ hpresent => (Option.some.inj hpresent).symm) rfl rfl
  sole := .idle (fun _ hpresent => (Option.some.inj hpresent).symm) ⟨rfl, rfl, rfl, rfl⟩
  right := fun _ => rfl
  numbered := by simp
  reported := by simp
  told_isPrefix := by simp [Told.ofPackets, Told.of, Told.sessions]
  answering := fun _ => ⟨rfl, .detached, rfl, rfl, .detached rfl rfl⟩

end Served

/-! ## The end of the service -/

namespace ActorService

theorem post_of_gone {service : ActorService} (hgone : service.link.left.isLive = false)
    (packet : ActorPacket) : service.post packet = service ∨ service.post packet = service.stop := by
  cases hleft : service.link.left with
  | live queue => simp [hleft, Endpoint.isLive] at hgone
  | dropped =>
      rw [post, Link.post]
      by_cases hlong : service.link.maxBytes < (Frame.encode packet.toJson).utf8ByteSize
      · rw [if_pos hlong]
        exact .inl rfl
      · rw [if_neg hlong]
        simp [Side.other, Link.endpoint, hleft]

/-- The other end of the link is gone, and the actor, if it is still there, has fewer frames to read
than the bound says. -/
structure Leaving (bound : Nat) (service : ActorService) : Prop where
  left : service.link.left.isLive = false
  sole : Sole service.actor service.host
  right : service.actor.isSome →
    service.link.right.isLive ∧ (service.link.queue .right).length < bound

theorem Leaving.stop {bound : Nat} {actor : Actor} {host : Host} {link : Link}
    (hleft : link.left.isLive = false) (hsole : Sole (some actor) host) :
    Leaving bound (stop { actor := some actor, host, link }) where
  left := hleft
  sole := hsole.release
  right := by
    intro hactor
    cases hactor

/-- A step ends the service or uses up a frame. -/
theorem Leaving.step {bound : Nat} {service next : ActorService}
    (hleaving : Leaving (bound + 1) service) (hstep : service.step? = some next) :
    Leaving bound next := by
  rcases service with ⟨_ | actor, host, link⟩
  · cases hstep
  obtain ⟨hleft, hsole, hright⟩ := hleaving
  obtain ⟨hopen, hlength⟩ := hright rfl
  cases turn_of_step? hstep with
  | @answered frame rest hqueue =>
      have hreplied := hsole.reply frame
      rcases @post_of_gone
        { actor := some (reply actor host frame).2.1
          host := (reply actor host frame).2.2
          link := { link with right := .live rest } } hleft (reply actor host frame).1
        with hpost | hpost
      · rw [hpost]
        simp only [Link.queue, Link.endpoint, hqueue, Endpoint.queue, List.length_cons] at hlength
        refine ⟨hleft, hreplied, ?_⟩
        intro _
        refine ⟨rfl, ?_⟩
        simp only [Link.queue, Link.endpoint, Endpoint.queue]
        omega
      · rw [hpost]
        exact .stop hleft hreplied
  | reported _ hlive => exact absurd (hleft.symm.trans hlive) (by simp)
  | stopped => exact .stop hleft hsole

/-- The actor does not wait for anything when there is nobody at the other end. -/
theorem Leaving.actor_eq_none {bound : Nat} {service : ActorService}
    (hleaving : Leaving bound service) (hblocked : service.step? = none) : service.actor = none := by
  rcases service with ⟨_ | actor, host, link⟩
  · rfl
  · cases hnext : link.next .right with
    | frame | closed => simp [step?, hnext] at hblocked
    | waiting =>
        have hlive : link.left.isLive := (Link.next_eq_waiting hnext).2
        exact absurd (hleaving.left.symm.trans hlive) (by simp)

theorem Leaving.untilBlocked {bound : Nat} {service : ActorService}
    (hleaving : Leaving bound service) :
    (untilBlocked step? bound service).actor = none ∧
      (CompileWatch.untilBlocked step? bound service).host.Clear := by
  induction bound generalizing service with
  | zero =>
      have hactor : service.actor = none := by
        rw [← Option.not_isSome_iff_eq_none]
        intro hpresent
        exact absurd (hleaving.right hpresent).2 (Nat.not_lt_zero _)
      have hsole := hleaving.sole
      rw [hactor] at hsole
      exact ⟨hactor, hsole.clear⟩
  | succ bound ih =>
      rw [CompileWatch.untilBlocked]
      cases hstep : service.step? with
      | none =>
          have hactor := hleaving.actor_eq_none hstep
          have hsole := hleaving.sole
          rw [hactor] at hsole
          exact ⟨hactor, hsole.clear⟩
      | some next => exact ih (hleaving.step hstep)

end ActorService

/-- **The actor answers request by request, and reports compilations in their session.**  Take any
run in which no packet of the actor is too long for the link, whatever is posted at the other
end and whatever is compiled.  The actor posted nothing but packets.  As long as the other end
is there, so is the actor, and the replies among its packets answer the frames that it took, one
by one.  Every compilation was reported between a reply that began a session and the reply that
ended it, and what was reported in the `number`-th session is a beginning of what the host
accepted in it.  Once the other end is gone, the actor stops when it runs on, and an actor that
has stopped leaves no trace on the host. -/
theorem ActorService.serving_disciplined (earlier maxBytes : Nat) (moves : List ServiceMove)
    (hfits : (fresh earlier maxBytes).runFits moves) :
    let logged := LoggedService.run { service := fresh earlier maxBytes } moves
    ∃ packets : List ActorPacket,
      (logged.posted = packets.map fun packet => Frame.encode packet.toJson) ∧
      (logged.service.link.left.isLive → logged.service.actor.isSome ∧
        packets.filter ActorPacket.isReply = AttachState.detached.answers logged.taken) ∧
      (∀ (place : Nat) (scripts : List Script) (json : String),
        packets[place]? = some (.compilation scripts json) →
          (Told.ofPackets (packets.take place)).current.isSome) ∧
      (∀ (number : Nat) (list : List Announcement),
        (Told.ofPackets packets).sessions[number]? = some list →
          list <+: (logged.acceptedBy (earlier + number)).map .of) ∧
      (logged.service.link.left.isLive = false → logged.service.settle.actor = none ∧
        logged.service.settle.host.Clear) ∧
      (logged.service.actor = none → logged.service.host.Clear) := by
  intro logged
  obtain ⟨packets, hserved⟩ := (Served.fresh earlier maxBytes).run moves hfits
  refine ⟨packets, hserved.posted, ?_, hserved.reported, hserved.told_isPrefix, ?_, ?_⟩
  · intro hlive
    obtain ⟨hreplies, actor, hactor, -⟩ := hserved.answering hlive
    exact ⟨by rw [hactor]; rfl, hreplies⟩
  · intro hgone
    refine Leaving.untilBlocked ⟨hgone, hserved.sole, ?_⟩
    intro hactor
    refine ⟨hserved.right hactor, ?_⟩
    rw [potential]
    omega
  · intro hactor
    have hsole := hserved.sole
    rw [hactor] at hsole
    exact hsole.clear

/-- A run with a session in which two compilations are completed, the second of them too late to be
reported. -/
def ActorService.sampleMoves : List ServiceMove :=
  [.peer (.post (Frame.encode ActorRequest.attach.toJson)), .step, .compile { json := "[]" }, .step,
    .compile { json := "[]" }, .peer (.post (Frame.encode ActorRequest.detach.toJson)),
    .peer (.post "?"), .step, .step]

/-- In the sample run every frame has its answer. -/
theorem ActorService.sample_disciplined :
    (fresh 1 200).runFits sampleMoves ∧ ∃ packets : List ActorPacket,
      ((LoggedService.run { service := fresh 1 200 } sampleMoves).posted =
        packets.map fun packet => Frame.encode packet.toJson) ∧
      packets.filter ActorPacket.isReply = [.state .attached, .state .detached,
        .protocolError (WireError.decode .malformed).message] := by
  have hstate : (fresh 1 200).runFits sampleMoves ∧
      let logged := LoggedService.run { service := fresh 1 200 } sampleMoves
      logged.service.link.left.isLive ∧
      AttachState.detached.answers logged.taken = [.state .attached, .state .detached,
        .protocolError (WireError.decode .malformed).message] := by
    decide +kernel
  obtain ⟨hfits, hlive, hanswers⟩ := hstate
  obtain ⟨packets, hposted, hreplies, -⟩ := serving_disciplined 1 200 sampleMoves hfits
  exact ⟨hfits, packets, hposted, (hreplies hlive).2.trans hanswers⟩

end CompileWatch
