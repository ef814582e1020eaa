import CompileWatch.Proofs.Front.Log

/-!
# No compilation is lost at the front

The compilations that the actor reports reach the one who asks for them by two ways: out of the
link, or out of the backlog into which a call put them while it waited.  After every move, the
compilations that were read and that no answer has settled are the backlog, in the order in which
they arrived.  A call reads no further than the packet that ends it, so what stands behind that
packet is still there for whoever asks next.
-/

namespace CompileWatch

/-! ## What is asked of the front -/

/-- The front has read some frames of those that waited, and the actor is still where it was. -/
structure Reading (link next : Link) (read rest : List Frame) : Prop where
  before : link.left = .live (read ++ rest)
  after : next.left = .live rest
  name : next.name = link.name
  right : next.right.isLive = link.right.isLive

namespace Reading

variable {link next : Link} {read rest : List Frame}

theorem queue_before (hreading : Reading link next read rest) :
    link.queue .left = read ++ rest :=
  Link.queue_of_live hreading.before

theorem queue_after (hreading : Reading link next read rest) : next.queue .left = rest :=
  Link.queue_of_live hreading.after

theorem readBetween_eq (hreading : Reading link next read rest) :
    LoggedFront.readBetween link next = read := by
  rw [LoggedFront.readBetween, hreading.queue_before, hreading.queue_after, List.length_append,
    Nat.add_sub_cancel, List.take_left]

theorem refl {queue : List Frame} (hleft : link.left = .live queue) :
    Reading link link [] queue :=
  ⟨hleft, hleft, rfl, rfl⟩

end Reading

/-- A call stays as proper as it was, on any link on which an actor that was gone is still gone. -/
theorem FrontCall.Proper.of_gone {call : FrontCall} {link next : Link}
    (hproper : call.Proper link)
    (hgone : link.queue .left = [] → link.right.isLive = false →
      next.queue .left = [] ∧ next.right.isLive = false ∧ next.name = link.name) :
    call.Proper next := by
  cases hproper with
  | refused => exact .refused
  | waiting hsilent => exact .waiting hsilent
  | replied hsilent hreply => exact .replied hsilent hreply
  | closed hsilent hempty hright =>
      obtain ⟨hempty, hright, hname⟩ := hgone hempty hright
      have herror : Front.goneError link = Front.goneError next := by
        rw [Front.goneError, Front.goneError, hname]
      rw [herror]
      exact .closed hsilent hempty hright

theorem FrontCall.Proper.of_reading {call : FrontCall} {link next : Link} {read rest : List Frame}
    (hproper : call.Proper link) (hreading : Reading link next read rest) : call.Proper next := by
  refine hproper.of_gone fun hempty hright => ?_
  rw [hreading.queue_before, List.append_eq_nil_iff] at hempty
  exact ⟨hreading.queue_after.trans hempty.2, hreading.right.trans hright, hreading.name⟩

/-- A call that waits has read no reply. -/
theorem FrontCall.Proper.silent {link : Link} {request : ActorRequest} {taken : List Frame}
    (hproper : FrontCall.Proper link ⟨request, none, taken, none⟩) :
    ∀ frame ∈ taken, Front.replyIn? frame = none := by
  cases hproper with
  | waiting hsilent => exact hsilent

/-- An actor that is gone sends nothing more. -/
theorem FrontCall.Proper.of_act {call : FrontCall} {link : Link} (hproper : call.Proper link)
    (act : Link.Act) : call.Proper (link.act .right act) := by
  refine hproper.of_gone fun hempty hgone => ?_
  cases hright : link.right with
  | live queue => simp [hright, Endpoint.isLive] at hgone
  | dropped =>
      have hsame : link.act .right act = link := by
        cases act <;> simp [Link.act, Link.endpoint, hright]
      rw [hsame]
      exact ⟨hempty, hgone, rfl⟩

/-- What a wait for a reply does, for a call that has read some frames before. -/
structure Waited (front next : Front) (link after : Link)
    (outcome : Option (Except FrontError ActorReply)) (read rest : List Frame) : Prop where
  reading : Reading link after read rest
  backlog : next.backlog = front.backlog ++ read.filterMap Front.compilationOf?
  proper (request : ActorRequest) {taken : List Frame} :
    (∀ frame ∈ taken, Front.replyIn? frame = none) →
    FrontCall.Proper after ⟨request, none, taken ++ read, outcome⟩
  /-- The wait goes on only if there is nothing to read and there may be something later. -/
  patient : outcome = none → rest = [] ∧ after.right.isLive = true

theorem Waited.patient_settle {front next : Front} {link after : Link}
    {outcome : Option (Except FrontError ActorReply)} {read rest : List Frame}
    (hwaited : Waited front next link after outcome read rest) {request : ActorRequest}
    (hwaits : (FrontDesk.settle request (next, after, outcome)).2.awaited.isSome) :
    (FrontDesk.settle request (next, after, outcome)).2.link.queue .left = [] ∧
      (FrontDesk.settle request (next, after, outcome)).2.link.right.isLive = true := by
  cases outcome with
  | some outcome => cases hwaits
  | none =>
      obtain ⟨hempty, hlive⟩ := hwaited.patient rfl
      exact ⟨hwaited.reading.queue_after.trans hempty, hlive⟩

theorem Front.Awaited.waited {front next : Front} {link after : Link}
    {outcome : Option (Except FrontError ActorReply)}
    (hawaited : Awaited front link (next, after, outcome)) :
    ∃ read rest, Waited front next link after outcome read rest := by
  have hsilent_append {taken read : List Frame} (htaken : ∀ frame ∈ taken, replyIn? frame = none)
      (hread : ∀ frame ∈ read, replyIn? frame = none) :
      ∀ frame ∈ taken ++ read, replyIn? frame = none := by
    intro frame hframe
    exact (List.mem_append.mp hframe).elim (htaken frame) (hread frame)
  cases hawaited with
  | @replied earlier rest frame outcome hleft hsilent hreply =>
      refine ⟨earlier ++ [frame], rest, ⟨by simp [hleft], rfl, rfl, rfl⟩, ?_, ?_, by simp⟩
      · simp [collect, compilationOf?_of_reply hreply]
      · intro request taken htaken
        rw [← List.append_assoc]
        exact .replied (hsilent_append htaken hsilent) hreply
  | @waiting queue hleft hsilent hright =>
      refine ⟨queue, [], ⟨by simp [hleft], rfl, rfl, rfl⟩, rfl, ?_, fun _ => ⟨rfl, hright⟩⟩
      intro request taken htaken
      exact .waiting (hsilent_append htaken hsilent)
  | @closed queue hleft hsilent hright =>
      refine ⟨queue, [], ⟨by simp [hleft], rfl, rfl, rfl⟩, rfl, ?_, by simp⟩
      intro request taken htaken
      exact .closed (hsilent_append htaken hsilent) rfl hright

theorem Front.waited_awaitReply (front : Front) {link : Link} {queue : List Frame}
    (hleft : link.left = .live queue) :
    ∃ next after outcome read rest, front.awaitReply link = (next, after, outcome) ∧
      Waited front next link after outcome read rest := by
  have hawaited := front.awaited_awaitReply hleft
  generalize front.awaitReply link = result at hawaited ⊢
  obtain ⟨next, after, outcome⟩ := result
  obtain ⟨read, rest, hwaited⟩ := hawaited.waited
  exact ⟨next, after, outcome, read, rest, rfl, hwaited⟩

/-- A request that is posted waits at the actor's end. -/
theorem Front.right_of_request {link posted : Link} {request : ActorRequest}
    (hrequest : Front.request link request = .ok posted) :
    ∃ frames, link.right.isLive = true ∧ posted = { link with right := .live frames } := by
  rw [Front.request] at hrequest
  cases hpost : link.post .left (Frame.encode request.toJson) with
  | error error =>
      rw [hpost] at hrequest
      cases hrequest
  | ok next =>
      rw [hpost] at hrequest
      obtain rfl : next = posted := Except.ok.inj hrequest
      obtain ⟨frames, hright, hnext⟩ := Link.eq_of_post_left hpost
      exact ⟨_, by rw [hright, Endpoint.isLive], hnext⟩

/-- A request that cannot be posted changes nothing; otherwise the front waits for its reply. -/
inductive Called (front : Front) (link : Link) (request : ActorRequest) :
    Front × Link × Option (Except FrontError ActorReply) → Prop
  | refused {error : FrontError} : Front.request link request = .error error →
      Called front link request (front, link, some (.error error))
  | posted {posted : Link} {next : Front} {after : Link}
      {outcome : Option (Except FrontError ActorReply)} {read rest : List Frame} :
      Front.request link request = .ok posted → Waited front next link after outcome read rest →
      Called front link request (next, after, outcome)

theorem Front.called_call (front : Front) {link : Link} {queue : List Frame}
    (request : ActorRequest) (hleft : link.left = .live queue) :
    Called front link request (front.call link request) := by
  rw [call]
  cases hrequest : Front.request link request with
  | error error => exact .refused hrequest
  | ok posted =>
      obtain ⟨frames, hright, rfl⟩ := Front.right_of_request hrequest
      obtain ⟨next, after, outcome, read, rest, hreply, hwaited⟩ :=
        @waited_awaitReply front { link with right := .live frames } queue hleft
      obtain ⟨hbefore, hafter, hname, hlive⟩ := hwaited.reading
      -- the post has changed the other end only
      have hreading : Reading link after read rest :=
        ⟨hbefore, hafter, hname, hlive.trans (by rw [hright, Endpoint.isLive])⟩
      dsimp only
      rw [hreply]
      exact .posted hrequest { hwaited with reading := hreading }

/-! ## What stays true -/

/-- What is written down agrees with the front. -/
structure LoggedFront.Conserves (log : LoggedFront) : Prop where
  live : log.desk.link.left = .live (log.desk.link.queue .left)
  arrived : log.arrived = log.consumed ++ log.desk.link.queue .left
  unsettled : unsettled? log.answers (log.consumed.filterMap Front.compilationOf?) =
    some log.desk.front.backlog
  proper : ∀ call ∈ log.calls, call.Proper log.desk.link
  /-- The latest call is the one whose reply is awaited. -/
  awaited : ∀ request, log.desk.awaited = some request →
    ∃ taken earlier, log.calls = ⟨request, none, taken, none⟩ :: earlier

namespace LoggedFront

variable {log : LoggedFront}

theorem conserves_fresh (name : String) (maxBytes : Nat) : (fresh name maxBytes).Conserves where
  live := rfl
  arrived := rfl
  unsettled := rfl
  proper := by simp [fresh]
  awaited := nofun

theorem Conserves.actor (hlog : log.Conserves) (act : Link.Act) :
    (log.move (.actor act)).Conserves := by
  obtain ⟨frames, hleft⟩ := log.desk.link.left_act_right act
  rw [hlog.live] at hleft
  have hqueue : (log.desk.link.act .right act).queue .left =
      log.desk.link.queue .left ++ frames := Link.queue_of_live hleft
  refine ⟨?_, ?_, hlog.unsettled, ?_, hlog.awaited⟩
  · rw [move, hqueue]
    exact hleft
  · rw [move, hqueue, List.drop_left, hlog.arrived, List.append_assoc]
  · intro call hcall
    exact (hlog.proper call hcall).of_act act

/-- The answer to an act settles compilations among those that were not settled before and those
that the act has read. -/
structure Settles (log : LoggedFront) (act : FrontAct) (read rest : List Frame) : Prop where
  reading : Reading log.desk.link (log.desk.perform act).2.link read rest
  settled : (log.desk.perform act).1.settle?
      (log.desk.front.backlog ++ read.filterMap Front.compilationOf?) =
    some (log.desk.perform act).2.front.backlog

theorem Conserves.front (hlog : log.Conserves) {act : FrontAct} {read rest : List Frame}
    (hsettles : log.Settles act read rest)
    (hproper : ∀ call ∈ (log.move (.front act)).calls,
      call ∈ log.calls ∨ call.Proper (log.desk.perform act).2.link)
    (hawaited : ∀ request, (log.desk.perform act).2.awaited = some request →
      ∃ taken earlier, (log.move (.front act)).calls = ⟨request, none, taken, none⟩ :: earlier) :
    (log.move (.front act)).Conserves := by
  have hreading := hsettles.reading
  have hread := hreading.readBetween_eq
  refine ⟨?_, ?_, ?_, ?_, hawaited⟩
  · simp only [move, hreading.queue_after]
    exact hreading.after
  · simp only [move, hread, hreading.queue_after, hlog.arrived, hreading.queue_before,
      List.append_assoc]
  · simp only [move, hread, List.filterMap_append]
    -- the answers before this one settled nothing of what was read just now
    rw [unsettled?_concat (unsettled?_append _ hlog.unsettled)]
    exact hsettles.settled
  · intro call hcall
    rcases hproper call hcall with hearlier | hnew
    · exact (hlog.proper call hearlier).of_reading hreading
    · exact hnew

/-- An act that reads nothing settles compilations of the backlog, if it settles any. -/
theorem Conserves.settles_unread (hlog : log.Conserves) {act : FrontAct}
    (hlink : (log.desk.perform act).2.link = log.desk.link)
    (hsettle : (log.desk.perform act).1.settle? log.desk.front.backlog =
      some (log.desk.perform act).2.front.backlog) :
    log.Settles act [] (log.desk.link.queue .left) := by
  refine ⟨?_, ?_⟩
  · rw [hlink]
    exact .refl hlog.live
  · rw [List.filterMap_nil, List.append_nil]
    exact hsettle

/-- A wait for a reply settles nothing.  What it reads goes into the backlog, and is added to what
the call has read before. -/
theorem Conserves.waited (hlog : log.Conserves) {act : FrontAct} {request : ActorRequest}
    {next : Front} {after : Link} {outcome : Option (Except FrontError ActorReply)}
    {taken read rest : List Frame} {earlier : List FrontCall}
    (hperform : log.desk.perform act = FrontDesk.settle request (next, after, outcome))
    (hwaited : Waited log.desk.front next log.desk.link after outcome read rest)
    (hsilent : ∀ frame ∈ taken, Front.replyIn? frame = none)
    (hcalls : log.callsAfter read act (.ended outcome) =
      ⟨request, none, taken ++ read, outcome⟩ :: earlier)
    (hearlier : ∀ call ∈ earlier, call ∈ log.calls) : (log.move (.front act)).Conserves := by
  have hsettles : log.Settles act read rest := by
    refine ⟨?_, ?_⟩
    · rw [hperform]
      exact hwaited.reading
    · rw [hperform]
      exact congrArg some hwaited.backlog.symm
  have hafter : (log.move (.front act)).calls =
      ⟨request, none, taken ++ read, outcome⟩ :: earlier := by
    simp only [move, hsettles.reading.readBetween_eq]
    rw [hperform]
    exact hcalls
  refine hlog.front hsettles ?_ ?_
  · intro call hcall
    rw [hafter, List.mem_cons] at hcall
    rcases hcall with rfl | hcall
    · rw [hperform]
      exact .inr (hwaited.proper request hsilent)
    · exact .inl (hearlier call hcall)
  · intro other hother
    rw [hperform, FrontDesk.settle] at hother
    cases outcome with
    | some outcome => cases hother
    | none =>
        obtain rfl : request = other := Option.some.inj hother
        exact ⟨taken ++ read, earlier, hafter⟩

/-- What is asked beside calls leaves them as they were, and a call that waits is abandoned. -/
theorem Conserves.aside (hlog : log.Conserves) {act : FrontAct} {read rest : List Frame}
    (hsettles : log.Settles act read rest) (hcalls : (log.move (.front act)).calls = log.calls)
    (hnone : (log.desk.perform act).2.awaited = none) : (log.move (.front act)).Conserves := by
  refine hlog.front hsettles ?_ ?_
  · intro call hcall
    rw [hcalls] at hcall
    exact .inl hcall
  · intro request hrequest
    rw [hnone] at hrequest
    cases hrequest

theorem Conserves.call (hlog : log.Conserves) (request : ActorRequest) :
    (log.move (.front (.call request))).Conserves := by
  have hcalled := log.desk.front.called_call request hlog.live
  have hperform := log.desk.perform_call request
  generalize log.desk.front.call log.desk.link request = result at hcalled hperform
  cases hcalled with
  | @posted posted next after outcome read rest hrequest hwaited =>
      have hcalls : log.callsAfter read (.call request) (.ended outcome) =
          ⟨request, none, [] ++ read, outcome⟩ :: log.calls := by
        rw [callsAfter, refusal?, hrequest]
        rfl
      exact hlog.waited hperform hwaited (fun _ hframe => absurd hframe List.not_mem_nil) hcalls
        fun _ hcall => hcall
  | @refused error hrequest =>
      have hsettles : log.Settles (.call request) [] (log.desk.link.queue .left) :=
        hlog.settles_unread (by rw [hperform]; rfl) (by rw [hperform]; rfl)
      have hafter : (log.move (.front (.call request))).calls =
          ⟨request, some error, [], some (.error error)⟩ :: log.calls := by
        simp only [move, hsettles.reading.readBetween_eq]
        rw [hperform, FrontDesk.settle, callsAfter, refusal?, hrequest]
      refine hlog.front hsettles ?_ ?_
      · intro call hcall
        rw [hafter, List.mem_cons] at hcall
        rcases hcall with rfl | hcall
        · exact .inr .refused
        · exact .inl hcall
      · intro other hother
        rw [hperform] at hother
        cases hother

theorem Conserves.resume (hlog : log.Conserves) : (log.move (.front .resume)).Conserves := by
  cases hawaited : log.desk.awaited with
  | none =>
      have hperform : log.desk.perform .resume = (.idle, log.desk) := by
        rw [FrontDesk.perform, hawaited]
      have hsettles : log.Settles .resume [] (log.desk.link.queue .left) :=
        hlog.settles_unread (by rw [hperform]) (by rw [hperform]; rfl)
      refine hlog.aside hsettles ?_ ?_
      · simp only [move, hperform, callsAfter]
      · rw [hperform, hawaited]
  | some request =>
      obtain ⟨taken, earlier, hcalls⟩ := hlog.awaited request hawaited
      have hsilent : ∀ frame ∈ taken, Front.replyIn? frame = none :=
        (hlog.proper _ (hcalls ▸ List.mem_cons_self)).silent
      obtain ⟨next, after, outcome, read, rest, hreply, hwaited⟩ :=
        log.desk.front.waited_awaitReply hlog.live
      have hperform := FrontDesk.perform_resume hawaited
      rw [hreply] at hperform
      have hafter : log.callsAfter read .resume (.ended outcome) =
          ⟨request, none, taken ++ read, outcome⟩ :: earlier := by
        rw [callsAfter, hcalls]
      refine hlog.waited hperform hwaited hsilent hafter ?_
      intro call hcall
      rw [hcalls]
      exact List.mem_cons_of_mem _ hcall

theorem Conserves.nextEvent (hlog : log.Conserves) : (log.move (.front .nextEvent)).Conserves := by
  have hoffered := log.desk.front.offered_nextEvent hlog.live
  have hsettles : ∃ read rest, log.Settles .nextEvent read rest := by
    have hperform := log.desk.perform_nextEvent
    generalize log.desk.front.nextEvent log.desk.link = result at hoffered hperform
    cases hoffered with
    | kept hbacklog =>
        refine ⟨[], log.desk.link.queue .left, hlog.settles_unread (by rw [hperform]) ?_⟩
        rw [hperform, hbacklog]
        simp [FrontAnswer.settle?]
    | @read earlier rest frame compilation hbacklog hleft hnone hcompilation =>
        refine ⟨earlier ++ [frame], rest, ?_, ?_⟩
        · rw [hperform]
          exact ⟨by simp [hleft], rfl, rfl, rfl⟩
        · have hread : (earlier ++ [frame]).filterMap Front.compilationOf? = [compilation] := by
            simp [List.filterMap_eq_nil_iff.mpr hnone, hcompilation]
          rw [hperform, hread, hbacklog]
          simp [FrontAnswer.settle?]
    | @exhausted queue hbacklog hleft hnone =>
        refine ⟨queue, [], ?_, ?_⟩
        · rw [hperform]
          exact ⟨by simp [hleft], rfl, rfl, rfl⟩
        · rw [hperform, List.filterMap_eq_nil_iff.mpr hnone, hbacklog]
          cases log.desk.link.right.isLive <;> rfl
  obtain ⟨read, rest, hsettles⟩ := hsettles
  exact hlog.aside hsettles rfl rfl

theorem Conserves.discard (hlog : log.Conserves) : (log.move (.front .discard)).Conserves := by
  have hsettles : log.Settles .discard [] (log.desk.link.queue .left) := by
    refine hlog.settles_unread rfl ?_
    simp [FrontDesk.perform, Front.discardBacklog, FrontAnswer.settle?]
  exact hlog.aside hsettles rfl rfl

theorem Conserves.move (hlog : log.Conserves) (move : FrontMove) : (log.move move).Conserves := by
  cases move with
  | actor act => exact hlog.actor act
  | front act =>
      cases act with
      | call request => exact hlog.call request
      | resume => exact hlog.resume
      | nextEvent => exact hlog.nextEvent
      | discard => exact hlog.discard

theorem Conserves.run (hlog : log.Conserves) (moves : List FrontMove) :
    (log.run moves).Conserves := by
  induction moves generalizing log with
  | nil => exact hlog
  | cons move rest ih => exact ih (hlog.move move)

/-! ## What the next act finds -/

/-- A call is left waiting only if everything that came was read and the actor is still there. -/
theorem Conserves.patient (hlog : log.Conserves) {act : FrontAct}
    (hwaits : (log.desk.perform act).2.awaited.isSome) :
    (log.desk.perform act).2.link.queue .left = [] ∧
      (log.desk.perform act).2.link.right.isLive = true := by
  cases act with
  | call request =>
      have hcalled := log.desk.front.called_call request hlog.live
      have hperform := log.desk.perform_call request
      generalize log.desk.front.call log.desk.link request = result at hcalled hperform
      rw [hperform] at hwaits ⊢
      cases hcalled with
      | refused => cases hwaits
      | posted _ hwaited => exact hwaited.patient_settle hwaits
  | resume =>
      cases hawaited : log.desk.awaited with
      | none => simp [FrontDesk.perform, hawaited] at hwaits
      | some request =>
          obtain ⟨next, after, outcome, read, rest, hreply, hwaited⟩ :=
            log.desk.front.waited_awaitReply hlog.live
          rw [FrontDesk.perform_resume hawaited, hreply] at hwaits ⊢
          exact hwaited.patient_settle hwaits
  | nextEvent | discard => cases hwaits

/-- What is handed out next is the oldest compilation that is pending. -/
theorem Conserves.offer (hlog : log.Conserves) :
    (log.desk.perform .nextEvent).1 = .event log.desk.offer := by
  have hoffered := log.desk.front.offered_nextEvent hlog.live
  rw [log.desk.perform_nextEvent, FrontDesk.offer, FrontDesk.pending]
  generalize log.desk.front.nextEvent log.desk.link = result at hoffered
  cases hoffered with
  | kept hbacklog => rw [hbacklog, List.cons_append]
  | @read earlier rest frame compilation hbacklog hleft hnone hcompilation =>
      have hqueue : log.desk.link.queue .left = earlier ++ frame :: rest :=
        Link.queue_of_live hleft
      rw [hbacklog, hqueue, List.filterMap_append, List.filterMap_eq_nil_iff.mpr hnone,
        List.filterMap_cons_some hcompilation]
      rfl
  | @exhausted queue hbacklog hleft hnone =>
      have hqueue : log.desk.link.queue .left = queue := Link.queue_of_live hleft
      rw [hbacklog, hqueue, List.filterMap_eq_nil_iff.mpr hnone]
      rfl

/-- **No compilation is lost at the front, and none changes its place.**  Whatever the actor sends
and whatever is asked of the front, what was read is what arrived first.  The answers so far settle
the compilations that were read from the oldest on, and what they leave is the backlog: what was
handed out, followed by the backlog, is what was read without the compilations that were counted as
discarded.  A call reads up to the first packet that ends it, or until the actor is gone and nothing
is left to read, and it reads nothing if its request cannot be posted; it is left waiting only as
long as there is nothing to read and the actor is there.  The next compilation that is handed out is
the oldest that was neither handed out nor discarded, whatever became of the calls in between, and
the end is reported only after the last of them. -/
theorem keeps_every_compilation (name : String) (maxBytes : Nat) (moves : List FrontMove) :
    let log := (fresh name maxBytes).run moves
    let desk := log.desk
    let compilations := log.consumed.filterMap Front.compilationOf?
    let handed := log.answers.filterMap FrontAnswer.handed?
    log.arrived = log.consumed ++ desk.link.queue .left ∧
    unsettled? log.answers compilations = some desk.front.backlog ∧
    (handed ++ desk.front.backlog).Sublist compilations ∧
    handed.length + discarded log.answers + desk.front.backlog.length = compilations.length ∧
    (∀ call ∈ log.calls, call.Proper desk.link) ∧
    (∀ act, (desk.perform act).2.awaited.isSome →
      (desk.perform act).2.link.queue .left = [] ∧
        (desk.perform act).2.link.right.isLive = true) ∧
    (desk.perform .nextEvent).1 = .event desk.offer := by
  have hlog := (conserves_fresh name maxBytes).run moves
  obtain ⟨hsublist, hlength⟩ := of_unsettled? hlog.unsettled
  exact ⟨hlog.arrived, hlog.unsettled, hsublist, hlength, hlog.proper, fun act => hlog.patient,
    hlog.offer⟩

end LoggedFront

end CompileWatch
