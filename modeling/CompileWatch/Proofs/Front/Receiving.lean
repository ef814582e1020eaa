import CompileWatch.Front
import CompileWatch.Proofs.Link

/-!
# What the front makes of a frame

A frame of the actor holds a reply, or it reports a compilation, or it cannot be decoded.  While a
reply is awaited, a reply ends the call, a compilation goes into the backlog, and anything else is
skipped.  When a compilation is asked for, only a compilation counts.  Either way the front reads
up to the first frame that it looks for and leaves what is behind it.
-/

namespace CompileWatch

/-- How a packet ends a call.  One that reports a compilation ends none. -/
def ActorPacket.outcome? : ActorPacket → Option (Except FrontError ActorReply)
  | .state current => some (.ok (.state current))
  | .hello text => some (.ok (.hello text))
  | .wrongState expected actual => some (.error (.wrongState expected actual))
  | .protocolError message => some (.error (.protocol message))
  | .compilation _ _ => none

namespace Front

/-- How a frame ends a call, if it does. -/
def replyIn? (frame : Frame) : Option (Except FrontError ActorReply) :=
  (Frame.decode ActorPacket.ofJson? frame).toOption.bind ActorPacket.outcome?

/-- The front with the compilations that some frames report behind those in the backlog. -/
def collect (front : Front) (frames : List Frame) : Front where
  backlog := front.backlog ++ frames.filterMap compilationOf?

@[simp]
theorem collect_nil (front : Front) : front.collect [] = front := by
  simp [collect]

@[simp]
theorem collect_collect (front : Front) (frames further : List Frame) :
    (front.collect frames).collect further = front.collect (frames ++ further) := by
  simp [collect]

/-! ## One frame -/

theorem receive_eq (front : Front) (frame : Frame) :
    front.receive frame = (front.collect [frame], replyIn? frame) := by
  rw [receive, replyIn?]
  cases hdecode : Frame.decode ActorPacket.ofJson? frame with
  | error error => simp [collect, compilationOf?, hdecode, Except.toOption]
  | ok packet =>
      cases packet <;>
        simp [collect, compilationOf?, hdecode, Except.toOption, ActorPacket.outcome?]

/-- A reply reports no compilation. -/
theorem compilationOf?_of_reply {frame : Frame} {outcome : Except FrontError ActorReply}
    (hreply : replyIn? frame = some outcome) : compilationOf? frame = none := by
  rw [replyIn?] at hreply
  rw [compilationOf?]
  cases hdecode : Frame.decode ActorPacket.ofJson? frame with
  | error error => rfl
  | ok packet =>
      cases packet with
      | compilation => simp [hdecode, Except.toOption, ActorPacket.outcome?] at hreply
      | state | hello | wrongState | protocolError => rfl

variable {front after : Front} {frame : Frame}

/-- A frame that ends no call adds the compilation that it reports to the backlog. -/
theorem backlog_of_receive_none (hreceive : front.receive frame = (after, none)) :
    after.backlog = front.backlog ++ (compilationOf? frame).toList := by
  rw [receive_eq, Prod.mk.injEq] at hreceive
  rw [← hreceive.1, collect]
  cases hcompilation : compilationOf? frame <;> simp [hcompilation]

/-- A frame that ends a call reports no compilation. -/
theorem of_receive_some {outcome : Except FrontError ActorReply}
    (hreceive : front.receive frame = (after, some outcome)) :
    after = front ∧ compilationOf? frame = none := by
  rw [receive_eq, Prod.mk.injEq] at hreceive
  have hnone := compilationOf?_of_reply hreceive.2
  exact ⟨by simp [← hreceive.1, collect, hnone], hnone⟩

/-! ## The frames that wait -/

theorem receiveAll_of_silent (front : Front) {frames : List Frame}
    (hsilent : ∀ frame ∈ frames, replyIn? frame = none) :
    front.receiveAll frames = (front.collect frames, [], none) := by
  induction frames generalizing front with
  | nil => simp [receiveAll]
  | cons frame rest ih =>
      rw [List.forall_mem_cons] at hsilent
      simp only [receiveAll, receive_eq, hsilent.1, ih _ hsilent.2, collect_collect]
      rfl

theorem receiveAll_of_reply (front : Front) {earlier rest : List Frame} {frame : Frame}
    {outcome : Except FrontError ActorReply}
    (hsilent : ∀ frame ∈ earlier, replyIn? frame = none) (hreply : replyIn? frame = some outcome) :
    front.receiveAll (earlier ++ frame :: rest) = (front.collect earlier, rest, some outcome) := by
  induction earlier generalizing front with
  | nil =>
      simp [receiveAll, receive_eq, hreply, collect, compilationOf?_of_reply hreply]
  | cons first others ih =>
      rw [List.forall_mem_cons] at hsilent
      simp only [List.cons_append, receiveAll, receive_eq, hsilent.1, ih _ hsilent.2,
        collect_collect]
      rfl

/-- The first frame in which something is found, if there is one. -/
theorem exists_first {Found : Type} (find? : Frame → Option Found) (frames : List Frame) :
    (∀ frame ∈ frames, find? frame = none) ∨
      ∃ earlier frame rest found, frames = earlier ++ frame :: rest ∧
        (∀ other ∈ earlier, find? other = none) ∧ find? frame = some found := by
  cases hfirst : frames.findSome? find? with
  | none => exact .inl (List.findSome?_eq_none_iff.mp hfirst)
  | some found =>
      obtain ⟨earlier, frame, rest, hframes, hfound, hearlier⟩ :=
        List.findSome?_eq_some_iff.mp hfirst
      exact .inr ⟨earlier, frame, rest, found, hframes, hearlier, hfound⟩

/-- How far a call gets with the frames that wait. -/
inductive Awaited (front : Front) (link : Link) :
    Front × Link × Option (Except FrontError ActorReply) → Prop
  | replied {earlier rest : List Frame} {frame : Frame} {outcome : Except FrontError ActorReply} :
      link.left = .live (earlier ++ frame :: rest) →
      (∀ other ∈ earlier, replyIn? other = none) → replyIn? frame = some outcome →
      Awaited front link (front.collect earlier, { link with left := .live rest }, some outcome)
  /-- The reply is not there yet. -/
  | waiting {queue : List Frame} : link.left = .live queue →
      (∀ frame ∈ queue, replyIn? frame = none) → link.right.isLive = true →
      Awaited front link (front.collect queue, { link with left := .live [] }, none)
  /-- There will be no reply, because the actor is gone. -/
  | closed {queue : List Frame} : link.left = .live queue →
      (∀ frame ∈ queue, replyIn? frame = none) → link.right.isLive = false →
      Awaited front link
        (front.collect queue, { link with left := .live [] }, some (.error (goneError link)))

theorem awaited_awaitReply (front : Front) {link : Link} {queue : List Frame}
    (hleft : link.left = .live queue) : Awaited front link (front.awaitReply link) := by
  have hqueue : link.queue .left = queue := Link.queue_of_live hleft
  have hlive : link.isLive .left = true := by
    rw [Link.isLive, Link.endpoint, hleft]
    rfl
  rw [awaitReply, hqueue]
  rcases exists_first replyIn? queue with
    hsilent | ⟨earlier, frame, rest, outcome, rfl, hsilent, hreply⟩
  · rw [front.receiveAll_of_silent hsilent]
    simp only [hlive, if_true]
    cases hright : link.right.isLive with
    | true =>
        simp only [Link.isLive, Link.setEndpoint, Link.endpoint, hright, if_true]
        exact .waiting hleft hsilent hright
    | false =>
        simp only [Link.isLive, Link.setEndpoint, Link.endpoint, hright, Bool.false_eq_true,
          if_false]
        exact .closed hleft hsilent hright
  · rw [front.receiveAll_of_reply hsilent hreply]
    simp only [hlive, if_true]
    exact .replied hleft hsilent hreply

/-- What there is when the front is asked for a compilation. -/
inductive Offered (front : Front) (link : Link) : FrontEvent × Front × Link → Prop
  | kept {compilation : Compilation} {rest : List Compilation} :
      front.backlog = compilation :: rest →
      Offered front link (.compilation compilation, { backlog := rest }, link)
  | read {earlier rest : List Frame} {frame : Frame} {compilation : Compilation} :
      front.backlog = [] → link.left = .live (earlier ++ frame :: rest) →
      (∀ other ∈ earlier, compilationOf? other = none) →
      compilationOf? frame = some compilation →
      Offered front link (.compilation compilation, front, { link with left := .live rest })
  | exhausted {queue : List Frame} : front.backlog = [] → link.left = .live queue →
      (∀ frame ∈ queue, compilationOf? frame = none) →
      Offered front link
        (if link.right.isLive then .waiting else .closed, front, { link with left := .live [] })

theorem firstCompilation?_of_none {frames : List Frame}
    (hnone : ∀ frame ∈ frames, compilationOf? frame = none) : firstCompilation? frames = none := by
  induction frames with
  | nil => rfl
  | cons frame rest ih =>
      rw [List.forall_mem_cons] at hnone
      rw [firstCompilation?, hnone.1]
      exact ih hnone.2

theorem firstCompilation?_of_some {earlier rest : List Frame} {frame : Frame}
    {compilation : Compilation} (hnone : ∀ frame ∈ earlier, compilationOf? frame = none)
    (hcompilation : compilationOf? frame = some compilation) :
    firstCompilation? (earlier ++ frame :: rest) = some (compilation, rest) := by
  induction earlier with
  | nil => rw [List.nil_append, firstCompilation?, hcompilation]
  | cons first others ih =>
      rw [List.forall_mem_cons] at hnone
      rw [List.cons_append, firstCompilation?, hnone.1]
      exact ih hnone.2

theorem offered_nextEvent (front : Front) {link : Link} {queue : List Frame}
    (hleft : link.left = .live queue) : Offered front link (front.nextEvent link) := by
  have hqueue : link.queue .left = queue := Link.queue_of_live hleft
  rw [nextEvent, hqueue]
  cases hbacklog : front.backlog with
  | cons compilation rest => exact .kept hbacklog
  | nil =>
      rcases exists_first compilationOf? queue with
        hnone | ⟨earlier, frame, rest, compilation, rfl, hnone, hcompilation⟩
      · have hdrain : (link.drain .left).2 = { link with left := .live [] } := by
          rw [Link.drain, Link.endpoint, hleft]
          rfl
        simp only [firstCompilation?_of_none hnone, hdrain]
        exact .exhausted hbacklog hleft hnone
      · simp only [firstCompilation?_of_some hnone hcompilation]
        exact .read hbacklog hleft hnone hcompilation

end Front

end CompileWatch
