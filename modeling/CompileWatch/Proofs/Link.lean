import CompileWatch.Link

/-!
# Posting and reading

What a post and a read change at the ends of a link.  A frame that is posted from the
right waits at the left end behind all others; at an end that was dropped it is lost.
-/

namespace CompileWatch

namespace Endpoint

/-- An end with further frames behind those that wait. -/
def push : Endpoint → List Frame → Endpoint
  | .live queue, frames => .live (queue ++ frames)
  | .dropped, _ => .dropped

@[simp]
theorem push_nil (endpoint : Endpoint) : endpoint.push [] = endpoint := by
  cases endpoint <;> simp [push]

@[simp]
theorem push_push (endpoint : Endpoint) (first second : List Frame) :
    (endpoint.push first).push second = endpoint.push (first ++ second) := by
  cases endpoint <;> simp [push]

@[simp]
theorem isLive_push (endpoint : Endpoint) (frames : List Frame) :
    (endpoint.push frames).isLive = endpoint.isLive := by
  cases endpoint <;> rfl

theorem queue_push (endpoint : Endpoint) (frames : List Frame) :
    (endpoint.push frames).queue.drop endpoint.queue.length =
      if endpoint.isLive then frames else [] := by
  cases endpoint <;> simp [push, queue, isLive]

end Endpoint

namespace Link

/-! ## Posting -/

/-- The link with frames posted from its right end. -/
def posted (link : Link) (frames : List Frame) : Link :=
  { link with left := link.left.push frames }

@[simp]
theorem left_posted (link : Link) (frames : List Frame) :
    (link.posted frames).left = link.left.push frames :=
  rfl

theorem posted_nil (link : Link) : link.posted [] = link := by
  rw [posted, Endpoint.push_nil]

theorem posted_posted (link : Link) (frames further : List Frame) :
    (link.posted frames).posted further = link.posted (frames ++ further) := by
  simp [posted]

theorem posted_of_dropped {link : Link} (hleft : link.left = .dropped) (frames : List Frame) :
    link.posted frames = link := by
  cases link
  simp_all [posted, Endpoint.push]

/-- A post that succeeds leaves its frame at the other end. -/
theorem eq_posted_of_post {link next : Link} {frame : Frame}
    (hpost : link.post .right frame = .ok next) : next = link.posted [frame] := by
  simp only [post] at hpost
  split at hpost
  · cases hpost
  · cases hleft : link.left with
    | dropped => simp [Side.other, endpoint, hleft] at hpost
    | live queue =>
        simp only [Side.other, endpoint, hleft, Except.ok.injEq] at hpost
        rw [← hpost, posted, hleft]
        rfl

theorem isLive_of_post {link next : Link} {frame : Frame}
    (hpost : link.post .right frame = .ok next) : link.left.isLive := by
  simp only [post] at hpost
  split at hpost
  · cases hpost
  · cases hleft : link.left with
    | dropped => simp [Side.other, endpoint, hleft] at hpost
    | live queue => rfl

/-- A frame that is short enough reaches an end that is in use. -/
theorem post_of_fits {link : Link} {frame : Frame} (hfits : frame.utf8ByteSize ≤ link.maxBytes)
    (hleft : link.left.isLive) : link.post .right frame = .ok (link.posted [frame]) := by
  cases hend : link.left with
  | dropped => simp [hend, Endpoint.isLive] at hleft
  | live queue =>
      simp only [post, if_neg (Nat.not_lt.mpr hfits), Side.other, endpoint, hend, setEndpoint,
        posted, Endpoint.push]

/-- A post from the left leaves its frame at the right end, or fails. -/
theorem eq_of_post_left {link next : Link} {frame : Frame}
    (hpost : link.post .left frame = .ok next) :
    ∃ queue, link.right = .live queue ∧ next = { link with right := .live (queue ++ [frame]) } := by
  simp only [post] at hpost
  split at hpost
  · cases hpost
  · cases hright : link.right with
    | dropped => simp [Side.other, endpoint, hright] at hpost
    | live queue =>
        simp only [Side.other, endpoint, hright, Except.ok.injEq] at hpost
        exact ⟨queue, rfl, hpost.symm⟩

/-! ## Queues -/

theorem queue_of_live {link : Link} {side : Side} {queue : List Frame}
    (hend : link.endpoint side = .live queue) : link.queue side = queue := by
  rw [Link.queue, hend]
  rfl

theorem queue_posted {link : Link} (hlive : link.left.isLive) (frames : List Frame) :
    (link.posted frames).queue .left = link.queue .left ++ frames := by
  rw [queue, queue, endpoint, endpoint, left_posted]
  cases hleft : link.left with
  | live queue => rfl
  | dropped => simp [hleft, Endpoint.isLive] at hlive

/-- Of the frames that were pushed to the left end, those wait there that were not lost. -/
theorem exists_queue_push (link next : Link) {frames : List Frame}
    (hleft : next.left = link.left.push frames) :
    ∃ sent, (∀ frame ∈ sent, frame ∈ frames) ∧ next.queue .left = link.queue .left ++ sent := by
  rw [queue, queue, endpoint, endpoint, hleft]
  cases link.left with
  | live queue => exact ⟨frames, fun _ hframe => hframe, rfl⟩
  | dropped => exact ⟨[], by simp, rfl⟩

/-! ## Reading -/

theorem next_eq_frame {link next : Link} {side : Side} {frame : Frame}
    (hnext : link.next side = .frame frame next) :
    ∃ rest, link.endpoint side = .live (frame :: rest) ∧
      next = link.setEndpoint side (.live rest) := by
  rw [Link.next] at hnext
  split at hnext
  case h_1 hqueue =>
    obtain ⟨rfl, rfl⟩ := Arrival.frame.inj hnext
    exact ⟨_, hqueue, rfl⟩
  all_goals cases hnext

theorem next_eq_waiting {link : Link} {side : Side} (hnext : link.next side = .waiting) :
    link.endpoint side = .live [] ∧ link.isLive side.other := by
  rw [Link.next] at hnext
  split at hnext
  case h_2 hqueue hother => exact ⟨hqueue, hother⟩
  all_goals cases hnext

theorem next_eq_closed {link : Link} {side : Side} (hnext : link.next side = .closed) :
    (link.endpoint side = .live [] ∧ link.isLive side.other = false) ∨
      link.endpoint side = .dropped := by
  rw [Link.next] at hnext
  split at hnext
  case h_3 hqueue hother => exact .inl ⟨hqueue, hother⟩
  case h_4 hend => exact .inr hend
  all_goals cases hnext

theorem next_of_frame {link : Link} {side : Side} {frame : Frame} {rest : List Frame}
    (hqueue : link.endpoint side = .live (frame :: rest)) :
    link.next side = .frame frame (link.setEndpoint side (.live rest)) := by
  simp [Link.next, hqueue]

theorem next_of_gone {link : Link} {side : Side}
    (hgone : (link.endpoint side = .live [] ∧ link.isLive side.other = false) ∨
      link.endpoint side = .dropped) : link.next side = .closed := by
  rcases hgone with ⟨hqueue, hother⟩ | hend
  · simp [Link.next, hqueue, hother]
  · simp [Link.next, hend]

/-! ## What a party does at its end -/

/-- Something that the party at one end of a link does. -/
inductive Act
  | post (frame : Frame)
  | read
  | close
  deriving DecidableEq, Repr

/-- A post that is refused and a read with nothing to read change nothing, and neither does a party
that has dropped its end. -/
def act (link : Link) (side : Side) (act : Act) : Link :=
  match link.endpoint side, act with
  | .live _, .post frame => (link.post side frame).toOption.getD link
  | .live (_ :: rest), .read => link.setEndpoint side (.live rest)
  | .live _, .close => link.close side
  | _, _ => link

/-- Whatever the party at the right end does, frames at the left end stay there. -/
theorem left_act_right (link : Link) (act : Act) :
    ∃ frames, (link.act .right act).left = link.left.push frames := by
  cases hright : link.right with
  | dropped => exact ⟨[], by cases act <;> simp [Link.act, endpoint, hright]⟩
  | live queue =>
      cases act with
      | read => exact ⟨[], by cases queue <;> simp [Link.act, endpoint, hright, setEndpoint]⟩
      | close => exact ⟨[], by simp [Link.act, endpoint, hright, close, setEndpoint]⟩
      | post frame =>
          cases hpost : link.post .right frame with
          | error error => exact ⟨[], by simp [Link.act, endpoint, hright, hpost, Except.toOption]⟩
          | ok next =>
              refine ⟨[frame], ?_⟩
              simp [Link.act, endpoint, hright, hpost, Except.toOption, eq_posted_of_post hpost]

theorem maxBytes_setEndpoint (link : Link) (side : Side) (endpoint : Endpoint) :
    (link.setEndpoint side endpoint).maxBytes = link.maxBytes := by
  cases side <;> rfl

theorem maxBytes_act (link : Link) (side : Side) (act : Act) :
    (link.act side act).maxBytes = link.maxBytes := by
  cases hend : link.endpoint side with
  | dropped => cases act <;> simp [Link.act, hend]
  | live queue =>
      cases act with
      | read => cases queue <;> simp [Link.act, hend, maxBytes_setEndpoint]
      | close => simp [Link.act, hend, close, maxBytes_setEndpoint]
      | post frame =>
          simp only [Link.act, hend, post]
          by_cases hlong : link.maxBytes < frame.utf8ByteSize
          · simp [hlong, Except.toOption]
          · cases link.endpoint side.other <;>
              simp [hlong, Except.toOption, maxBytes_setEndpoint]

/-- Only the party at an end can drop it, and it cannot take it back. -/
theorem isLive_act (link : Link) (act : Act) :
    ((link.act .left act).left.isLive → link.left.isLive) ∧
      (link.act .left act).right.isLive = link.right.isLive := by
  cases hleft : link.left with
  | dropped => cases act <;> simp [Link.act, endpoint, hleft]
  | live queue =>
      cases act with
      | read => cases queue <;> simp [Link.act, endpoint, hleft, setEndpoint, Endpoint.isLive]
      | close => simp [Link.act, endpoint, hleft, close, setEndpoint, Endpoint.isLive]
      | post frame =>
          cases hpost : link.post .left frame with
          | error error => simp [Link.act, endpoint, hleft, hpost, Except.toOption, Endpoint.isLive]
          | ok next =>
              obtain ⟨frames, hright, rfl⟩ := eq_of_post_left hpost
              simp [Link.act, endpoint, hleft, hpost, Except.toOption, hright, Endpoint.isLive]

end Link

end CompileWatch
