import CompileWatch.Proofs.Session.Account

/-!
# The latest session at the controller

A frame of the actor that the controller reads holds a compilation, or it is the reply
to its request.  Either moves the latest session on: a compilation goes to the backlog
or is announced, and a reply begins the session, ends it, or leaves it as it is.
-/

namespace CompileWatch

/-! ## Frames of the actor -/

namespace Front

theorem receive_report (front : Front) (compilation : Compilation) :
    front.receive (Progress.frameOf compilation) =
      ({ backlog := front.backlog ++ [compilation] }, none) := by
  rw [receive, Progress.frameOf, ActorPacket.decode_encode]
  rfl

theorem receive_verdict (front : Front) (pending : Pending) (verdict : Verdict) :
    front.receive (Frame.encode (verdict.packet pending).toJson) =
      (front, some (verdict.outcome pending)) := by
  rw [receive, ActorPacket.decode_encode]
  cases verdict <;> rfl

theorem compilationOf?_report (compilation : Compilation) :
    compilationOf? (Progress.frameOf compilation) = some compilation := by
  rw [compilationOf?, Progress.frameOf, ActorPacket.decode_encode]
  rfl

end Front

/-! ## What the controller reads -/

theorem Progress.eq_quiet {progress : Progress} (hpending : progress.pending = none) :
    progress = .quiet := by
  cases progress with
  | quiet => rfl
  | asked => cases hpending
  | answered => cases hpending

section

variable {actor : Option Actor} {runtime : Link} {controller next : Controller}
  {sent : List Compilation} {progress : Progress} {frame : Frame} {rest : List Frame}

/-- While the controller waits for nothing, there is no request on the link. -/
theorem Matched.quiet (hmatched : Matched actor runtime controller sent progress)
    (hpending : controller.pending = none) : progress = .quiet :=
  Progress.eq_quiet (hmatched.pending.symm.trans hpending)

/-- The first frame on the link holds a compilation, or it is the reply. -/
theorem Matched.first (hmatched : Matched actor runtime controller sent progress)
    (hleft : runtime.left = .live (frame :: rest)) :
    (∃ compilation behind, sent = compilation :: behind ∧ frame = Progress.frameOf compilation ∧
      rest = behind.map Progress.frameOf ++ progress.frames) ∨
    ∃ pending verdict later, sent = [] ∧ progress = .answered pending verdict later ∧
      frame = Frame.encode (verdict.packet pending).toJson ∧
      rest = later.map Progress.frameOf := by
  have hframes := hmatched.left.symm.trans hleft
  cases sent with
  | cons compilation behind =>
      simp only [List.map_cons, List.cons_append, Endpoint.live.injEq, List.cons.injEq] at hframes
      exact .inl ⟨compilation, behind, rfl, hframes.1.symm, hframes.2.symm⟩
  | nil =>
      -- nothing is in front of the reply, so the frame can only be the reply itself
      cases progress with
      | quiet => simp [Progress.frames] at hframes
      | asked => simp [Progress.frames] at hframes
      | answered pending verdict later =>
          simp only [List.map_nil, List.nil_append, Progress.frames, Endpoint.live.injEq,
            List.cons.injEq] at hframes
          exact .inr ⟨pending, verdict, later, rfl, rfl, hframes.1.symm, hframes.2.symm⟩

/-- What is on the link when the controller reads a reply. -/
theorem Matched.replied {front : Front} {outcome : Except FrontError ActorReply}
    (hmatched : Matched actor runtime controller sent progress)
    (hleft : runtime.left = .live (frame :: rest))
    (hreceive : controller.front.receive frame = (front, some outcome)) :
    sent = [] ∧ front = controller.front ∧ ∃ pending verdict later,
      progress = .answered pending verdict later ∧ rest = later.map Progress.frameOf ∧
      outcome = verdict.outcome pending := by
  obtain ⟨compilation, behind, -, rfl, -⟩ | ⟨pending, verdict, later, rfl, rfl, rfl, rfl⟩ :=
    hmatched.first hleft
  · rw [Front.receive_report] at hreceive
    simp at hreceive
  · rw [Front.receive_verdict] at hreceive
    obtain ⟨hfront, houtcome⟩ := Prod.mk.inj hreceive
    exact ⟨rfl, hfront.symm, pending, verdict, later, rfl, rfl, (Option.some.inj houtcome).symm⟩

/-- Once the reply was read, the compilations behind it are in front of the next one. -/
theorem Matched.readReply {pending : Pending} {verdict : Verdict} {later : List Compilation}
    (hmatched : Matched actor runtime controller [] (.answered pending verdict later))
    (hnext : next.pending = none) :
    Matched actor { runtime with left := .live (later.map Progress.frameOf) } next later
      .quiet where
  left := by simp [Progress.frames]
  right := hmatched.right
  gone := hmatched.gone
  pending := hnext

/-- Nothing more comes from an actor that is gone once its frames were read. -/
theorem Matched.closed (hmatched : Matched actor runtime controller sent progress)
    (hclosed : (runtime.left = .live [] ∧ runtime.right.isLive = false) ∨
      runtime.left = .dropped) : actor = none ∧ sent = [] ∧ progress.frames = [] := by
  rcases hclosed with ⟨hleft, hright⟩ | hleft
  · have hempty := hmatched.left.symm.trans hleft
    simp only [Endpoint.live.injEq, List.append_eq_nil_iff, List.map_eq_nil_iff] at hempty
    refine ⟨?_, hempty⟩
    cases hactor : actor with
    | none => rfl
    | some present =>
        -- an actor that is there keeps its end of the link
        rw [hmatched.right (by simp [hactor])] at hright
        cases hright
  · rw [hmatched.left] at hleft
    cases hleft

end

/-! ## Standing of the latest session -/

namespace Standing

variable {actor : Option Actor} {host : Host} {accepted : Nat → List Compilation} {told : Told}
  {controller next : Controller} {sent : List Compilation} {progress after : Progress}

/-- What was announced in the session that lasts is a beginning of what was accepted in it. -/
theorem told_isPrefix {list : List Announcement}
    (hstanding : Standing actor host accepted told controller sent progress)
    (hattached : controller.attached = true) (hcurrent : told.current = some list) :
    list <+: announcements (accepted told.finished.length) := by
  cases hstanding with
  | idle hdetached => simp [hattached] at hdetached
  | beginning hdetached => simp [hattached] at hdetached
  | lasting _ _ _ hlasting _ hbalanced =>
      obtain rfl := Option.some.inj (hcurrent.symm.trans hlasting)
      exact hbalanced.told_isPrefix
  | ending _ _ _ hending _ _ hbalanced =>
      obtain rfl := Option.some.inj (hcurrent.symm.trans hending)
      exact hbalanced.told_isPrefix

/-- Nothing depends on the store, or on a request that was not granted yet. -/
theorem congr (hstanding : Standing actor host accepted told controller sent progress)
    (hattached : next.attached = controller.attached) (hfront : next.front = controller.front)
    (hgranted : after.granted = progress.granted) (hlater : after.later = progress.later) :
    Standing actor host accepted told next sent after := by
  cases hstanding with
  | idle hdetached hreply hactor hbacklog hsent hbehind hlength =>
      exact .idle (hattached.trans hdetached) (hgranted.trans hreply) hactor
        (by rw [hfront, hbacklog]) hsent (hlater.trans hbehind) hlength
  | beginning hdetached hreply hactor hbacklog hsent hlength hbalanced =>
      exact .beginning (hattached.trans hdetached) (hgranted.trans hreply) hactor
        (by rw [hfront, hbacklog]) hsent hlength (by rwa [hlater])
  | lasting hlasting hreply hactor hcurrent hlength hbalanced =>
      exact .lasting (hattached.trans hlasting) (hgranted.trans hreply) hactor hcurrent hlength
        (by rwa [hfront, hlater])
  | ending hlasting hreply hactor hcurrent hbehind hlength hbalanced =>
      exact .ending (hattached.trans hlasting) (hgranted.trans hreply) hactor hcurrent
        (hlater.trans hbehind) hlength (by rwa [hfront])

/-- A compilation in front of the reply goes to the backlog. -/
theorem keep {compilation : Compilation}
    (hstanding : Standing actor host accepted told controller (compilation :: sent) progress) :
    Standing actor host accepted told
      { controller with front := { backlog := controller.front.backlog ++ [compilation] } }
      sent progress := by
  cases hstanding with
  | idle _ _ _ _ hsent => cases hsent
  | beginning _ _ _ _ hsent => cases hsent
  | lasting hlasting hreply hactor hcurrent hlength hbalanced =>
      exact .lasting hlasting hreply hactor hcurrent hlength (by simpa using hbalanced)
  | ending hlasting hreply hactor hcurrent hbehind hlength hbalanced =>
      exact .ending hlasting hreply hactor hcurrent hbehind hlength (by simpa using hbalanced)

/-- The reply to an attach is read. -/
theorem begin {later : List Compilation}
    (hstanding : Standing actor host accepted told controller [] (.answered .attach .granted later))
    (hattached : next.attached = true) (hfront : next.front = controller.front) :
    Standing actor host accepted ⟨told.sessions, some []⟩ next later .quiet := by
  cases hstanding with
  | idle _ hgranted => cases hgranted
  | beginning _ _ hactor hbacklog _ hopened hbalanced =>
      -- the backlog is empty, so the session begins with the compilations behind the reply
      refine .lasting hattached rfl hactor rfl hopened ?_
      rw [hfront, hbacklog]
      simpa [Progress.later] using hbalanced
  | lasting _ hgranted => cases hgranted
  | ending _ hgranted => cases hgranted

/-- The reply to a detach is read, and the backlog is dropped. -/
theorem finish {later : List Compilation}
    (hstanding : Standing actor host accepted told controller [] (.answered .detach .granted later))
    (hattached : next.attached = false) (hbacklog : next.front.backlog = []) :
    Standing actor host accepted ⟨told.sessions, none⟩ next later .quiet := by
  cases hstanding with
  | idle _ hgranted => cases hgranted
  | beginning _ hgranted => cases hgranted
  | lasting _ hgranted => cases hgranted
  | ending _ _ hactor hcurrent hlater hopened _ =>
      have hlength : told.sessions.length = host.opened :=
        (Told.length_sessions hcurrent).trans hopened
      refine .idle hattached rfl hactor hbacklog hlater rfl ?_
      rw [← hlength]
      simp [Told.sessions]

/-- The reply to a request that was refused is read. -/
theorem refuse {pending : Pending} {expected actual : AttachState} {later : List Compilation}
    (hstanding : Standing actor host accepted told controller []
      (.answered pending (.refused expected actual) later))
    (hattached : next.attached = controller.attached) (hfront : next.front = controller.front) :
    Standing actor host accepted told next later .quiet := by
  cases hstanding with
  | idle hdetached _ hactor hbacklog _ hbehind hlength =>
      exact .idle (hattached.trans hdetached) rfl hactor (by rw [hfront, hbacklog]) hbehind rfl
        hlength
  | beginning _ hgranted => cases hgranted
  | lasting hlasting _ hactor hcurrent hlength hbalanced =>
      refine .lasting (hattached.trans hlasting) rfl hactor hcurrent hlength ?_
      rw [hfront]
      simpa [Progress.later] using hbalanced
  | ending _ hgranted => cases hgranted

/-- The oldest compilation that the controller can take in is announced, or ignored. -/
theorem record {compilation : Compilation} {behind : List Compilation}
    (hstanding : Standing actor host accepted told controller sent .quiet)
    (hfirst : controller.front.backlog ++ sent = compilation :: (next.front.backlog ++ behind))
    (hattached : next.attached = controller.attached) :
    controller.attached = true ∧ ∃ list, told.current = some list ∧
      Standing actor host accepted ⟨told.finished, some (list ++ announcements [compilation])⟩
        next behind .quiet := by
  cases hstanding with
  | idle _ _ _ hbacklog hsent => simp [hbacklog, hsent] at hfirst
  | beginning _ hgranted => cases hgranted
  | lasting hlasting _ hactor hcurrent hlength hbalanced =>
      refine ⟨hlasting, _, hcurrent,
        .lasting (hattached.trans hlasting) rfl hactor rfl hlength ?_⟩
      rw [Progress.later_quiet, List.append_nil, hfirst] at hbalanced
      simpa using hbalanced.announce
  | ending _ hgranted => cases hgranted

/-- The actor is gone, and everything that it had posted was taken in. -/
theorem abandon (hstanding : Standing none host accepted told controller [] .quiet)
    (hattached : next.attached = false) (hfront : next.front = controller.front)
    (hbacklog : controller.front.backlog = []) :
    Standing none host accepted told next [] .quiet := by
  have hidle : told.sessions.length = host.opened := by
    cases hstanding with
    | idle _ _ _ _ _ _ hlength => exact hlength
    | beginning _ hgranted => cases hgranted
    | lasting _ _ _ hcurrent hopened _ => rw [Told.length_sessions hcurrent, hopened]
    | ending _ hgranted => cases hgranted
  exact .idle hattached rfl (by simp) (by rw [hfront, hbacklog]) rfl rfl hidle

end Standing

end CompileWatch
