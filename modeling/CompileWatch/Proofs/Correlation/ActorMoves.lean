import CompileWatch.Proofs.Actor.Turn
import CompileWatch.Proofs.Correlation.Phase

/-!
# The actor in an orderly run

At most one request waits at the actor, and only that request can make it change its
state.
-/

namespace CompileWatch

variable {Image : Type}

namespace Correlated

variable {traced : Traced Image} {controller : Controller} {requests : List Frame}
  {inbox : List (Frame × Option Nat)}

/-- The actor takes the request or nothing, and only the request can make it change its state. -/
theorem serve (hcorrelated : Correlated traced controller requests inbox) {actor present : Actor}
    (hactor : traced.session.actor = some actor) {host : Host} {link : Link}
    {waiting rest replies : List Frame}
    (hstep : traced.session.service.step? = some { actor := some present, host, link })
    (hwaiting : traced.session.runtime.right = .live waiting) (hrest : link.right = .live rest)
    (hreplies : link.left = .live replies) {changes : List (Option Nat × AttachState)}
    (hchanges : (if present.state = actor.state then [] else
      [(traced.asked.head?.join, present.state)]) = changes)
    (hrequest : changes = [] ∨ ∃ request state, controller.pending = some request ∧
      traced.asked = [some (traced.stores.length - 1)] ∧
      changes = [(some (traced.stores.length - 1), state)])
    (herrand : Errand (traced.stores.length - 1) (traced.switches ++ changes) controller.pending
      (traced.asked.drop (waiting.length - rest.length)) rest replies) :
    Correlated (traced.move (.step .actor)) controller requests inbox := by
  have hnext : traced.session.move (.step .actor) =
      { traced.session with actor := some present, host, runtime := link } := by
    simp [Session.move, Session.step?, hstep, Session.withService]
  have hmove : traced.move (.step .actor) =
      { traced with
        session := { traced.session with actor := some present, host, runtime := link }
        asked := traced.asked.drop (waiting.length - rest.length)
        switches := traced.switches ++ changes } := by
    rw [Traced.move, hnext, Traced.actor]
    simp [hactor, ← hchanges, Link.queue, Link.endpoint, hwaiting, hrest, Endpoint.queue]
  have hnewer : ∀ number state, (some number, state) ∈ changes →
      number + 1 = traced.stores.length ∧ some number ∈ traced.asked := by
    intro number state hchange
    rcases hrequest with rfl | ⟨request, changed, hpending, hasked, rfl⟩
    · cases hchange
    · have hphase := hcorrelated.phase
      rw [hpending] at hphase
      have hpos := hphase.stores_pos
      simp only [List.mem_singleton, Prod.mk.injEq, Option.some.injEq] at hchange
      refine ⟨by omega, ?_⟩
      rw [hasked, hchange.1]
      exact List.mem_singleton_self _
  rw [hmove]
  constructor
  case panel => exact hcorrelated.panel
  case actor => rfl
  case present => exact hcorrelated.present
  case right => exact hcorrelated.right
  case left => exact hcorrelated.left
  case origins => exact hcorrelated.origins
  case posted => exact hcorrelated.posted
  case errand => exact ⟨rest, replies, hrest, hreplies, herrand⟩
  case phase =>
    rcases hrequest with rfl | ⟨request, state, hpending, -, -⟩
    · rw [List.append_nil]
      exact hcorrelated.phase
    · have hphase := hcorrelated.phase
      rw [hpending] at hphase ⊢
      exact hphase.switch _
  case switches =>
    intro number state hswitch
    rcases List.mem_append.mp hswitch with hswitch | hchange
    · exact hcorrelated.switches number state hswitch
    · exact Nat.lt_of_succ_le (Nat.le_of_eq (hnewer number state hchange).1)
  case older =>
    intro ending hending
    obtain ⟨holder, hasked⟩ := hcorrelated.older ending hending
    exact ⟨holder, fun number hnumber => hasked number (List.mem_of_mem_drop hnumber)⟩
  case correct =>
    intro ending hending
    obtain ⟨holder, hasked⟩ := hcorrelated.older ending hending
    have hcorrect := @Ending.Correct.mono _ _ _ [] _ (traced.switches ++ changes)
      (hcorrelated.correct ending hending) holder ?_
    · rw [List.append_nil] at hcorrect
      exact hcorrect
    · intro state
      rw [List.mem_append, or_iff_left]
      intro hchange
      exact absurd (hasked _ (hnewer _ _ hchange).2) (Nat.lt_irrefl _)

/-- The actor answers the request that waits at its end. -/
theorem actor_answer (hcorrelated : Correlated traced controller requests inbox) {actor : Actor}
    (hactor : traced.session.actor = some actor) {frame : Frame} {rest : List Frame}
    (hright : traced.session.runtime.right = .live (frame :: rest))
    (hstep : traced.session.service.step? = some (ActorService.post
      { actor := some (ActorService.reply actor traced.session.host frame).2.1
        host := (ActorService.reply actor traced.session.host frame).2.2
        link := { traced.session.runtime with right := .live rest } }
      (ActorService.reply actor traced.session.host frame).1)) :
    Correlated (traced.move (.step .actor)) controller requests inbox := by
  obtain ⟨waiting, replies, hwaiting, hreplies, herrand⟩ := hcorrelated.errand
  obtain rfl := Endpoint.live.inj (hright.symm.trans hwaiting)
  obtain ⟨request, reports, hpending, hasked, rfl, rfl, rfl, hnone⟩ := herrand.of_waiting
  rw [ActorService.reply_request] at hstep
  obtain ⟨verdict, hpacket, hstate⟩ := actor.exists_verdict traced.session.host request
  rw [hpacket] at hstep
  generalize (actor.handle traced.session.host (Controller.requestOf request)).2.1 = present
    at hstep hstate
  generalize (actor.handle traced.session.host (Controller.requestOf request)).2.2 = host at hstep
  have hlink : ({ traced.session.runtime with right := .live [] } : Link).left =
      .live (reports.map Progress.frameOf) := hreplies
  have hempty : ({ traced.session.runtime with right := .live [] } : Link).right = .live [] := rfl
  generalize ({ traced.session.runtime with right := .live [] } : Link) = link
    at hstep hlink hempty
  have hleft : link.left.isLive := by
    rw [hlink]
    rfl
  obtain ⟨changes, hchanges, hrequest, hverdict⟩ :
      ∃ changes, (if present.state = actor.state then [] else
          [(traced.asked.head?.join, present.state)]) = changes ∧
        (changes = [] ∨ ∃ request state, controller.pending = some request ∧
          traced.asked = [some (traced.stores.length - 1)] ∧
          changes = [(some (traced.stores.length - 1), state)]) ∧
        (verdict = .granted ↔
          (some (traced.stores.length - 1), request.target) ∈ traced.switches ++ changes) := by
    rcases hstate with ⟨hgranted, hother, hpresent⟩ | ⟨hrefused, hpresent⟩
    · have hchanged : present.state ≠ actor.state := hpresent ▸ hother.symm
      refine ⟨[(some (traced.stores.length - 1), request.target)], ?_,
        .inr ⟨request, request.target, hpending, hasked, rfl⟩, by simp [hgranted]⟩
      rw [if_neg hchanged, hasked, hpresent]
      rfl
    · refine ⟨[], if_pos hpresent, .inl rfl, ?_⟩
      simp [hrefused, hnone request.target]
  have hpost := @ActorService.post_of_live { actor := some present, host, link } hleft
    (verdict.packet request)
  rcases hpost with hpost | hpost
  · rw [hpost] at hstep
    have hsent : (link.posted [Frame.encode (verdict.packet request).toJson]).left =
        .live (reports.map Progress.frameOf ++ [Frame.encode (verdict.packet request).toJson]) := by
      rw [Link.left_posted, hlink]
      rfl
    refine hcorrelated.serve hactor hstep hright hempty hsent hchanges hrequest ?_
    rw [hpending, hasked]
    exact .replied reports [] hverdict
  · rw [hpost] at hstep
    refine hcorrelated.serve hactor hstep hright hempty hlink hchanges hrequest ?_
    rw [hpending, hasked]
    exact .lost reports

/-- **Every step of the actor keeps requests and answers together.** -/
theorem stepActor (hcorrelated : Correlated traced controller requests inbox) :
    Correlated (traced.move (.step .actor)) controller requests inbox := by
  obtain ⟨waiting, replies, hwaiting, hreplies, herrand⟩ := hcorrelated.errand
  obtain ⟨actor, hactor⟩ := Option.isSome_iff_exists.mp hcorrelated.actor
  cases hstep : traced.session.service.step? with
  | none =>
      have hstays : traced.session.move (.step .actor) = traced.session := by
        simp [Session.move, Session.step?, hstep]
      have hmove : traced.move (.step .actor) = traced := by
        rw [Traced.move, hstays, Traced.actor, Nat.sub_self]
        simp
      rw [hmove]
      exact hcorrelated
  | some next =>
      have hturn : ActorService.Turn actor traced.session.host traced.session.runtime next := by
        apply ActorService.turn_of_step?
        rw [← hstep, Session.service, hactor]
      cases hturn with
      | answered hright => exact hcorrelated.actor_answer hactor hright hstep
      | @reported compilation host hright hlive htake =>
          obtain rfl := Endpoint.live.inj (hright.symm.trans hwaiting)
          have hchanges : (if actor.state = actor.state then ([] : List (Option Nat × AttachState))
              else [(traced.asked.head?.join, actor.state)]) = [] := if_pos rfl
          have hposted := @ActorService.post_of_live
            { actor := some actor, host, link := traced.session.runtime } hlive
            (Actor.report compilation)
          rcases hposted with hposted | hposted
          · rw [hposted] at hstep
            have hsent : (traced.session.runtime.posted [Progress.frameOf compilation]).left =
                .live (replies ++ [Progress.frameOf compilation]) := by
              rw [Link.left_posted, hreplies]
              rfl
            refine hcorrelated.serve hactor hstep hright hright hsent hchanges (.inl rfl) ?_
            rw [List.append_nil]
            exact herrand.report compilation
          · rw [hposted] at hstep
            refine hcorrelated.serve hactor hstep hright hright hreplies hchanges (.inl rfl) ?_
            rw [List.append_nil]
            exact herrand
      | stopped hgone =>
          -- both ends of the runtime link are in use
          rcases hgone with ⟨-, hgone⟩ | hgone
          · rw [hreplies] at hgone
            cases hgone
          · rw [hwaiting] at hgone
            cases hgone

end Correlated

end CompileWatch
