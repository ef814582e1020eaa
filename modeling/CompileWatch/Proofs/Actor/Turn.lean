import CompileWatch.Actor.Service
import CompileWatch.Proofs.Link

/-!
# Turns of the actor

In a step the actor answers a frame, reports a compilation, or stops.  In the first two
turns it posts one packet, and it stops as well if there is nobody to read that.
-/

namespace CompileWatch.ActorService

/-- A packet that is short enough is posted, unless there is nobody to read it. -/
theorem post_of_fits {service : ActorService} {packet : ActorPacket}
    (hfits : (Frame.encode packet.toJson).utf8ByteSize ≤ service.link.maxBytes) :
    service.post packet =
      if service.link.left.isLive then
        { service with link := service.link.posted [Frame.encode packet.toJson] }
      else service.stop := by
  cases hleft : service.link.left with
  | live queue =>
      have hlive : service.link.left.isLive := by rw [hleft]; rfl
      rw [post, Link.post_of_fits hfits hlive]
      rfl
  | dropped =>
      rw [post, Link.post, if_neg (Nat.not_lt.mpr hfits)]
      simp [Side.other, Link.endpoint, hleft, Endpoint.isLive]

/-- As long as there is somebody to read it, a packet is posted unless it is too long. -/
theorem post_of_live {service : ActorService} (hlive : service.link.left.isLive)
    (packet : ActorPacket) :
    service.post packet =
        { service with link := service.link.posted [Frame.encode packet.toJson] } ∨
      service.post packet = service := by
  by_cases hfits : (Frame.encode packet.toJson).utf8ByteSize ≤ service.link.maxBytes
  · rw [post_of_fits hfits, if_pos hlive]
    exact .inl rfl
  · rw [post, Link.post, if_pos (Nat.not_le.mp hfits)]
    exact .inr rfl

/-- What a step of the actor can be. -/
inductive Turn (actor : Actor) (host : Host) (link : Link) : ActorService → Prop
  | answered {frame : Frame} {rest : List Frame} : link.right = .live (frame :: rest) →
      Turn actor host link
        (post
          { actor := some (reply actor host frame).2.1
            host := (reply actor host frame).2.2
            link := { link with right := .live rest } }
          (reply actor host frame).1)
  | reported {compilation : Compilation} {next : Host} : link.right = .live [] →
      link.left.isLive → actor.take? host = some (compilation, next) →
      Turn actor host link
        (post { actor := some actor, host := next, link } (Actor.report compilation))
  | stopped : (link.right = .live [] ∧ link.left.isLive = false) ∨ link.right = .dropped →
      Turn actor host link (stop { actor := some actor, host, link })

/-- **Every step of the actor is one of the turns.** -/
theorem turn_of_step? {actor : Actor} {host : Host} {link : Link} {next : ActorService}
    (hstep : step? { actor := some actor, host, link } = some next) :
    Turn actor host link next := by
  simp only [step?] at hstep
  cases hnext : link.next .right with
  | closed =>
      simp only [hnext, Option.some.injEq] at hstep
      rw [← hstep]
      exact .stopped (Link.next_eq_closed hnext)
  | frame frame after =>
      obtain ⟨rest, hright, rfl⟩ := Link.next_eq_frame hnext
      simp only [hnext, Option.some.injEq] at hstep
      rw [← hstep]
      exact .answered hright
  | waiting =>
      obtain ⟨hright, hlive⟩ := Link.next_eq_waiting hnext
      simp only [hnext, Option.map_eq_some_iff] at hstep
      obtain ⟨⟨compilation, after⟩, htake, hstep⟩ := hstep
      rw [← hstep]
      exact .reported hright hlive htake

end CompileWatch.ActorService
