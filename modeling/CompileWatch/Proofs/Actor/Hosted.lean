import CompileWatch.Actor.Service
import CompileWatch.Proofs.Message.RoundTrip

/-!
# One actor on its host

As long as nobody else opens sessions on the host, the host and its actor agree: while
the actor is attached, its session is the latest one that was opened, its hook is the
one that is installed and switched on, and its mailbox is the only one; otherwise the
hook is switched off and there is no mailbox.  Every request and every compilation
preserves this.
-/

namespace CompileWatch

theorem ActorService.reply_request (actor : Actor) (host : Host) (request : ActorRequest) :
    reply actor host (Frame.encode request.toJson) = actor.handle host request := by
  rw [reply, ActorRequest.decode_encode]

/-- The host and its only actor agree. -/
inductive Hosted : Option Actor → Host → Prop
  | attached {host : Host} {session : Nat} {waiting : List Compilation} :
      host.hook = some session → host.enabled = true → host.opened = session + 1 →
      host.mailboxes = [(session, waiting)] → Hosted (some (.attached session)) host
  | idle {actor : Option Actor} {host : Host} : (∀ present, actor = some present →
      present = .detached) → host.enabled = false → host.mailboxes = [] → Hosted actor host

theorem Actor.opened_release (actor : Actor) (host : Host) :
    (actor.release host).opened = host.opened := by
  cases actor <;> rfl

namespace Hosted

variable {actor : Actor} {host : Host} {session : Nat} {waiting : List Compilation}

/-! ## Compilations -/

/-- While the actor is attached, its mailbox is the only one. -/
theorem exists_mailbox (hhosted : Hosted (some (.attached session)) host) :
    host.opened = session + 1 ∧ ∃ waiting, host.mailboxes = [(session, waiting)] := by
  cases hhosted with
  | attached _ _ hopened hmailboxes => exact ⟨hopened, _, hmailboxes⟩
  | idle hactor => exact absurd (hactor _ rfl) (by simp)

/-- A compilation is accepted if and only if the actor is attached, and then it waits behind the
others in the mailbox of the actor's session. -/
theorem compile?_eq (hhosted : Hosted (some (.attached session)) host)
    (hwaiting : host.mailboxes = [(session, waiting)]) (compilation : Compilation) :
    host.hook = some session ∧ host.compile? compilation =
      some { host with mailboxes := [(session, waiting ++ [compilation])] } := by
  cases hhosted with
  | attached hhook henabled _ hmailboxes =>
      refine ⟨hhook, ?_⟩
      simp [Host.compile?, henabled, hhook, Host.fire?, Host.mailbox?, Assoc.get?, hwaiting,
        Assoc.set, List.lookup]
  | idle hactor => exact absurd (hactor _ rfl) (by simp)

theorem compile?_eq_none {actor : Option Actor} (hhosted : Hosted actor host)
    (hactor : ∀ session, actor ≠ some (.attached session)) (compilation : Compilation) :
    host.compile? compilation = none := by
  cases hhosted with
  | attached => exact absurd rfl (hactor _)
  | idle _ henabled => simp [Host.compile?, henabled]

/-- Only the hook of the actor's session reaches a mailbox. -/
theorem fire?_eq_some {actor : Option Actor} (hhosted : Hosted actor host)
    {compilation : Compilation} {next : Host}
    (hfire : host.fire? session compilation = some next) :
    ∃ waiting, actor = some (.attached session) ∧ host.mailboxes = [(session, waiting)] ∧
      next = { host with mailboxes := [(session, waiting ++ [compilation])] } := by
  cases hhosted with
  | @attached _ current waiting _ _ _ hmailboxes =>
      by_cases hsession : session = current
      · subst hsession
        simp [Host.fire?, Host.mailbox?, Assoc.get?, hmailboxes, Assoc.set] at hfire
        exact ⟨waiting, rfl, hmailboxes, hfire.symm⟩
      · have hnone : host.mailbox? session = none := by
          simp [Host.mailbox?, Assoc.get?, hmailboxes, List.lookup, beq_eq_false_iff_ne.mpr hsession]
        rw [Host.fire?, hnone] at hfire
        cases hfire
  | idle _ _ hmailboxes => simp [Host.fire?, Host.mailbox?, Assoc.get?, hmailboxes] at hfire

/-- A compilation goes where the hook that is installed puts it. -/
theorem compile?_eq_some {actor : Option Actor} (hhosted : Hosted actor host)
    {compilation : Compilation} {next : Host}
    (hcompile : host.compile? compilation = some next) :
    ∃ session waiting, actor = some (.attached session) ∧
      host.mailboxes = [(session, waiting)] ∧
      next = { host with mailboxes := [(session, waiting ++ [compilation])] } := by
  rw [Host.compile?] at hcompile
  split at hcompile
  · obtain ⟨session, -, hfire⟩ := Option.bind_eq_some_iff.mp hcompile
    exact ⟨session, hhosted.fire?_eq_some hfire⟩
  · cases hcompile

/-- The compilation that is taken was the first in the mailbox. -/
theorem take?_eq_some (hhosted : Hosted (some actor) host) {compilation : Compilation}
    {next : Host} (htake : actor.take? host = some (compilation, next)) :
    ∃ session waiting, actor = .attached session ∧
      host.mailboxes = [(session, compilation :: waiting)] ∧
      next = { host with mailboxes := [(session, waiting)] } := by
  cases hhosted with
  | @attached _ session waiting _ _ _ hmailboxes =>
      cases waiting with
      | nil =>
          simp [Actor.take?, Host.take?, Host.mailbox?, Assoc.get?, hmailboxes] at htake
      | cons first rest =>
          simp [Actor.take?, Host.take?, Host.mailbox?, Assoc.get?, hmailboxes, Assoc.set] at htake
          exact ⟨session, rest, rfl, by rw [hmailboxes, htake.1], htake.2.symm⟩
  | idle hactor =>
      rw [hactor actor rfl] at htake
      simp [Actor.take?] at htake

theorem setMailbox (hhosted : Hosted (some (.attached session)) host)
    (waiting : List Compilation) :
    Hosted (some (.attached session)) { host with mailboxes := [(session, waiting)] } := by
  cases hhosted with
  | attached hhook henabled hopened _ => exact .attached hhook henabled hopened rfl
  | idle hactor => exact absurd (hactor _ rfl) (by simp)

/-! ## Requests -/

theorem openSession (hhosted : Hosted (some .detached) host) :
    Hosted (some (.attached host.opened)) host.openSession.2 := by
  cases hhosted with
  | idle _ _ hmailboxes =>
      exact @attached _ _ [] rfl rfl rfl (by simp [Host.openSession, hmailboxes, Assoc.set])

theorem endSession (hhosted : Hosted (some (.attached session)) host) {actor : Option Actor}
    (hactor : ∀ present, actor = some present → present = .detached) :
    Hosted actor (host.endSession session) := by
  cases hhosted with
  | attached _ _ _ hmailboxes => exact .idle hactor rfl (by simp [Host.endSession, hmailboxes])
  | idle hdetached => exact absurd (hdetached _ rfl) (by simp)

theorem release (hhosted : Hosted (some actor) host) : Hosted none (actor.release host) := by
  cases actor with
  | attached session => exact hhosted.endSession nofun
  | detached =>
      cases hhosted with
      | idle _ henabled hmailboxes => exact .idle nofun henabled hmailboxes

theorem handle (hhosted : Hosted (some actor) host) (request : ActorRequest) :
    Hosted (some (actor.handle host request).2.1) (actor.handle host request).2.2 ∧
      host.opened ≤ (actor.handle host request).2.2.opened := by
  cases request <;> cases actor
  case attach.detached => exact ⟨hhosted.openSession, Nat.le_succ _⟩
  case detach.attached session =>
    exact ⟨hhosted.endSession fun present hpresent => (Option.some.inj hpresent).symm, Nat.le_refl _⟩
  all_goals exact ⟨hhosted, Nat.le_refl _⟩

theorem reply (hhosted : Hosted (some actor) host) (frame : Frame) :
    Hosted (some (ActorService.reply actor host frame).2.1) (ActorService.reply actor host frame).2.2 ∧
      host.opened ≤ (ActorService.reply actor host frame).2.2.opened := by
  rw [ActorService.reply]
  cases Frame.decode ActorRequest.ofJson? frame with
  | error error => exact ⟨hhosted, Nat.le_refl _⟩
  | ok request => exact hhosted.handle request

end Hosted

end CompileWatch
