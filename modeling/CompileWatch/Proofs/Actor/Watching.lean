import CompileWatch.Proofs.Actor.Serving

/-!
# One actor, called directly

The hook, the switch, the mark for debuggees and the count of sessions belong to the host, and they
are set one by one when the actor attaches, detaches, is destroyed or is dropped.  Here the actor is
called directly, on a host that is otherwise left alone, and the four always say the same: they are
set while the actor is attached, and otherwise there is no trace of it.  Sessions are counted against
requests: one is opened for each request to attach that finds the actor detached.  A hook that
somebody keeps is the number of its session.  Since a number is never given again, it is worthless
once the session has ended.
-/

namespace CompileWatch

/-- Detaches the actor if it is attached, and lets it go. -/
def Actor.destroy (actor : Actor) (host : Host) : Host :=
  match actor.detach host with
  | .ok (actor, host) => actor.release host
  | .error _ => actor.release host

/-- An actor that was detached has no session left to end. -/
theorem Actor.destroy_eq_release (actor : Actor) (host : Host) :
    actor.destroy host = actor.release host := by
  cases actor <;> rfl

/-- A request that does not fit the actor's state changes nothing. -/
theorem Actor.handle_of_wrongState {actor : Actor} {host : Host} {request : ActorRequest}
    {expected actual : AttachState}
    (hrefused : (actor.handle host request).1 = .wrongState expected actual) :
    (actor.handle host request).2 = (actor, host) := by
  cases request <;> cases actor
  case attach.detached | detach.attached => cases hrefused
  all_goals rfl

/-- The actor says that it is attached exactly if it was asked to attach while it was detached. -/
theorem Actor.handle_eq_attached_iff {actor : Actor} {host : Host} {request : ActorRequest} :
    (actor.handle host request).1 = .state .attached ↔
      request = .attach ∧ actor.state = .detached := by
  cases request <;> cases actor
  case attach.detached => exact iff_of_true rfl ⟨rfl, rfl⟩
  all_goals exact iff_of_false nofun nofun

/-! ## Calls -/

/-- Something that is done with the actor or with its host. -/
inductive WatchMove
  | request (request : ActorRequest)
  | compile (compilation : Compilation)
  /-- Fires the hook of a session that somebody has kept. -/
  | fire (session : Nat) (compilation : Compilation)
  /-- The actor takes the oldest compilation out of its mailbox. -/
  | take
  | destroy
  | drop
  deriving DecidableEq, Repr

/-- What ends a session. -/
inductive WatchMove.Ends : WatchMove → Prop
  | detach : Ends (.request .detach)
  | destroy : Ends .destroy
  | drop : Ends .drop

/-- An actor on a host that nobody else has used.  There is no actor once it was destroyed or
dropped. -/
structure Watch where
  actor : Option Actor := some .detached
  host : Host := {}
  /-- What the actor replied to the requests, oldest first. -/
  replies : List ActorPacket := []
  deriving DecidableEq, Repr

namespace Watch

def move (watch : Watch) : WatchMove → Watch
  | .request request =>
    match watch.actor with
    | none => watch
    | some actor =>
      let (packet, actor, host) := actor.handle watch.host request
      { actor := some actor, host, replies := watch.replies ++ [packet] }
  | .compile compilation =>
    { watch with host := (watch.host.compile? compilation).getD watch.host }
  | .fire session compilation =>
    { watch with host := (watch.host.fire? session compilation).getD watch.host }
  | .take =>
    { watch with
      host := ((watch.actor.bind fun actor => actor.take? watch.host).map Prod.snd).getD
        watch.host }
  | .destroy =>
    match watch.actor with
    | none => watch
    | some actor => { watch with actor := none, host := actor.destroy watch.host }
  | .drop =>
    match watch.actor with
    | none => watch
    | some actor => { watch with actor := none, host := actor.release watch.host }

def run (watch : Watch) (moves : List WatchMove) : Watch :=
  moves.foldl move watch

/-- The state of the actor, if it is still there. -/
def state? (watch : Watch) : Option AttachState :=
  watch.actor.map Actor.state

/-- The number of requests to attach that were granted. -/
def granted (watch : Watch) : Nat :=
  watch.replies.count (.state .attached)

/-- Whether a call asks a detached actor to attach. -/
def attaches (watch : Watch) (move : WatchMove) : Bool :=
  move = .request .attach && watch.state? = some .detached

/-- The number of calls in a sequence that ask a detached actor to attach. -/
def attachments (watch : Watch) : List WatchMove → Nat
  | [] => 0
  | first :: rest =>
    (if watch.attaches first then 1 else 0) + (watch.move first).attachments rest

/-! ## Requests that are granted -/

/-- A call is granted if it asks a detached actor to attach, and no other call is. -/
theorem granted_move (watch : Watch) (move : WatchMove) :
    (watch.move move).granted = watch.granted + if watch.attaches move then 1 else 0 := by
  cases hactor : watch.actor with
  | none =>
      -- nobody is there who would reply
      have hreplies : (watch.move move).replies = watch.replies := by
        cases move <;> simp [Watch.move, hactor]
      simp [granted, hreplies, attaches, state?, hactor]
  | some actor =>
      cases move with
      | request request =>
          have hreplies : (watch.move (.request request)).replies =
              watch.replies ++ [(actor.handle watch.host request).1] := by
            simp [Watch.move, hactor]
          have hasked : watch.attaches (.request request) ↔
              (actor.handle watch.host request).1 = .state .attached := by
            rw [Actor.handle_eq_attached_iff]
            simp [attaches, state?, hactor]
          simp only [granted, hreplies, List.count_append, List.count_singleton, hasked, beq_iff_eq]
      | _ => simp [granted, Watch.move, hactor, attaches]

/-- Over a sequence of calls, as many requests are granted as ask a detached actor to attach. -/
theorem granted_run (watch : Watch) (moves : List WatchMove) :
    (watch.run moves).granted = watch.granted + watch.attachments moves := by
  induction moves generalizing watch with
  | nil => rfl
  | cons first rest ih =>
      calc (watch.run (first :: rest)).granted
          = (watch.move first).granted + (watch.move first).attachments rest := ih _
        _ = watch.granted + watch.attachments (first :: rest) := by
            rw [granted_move, attachments, Nat.add_assoc]

/-! ## What a call can do -/

/-- The cases of a call. -/
inductive Turn (watch : Watch) : Watch → Prop
  | idle : Turn watch watch
  /-- A request is refused, or it is a greeting. -/
  | answered {packet : ActorPacket} : packet ≠ .state .attached →
      Turn watch { watch with replies := watch.replies ++ [packet] }
  | attached : watch.actor = some .detached →
      Turn watch
        { actor := some (.attached watch.host.opened)
          host := watch.host.openSession.2
          replies := watch.replies ++ [.state .attached] }
  | detached {session : Nat} : watch.actor = some (.attached session) →
      Turn watch
        { actor := some .detached
          host := watch.host.endSession session
          replies := watch.replies ++ [.state .detached] }
  /-- A compilation is put into the mailbox of the actor, or taken out of it. -/
  | mailbox {session : Nat} {waiting : List Compilation} :
      watch.actor = some (.attached session) →
      Turn watch { watch with host := { watch.host with mailboxes := [(session, waiting)] } }
  | released {actor : Actor} : watch.actor = some actor →
      Turn watch { watch with actor := none, host := actor.release watch.host }

/-- The host shows whether its actor is attached, and has opened a session for every request that
was granted. -/
structure Sound (watch : Watch) : Prop where
  hosted : Hosted watch.actor watch.host
  sole : Sole watch.actor watch.host
  debuggees : ∀ session, watch.actor = some (.attached session) →
    watch.host.hasDebuggees = true
  opened : watch.host.opened = watch.granted

variable {watch next : Watch}

theorem turn_request (watch : Watch) (request : ActorRequest) :
    watch.Turn (watch.move (.request request)) := by
  cases hactor : watch.actor with
  | none =>
      rw [move, hactor]
      exact .idle
  | some actor =>
      have hmove : watch.move (.request request) =
          { actor := some (actor.handle watch.host request).2.1
            host := (actor.handle watch.host request).2.2
            replies := watch.replies ++ [(actor.handle watch.host request).1] } := by
        rw [move, hactor]
      have hanswered {packet : ActorPacket} (hpacket : packet ≠ .state .attached) :
          watch.Turn
            { actor := some actor, host := watch.host, replies := watch.replies ++ [packet] } := by
        rw [← hactor]
        exact .answered hpacket
      rw [hmove]
      cases request <;> cases actor
      case attach.detached => exact .attached hactor
      case detach.attached => exact .detached hactor
      all_goals exact hanswered nofun

theorem Sound.turn_move (hsound : watch.Sound) (move : WatchMove) :
    watch.Turn (watch.move move) := by
  cases move with
  | request request => exact watch.turn_request request
  | compile compilation =>
      rw [Watch.move]
      cases hcompile : watch.host.compile? compilation with
      | none => exact .idle
      | some host =>
          obtain ⟨session, waiting, hactor, -, rfl⟩ := hsound.hosted.compile?_eq_some hcompile
          exact .mailbox hactor
  | fire session compilation =>
      rw [Watch.move]
      cases hfire : watch.host.fire? session compilation with
      | none => exact .idle
      | some host =>
          obtain ⟨waiting, hactor, -, rfl⟩ := hsound.hosted.fire?_eq_some hfire
          exact .mailbox hactor
  | take =>
      rw [Watch.move]
      cases htake : watch.actor.bind fun actor => actor.take? watch.host with
      | none => exact .idle
      | some taken =>
          obtain ⟨actor, hactor, htake⟩ := Option.bind_eq_some_iff.mp htake
          have hhosted : Hosted (some actor) watch.host := hactor ▸ hsound.hosted
          obtain ⟨session, waiting, rfl, -, hnext⟩ := hhosted.take?_eq_some htake
          rw [Option.map_some, Option.getD_some, hnext]
          exact .mailbox hactor
  | destroy =>
      cases hactor : watch.actor with
      | none =>
          rw [Watch.move, hactor]
          exact .idle
      | some actor =>
          rw [Watch.move, hactor]
          simp only [actor.destroy_eq_release]
          exact .released hactor
  | drop =>
      cases hactor : watch.actor with
      | none =>
          rw [Watch.move, hactor]
          exact .idle
      | some actor =>
          rw [Watch.move, hactor]
          exact .released hactor

/-! ## What stays true -/

theorem sound_fresh : Sound {} where
  hosted := .idle (fun _ hpresent => (Option.some.inj hpresent).symm) rfl rfl
  sole := .idle (fun _ hpresent => (Option.some.inj hpresent).symm) ⟨rfl, rfl, rfl, rfl⟩
  debuggees := nofun
  opened := rfl

theorem Sound.turn (hsound : watch.Sound) (hturn : watch.Turn next) : next.Sound := by
  obtain ⟨hhosted, hsole, hdebuggees, hopened⟩ := hsound
  have hdetached : ∀ present, some Actor.detached = some present → present = .detached :=
    fun _ hpresent => (Option.some.inj hpresent).symm
  cases hturn with
  | idle => exact ⟨hhosted, hsole, hdebuggees, hopened⟩
  | @answered packet hpacket =>
      refine ⟨hhosted, hsole, hdebuggees, ?_⟩
      have hnone : [packet].count (.state .attached) = 0 :=
        List.count_eq_zero.mpr (by simpa using hpacket.symm)
      rw [granted, List.count_append, hnone]
      exact hopened
  | attached hactor =>
      rw [hactor] at hhosted hsole
      refine ⟨hhosted.openSession, hsole.openSession, fun _ _ => rfl, ?_⟩
      rw [granted, List.count_append, ← granted, ← hopened]
      rfl
  | detached hactor =>
      rw [hactor] at hhosted hsole
      refine ⟨hhosted.endSession hdetached, hsole.endSession hdetached, nofun, ?_⟩
      rw [granted, List.count_append, ← granted, ← hopened]
      rfl
  | mailbox hactor =>
      rw [hactor] at hhosted
      exact ⟨hactor ▸ hhosted.setMailbox _, hsole.setMailboxes _, hdebuggees, hopened⟩
  | @released actor hactor =>
      rw [hactor] at hhosted hsole
      exact ⟨hhosted.release, hsole.release, nofun, (actor.opened_release _).trans hopened⟩

theorem Sound.run (hsound : watch.Sound) (moves : List WatchMove) : (watch.run moves).Sound := by
  induction moves generalizing watch with
  | nil => exact hsound
  | cons move rest ih => exact ih (hsound.turn (hsound.turn_move move))

/-! ## What the host shows -/

/-- A session is watched on the host, and it is the latest that was opened. -/
structure Watched (host : Host) (session : Nat) : Prop where
  hook : host.hook = some session
  enabled : host.enabled = true
  hasDebuggees : host.hasDebuggees = true
  live : host.live = 1
  opened : host.opened = session + 1

/-- The actor is attached and the host shows it, or the actor is not attached and the host shows no
trace of it. -/
inductive Shown (watch : Watch) : Prop
  | present {session : Nat} : watch.actor = some (.attached session) →
      Watched watch.host session → Shown watch
  | absent : watch.state? ≠ some .attached → watch.host.Clear → Shown watch

theorem Sound.shown (hsound : watch.Sound) : watch.Shown := by
  rcases watch with ⟨actor, host, replies⟩
  have hhosted : Hosted actor host := hsound.hosted
  have hsole : Sole actor host := hsound.sole
  cases hsole with
  | idle hactor hclear =>
      refine .absent ?_ hclear
      intro hstate
      obtain ⟨present, hpresent, hattached⟩ := Option.map_eq_some_iff.mp hstate
      rw [hactor present hpresent] at hattached
      cases hattached
  | @attached _ session hlive =>
      cases hhosted with
      | attached hhook henabled hopened _ =>
          exact .present rfl ⟨hhook, henabled, hsound.debuggees session rfl, hlive, hopened⟩
      | idle hactor => exact absurd (hactor _ rfl) (by simp)

theorem Shown.attached_iff (hshown : watch.Shown) :
    watch.state? = some .attached ↔ watch.host.hook.isSome ∧ watch.host.enabled = true ∧
      watch.host.hasDebuggees = true ∧ watch.host.live = 1 := by
  cases hshown with
  | present hactor hwatched =>
      simp [state?, hactor, Actor.state, hwatched.hook, hwatched.enabled, hwatched.hasDebuggees,
        hwatched.live]
  | absent hstate hclear => simp [hstate, hclear.hook]

theorem Shown.clear_iff (hshown : watch.Shown) :
    watch.state? ≠ some .attached ↔ watch.host.Clear := by
  cases hshown with
  | absent hstate hclear => exact iff_of_true hstate hclear
  | present hactor hwatched =>
      refine iff_of_false (not_not_intro ?_) ?_
      · rw [state?, hactor]
        rfl
      · intro hclear
        exact absurd (hclear.hook.symm.trans hwatched.hook) nofun

theorem Sound.isSome_compile? (hsound : watch.Sound) (compilation : Compilation) :
    (watch.host.compile? compilation).isSome ↔ watch.state? = some .attached := by
  constructor
  · intro haccepted
    obtain ⟨host, hcompile⟩ := Option.isSome_iff_exists.mp haccepted
    obtain ⟨session, waiting, hactor, -⟩ := hsound.hosted.compile?_eq_some hcompile
    rw [state?, hactor]
    rfl
  · intro hstate
    obtain ⟨actor, hactor, hattached⟩ := Option.map_eq_some_iff.mp hstate
    cases actor with
    | detached => cases hattached
    | attached session =>
        have hhosted : Hosted (some (.attached session)) watch.host := hactor ▸ hsound.hosted
        obtain ⟨-, waiting, hwaiting⟩ := hhosted.exists_mailbox
        rw [(hhosted.compile?_eq hwaiting compilation).2]
        rfl

/-! ## Hooks that are kept -/

/-- The session was opened, and it is not the one that the actor has. -/
structure Ended (watch : Watch) (session : Nat) : Prop where
  lt_opened : session < watch.host.opened
  left : watch.actor ≠ some (.attached session)

theorem Ended.turn {session : Nat} (hended : watch.Ended session) (hturn : watch.Turn next) :
    next.Ended session := by
  obtain ⟨hlt, hleft⟩ := hended
  cases hturn with
  | idle | answered => exact ⟨hlt, hleft⟩
  | mailbox => exact ⟨hlt, hleft⟩
  | attached =>
      -- the number of the session that begins was not given before
      refine ⟨Nat.lt_succ_of_lt hlt, ?_⟩
      intro hsame
      rw [Option.some.injEq, Actor.attached.injEq] at hsame
      omega
  | detached => exact ⟨hlt, nofun⟩
  | @released actor => exact ⟨(actor.opened_release _).symm ▸ hlt, nofun⟩

theorem Ended.run {session : Nat} (hended : watch.Ended session) (hsound : watch.Sound)
    (moves : List WatchMove) : (watch.run moves).Ended session := by
  induction moves generalizing watch with
  | nil => exact hended
  | cons move rest ih =>
      have hturn := hsound.turn_move move
      exact ih (hended.turn hturn) (hsound.turn hturn)

/-- The session whose hook was installed has ended after a call that ends sessions. -/
theorem Sound.ended (hsound : watch.Sound) {session : Nat}
    (hhook : watch.host.hook = some session) {move : WatchMove} (hends : move.Ends) :
    (watch.move move).Ended session := by
  obtain ⟨hactor, hlt⟩ : watch.actor = some (.attached session) ∧
      session < watch.host.opened := by
    cases hsound.shown with
    | absent _ hclear => exact absurd (hclear.hook.symm.trans hhook) nofun
    | @present current hactor hwatched =>
        obtain rfl : current = session := Option.some.inj (hwatched.hook.symm.trans hhook)
        exact ⟨hactor, by rw [hwatched.opened]; exact Nat.lt_succ_self _⟩
  cases hends with
  | detach | destroy | drop =>
      rw [Watch.move, hactor]
      exact ⟨hlt, nofun⟩

theorem Ended.fire?_eq_none {session : Nat} (hended : watch.Ended session) (hsound : watch.Sound)
    (compilation : Compilation) : watch.host.fire? session compilation = none := by
  cases hfire : watch.host.fire? session compilation with
  | none => rfl
  | some host =>
      obtain ⟨waiting, hactor, -⟩ := hsound.hosted.fire?_eq_some hfire
      exact absurd hactor hended.left

/-- **The host shows whether its actor is attached.**  An actor is called in any way and in the end
destroyed or dropped, compilations are completed, and hooks that somebody kept are fired.  The actor
is attached exactly if a hook is installed and switched on, there are debuggees and one session is
left; it is detached or gone exactly if there is no trace of it on the host.  The host has opened as
many sessions as requests to attach were granted, and these are as many as were made of a detached
actor: such a request is granted, and no other is answered like it.  A request that is refused
because of the actor's state changes neither the actor nor anything on the host.  A compilation is
accepted exactly if the actor is attached, and then it is put behind those that wait in the actor's
mailbox, which is the only one.  Once its session has ended, whether by a detach or because the
actor went, a hook reaches nobody any more, whatever is done in between. -/
theorem hook_follows_actor (moves : List WatchMove) :
    let watch := run {} moves
    let host := watch.host
    (watch.state? = some .attached ↔ host.hook.isSome ∧ host.enabled = true ∧
      host.hasDebuggees = true ∧ host.live = 1) ∧
    (watch.state? ≠ some .attached ↔ host.Clear) ∧
    host.opened = watch.granted ∧
    watch.granted = attachments {} moves ∧
    (∀ actor, watch.actor = some actor → ∀ request,
      (actor.handle host request).1 = .state .attached ↔
        request = .attach ∧ actor.state = .detached) ∧
    (∀ actor, watch.actor = some actor → ∀ request expected actual,
      (actor.handle host request).1 = .wrongState expected actual →
        (actor.handle host request).2 = (actor, host)) ∧
    (∀ compilation, (host.compile? compilation).isSome ↔ watch.state? = some .attached) ∧
    (∀ compilation next, host.compile? compilation = some next →
      ∃ session waiting, watch.actor = some (.attached session) ∧
        host.mailboxes = [(session, waiting)] ∧
        next = { host with mailboxes := [(session, waiting ++ [compilation])] }) ∧
    (∀ earlier ending later session, moves = earlier ++ ending :: later → ending.Ends →
      (run {} earlier).host.hook = some session → ∀ compilation,
        host.fire? session compilation = none ∧
          watch.move (.fire session compilation) = watch) := by
  intro watch host
  have hsound : watch.Sound := sound_fresh.run moves
  refine ⟨hsound.shown.attached_iff, hsound.shown.clear_iff, hsound.opened, ?_, ?_, ?_, ?_, ?_, ?_⟩
  · rw [granted_run]
    exact Nat.zero_add _
  · intro actor _ request
    exact Actor.handle_eq_attached_iff
  · intro actor _ request expected actual hrefused
    exact actor.handle_of_wrongState hrefused
  · intro compilation
    exact hsound.isSome_compile? compilation
  · intro compilation next hcompile
    exact hsound.hosted.compile?_eq_some hcompile
  · intro earlier ending later session hmoves hends hhook compilation
    have hearlier := sound_fresh.run earlier
    have hended : watch.Ended session := by
      have hrun : watch = ((run {} earlier).move ending).run later := by
        simp only [watch, run, hmoves, List.foldl_append, List.foldl_cons]
      rw [hrun]
      exact (hearlier.ended hhook hends).run (hearlier.turn (hearlier.turn_move ending)) later
    have hnone := hended.fire?_eq_none hsound compilation
    refine ⟨hnone, ?_⟩
    rw [move, hnone]
    rfl

end Watch

end CompileWatch
