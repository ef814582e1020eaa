import CompileWatch.Proofs.Actor.Serving
import CompileWatch.Proofs.Session.Delivery

/-!
# Agreement of the parties

The controller takes any reply for the answer to its request: it begins a session when an attach
was answered and ends it when a detach was, and does not look at what the reply says.  So it
can only agree with the actor as long as replies and requests match one by one, with any
compilations between them.  They do, and once there is no request on the way, controller, actor and
host agree on whether there is a session, and on how many there were.

Nothing is assumed of the panel: its end of the panel link is left to anybody.
-/

namespace CompileWatch

variable {Image : Type}

/-! ## The host and its only actor -/

namespace Sole

variable {service : ActorService}

theorem stop (hsole : Sole service.actor service.host) :
    Sole service.stop.actor service.stop.host := by
  cases hactor : service.actor with
  | none =>
      rw [hactor] at hsole
      rw [ActorService.stop, hactor]
      exact hsole
  | some actor =>
      rw [hactor] at hsole
      rw [ActorService.stop, hactor]
      exact hsole.release

theorem post (hsole : Sole service.actor service.host) (packet : ActorPacket) :
    Sole (service.post packet).actor (service.post packet).host := by
  rw [ActorService.post]
  split
  · exact hsole
  · exact hsole
  · exact hsole.stop

theorem turn {actor : Actor} {host : Host} {link : Link} (hsole : Sole (some actor) host)
    (hhosted : Hosted (some actor) host) (hturn : ActorService.Turn actor host link service) :
    Sole service.actor service.host := by
  cases hturn with
  | @answered frame => exact post (hsole.reply frame) _
  | reported _ _ htake =>
      obtain ⟨session, waiting, rfl, -, rfl⟩ := hhosted.take?_eq_some htake
      exact post (hsole.setMailboxes _) _
  | stopped => exact stop hsole

theorem compile {actor : Option Actor} {host : Host} (hsole : Sole actor host)
    (hhosted : Hosted actor host) (compilation : Compilation) :
    Sole actor ((host.compile? compilation).getD host) := by
  cases hcompile : host.compile? compilation with
  | none => exact hsole
  | some next =>
      obtain ⟨session, waiting, -, -, rfl⟩ := hhosted.compile?_eq_some hcompile
      exact hsole.setMailboxes _

end Sole

/-- The hook is installed and switched on while the actor is attached, and neither otherwise. -/
theorem Hosted.attached_iff {actor : Actor} {host : Host} (hhosted : Hosted (some actor) host)
    (hsole : Sole (some actor) host) :
    (actor.state = .attached ↔ host.hook.isSome) ∧
      (actor.state = .attached ↔ host.enabled = true) := by
  cases hhosted with
  | attached hhook henabled => simp [Actor.state, hhook, henabled]
  | idle hactor =>
      obtain rfl := hactor actor rfl
      cases hsole with
      | idle _ hclear => simp [Actor.state, hclear.hook, hclear.enabled]

/-! ## Sessions that the panel heard of -/

theorem Told.length_sessions_hear (told : Told) (notice : Notice) :
    (told.hear notice).sessions.length =
      told.sessions.length + if notice = .attached then 1 else 0 := by
  cases notice with
  | attached => simp [hear, sessions, Nat.add_assoc]
  | detached => simp [hear, sessions]
  | recorded announcement => cases hcurrent : told.current <;> simp [hear, sessions, hcurrent]

/-- There are as many sessions as there were beginnings. -/
theorem Told.length_sessions_of (notices : List Notice) :
    (Told.of notices).sessions.length = notices.count .attached := by
  induction notices using List.reverseRecOn with
  | nil => rfl
  | append_singleton notices notice ih =>
      have hlast : Told.of (notices ++ [notice]) = (Told.of notices).hear notice := by
        simp [Told.of]
      rw [hlast, length_sessions_hear, ih, List.count_append, List.count_singleton]
      simp

/-- Without a request on the way, the controller is attached when the actor is, and the panel has
heard of every session that was opened. -/
theorem Standing.agrees {actor : Actor} {host : Host} {accepted : Nat → List Compilation}
    {told : Told} {controller : Controller} {sent : List Compilation}
    (hstanding : Standing (some actor) host accepted told controller sent .quiet) :
    (controller.attached = true ↔ actor.state = .attached) ∧
      told.sessions.length = host.opened := by
  cases hstanding with
  | idle hdetached _ hactor _ _ _ hopened =>
      obtain rfl := hactor actor rfl
      exact ⟨by simp [hdetached, Actor.state], hopened⟩
  | beginning _ hgranted => cases hgranted
  | lasting hlasting _ hactor hcurrent hopened _ =>
      obtain rfl := hactor actor rfl
      exact ⟨by simp [hlasting, Actor.state], (Told.length_sessions hcurrent).trans hopened⟩
  | ending _ hgranted => cases hgranted

/-! ## Sessions with anybody at the panel's end -/

/-- Something that happens in a session whose panel is played by anybody. -/
inductive OpenMove
  | compile (compilation : Compilation)
  /-- Whoever is at the panel's end of the panel link posts any frame, reads, or drops the end. -/
  | panel (act : Link.Act)
  /-- One step of the controller. -/
  | controller
  /-- One step of the actor. -/
  | actor
  deriving Repr

/-- A session without a panel, in which nothing has happened yet. -/
def Session.unattended (runtimeBytes panelBytes : Nat) : Session Image :=
  { runtime := { name := "runtime", maxBytes := runtimeBytes }
    panelLink := { name := "panel", maxBytes := panelBytes }
    panel := none }

/-- No packet of the actor and no news of the controller is too long for its link in a move. -/
def Session.openFits (session : Session Image) : OpenMove → Bool
  | .compile compilation => session.fits (.compile compilation)
  | .panel _ => true
  | .controller => session.fits (.step .controller)
  | .actor => session.fits (.step .actor)

namespace Observed

/-- Something is done at the panel's end of the panel link. -/
def panelAct (observed : Observed Image) (act : Link.Act) : Observed Image :=
  { observed with
    session := { observed.session with panelLink := observed.session.panelLink.act .left act } }

/-- Makes a move and observes it. -/
def openMove (observed : Observed Image) : OpenMove → Observed Image
  | .compile compilation => observed.move (.compile compilation)
  | .panel act => observed.panelAct act
  | .controller => observed.move (.step .controller)
  | .actor => observed.move (.step .actor)

/-- Makes some moves and observes them. -/
def openRun (observed : Observed Image) (moves : List OpenMove) : Observed Image :=
  moves.foldl openMove observed

/-- In no move of a run a packet of the actor or news of the controller is too long for its
link. -/
def openRunFits (observed : Observed Image) : List OpenMove → Bool
  | [] => true
  | move :: moves => observed.session.openFits move && (observed.openMove move).openRunFits moves

end Observed

variable {observed : Observed Image}

/-- Nobody else has a session on the host, and nobody can get at the panel's end from inside. -/
structure Unattended (observed : Observed Image) : Prop where
  accounted : Accounted observed
  sole : Sole observed.session.actor observed.session.host
  panel : observed.session.panel = none

namespace Unattended

theorem fresh (runtimeBytes panelBytes : Nat) :
    Unattended ({ session := .unattended runtimeBytes panelBytes } : Observed Image) where
  accounted := by
    have hfresh := accounted_fresh runtimeBytes panelBytes
      ({ renderer := .refusing "" } : Panel Image)
    exact hfresh.ofPanel rfl rfl rfl rfl (fun _ => rfl) nofun
  sole := .idle (fun _ hpresent => (Option.some.inj hpresent).symm) ⟨rfl, rfl, rfl, rfl⟩
  panel := rfl

/-- Only the actor's end of the runtime link is near the host. -/
theorem stepActor (hunattended : Unattended observed)
    (hfits : observed.session.fits (.step .actor)) :
    Unattended (observed.openMove .actor) where
  accounted := hunattended.accounted.move (.step .actor) hfits
  sole := by
    have hsole := hunattended.sole
    have hhosted := hunattended.accounted.hosted
    cases hstep : observed.session.service.step? with
    | none => simpa [Observed.openMove, Observed.move, Session.move, Session.step?, hstep] using hsole
    | some next =>
        have hnext : Sole next.actor next.host := by
          cases hactor : observed.session.actor with
          | none => simp [ActorService.step?, Session.service, hactor] at hstep
          | some actor =>
              rw [Session.service, hactor] at hstep
              rw [hactor] at hsole hhosted
              exact hsole.turn hhosted (ActorService.turn_of_step? hstep)
        simpa [Observed.openMove, Observed.move, Session.move, Session.step?, hstep,
          Session.withService] using hnext
  panel := by
    have hpanel := hunattended.panel
    cases hstep : observed.session.service.step? <;>
      simpa [Observed.openMove, Observed.move, Session.move, Session.step?, hstep,
        Session.withService] using hpanel

theorem stepController (hunattended : Unattended observed)
    (hfits : observed.session.fits (.step .controller)) :
    Unattended (observed.openMove .controller) where
  accounted := hunattended.accounted.move (.step .controller) hfits
  sole := by
    have hsole := hunattended.sole
    cases hstep : observed.session.controlDesk.step? <;>
      simpa [Observed.openMove, Observed.move, Session.move, Session.step?, hstep,
        Session.withControlDesk] using hsole
  panel := by
    have hpanel := hunattended.panel
    cases hstep : observed.session.controlDesk.step? <;>
      simpa [Observed.openMove, Observed.move, Session.move, Session.step?, hstep,
        Session.withControlDesk] using hpanel

theorem move (hunattended : Unattended observed) (move : OpenMove)
    (hfits : observed.session.openFits move) : Unattended (observed.openMove move) := by
  cases move with
  | compile compilation =>
      exact ⟨hunattended.accounted.move (.compile compilation) hfits,
        hunattended.sole.compile hunattended.accounted.hosted compilation, hunattended.panel⟩
  | panel act =>
      refine ⟨?_, hunattended.sole, hunattended.panel⟩
      apply hunattended.accounted.ofPanel
      · rfl
      · rfl
      · rfl
      · rfl
      · exact (observed.session.panelLink.isLive_act act).1
      · intro hpanel
        rw [hunattended.panel] at hpanel
        cases hpanel
  | controller => exact hunattended.stepController hfits
  | actor => exact hunattended.stepActor hfits

theorem run (hunattended : Unattended observed) (moves : List OpenMove)
    (hfits : observed.openRunFits moves) : Unattended (observed.openRun moves) := by
  induction moves generalizing observed with
  | nil => exact hunattended
  | cons first rest ih =>
      rw [Observed.openRunFits, Bool.and_eq_true] at hfits
      exact ih (hunattended.move first hfits.1) hfits.2

end Unattended

/-- **The parties agree whenever no request is on its way to the actor.**  Whatever is posted at the
panel's end and whatever is compiled: if no packet of the actor and no news of the controller were
too long for their links, the controller and the actor are still there and the panel's end was not
dropped, then the controller is attached if and only if the actor is, and this is so if and only if
the hook is installed, and if and only if it is switched on.  The host has opened as many sessions
as the controller has sent `attached` events. -/
theorem Session.parties_agree (runtimeBytes panelBytes : Nat) (moves : List OpenMove)
    (hfits : ({ session := unattended runtimeBytes panelBytes } : Observed Image).openRunFits
      moves) :
    let observed : Observed Image :=
      Observed.openRun { session := unattended runtimeBytes panelBytes } moves
    ∀ (controller : Controller) (actor : Actor), observed.session.controller = some controller →
      observed.session.actor = some actor → observed.session.panelLink.left.isLive →
      controller.pending = none →
      (controller.attached = true ↔ actor.state = .attached) ∧
      (actor.state = .attached ↔ observed.session.host.hook.isSome) ∧
      (actor.state = .attached ↔ observed.session.host.enabled = true) ∧
      observed.session.host.opened = observed.notices.count .attached := by
  intro observed controller actor hcontroller hactor hlive hpending
  have hunattended : Unattended observed := (Unattended.fresh runtimeBytes panelBytes).run moves hfits
  obtain ⟨sent, progress, hmatched, hstanding⟩ :=
    hunattended.accounted.standing controller hcontroller hlive
  have hhosted := hunattended.accounted.hosted
  have hsole := hunattended.sole
  rw [hmatched.quiet hpending, hactor] at hstanding
  rw [hactor] at hhosted hsole
  obtain ⟨hattached, hopened⟩ := hstanding.agrees
  obtain ⟨hhook, henabled⟩ := hhosted.attached_iff hsole
  refine ⟨hattached, hhook, henabled, ?_⟩
  rw [← hopened, Told.length_sessions_of]

/-- A request that somebody posts at the panel's end. -/
def OpenMove.request (request : PanelRequest) : OpenMove :=
  .panel (.post (Frame.encode request.toJson))

/-- A run with a connect, a compilation, a connect that is refused, and a disconnect and a connect
that the controller takes up one after the other. -/
def OpenMove.sampleMoves : List OpenMove :=
  [.request .connect, .controller, .actor, .controller, .compile { json := "\x7b\x7d" },
    .request .connect, .panel (.post "?"), .controller, .actor, .actor, .controller, .controller,
    .controller, .request .disconnect, .request .connect, .controller, .controller, .actor,
    .controller, .controller, .actor, .controller]

/-- In the sample run two sessions were opened, and the second one lasts. -/
theorem Session.sample_parties_agree :
    ({ session := unattended 200 200 } : Observed Unit).openRunFits OpenMove.sampleMoves ∧
    (({ session := unattended 200 200 } : Observed Unit).openRun
      OpenMove.sampleMoves).session.host.hook.isSome ∧
    (({ session := unattended 200 200 } : Observed Unit).openRun
      OpenMove.sampleMoves).notices.count .attached = 2 := by
  have hstate :
      ({ session := unattended 200 200 } : Observed Unit).openRunFits OpenMove.sampleMoves ∧
      let observed :=
        ({ session := unattended 200 200 } : Observed Unit).openRun OpenMove.sampleMoves
      observed.session.controller.map (fun controller => (controller.attached, controller.pending)) =
        some (true, none) ∧
      observed.session.actor = some (.attached 1) ∧ observed.session.panelLink.left.isLive ∧
      observed.session.host.opened = 2 := by
    decide +kernel
  obtain ⟨hfits, hcontroller, hactor, hlive, hopened⟩ := hstate
  obtain ⟨controller, hcontroller, hquiet⟩ := Option.map_eq_some_iff.mp hcontroller
  obtain ⟨hattached, hpending⟩ := Prod.mk.inj hquiet
  obtain ⟨hagrees, hhook, -, hcount⟩ :=
    parties_agree 200 200 OpenMove.sampleMoves hfits controller _ hcontroller hactor hlive hpending
  exact ⟨hfits, hhook.mp (hagrees.mp hattached), hcount.symm.trans hopened⟩

end CompileWatch
