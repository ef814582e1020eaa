import CompileWatch.Proofs.Panel.Turn
import CompileWatch.Proofs.Session.ActorMoves
import CompileWatch.Proofs.Session.ControllerMoves

/-!
# Delivery of compilations

Every move keeps the compilations of a session accounted for, so they are in every run
from a fresh session.  What the panel hears of between `attached` and `detached` is then a
beginning of what the host accepted in that session of the actor, in order and unchanged;
and it is all of it when nothing is on its way.
-/

namespace CompileWatch

variable {Image : Type} {observed : Observed Image}

/-! ## Moves of the panel -/

theorem Observed.move_of_quiet {move : Move} (haccepted : observed.session.acceptedIn move = [])
    (hqueue : ((observed.session.move move).panelLink.queue .left).length ≤
      (observed.session.panelLink.queue .left).length) :
    observed.move move = { observed with session := observed.session.move move } := by
  rw [Observed.move, haccepted, Session.noticesIn_eq_nil hqueue, List.append_nil, List.append_nil]

/-- A move in which nothing happens. -/
theorem Accounted.same (haccounted : Accounted observed) {move : Move}
    (hsame : observed.session.move move = observed.session)
    (haccepted : observed.session.acceptedIn move = []) : Accounted (observed.move move) := by
  rw [Observed.move_of_quiet haccepted (by rw [hsame]), hsame]
  exact haccounted

/-- What an operation of the panel does at the left end of its link: it reads at most one frame. -/
inductive Endpoint.Drawn (before : Endpoint) : Endpoint → Prop
  | same : Drawn before before
  | read {frame : Frame} {rest : List Frame} : before = .live (frame :: rest) →
      Drawn before (.live rest)

theorem Endpoint.Drawn.of_eq {before after : Endpoint} (hsame : after = before) :
    before.Drawn after := by
  rw [hsame]
  exact .same

theorem Endpoint.Drawn.isLive_eq {before after : Endpoint} (hdrawn : before.Drawn after) :
    after.isLive = before.isLive := by
  cases hdrawn with
  | same => rfl
  | read hbefore => rw [hbefore]; rfl

theorem Endpoint.Drawn.length_le {before after : Endpoint} (hdrawn : before.Drawn after) :
    after.queue.length ≤ before.queue.length := by
  cases hdrawn with
  | same => exact Nat.le_refl _
  | read hbefore => simp [hbefore, Endpoint.queue]

/-- An operation of the panel leaves everything but the panel and its link alone. -/
theorem Accounted.movePanel (haccounted : Accounted observed) {move : Move} {desk : PanelDesk Image}
    (hpresent : observed.session.panel.isSome)
    (hmove : observed.session.move move = observed.session.withPanelDesk desk)
    (haccepted : observed.session.acceptedIn move = [])
    (hdrawn : observed.session.panelLink.left.Drawn desk.link.left) :
    Accounted (observed.move move) := by
  rw [Observed.move_of_quiet haccepted (by rw [hmove]; exact hdrawn.length_le), hmove]
  have hlive : desk.link.left.isLive = observed.session.panelLink.left.isLive := hdrawn.isLive_eq
  exact haccounted.ofPanel rfl rfl rfl rfl (fun h => hlive.symm.trans h)
    fun _ => hlive.trans (haccounted.panel hpresent)

theorem Accounted.onPanel (haccounted : Accounted observed) {move : Move}
    {change : PanelDesk Image → PanelDesk Image}
    (hmove : observed.session.move move = observed.session.onPanel change)
    (haccepted : observed.session.acceptedIn move = [])
    (hdrawn : ∀ desk : PanelDesk Image, desk.link.left.Drawn (change desk).link.left) :
    Accounted (observed.move move) := by
  cases hpanel : observed.session.panel with
  | none =>
      have hsame : observed.session.move move = observed.session := by
        rw [hmove, Session.onPanel, Session.panelDesk?, hpanel]
        rfl
      exact haccounted.same hsame haccepted
  | some panel =>
      have hdesk : observed.session.move move = observed.session.withPanelDesk (change
          { panel, link := observed.session.panelLink, call := observed.session.call }) := by
        rw [hmove, Session.onPanel, Session.panelDesk?, hpanel]
        rfl
      have hdrawn := hdrawn
        { panel, link := observed.session.panelLink, call := observed.session.call }
      exact haccounted.movePanel (by rw [hpanel]; rfl) hdesk haccepted hdrawn

/-- A post of the panel changes nothing at its own end of the link. -/
theorem Panel.left_post {link next : Link} {request : PanelRequest}
    (hpost : Panel.post link request = .ok next) : next.left = link.left := by
  obtain ⟨queue, -, rfl⟩ := Panel.eq_of_post hpost
  rfl

namespace PanelDesk

theorem drawn_start (desk : PanelDesk Image) (call : Panel.Call) :
    desk.link.left.Drawn (desk.start call).link.left := by
  rw [start]
  split
  · exact .same
  · split
    · rename_i hpost
      exact .of_eq (Panel.left_post hpost)
    · exact .same

theorem drawn_remove (desk : PanelDesk Image) (id : CompilationId) :
    desk.link.left.Drawn (desk.remove id).1.link.left := by
  rw [remove]
  split
  · rename_i hpost
    exact .of_eq (Panel.left_post hpost)
  · exact .same

theorem drawn_message (desk : PanelDesk Image) (text : String) :
    desk.link.left.Drawn (desk.message text).1.link.left := by
  rw [message]
  split
  · rename_i hpost
    exact .of_eq (Panel.left_post hpost)
  · exact .same

theorem drawn_step? {desk next : PanelDesk Image} (hstep : desk.step? = some next) :
    desk.link.left.Drawn next.link.left := by
  rcases step?_cases hstep with ⟨error, rfl⟩ | ⟨call, frame, rest, -, hleft, rfl⟩
  · exact .same
  · exact .read hleft

end PanelDesk

theorem Accounted.stepPanel (haccounted : Accounted observed) :
    Accounted (observed.move (.step .panel)) := by
  cases hpanel : observed.session.panel with
  | none =>
      have hsame : observed.session.move (.step .panel) = observed.session := by
        simp [Session.move, Session.step?, Session.panelDesk?, hpanel]
      exact haccounted.same hsame rfl
  | some panel =>
      cases hstep : PanelDesk.step?
          { panel, link := observed.session.panelLink, call := observed.session.call } with
      | none =>
          have hsame : observed.session.move (.step .panel) = observed.session := by
            simp [Session.move, Session.step?, Session.panelDesk?, hpanel, hstep]
          exact haccounted.same hsame rfl
      | some desk =>
          have hdesk : observed.session.move (.step .panel) =
              observed.session.withPanelDesk desk := by
            simp [Session.move, Session.step?, Session.panelDesk?, hpanel, hstep]
          exact haccounted.movePanel (by rw [hpanel]; rfl) hdesk rfl (PanelDesk.drawn_step? hstep)

/-! ## Runs -/

/-- **Every move keeps every compilation accounted for.** -/
theorem Accounted.move (haccounted : Accounted observed) (move : Move)
    (hfits : observed.session.fits move) : Accounted (observed.move move) := by
  cases move with
  | compile compilation => exact haccounted.compile compilation
  | call call => exact haccounted.onPanel rfl rfl fun desk => desk.drawn_start call
  | clearCall => exact haccounted.onPanel rfl rfl fun _ => .same
  | setMode mode => exact haccounted.onPanel rfl rfl fun _ => .same
  | remove id => exact haccounted.onPanel rfl rfl fun desk => desk.drawn_remove id
  | message text => exact haccounted.onPanel rfl rfl fun desk => desk.drawn_message text
  | stopActor =>
      cases hactor : observed.session.actor with
      | none => exact haccounted.same (by simp [Session.move, hactor]) rfl
      | some actor =>
          have hstop : observed.session.move .stopActor =
              observed.session.withService observed.session.service.stop := by
            simp [Session.move, hactor]
          rw [Observed.move_of_quiet rfl (by rw [hstop]; rfl), hstop]
          exact haccounted.stopActor hactor
  | stopController =>
      cases hcontroller : observed.session.controller with
      | none => exact haccounted.same (by simp [Session.move, hcontroller]) rfl
      | some controller =>
          have hstop : observed.session.move .stopController =
              observed.session.withControlDesk observed.session.controlDesk.stop := by
            simp [Session.move, hcontroller]
          rw [Observed.move_of_quiet rfl (by rw [hstop]; rfl), hstop]
          exact ⟨haccounted.hosted, haccounted.numbered, haccounted.told_isPrefix, haccounted.panel,
            fun _ hpresent => absurd hpresent (by simp [Session.withControlDesk, ControlDesk.stop])⟩
  | closePanel =>
      rw [Observed.move_of_quiet rfl (Nat.zero_le _)]
      have hdropped : (observed.session.move .closePanel).panelLink.left.isLive = false := rfl
      exact haccounted.ofPanel rfl rfl rfl rfl (fun hlive => absurd hlive (by simp [hdropped]))
        fun hpresent => absurd hpresent (by simp [Session.move])
  | step party =>
      cases party with
      | panel => exact haccounted.stepPanel
      | controller =>
          cases hstep : observed.session.controlDesk.step? with
          | none => exact haccounted.same (by simp [Session.move, Session.step?, hstep]) rfl
          | some desk => exact haccounted.stepController hfits hstep
      | actor =>
          cases hstep : observed.session.service.step? with
          | none => exact haccounted.same (by simp [Session.move, Session.step?, hstep]) rfl
          | some service =>
              have hmove : observed.session.move (.step .actor) =
                  observed.session.withService service := by
                simp [Session.move, Session.step?, hstep]
              rw [Observed.move_of_quiet rfl (by rw [hmove]; rfl), hmove]
              exact haccounted.stepActor hfits hstep

theorem Accounted.run (haccounted : Accounted observed) (moves : List Move)
    (hfits : observed.session.runFits moves) : Accounted (observed.run moves) := by
  induction moves generalizing observed with
  | nil => exact haccounted
  | cons first rest ih =>
      rw [Session.runFits, Bool.and_eq_true] at hfits
      exact ih (haccounted.move first hfits.1) hfits.2

theorem accounted_fresh (runtimeBytes panelBytes : Nat) (panel : Panel Image) :
    Accounted { session := Session.fresh runtimeBytes panelBytes panel } where
  hosted := .idle (fun _ hpresent => (Option.some.inj hpresent).symm) rfl rfl
  numbered := by simp
  told_isPrefix := by simp [Told.of, Told.sessions]
  panel := fun _ => rfl
  standing := by
    intro controller hcontroller _
    obtain rfl := Option.some.inj hcontroller
    exact ⟨[], .quiet, ⟨rfl, fun _ => rfl, by simp [Session.fresh], rfl⟩,
      .idle rfl rfl (fun _ hpresent => (Option.some.inj hpresent).symm) rfl rfl rfl rfl⟩

/-- While the controller and the actor are attached, the panel is told of the actor's session, and
nothing is missing when nothing is on its way. -/
theorem Accounted.current (haccounted : Accounted observed) {number : Nat} {controller : Controller}
    (hactor : observed.session.actor = some (.attached number))
    (hcontroller : observed.session.controller = some controller)
    (hattached : controller.attached = true) (hlive : observed.session.panelLink.left.isLive) :
    (Told.of observed.notices).finished.length = number ∧
      ∃ list, (Told.of observed.notices).current = some list ∧
        (observed.session.host.mailbox? number = some [] → controller.front.backlog = [] →
          observed.session.runtime.queue .left = [] →
          list = announcements (observed.acceptedBy number)) := by
  obtain ⟨sent, progress, hmatched, hstanding⟩ := haccounted.standing controller hcontroller hlive
  have hhosted := haccounted.hosted
  rw [hactor] at hhosted hstanding
  cases hstanding with
  | idle hdetached => simp [hattached] at hdetached
  | beginning hdetached => simp [hattached] at hdetached
  | ending _ _ hending => exact absurd (hending _ rfl) (by simp)
  | @lasting list _ _ hlasting hcurrent hopened hbalanced =>
      obtain rfl : number = (Told.of observed.notices).finished.length := by
        simpa using hlasting _ rfl
      refine ⟨rfl, list, hcurrent, ?_⟩
      intro hmailbox hbacklog hqueue
      -- the backlog, the link and the mailbox are empty, so what was accepted was announced
      rw [Link.queue, Link.endpoint, hmatched.left] at hqueue
      obtain ⟨hsent, hframes⟩ := List.append_eq_nil_iff.mp hqueue
      rw [hbacklog, List.map_eq_nil_iff.mp hsent, Progress.later_of_frames hframes] at hbalanced
      obtain ⟨-, waiting, hwaiting⟩ := hhosted.exists_mailbox
      have hempty : waiting = [] := by
        simpa [Host.mailbox?, Assoc.get?, hwaiting] using hmailbox
      rw [hempty] at hwaiting
      exact hbalanced.told_eq hwaiting

/-- **Compilations are delivered in order, unchanged and to their own session.**  In every run in
which no packet of the actor and no news of the controller are too long for their links, what was
announced in the `number`-th session that the panel heard of is a beginning of what the host
accepted in the actor's session of that number and the store takes in.  While the controller and
the actor are attached, that session is the current one, and if the mailbox, the runtime link and
the backlog are empty, everything was announced in it.  The run is that of the session alone: to
observe it changes nothing. -/
theorem Session.compilations_delivered (runtimeBytes panelBytes : Nat) (panel : Panel Image)
    (moves : List Move) (hfits : (fresh runtimeBytes panelBytes panel).runFits moves) :
    let observed := Observed.run { session := fresh runtimeBytes panelBytes panel } moves
    let told := Told.of observed.notices
    observed.session = (fresh runtimeBytes panelBytes panel).run moves ∧
    (∀ (number : Nat) (list : List Announcement), told.sessions[number]? = some list →
      list <+: announcements (observed.acceptedBy number)) ∧
    ∀ (number : Nat) (controller : Controller),
      observed.session.actor = some (.attached number) →
      observed.session.controller = some controller → controller.attached = true →
      observed.session.panel.isSome →
      told.finished.length = number ∧ ∃ list, told.current = some list ∧
        (observed.session.host.mailbox? number = some [] → controller.front.backlog = [] →
          observed.session.runtime.queue .left = [] →
          list = announcements (observed.acceptedBy number)) := by
  intro observed told
  have haccounted : Accounted observed :=
    (accounted_fresh runtimeBytes panelBytes panel).run moves hfits
  refine ⟨Observed.session_run _ moves, haccounted.told_isPrefix, ?_⟩
  intro number controller hactor hcontroller hattached hpanel
  exact haccounted.current hactor hcontroller hattached (haccounted.panel hpanel)

/-- A run with a connect and two compilations, the second of which has no graph. -/
def Session.sampleMoves : List Move :=
  [.call .connect, .step .controller, .step .actor, .step .controller,
    .compile { scripts := [{ url := "a.js" }], json := "\x7b\x7d" }, .compile { json := "no" },
    .step .actor, .step .actor, .step .controller, .step .controller]

/-- In the sample run the limits are kept, and the first compilation is announced. -/
theorem Session.sample_delivered :
    (fresh 200 200 { renderer := Renderer.source }).runFits sampleMoves ∧
    (Told.of (Observed.run { session := fresh 200 200 { renderer := Renderer.source } }
      sampleMoves).notices).current =
        some [.of { scripts := [{ url := "a.js" }], json := "\x7b\x7d" }] := by
  have hstate : (fresh 200 200 { renderer := Renderer.source }).runFits sampleMoves ∧
      let observed :=
        Observed.run { session := fresh 200 200 { renderer := Renderer.source } } sampleMoves
      observed.session.actor = some (.attached 0) ∧
      observed.session.controller.map
        (fun controller => (controller.attached, controller.front.backlog)) = some (true, []) ∧
      observed.session.panel.isSome ∧ observed.session.host.mailbox? 0 = some [] ∧
      observed.session.runtime.queue .left = [] ∧
      announcements (observed.acceptedBy 0) =
        [.of { scripts := [{ url := "a.js" }], json := "\x7b\x7d" }] := by
    decide +kernel
  obtain ⟨hfits, hactor, hcontroller, hpanel, hmailbox, hqueue, haccepted⟩ := hstate
  obtain ⟨controller, hcontroller, hlasting⟩ := Option.map_eq_some_iff.mp hcontroller
  obtain ⟨hattached, hbacklog⟩ := Prod.mk.inj hlasting
  obtain ⟨-, list, hcurrent, hall⟩ :=
    (compilations_delivered 200 200 { renderer := Renderer.source } sampleMoves hfits).2.2 0
      controller hactor hcontroller hattached hpanel
  exact ⟨hfits, by rw [hcurrent, hall hmailbox hbacklog hqueue, haccepted]⟩

end CompileWatch
