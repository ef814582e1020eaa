import CompileWatch.Proofs.Link
import CompileWatch.Session

/-!
# Turns of the panel

In a step the panel takes in the frame that has waited longest, or it finds that none can come.
All else that happens at a panel is done by the user.
-/

namespace CompileWatch

variable {Image : Type}

/-- A request that is posted waits at the other end of the link. -/
theorem Panel.eq_of_post {link next : Link} {request : PanelRequest}
    (hpost : Panel.post link request = .ok next) :
    ∃ queue, link.right = .live queue ∧
      next = { link with right := .live (queue ++ [Frame.encode request.toJson]) } := by
  rw [Panel.post] at hpost
  cases hposted : link.post .left (Frame.encode request.toJson) with
  | error error =>
      rw [hposted] at hpost
      cases hpost
  | ok posted =>
      rw [hposted] at hpost
      obtain rfl := Except.ok.inj hpost
      exact Link.eq_of_post_left hposted

namespace PanelDesk

variable {desk next : PanelDesk Image}

theorem panel_start (desk : PanelDesk Image) (call : Panel.Call) :
    (desk.start call).panel = desk.panel := by
  unfold start
  split
  · rfl
  · split <;> rfl

theorem panel_remove (desk : PanelDesk Image) (id : CompilationId) :
    (desk.remove id).1.panel = desk.panel.forget id := by
  unfold remove
  split <;> rfl

theorem panel_message (desk : PanelDesk Image) (text : String) :
    (desk.message text).1.panel = desk.panel := by
  unfold message
  split <;> rfl

/-- The panel after taking in a frame that was waited for. -/
def read (desk : PanelDesk Image) (call : Panel.Call) (frame : Frame) (rest : List Frame) :
    PanelDesk Image :=
  let (panel, result) := desk.panel.receive call frame
  { panel
    link := { desk.link with left := .live rest }
    call := (result.map CallState.ended).getD (.waiting call) }

/-- **Every step of the panel** finds the link closed, or takes in the first frame. -/
theorem step?_cases (hstep : desk.step? = some next) :
    (∃ error, next = { desk with call := .ended (.error error) }) ∨
    ∃ call frame rest, desk.call = .waiting call ∧ desk.link.left = .live (frame :: rest) ∧
      next = desk.read call frame rest := by
  rw [step?] at hstep
  cases hcall : desk.call with
  | idle | ended => simp [hcall] at hstep
  | waiting call =>
      cases hnext : desk.link.next .left with
      | waiting => simp [hcall, hnext] at hstep
      | closed =>
          simp only [hcall, hnext, Option.some.injEq] at hstep
          exact .inl ⟨_, hstep.symm⟩
      | frame frame link =>
          obtain ⟨rest, hleft, rfl⟩ := Link.next_eq_frame hnext
          simp only [hcall, hnext, Option.some.injEq] at hstep
          exact .inr ⟨call, frame, rest, rfl, hleft, hstep.symm⟩

end PanelDesk

namespace Session

/-- What a step of the panel can make of a session. -/
theorem stepPanel_cases (session : Session Image) :
    session.move (.step .panel) = session ∨
    (∃ error, session.move (.step .panel) = { session with call := .ended (.error error) }) ∨
    ∃ panel call frame rest, session.panel = some panel ∧ session.call = .waiting call ∧
      session.panelLink.left = .live (frame :: rest) ∧
      session.move (.step .panel) = session.withPanelDesk
        (PanelDesk.read { panel, link := session.panelLink } call frame rest) := by
  rw [move, step?]
  cases hdesk : session.panelDesk?.bind PanelDesk.step? with
  | none => exact .inl rfl
  | some next =>
      obtain ⟨desk, hpresent, hstep⟩ := Option.bind_eq_some_iff.mp hdesk
      obtain ⟨panel, hpanel, rfl⟩ := Option.map_eq_some_iff.mp hpresent
      rcases PanelDesk.step?_cases hstep with ⟨error, rfl⟩ | ⟨call, frame, rest, hcall, hleft, rfl⟩
      · refine .inr (.inl ⟨error, ?_⟩)
        rw [Option.map_some, Option.getD_some, withPanelDesk, hpanel]
      · exact .inr (.inr ⟨panel, call, frame, rest, hpanel, hcall, hleft, rfl⟩)

/-- What a move does to the panel. -/
inductive PanelTurn (session : Session Image) : Move → Option (Panel Image) → Prop
  | kept {move : Move} : PanelTurn session move session.panel
  | redrawn (mode : DisplayMode) :
      PanelTurn session (.setMode mode) (session.panel.map fun panel => panel.setMode mode)
  | forgot (id : CompilationId) :
      PanelTurn session (.remove id) (session.panel.map fun panel => panel.forget id)
  | closed : PanelTurn session .closePanel none
  | read {panel : Panel Image} {call : Panel.Call} {frame : Frame} {rest : List Frame} :
      session.panel = some panel → session.call = .waiting call →
      session.panelLink.left = .live (frame :: rest) →
      PanelTurn session (.step .panel) (some (panel.receive call frame).1)

theorem panel_onPanel (session : Session Image) {change : PanelDesk Image → PanelDesk Image}
    (after : Panel Image → Panel Image) (hchange : ∀ desk, (change desk).panel = after desk.panel) :
    (session.onPanel change).panel = session.panel.map after := by
  rw [onPanel, panelDesk?]
  cases hpanel : session.panel with
  | none => simpa using hpanel
  | some panel => simp [withPanelDesk, hchange]

/-- A change of the link or of the operation leaves the panel alone. -/
theorem PanelTurn.of_onPanel (session : Session Image) (move : Move)
    {change : PanelDesk Image → PanelDesk Image}
    (hchange : ∀ desk, (change desk).panel = desk.panel) :
    session.PanelTurn move (session.onPanel change).panel := by
  rw [session.panel_onPanel id hchange, Option.map_id_apply]
  exact .kept

/-- **Every move does one of these to the panel.** -/
theorem panelTurn_move (session : Session Image) (move : Move) :
    session.PanelTurn move (session.move move).panel := by
  cases move with
  | compile => exact .kept
  | call call => exact .of_onPanel session _ fun desk => desk.panel_start call
  | clearCall => exact .of_onPanel session _ fun desk => rfl
  | message text => exact .of_onPanel session _ fun desk => desk.panel_message text
  | setMode mode =>
      rw [Session.move, session.panel_onPanel (fun panel => panel.setMode mode) fun desk => rfl]
      exact .redrawn mode
  | remove id =>
      rw [Session.move, session.panel_onPanel (fun panel => panel.forget id) fun desk =>
        desk.panel_remove id]
      exact .forgot id
  | stopActor =>
      rw [Session.move]
      split <;> exact .kept
  | stopController =>
      rw [Session.move]
      split <;> exact .kept
  | closePanel => exact .closed
  | step party =>
      cases party with
      | panel =>
          rcases session.stepPanel_cases with hsame | ⟨error, hended⟩ |
            ⟨panel, call, frame, rest, hpanel, hcall, hleft, hread⟩
          · rw [hsame]
            exact .kept
          · rw [hended]
            exact .kept
          · rw [hread]
            exact .read hpanel hcall hleft
      | controller =>
          rw [Session.move, step?]
          cases session.controlDesk.step? <;> exact .kept
      | actor =>
          rw [Session.move, step?]
          cases session.service.step? <;> exact .kept

end Session

end CompileWatch
