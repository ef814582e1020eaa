import CompileWatch.Proofs.Panel.Turn

/-!
# What the panel shows

The mode, the selection and the outcome of the last drawing are three fields of a panel, and
different operations change them: a new mode draws again, a graph that arrives replaces the
selection and draws it, an error in its place takes the selection away, and so does removing
it.  All of them keep the three together.  The control side has no say in this: it may
send any text at any time, refuse every request, and drop its end of the link in the middle of
an operation.
-/

namespace CompileWatch

variable {Image : Type} {renderer : Renderer Image} {panel : Panel Image}

namespace Panel

/-- What a panel shows is drawn from what it has selected, by the given renderer. -/
structure Shown (renderer : Renderer Image) (panel : Panel Image) : Prop where
  renderer_eq : panel.renderer = renderer
  /-- The tree beside the graph is the one that belongs to it. -/
  tree_eq : ∀ selection, panel.selection = some selection →
    selection.tree = InlineTree.rebuild selection.graph.mir.blocks selection.scripts
  /-- The drawing is the one in the current mode. -/
  outcome_eq : ∀ selection, panel.selection = some selection →
    panel.outcome = some (outcomeOf renderer (drawingOf panel.mode selection))
  /-- Without a selection there is no image. -/
  nothing : panel.selection = none →
    panel.outcome = none ∨ ∃ message, panel.outcome = some (.failed message)

theorem shown_new (renderer : Renderer Image) (mode : DisplayMode) :
    Shown renderer { renderer, mode } :=
  ⟨rfl, nofun, nofun, fun _ => .inl rfl⟩

/-! ## Drawing -/

/-- Drawing makes up for an outcome that does not belong to the selection any more. -/
theorem shown_redraw (hrenderer : panel.renderer = renderer)
    (htree : ∀ selection, panel.selection = some selection →
      selection.tree = InlineTree.rebuild selection.graph.mir.blocks selection.scripts)
    (hnothing : panel.selection = none →
      panel.outcome = none ∨ ∃ message, panel.outcome = some (.failed message)) :
    Shown renderer panel.redraw := by
  cases hselection : panel.selection with
  | none =>
      have hsame : panel.redraw = panel := by rw [redraw, hselection]
      rw [hsame]
      refine ⟨hrenderer, htree, ?_, hnothing⟩
      intro selection hsome
      rw [hselection] at hsome
      cases hsome
  | some selection =>
      have hdrawn : panel.redraw = { panel with
          outcome := some (outcomeOf renderer (drawingOf panel.mode selection)) } := by
        rw [redraw, hselection, hrenderer]
      rw [hdrawn]
      refine ⟨hrenderer, htree, ?_, ?_⟩
      · intro other hother
        obtain rfl := Option.some.inj (hselection.symm.trans hother)
        rfl
      · intro hnone
        exact absurd (hselection.symm.trans hnone) nofun

theorem shown_display (hrenderer : panel.renderer = renderer) (id : CompilationId)
    (scripts : List Script) (graph : Graph) : Shown renderer (panel.display id scripts graph) := by
  unfold Panel.display
  apply shown_redraw
  · exact hrenderer
  · intro selection hselection
    obtain rfl := Option.some.inj hselection
    rfl
  · exact nofun

theorem shown_displayFailure (hrenderer : panel.renderer = renderer) (message : String) :
    Shown renderer (panel.displayFailure message) :=
  ⟨hrenderer, nofun, nofun, fun _ => .inr ⟨message, rfl⟩⟩

namespace Shown

theorem setMode (hshown : Shown renderer panel) (mode : DisplayMode) :
    Shown renderer (panel.setMode mode) := by
  unfold Panel.setMode
  split
  · exact hshown
  · exact shown_redraw hshown.renderer_eq hshown.tree_eq hshown.nothing

/-! ## Events and removals -/

/-- The listing and the indicator have no part in what is shown. -/
theorem congr (hshown : Shown renderer panel) (entries : List ListEntry) (connected : Bool) :
    Shown renderer { panel with entries, connected } :=
  ⟨hshown.renderer_eq, hshown.tree_eq, hshown.outcome_eq, hshown.nothing⟩

theorem observe (hshown : Shown renderer panel) (event : PanelEvent) :
    Shown renderer (panel.observe event) := by
  cases event with
  | recordCompilation id scripts => exact hshown.congr _ panel.connected
  | attached => exact hshown.congr [] true
  | detached => exact hshown.congr panel.entries false
  | _ => exact hshown

theorem resolve (hshown : Shown renderer panel) (call : Call) (event : PanelEvent) :
    Shown renderer (panel.resolve call event).1 := by
  unfold Panel.resolve
  split
  case h_5 wanted id scripts graph =>
    split
    · exact shown_display hshown.renderer_eq id scripts graph
    · exact hshown
  case h_6 wanted about message =>
    split
    · exact shown_displayFailure hshown.renderer_eq message
    · exact hshown
  all_goals exact hshown

theorem receive (hshown : Shown renderer panel) (call : Call) (frame : Frame) :
    Shown renderer (panel.receive call frame).1 :=
  (hshown.observe (eventOf frame)).resolve call (eventOf frame)

theorem forget (hshown : Shown renderer panel) (id : CompilationId) :
    Shown renderer (panel.forget id) := by
  unfold Panel.forget
  split
  · exact ⟨hshown.renderer_eq, nofun, nofun, fun _ => .inl rfl⟩
  · exact hshown.congr _ panel.connected

end Shown

end Panel

/-! ## A panel and its control side -/

/-- Something that happens at a panel: what the user does, one frame that the panel takes in, and
what the control side does at its end of the link. -/
inductive PanelMove
  /-- The user begins to connect, to disconnect, to select or to wait for an event. -/
  | call (call : Panel.Call)
  /-- The user gives up the operation, or takes note of its result. -/
  | clearCall
  | setMode (mode : DisplayMode)
  | remove (id : CompilationId)
  | message (text : String)
  | step
  | control (act : Link.Act)
  deriving Repr

namespace PanelDesk

open Panel

/-- Makes a move.  A step of a panel that is blocked changes nothing. -/
def move (desk : PanelDesk Image) : PanelMove → PanelDesk Image
  | .call call => desk.start call
  | .clearCall => desk.clearCall
  | .setMode mode => desk.setMode mode
  | .remove id => (desk.remove id).1
  | .message text => (desk.message text).1
  | .step => desk.step?.getD desk
  | .control act => { desk with link := desk.link.act .right act }

def run (desk : PanelDesk Image) (moves : List PanelMove) : PanelDesk Image :=
  moves.foldl move desk

variable {desk next : PanelDesk Image}

/-- Nothing that happens at a panel parts what it shows from what it has selected. -/
theorem shown_move (hshown : Shown renderer desk.panel) (move : PanelMove) :
    Shown renderer (desk.move move).panel := by
  cases move with
  | call call =>
      rw [PanelDesk.move, panel_start]
      exact hshown
  | clearCall => exact hshown
  | setMode mode => exact hshown.setMode mode
  | remove id =>
      rw [PanelDesk.move, panel_remove]
      exact hshown.forget id
  | message text =>
      rw [PanelDesk.move, panel_message]
      exact hshown
  | step =>
      rw [PanelDesk.move]
      cases hstep : desk.step? with
      | none => exact hshown
      | some next =>
          rcases step?_cases hstep with ⟨error, rfl⟩ | ⟨call, frame, rest, -, -, rfl⟩
          · exact hshown
          · exact hshown.receive call frame
  | control act => exact hshown

theorem shown_run (hshown : Shown renderer desk.panel) (moves : List PanelMove) :
    Shown renderer (desk.run moves).panel := by
  induction moves generalizing desk with
  | nil => exact hshown
  | cons move moves ih => exact ih (shown_move hshown move)

/-- **A panel shows what it has selected, and nothing else.**  Whatever the user and the control
side do, and in whatever order: a selection has the tree of its own graph and scripts, and the
outcome is what the renderer makes of its drawing in the current mode; without a selection there is
no outcome, or the message of a failure. -/
theorem display_matches (renderer : Renderer Image) (mode : DisplayMode) (link : Link)
    (moves : List PanelMove) :
    let panel := (run { panel := { renderer, mode }, link } moves).panel
    (∀ selection, panel.selection = some selection →
      selection.tree = InlineTree.rebuild selection.graph.mir.blocks selection.scripts ∧
      panel.outcome = some (outcomeOf renderer
        (Dot.drawing panel.mode selection.graph selection.scripts selection.tree))) ∧
    (panel.selection = none →
      panel.outcome = none ∨ ∃ message, panel.outcome = some (.failed message)) := by
  have hshown : Shown renderer (run { panel := { renderer, mode }, link } moves).panel :=
    shown_run (shown_new renderer mode) moves
  constructor
  · intro selection hselection
    exact ⟨hshown.tree_eq selection hselection, hshown.outcome_eq selection hselection⟩
  · exact hshown.nothing

/-- A panel that has selected a compilation and read its graph shows it, also behind text that is no
event. -/
example :
    (run { panel := { renderer := .source }, link := { name := "panel", maxBytes := 100 } }
      [.control (.post "?"), .call .event, .step, .call (.select ⟨7⟩), .control (.post
        "\x7b\"type\":\"compilation-graph\",\"id\":7,\"scripts\":[],\"graph\":\x7b\x7d\x7d"), .step,
        .setMode .lir]).panel.outcome =
      some (.rendered (Dot.drawing .lir {} [] (InlineTree.rebuild [] []))) := by
  decide +kernel

end PanelDesk

end CompileWatch
