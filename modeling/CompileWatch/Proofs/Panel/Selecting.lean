import CompileWatch.Proofs.Controller.Handling
import CompileWatch.Proofs.Controller.Selection
import CompileWatch.Proofs.Panel.Turn

/-!
# Selections settle

The controller forwards the text of a graph without reading it, and the panel finds out only later
whether there is a graph in it.  Still every answer to a selection is one that the selection ends
with: the graph under its id, an error about its id, or a text that is no event and counts as an
error without an id.
-/

namespace CompileWatch

variable {Image : Type}

namespace Panel

variable {panel : Panel Image} {id : CompilationId} {frame : Frame}

/-! ## What ends a selection -/

/-- Whether a selection of the id ends with an event. -/
def endsSelection (id : CompilationId) : PanelEvent → Bool
  | .compilationGraph shown _ _ => shown = id
  | .error about _ => about = none ∨ about = some id
  | _ => false

theorem receive_of_not_endsSelection (hends : endsSelection id (eventOf frame) = false) :
    (panel.receive (.select id) frame).2 = none := by
  rw [receive]
  cases hevent : eventOf frame with
  | compilationGraph shown scripts graph =>
      rw [hevent] at hends
      simp_all [endsSelection, resolve]
  | error about message =>
      rw [hevent] at hends
      simp_all [endsSelection, resolve]
  | _ => rfl

theorem receive_graph {scripts : List Script} {graph : Graph}
    (hevent : eventOf frame = .compilationGraph id scripts graph) :
    panel.receive (.select id) frame = (panel.display id scripts graph, some (.ok .done)) := by
  rw [receive, hevent]
  simp [resolve, observe]

theorem receive_error {about : Option CompilationId} {message : String}
    (hevent : eventOf frame = .error about message) (habout : about = none ∨ about = some id) :
    panel.receive (.select id) frame =
      (panel.displayFailure message, some (.error (.remote message))) := by
  rw [receive, hevent]
  simp [resolve, observe, habout]

theorem selection_display (panel : Panel Image) (id : CompilationId) (scripts : List Script)
    (graph : Graph) :
    (panel.display id scripts graph).selection =
      some ⟨id, scripts, graph, InlineTree.rebuild graph.mir.blocks scripts⟩ :=
  rfl

end Panel

namespace PanelDesk

open Panel

variable {desk : PanelDesk Image}

/-- The frame that has waited longest is taken in first. -/
theorem step?_eq_read {call : Call} {frame : Frame} {rest : List Frame}
    (hcall : desk.call = .waiting call) (hleft : desk.link.left = .live (frame :: rest)) :
    desk.step? = some (desk.read call frame rest) := by
  have hnext : desk.link.next .left = .frame frame { desk.link with left := .live rest } :=
    Link.next_of_frame hleft
  simp only [step?, hcall, hnext, read]

theorem call_read_of_not_endsSelection {id : CompilationId} {frame : Frame} {rest : List Frame}
    (hends : endsSelection id (eventOf frame) = false) :
    (desk.read (.select id) frame rest).call = .waiting (.select id) := by
  have hreceive := @receive_of_not_endsSelection _ desk.panel id frame hends
  cases hresult : desk.panel.receive (.select id) frame with
  | mk panel result =>
      obtain rfl : result = none := by rw [← hreceive, hresult]
      simp only [read, hresult, Option.map_none, Option.getD_none]

theorem untilBlocked_of_ended {result : Except PanelError Answer}
    (hcall : desk.call = .ended result) (bound : Nat) : untilBlocked step? bound desk = desk := by
  cases bound with
  | zero => rfl
  | succ bound => simp only [untilBlocked, step?, hcall]

/-- A selection goes on until a frame ends it, whatever waits in front of that and behind it. -/
theorem exists_settled_select {id : CompilationId} {answer : Frame} {later : List Frame}
    {after : Panel Image → Panel Image} {result : Except PanelError Answer}
    (hanswer : ∀ panel, panel.receive (.select id) answer = (after panel, some result))
    {earlier : List Frame}
    (hearlier : ∀ frame ∈ earlier, endsSelection id (eventOf frame) = false) {bound : Nat}
    (hbound : earlier.length < bound) (hcall : desk.call = .waiting (.select id))
    (hleft : desk.link.left = .live (earlier ++ answer :: later)) :
    ∃ panel, (untilBlocked step? bound desk).panel = after panel ∧
      (untilBlocked step? bound desk).call = .ended result := by
  -- on the frames in front; each that is read leaves the selection waiting, and the panel changed
  induction earlier generalizing bound desk with
  | nil =>
      obtain ⟨bound, rfl⟩ := Nat.exists_eq_add_of_lt hbound
      have hread : desk.read (.select id) answer later =
          { panel := after desk.panel, link := { desk.link with left := .live later }
            call := .ended result } := by
        rw [read, hanswer]
        rfl
      rw [untilBlocked, step?_eq_read hcall hleft, hread]
      dsimp only
      rw [untilBlocked_of_ended rfl]
      exact ⟨desk.panel, rfl, rfl⟩
  | cons frame earlier ih =>
      obtain ⟨bound, rfl⟩ := Nat.exists_eq_add_of_lt hbound
      rw [List.forall_mem_cons] at hearlier
      rw [untilBlocked, step?_eq_read hcall hleft]
      have hshorter : earlier.length < (frame :: earlier).length + bound := by
        rw [List.length_cons]
        omega
      exact ih hearlier.2 hshorter (call_read_of_not_endsSelection hearlier.1) rfl

section

variable {id : CompilationId} {answer : Frame} {earlier later : List Frame}
  (hearlier : ∀ frame ∈ earlier, endsSelection id (eventOf frame) = false)
  (hcall : desk.call = .waiting (.select id))
  (hleft : desk.link.left = .live (earlier ++ answer :: later))

include hearlier hcall hleft

theorem exists_settle_select {after : Panel Image → Panel Image} {result : Except PanelError Answer}
    (hanswer : ∀ panel, panel.receive (.select id) answer = (after panel, some result)) :
    ∃ panel, desk.settle.panel = after panel ∧ desk.settle.call = .ended result := by
  have hbound : earlier.length < desk.potential := by
    rw [potential, Link.queue, Link.endpoint, hleft]
    simp only [Endpoint.queue, List.length_append, List.length_cons]
    omega
  exact exists_settled_select hanswer hearlier hbound hcall hleft

theorem settle_of_graph {scripts : List Script} {graph : Graph}
    (hevent : eventOf answer = .compilationGraph id scripts graph) :
    desk.settle.call = .ended (.ok .done) ∧
      desk.settle.panel.selection =
        some ⟨id, scripts, graph, InlineTree.rebuild graph.mir.blocks scripts⟩ := by
  obtain ⟨panel, hpanel, hended⟩ :=
    exists_settle_select hearlier hcall hleft fun _ => receive_graph hevent
  refine ⟨hended, ?_⟩
  rw [hpanel, selection_display]

theorem settle_of_error {about : Option CompilationId} {message : String}
    (hevent : eventOf answer = .error about message) (habout : about = none ∨ about = some id) :
    desk.settle.call = .ended (.error (.remote message)) ∧ desk.settle.panel.selection = none ∧
      desk.settle.panel.outcome = some (.failed message) := by
  obtain ⟨panel, hpanel, hended⟩ :=
    exists_settle_select hearlier hcall hleft fun _ => receive_error hevent habout
  rw [hpanel]
  exact ⟨hended, rfl, rfl⟩

end

end PanelDesk

/-! ## What the controller answers -/

namespace Store

/-- The compilation is in the store with these scripts and this graph, and its frame can be written
and is not too long. -/
def Shows (store : Store) (maxBytes : Nat) (id : CompilationId) (scripts : List Script)
    (graph : Graph) : Prop :=
  ∃ snapshot frame, store.get id.slot = .ok snapshot ∧ snapshot.scripts = scripts ∧
    Frame.decode Graph.ofJson? snapshot.graph.text = .ok graph ∧
    GraphFrame.encode { id, scripts, graph := snapshot.graph } = .ok frame ∧
    frame.utf8ByteSize ≤ maxBytes

theorem Shows.unique {store : Store} {maxBytes : Nat} {id : CompilationId}
    {scripts scripts' : List Script} {graph graph' : Graph}
    (hshows : store.Shows maxBytes id scripts graph)
    (hshows' : store.Shows maxBytes id scripts' graph') : scripts = scripts' ∧ graph = graph' := by
  obtain ⟨snapshot, -, hget, rfl, hdecode, -⟩ := hshows
  obtain ⟨snapshot', -, hget', rfl, hdecode', -⟩ := hshows'
  obtain rfl := Except.ok.inj (hget.symm.trans hget')
  exact ⟨rfl, Except.ok.inj (hdecode.symm.trans hdecode')⟩

end Store

namespace Controller

/-- A selection posts its answer, and nothing if that is refused. -/
theorem select_eq (controller : Controller) (panel : Link) (id : CompilationId) :
    controller.select panel id =
      match panel.post .right (selectionFrame controller.store panel id) with
      | .ok next => next
      | .error _ => panel := by
  rw [selectionFrame, select]
  cases controller.store.get id.slot with
  | error error => rfl
  | ok snapshot =>
      cases htext : GraphFrame.encode ⟨id, snapshot.scripts, snapshot.graph⟩ with
      | error error =>
          simp only [sendGraph, htext, Except.mapError, bind, Except.bind]
          rfl
      | ok text =>
          cases hpost : panel.post .right text with
          | error error =>
              simp only [sendGraph, htext, hpost, Except.mapError, bind, Except.bind]
              rfl
          | ok next => simp only [sendGraph, htext, hpost, Except.mapError, bind, Except.bind]

/-- **Every answer to a selection ends it.**  It is the graph if there is one to show, and is taken
for an error without an id or about the id otherwise; the text of the graph may be no graph. -/
theorem eventOf_selectionFrame {store : Store} {panel : Link} (hlive : panel.left.isLive)
    {id : CompilationId}
    (hgraph : ∀ snapshot, store.get id.slot = .ok snapshot →
      Json.WellFormed snapshot.graph.text) :
    (∃ scripts graph, store.Shows panel.maxBytes id scripts graph ∧
      (selectionFrame store panel id).utf8ByteSize ≤ panel.maxBytes ∧
      Panel.eventOf (selectionFrame store panel id) = .compilationGraph id scripts graph) ∨
    (∀ scripts graph, ¬ store.Shows panel.maxBytes id scripts graph) ∧
      ∃ about message, (about = none ∨ about = some id) ∧
        Panel.eventOf (selectionFrame store panel id) = .error about message ∧
        (panel.maxBytes < (selectionFrame store panel id).utf8ByteSize →
          selectionFrame store panel id = errorAbout id message) := by
  have hanswered := ControlDesk.answered_select store panel id
  simp only [ControlDesk.Answered, framesOf, List.map_singleton, List.cons.injEq, and_true]
    at hanswered
  rcases hanswered with ⟨snapshot, hget, hclear, ⟨-, hfits⟩, hframe⟩ | ⟨hnone, message, hframe⟩
  · have htext : GraphFrame.encode ⟨id, snapshot.scripts, snapshot.graph⟩ =
        .ok (selectionFrame store panel id) := by
      rw [GraphFrame.encode_eq, if_pos hclear, hframe]
    rw [← hframe] at hfits
    have hdecode := GraphFrame.decode_of_encode htext (hgraph snapshot hget)
    cases hread : Frame.decode Graph.ofJson? snapshot.graph.text with
    | ok graph =>
        refine .inl ⟨snapshot.scripts, graph, ⟨snapshot, _, hget, rfl, hread, htext, hfits⟩,
          hfits, ?_⟩
        rw [Panel.eventOf, hdecode, hread]
        rfl
    | error error =>
        -- the controller has not noticed; the panel takes the frame for an error without an id
        refine .inr ⟨?_, none, error.message, .inl rfl, ?_, fun hlong => ?_⟩
        · rintro scripts graph ⟨other, -, hother, -, hsome, -⟩
          obtain rfl := Except.ok.inj (hget.symm.trans hother)
          rw [hread] at hsome
          cases hsome
        · rw [Panel.eventOf, hdecode, hread]
          rfl
        · exact absurd hfits (Nat.not_le.mpr hlong)
  · refine .inr ⟨?_, some id, message, .inr rfl, ?_, fun _ => hframe⟩
    · rintro scripts graph ⟨snapshot, frame, hget, rfl, -, htext, hfits⟩
      rw [GraphFrame.encode_eq] at htext
      split at htext
      · rename_i hclear
        obtain rfl := Except.ok.inj htext
        exact hnone snapshot hget hclear ⟨hlive, hfits⟩
      · cases htext
    · rw [hframe]
      exact eventOf_encode rfl

end Controller

namespace ControlDesk

open Controller

/-- The controller takes up a selection next.  The text of the compilation is well-formed if it is
in the store, and the given frames wait at the panel. -/
structure Selects (control : ControlDesk) (controller : Controller) (id : CompilationId)
    (earlier : List Frame) : Prop where
  present : control.controller = some controller
  request : control.request? = some (.selectCompilation id)
  wellFormed : ∀ snapshot, controller.store.get id.slot = .ok snapshot →
    Json.WellFormed snapshot.graph.text
  left : control.panel.left = .live earlier

/-- The controller posts the answer to a selection behind what waits at the panel, unless it is
too long. -/
theorem Selects.exists_step {control : ControlDesk} {controller : Controller} {id : CompilationId}
    {earlier : List Frame} (hselects : control.Selects controller id earlier) :
    ∃ (next : ControlDesk) (panel : Link), control.step? = some next ∧
      panel.left = control.panel.left ∧
      panel.maxBytes = control.panel.maxBytes ∧
      next.panel.left =
        if (selectionFrame controller.store panel id).utf8ByteSize ≤ control.panel.maxBytes then
          .live (earlier ++ [selectionFrame controller.store panel id])
        else .live earlier := by
  obtain ⟨found, frame, panel, next, hfound, hpanel, hmax, hdecode, hstep, rfl⟩ :=
    step?_of_request? hselects.request
  obtain rfl := Option.some.inj (hfound.symm.trans hselects.present)
  refine ⟨_, panel, hstep, hpanel, hmax, ?_⟩
  rw [hselects.left] at hpanel
  have hlive : panel.left.isLive := by
    rw [hpanel]
    rfl
  have hposts : (handleFrame found control.runtime panel frame).panel = found.select panel id := by
    rw [handleFrame, hdecode]
    rfl
  rw [hposts, select_eq, ← hmax]
  by_cases hfits : (selectionFrame found.store panel id).utf8ByteSize ≤ panel.maxBytes
  · rw [if_pos hfits, Link.post_of_fits hfits hlive]
    dsimp only
    rw [Link.left_posted, hpanel]
    rfl
  · rw [if_neg hfits, Link.post, if_pos (Nat.not_le.mp hfits)]
    exact hpanel

end ControlDesk

namespace PanelDesk

open Controller Panel

theorem wellFormed_sample : Json.WellFormed " \x7b \x7d" :=
  @Json.Derives.spaced [' '] _ [] (by simp [Json.Gap, Json.isGap])
    (.object (@Json.Derives.closeMembers [' '] (by simp [Json.Gap, Json.isGap]))) Json.gap_nil

/-- A session in which one compilation is recorded. -/
def recordingMoves : List DeskMove :=
  DeskMove.asking .connect ++ DeskMove.telling (.state .attached) ++
    DeskMove.telling (.compilation [] " \x7b \x7d")

/-- The panel asks for the first compilation. -/
def wishingMoves : List DeskMove :=
  [.panel (.post (Frame.encode (PanelRequest.selectCompilation ⟨0⟩).toJson))]

/-- A panel that waits at the link for a selection shows the compilation once it has settled, or
says why not. -/
def Informed (store : Store) (id : CompilationId) (link : Link) : Prop :=
  let settled : PanelDesk String :=
    settle { panel := { renderer := .source }, link, call := .waiting (.select id) }
  (∃ scripts graph, store.Shows link.maxBytes id scripts graph ∧
    settled.call = .ended (.ok .done)) ∨
  (∀ scripts graph, ¬ store.Shows link.maxBytes id scripts graph) ∧
    ∃ message, settled.call = .ended (.error (.remote message))

def isError : PanelEvent → Bool
  | .error _ _ => true
  | _ => false

/-- A graph waits at the panel; its compilation is removed before it is asked for again. -/
def repeatedMoves : List DeskMove :=
  recordingMoves ++ DeskMove.asking (.selectCompilation ⟨0⟩) ++
    DeskMove.asking (.removeCompilation ⟨0⟩) ++ wishingMoves

end PanelDesk

end CompileWatch
