import CompileWatch.Proofs.Controller.Register
import CompileWatch.Proofs.Message.Sentinel

/-!
# Answers to selections

The register foretells the answer to every selection.  A compilation that was recorded and not
removed since is answered by its graph, byte for byte as the compiler wrote it, unless the digits
of the sentinel occur in its id or its scripts; all else is answered by one error about the id.

A removal that was handled before the compilation was recorded was refused, and it has no effect
on what is recorded later.
-/

namespace CompileWatch

open Controller

/-! ## What the register foretells -/

namespace Register

/-- The compilation is recorded under the id, was not removed, and can be sent. -/
def Offers (register : Register) (id : CompilationId) : Prop :=
  ∃ compilation, register.recorded[id.slot]? = some compilation ∧ id.slot ∉ register.removed ∧
    GraphFrame.Clear id compilation.scripts

/-- The answer to a selection. -/
def answer (register : Register) (id : CompilationId) : Frame :=
  match register.recorded[id.slot]? with
  | none => errorAbout id ("compilation " ++ id.text ++ " not found")
  | some compilation =>
    if id.slot ∈ register.removed then errorAbout id ("compilation " ++ id.text ++ " was removed")
    else if GraphFrame.Clear id compilation.scripts then
      GraphFrame.around id compilation.scripts compilation.json
    else
      errorAbout id ("graph sentinel must occur exactly once in the envelope, found " ++
        toString (Text.count sentinelDigits (GraphFrame.envelope id compilation.scripts).toList))

theorem not_carries_errorAbout (id other : CompilationId) (message : String) :
    ¬ GraphFrame.Carries id (errorAbout other message) :=
  GraphFrame.not_carries_encode rfl id

/-- The answer carries a graph exactly if the register offers one, and is an error about the id
otherwise. -/
theorem carries_answer_iff (register : Register) (id : CompilationId) :
    (GraphFrame.Carries id (register.answer id) ↔ register.Offers id) ∧
      (¬ register.Offers id → ∃ message, register.answer id = errorAbout id message) := by
  rw [answer]
  cases hrecorded : register.recorded[id.slot]? with
  | none =>
      have hoffers : ¬ register.Offers id := by
        rintro ⟨compilation, hsome, -⟩
        rw [hrecorded] at hsome
        cases hsome
      exact ⟨iff_of_false (not_carries_errorAbout id id _) hoffers, fun _ => ⟨_, rfl⟩⟩
  | some compilation =>
      have hoffers : register.Offers id ↔
          id.slot ∉ register.removed ∧ GraphFrame.Clear id compilation.scripts := by
        rw [Offers, hrecorded]
        simp
      dsimp only
      by_cases hremoved : id.slot ∈ register.removed
      · rw [if_pos hremoved]
        exact ⟨iff_of_false (not_carries_errorAbout id id _) (by simp [hoffers, hremoved]),
          fun _ => ⟨_, rfl⟩⟩
      · rw [if_neg hremoved]
        by_cases hclear : GraphFrame.Clear id compilation.scripts
        · rw [if_pos hclear]
          have hoffered : register.Offers id := hoffers.mpr ⟨hremoved, hclear⟩
          exact ⟨iff_of_true ⟨_, _, rfl⟩ hoffered, fun hnone => absurd hoffered hnone⟩
        · rw [if_neg hclear]
          exact ⟨iff_of_false (not_carries_errorAbout id id _) (by simp [hoffers, hclear]),
            fun _ => ⟨_, rfl⟩⟩

end Register

/-! ## What the controller answers -/

/-- A live panel is answered as the register foretells, if the answer is not too long. -/
theorem Store.Agrees.selectionFrame_eq {store : Store} {register : Register}
    (hagrees : store.Agrees register) {panel : Link} (hlive : panel.left.isLive)
    {id : CompilationId} (hfits : (register.answer id).utf8ByteSize ≤ panel.maxBytes) :
    selectionFrame store panel id = register.answer id := by
  rw [Register.answer] at hfits ⊢
  rw [selectionFrame, Store.get]
  cases hrecorded : register.recorded[id.slot]? with
  | none =>
      have hnone : store.slots[id.slot]? = none := by
        rw [List.getElem?_eq_none_iff] at hrecorded ⊢
        have := hagrees.size
        rw [Store.size] at this
        omega
      rw [hnone]
      rfl
  | some compilation =>
      rw [hrecorded] at hfits
      dsimp only at hfits ⊢
      by_cases hremoved : id.slot ∈ register.removed
      · rw [hagrees.removed id.slot hremoved, if_pos hremoved]
        rfl
      · obtain ⟨graph, htext, hslot⟩ := hagrees.live id.slot compilation hrecorded hremoved
        rw [if_neg hremoved] at hfits ⊢
        rw [hslot]
        dsimp only
        by_cases hclear : GraphFrame.Clear id compilation.scripts
        · rw [if_pos hclear] at hfits ⊢
          have hencode : GraphFrame.encode ⟨id, compilation.scripts, graph⟩ =
              .ok (GraphFrame.around id compilation.scripts compilation.json) := by
            rw [GraphFrame.encode_eq, if_pos hclear, htext]
          rw [hencode]
          dsimp only
          rw [Link.post_of_fits hfits hlive]
        · rw [if_neg hclear, GraphFrame.encode_eq, if_neg hclear]
          rfl

/-- A selection is answered by an error about the id, or by the graph of the compilation that is in
the store. -/
theorem Controller.selectionFrame_cases (store : Store) (panel : Link) (id : CompilationId) :
    (∃ message, selectionFrame store panel id = errorAbout id message) ∨
    ∃ snapshot, store.get id.slot = .ok snapshot ∧
      GraphFrame.encode { id, scripts := snapshot.scripts, graph := snapshot.graph } =
        .ok (selectionFrame store panel id) := by
  rw [selectionFrame]
  cases hget : store.get id.slot with
  | error error => exact .inl ⟨_, rfl⟩
  | ok snapshot =>
      dsimp only
      cases htext : GraphFrame.encode ⟨id, snapshot.scripts, snapshot.graph⟩ with
      | error error => exact .inl ⟨_, rfl⟩
      | ok text =>
          dsimp only
          cases panel.post .right text with
          | error error => exact .inl ⟨_, rfl⟩
          | ok next => exact .inr ⟨snapshot, rfl, htext⟩

/-- Only a selection of a compilation that is in the store is answered by its graph. -/
theorem Store.get_of_carries {store : Store} {panel : Link} {id selected : CompilationId}
    (hcarries : GraphFrame.Carries id (selectionFrame store panel selected)) :
    ∃ snapshot, store.get id.slot = .ok snapshot := by
  rcases selectionFrame_cases store panel selected with
    ⟨message, herror⟩ | ⟨snapshot, hget, htext⟩
  · rw [herror] at hcarries
    exact absurd hcarries (Register.not_carries_errorAbout id selected message)
  · rw [GraphFrame.encode_eq] at htext
    split at htext
    · rw [← Except.ok.inj htext] at hcarries
      obtain rfl := GraphFrame.eq_of_carries hcarries ⟨_, _, rfl⟩
      exact ⟨snapshot, hget⟩
    · cases htext

namespace ControlDesk

variable {desk next : ControlDesk} {register : Register} {id : CompilationId}

theorem not_carries_framesOf {events : List PanelEvent}
    (hevents : ∀ event ∈ events, event.hasGraph = false) (id : CompilationId) :
    ∀ frame ∈ framesOf events, ¬ GraphFrame.Carries id frame := by
  intro frame hframe
  obtain ⟨event, hevent, rfl⟩ := List.mem_map.mp hframe
  exact GraphFrame.not_carries_encode (hevents event hevent) id

theorem hasGraph_outcomeEvents (pending : Pending) (outcome : Except FrontError ActorReply) :
    ∀ event ∈ outcomeEvents pending outcome, event.hasGraph = false := by
  rw [outcomeEvents.eq_def]
  cases outcome.bind Front.stateOf <;> cases pending <;> simp [PanelEvent.hasGraph]

theorem hasGraph_askEvents (runtime : Link) (pending : Pending) :
    ∀ event ∈ askEvents runtime pending, event.hasGraph = false := by
  rw [askEvents]
  cases Front.request runtime (requestOf pending) with
  | ok next => simp
  | error error => exact hasGraph_outcomeEvents pending (.error error)

theorem hasGraph_recordNews? (controller : Controller) (compilation? : Option Compilation) :
    ∀ event ∈ (compilation?.bind controller.recordNews?).toList, event.hasGraph = false := by
  cases compilation? with
  | none => simp
  | some compilation =>
      rw [Option.bind_some, recordNews?]
      split <;> simp [PanelEvent.hasGraph]

/-- Handling a frame sends events without a graph, or the answer to a selection. -/
theorem handledFrames_cases (store : Store) (runtime panel : Link) (received : Frame) :
    (∃ events, (∀ event ∈ events, event.hasGraph = false) ∧
      handledFrames store runtime panel received = framesOf events) ∨
    ∃ id, Frame.decode PanelRequest.ofJson? received = .ok (.selectCompilation id) ∧
      handledFrames store runtime panel received = [selectionFrame store panel id] := by
  rw [handledFrames]
  cases Frame.decode PanelRequest.ofJson? received with
  | error error => exact .inl ⟨_, by simp [PanelEvent.hasGraph], rfl⟩
  | ok request =>
      cases request with
      | selectCompilation id => exact .inr ⟨id, rfl, rfl⟩
      | connect =>
          refine .inl ⟨.registered :: askEvents runtime .attach, ?_, rfl⟩
          exact List.forall_mem_cons.mpr ⟨rfl, hasGraph_askEvents runtime .attach⟩
      | disconnect => exact .inl ⟨_, hasGraph_askEvents runtime .detach, rfl⟩
      | message text => exact .inl ⟨[], by simp, rfl⟩
      | removeCompilation id =>
          simp only [requestFrames, removalFrames]
          cases store.remove id.slot with
          | ok next => exact .inl ⟨[], by simp, rfl⟩
          | error error =>
              exact .inl ⟨[.error (some id) error.message], by simp [PanelEvent.hasGraph], rfl⟩

/-- **A step sends events without a graph**, unless it takes up a selection. -/
theorem outgoing_cases {controller : Controller} (hcontroller : desk.controller = some controller) :
    (∃ events, (∀ event ∈ events, event.hasGraph = false) ∧ desk.outgoing = framesOf events) ∨
    ∃ received rest id, controller.pending = none ∧ desk.panel.right = .live (received :: rest) ∧
      Frame.decode PanelRequest.ofJson? received = .ok (.selectCompilation id) ∧
      desk.outgoing =
        [selectionFrame controller.store { desk.panel with right := .live rest } id] := by
  simp only [outgoing, hcontroller]
  split
  · refine .inl ⟨_, ?_, rfl⟩
    simp only [List.mem_flatMap]
    rintro event ⟨outcome, -, hevent⟩
    exact hasGraph_outcomeEvents _ outcome event hevent
  · exact .inl ⟨_, hasGraph_outcomeEvents _ _, rfl⟩
  · rename_i received link hpending hnext
    obtain ⟨rest, hright, rfl⟩ := Link.next_eq_frame hnext
    rcases handledFrames_cases controller.store desk.runtime
      (desk.panel.setEndpoint .right (.live rest)) received with hsilent | ⟨id, hrequest, hsent⟩
    · exact .inl hsilent
    · exact .inr ⟨received, rest, id, hpending, hright, hrequest, hsent⟩
  · exact .inl ⟨_, hasGraph_recordNews? _ _, rfl⟩
  · exact .inl ⟨[], by simp, rfl⟩

/-- A frame with a graph is only ever sent for a compilation that is in the store. -/
theorem get_of_outgoing {controller : Controller} (hcontroller : desk.controller = some controller)
    {frame : Frame} (hframe : frame ∈ desk.outgoing) (hcarries : GraphFrame.Carries id frame) :
    ∃ snapshot, controller.store.get id.slot = .ok snapshot := by
  rcases outgoing_cases hcontroller with ⟨events, hevents, hsent⟩ |
    ⟨received, rest, selected, -, -, -, hsent⟩
  · rw [hsent] at hframe
    exact absurd hcarries (not_carries_framesOf hevents id frame hframe)
  · rw [hsent, List.mem_singleton] at hframe
    rw [hframe] at hcarries
    exact Store.get_of_carries hcarries

/-- No graph is posted for a compilation that was removed. -/
theorem not_carries_of_removed (hregistered : Registered desk register)
    (hremoved : id.slot ∈ register.removed) (move : DeskMove) :
    ∀ frame ∈ desk.postedIn move, ¬ GraphFrame.Carries id frame := by
  intro frame hframe hcarries
  cases move with
  | panel | actor => cases hframe
  | step =>
      cases hstep : desk.step? with
      | none => simp [postedIn, ControlDesk.move, hstep] at hframe
      | some next =>
          obtain ⟨panel, hleft, -, hsends⟩ := sends_step hstep
          obtain ⟨sent, hsent, hnext⟩ := hsends.exists_posted
          rw [postedIn, ControlDesk.move, hstep, Option.getD_some, hnext, Link.queue, Link.queue,
            Link.endpoint, Link.endpoint, Link.left_posted, hleft, Endpoint.queue_push] at hframe
          split at hframe
          · rcases hcontroller : desk.controller with _ | controller
            · simp [step?, hcontroller] at hstep
            obtain ⟨snapshot, hget⟩ :=
              get_of_outgoing hcontroller (hsent.subset hframe) hcarries
            have hslot := (hregistered.agrees controller hcontroller).removed id.slot hremoved
            rw [Store.get, hslot] at hget
            cases hget
          · cases hframe

end ControlDesk

/-! ## Runs -/

namespace Register

variable {register : Register} {deed : Deed}

theorem sessions_le_enter (register : Register) (deed : Deed) :
    register.sessions ≤ (register.enter deed).sessions := by
  cases deed with
  | began => exact Nat.le_succ _
  | ceased => exact Nat.le_refl _
  | took compilation =>
      rw [enter]
      split <;> exact Nat.le_refl _
  | served request =>
      cases request with
      | removeCompilation id =>
          rw [enter]
          split <;> exact Nat.le_refl _
      | connect | disconnect | selectCompilation | message => exact Nat.le_refl _

/-- A removal is only forgotten when the next session begins. -/
theorem mem_removed_enter {slot : Nat}
    (hsession : (register.enter deed).sessions = register.sessions)
    (hremoved : slot ∈ register.removed) : slot ∈ (register.enter deed).removed := by
  cases deed with
  | began =>
      rw [enter] at hsession
      exact absurd hsession (Nat.succ_ne_self _)
  | ceased => exact hremoved
  | took compilation =>
      rw [enter]
      split <;> exact hremoved
  | served request =>
      cases request with
      | removeCompilation id =>
          rw [enter]
          split
          · exact List.mem_cons_of_mem _ hremoved
          · exact hremoved
      | connect | disconnect | selectCompilation | message => exact hremoved

end Register

namespace RegisteredDesk

variable {registered : RegisteredDesk} {id : CompilationId}

theorem sessions_le_move (registered : RegisteredDesk) (move : DeskMove) :
    registered.register.sessions ≤ (registered.move move).register.sessions := by
  rw [RegisteredDesk.move]
  cases registered.desk.deedIn move with
  | none => exact Nat.le_refl _
  | some deed => exact Register.sessions_le_enter _ deed

theorem sessions_le_run (registered : RegisteredDesk) (moves : List DeskMove) :
    registered.register.sessions ≤ (registered.run moves).register.sessions := by
  induction moves generalizing registered with
  | nil => exact Nat.le_refl _
  | cons first rest ih => exact (sessions_le_move registered first).trans (ih _)

theorem mem_removed_move {slot : Nat} {move : DeskMove}
    (hsession : (registered.move move).register.sessions = registered.register.sessions)
    (hremoved : slot ∈ registered.register.removed) :
    slot ∈ (registered.move move).register.removed := by
  rw [RegisteredDesk.move] at hsession ⊢
  cases hdeed : registered.desk.deedIn move with
  | none => exact hremoved
  | some deed =>
      rw [hdeed] at hsession
      exact Register.mem_removed_enter hsession hremoved

/-- As long as a session is not followed by another one, no graph is posted any more for a
compilation that was removed in it. -/
theorem not_carries_run (hregistered : Registered registered.desk registered.register)
    (hremoved : id.slot ∈ registered.register.removed) (moves : List DeskMove)
    (hsession : (registered.run moves).register.sessions = registered.register.sessions) :
    ∃ frames, (registered.run moves).posted = registered.posted ++ frames ∧
      ∀ frame ∈ frames, ¬ GraphFrame.Carries id frame := by
  induction moves generalizing registered with
  | nil => exact ⟨[], (List.append_nil _).symm, by simp⟩
  | cons first rest ih =>
      have hmove := sessions_le_move registered first
      have hrest := sessions_le_run (registered.move first) rest
      have hlast : ((registered.move first).run rest).register.sessions =
          registered.register.sessions := hsession
      have hsame : (registered.move first).register.sessions = registered.register.sessions := by
        omega
      obtain ⟨frames, hposted, hframes⟩ :=
        @ih (registered.move first) (registered_move hregistered first)
          (mem_removed_move hsame hremoved) (hlast.trans hsame.symm)
      refine ⟨registered.desk.postedIn first ++ frames, ?_, ?_⟩
      · rw [← List.append_assoc]
        exact hposted
      · intro frame hframe
        rcases List.mem_append.mp hframe with hframe | hframe
        · exact ControlDesk.not_carries_of_removed hregistered hremoved first frame hframe
        · exact hframes frame hframe

theorem maxBytes_run (registered : RegisteredDesk) (moves : List DeskMove) :
    (registered.run moves).desk.panel.maxBytes = registered.desk.panel.maxBytes := by
  induction moves generalizing registered with
  | nil => rfl
  | cons first rest ih => exact (ih (registered.move first)).trans (ControlDesk.maxBytes_move _ _)

end RegisteredDesk

namespace ControlDesk

theorem step?_of_request? {desk : ControlDesk} {request : PanelRequest}
    (hrequest : desk.request? = some request) :
    ∃ controller frame panel next, desk.controller = some controller ∧
      panel.left = desk.panel.left ∧ panel.maxBytes = desk.panel.maxBytes ∧
      Frame.decode PanelRequest.ofJson? frame = .ok request ∧ desk.step? = some next ∧
      next = handleFrame controller desk.runtime panel frame := by
  rcases desk with ⟨_ | controller, runtime, panel⟩
  · cases hrequest
  rw [request?, Option.bind_some] at hrequest
  split at hrequest
  · rename_i frame read hpending hnext
    obtain ⟨rest, -, rfl⟩ := Link.next_eq_frame hnext
    refine ⟨controller, frame, panel.setEndpoint .right (.live rest), _, rfl, rfl, rfl, ?_, ?_, rfl⟩
    · cases hdecode : Frame.decode PanelRequest.ofJson? frame with
      | error error =>
          rw [hdecode] at hrequest
          cases hrequest
      | ok decoded =>
          rw [hdecode] at hrequest
          exact congrArg _ (Option.some.inj hrequest)
    · simp only [step?, hpending, hnext]
  · cases hrequest

/-- **Selections are answered as the register foretells.**  After every run, whatever frames the
panel and the actor have posted: if the controller takes up a selection next, and the answer is
not too long, then it posts that answer and nothing else.  The answer carries a graph exactly if
the compilation was recorded in the session that has begun last, its removal was not handled
since it was recorded, and the digits of the sentinel occur neither in its id nor in its scripts;
otherwise it is an error about the id.  Once the removal of a compilation that is recorded was
handled, no graph is posted under its id before another session begins. -/
theorem selections_answered (runtimeBytes panelBytes : Nat) (moves : List DeskMove)
    (id : CompilationId) :
    let registered := RegisteredDesk.run { desk := fresh runtimeBytes panelBytes } moves
    let answer := registered.register.answer id
    (registered.desk.request? = some (.selectCompilation id) → answer.utf8ByteSize ≤ panelBytes →
      ∃ next, registered.desk.step? = some next ∧
        next.panel.left = registered.desk.panel.left.push [answer]) ∧
    (GraphFrame.Carries id answer ↔ registered.register.Offers id) ∧
    (¬ registered.register.Offers id → ∃ message, answer = errorAbout id message) ∧
    (id.slot ∈ registered.register.removed → ∀ later,
      (registered.run later).register.sessions = registered.register.sessions →
        ∃ frames, (registered.run later).posted = registered.posted ++ frames ∧
          ∀ frame ∈ frames, ¬ GraphFrame.Carries id frame) := by
  intro registered answer
  have hregistered : Registered registered.desk registered.register :=
    RegisteredDesk.registered_run (registered_fresh runtimeBytes panelBytes) moves
  obtain ⟨hgraph, herror⟩ := Register.carries_answer_iff registered.register id
  refine ⟨?_, hgraph, herror, fun hremoved later hsession =>
    RegisteredDesk.not_carries_run hregistered hremoved later hsession⟩
  intro hrequest hfits
  obtain ⟨controller, frame, panel, next, hcontroller, hleft, hmax, hdecode, hstep, hnext⟩ :=
    step?_of_request? hrequest
  refine ⟨next, hstep, ?_⟩
  have hselect : next.panel = controller.select panel id := by
    rw [hnext, handleFrame, hdecode]
    rfl
  have hsends := sends_select controller panel id
  rw [← hselect] at hsends
  cases hlive : panel.left.isLive with
  | true =>
      have hbytes : panel.maxBytes = panelBytes :=
        hmax.trans (RegisteredDesk.maxBytes_run { desk := fresh runtimeBytes panelBytes } moves)
      rw [← hbytes] at hfits
      rw [(hregistered.agrees controller hcontroller).selectionFrame_eq hlive hfits] at hsends
      rw [hsends.of_fits (by simpa using hfits), Link.left_posted, hleft]
  | false =>
      -- nothing can be posted to a panel that is gone
      obtain ⟨sent, -, hposted⟩ := hsends.exists_posted
      rw [hposted, Link.left_posted, ← hleft]
      cases hend : panel.left with
      | dropped => rfl
      | live queue => simp [hend, Endpoint.isLive] at hlive

/-- A session in which two compilations are recorded and the second one is removed; then the first
one is asked for. -/
def selectingMoves : List DeskMove :=
  DeskMove.asking .connect ++ DeskMove.telling (.state .attached) ++
    DeskMove.telling (.compilation [{ url := "a.js" }] " \x7b \x7d") ++
    DeskMove.telling (.compilation [] "[]") ++ DeskMove.asking (.removeCompilation ⟨1⟩) ++
    [.panel (.post (Frame.encode (PanelRequest.selectCompilation ⟨0⟩).toJson))]

/-- In the sample session the first compilation is answered by its graph, and no graph of the
second one follows when that is asked for. -/
theorem sample_selections_answered :
    let registered := RegisteredDesk.run { desk := fresh 200 300 } selectingMoves
    (∃ next, registered.desk.step? = some next ∧
      next.panel.left = registered.desk.panel.left.push
        [GraphFrame.around ⟨0⟩ [{ url := "a.js" }] " \x7b \x7d"]) ∧
    ∃ frames, (registered.run (.step :: DeskMove.asking (.selectCompilation ⟨1⟩))).posted =
        registered.posted ++ frames ∧ ∀ frame ∈ frames, ¬ GraphFrame.Carries ⟨1⟩ frame := by
  intro registered
  have hstate : registered.desk.request? = some (.selectCompilation ⟨0⟩) ∧
      registered.register.answer ⟨0⟩ = GraphFrame.around ⟨0⟩ [{ url := "a.js" }] " \x7b \x7d" ∧
      (registered.register.answer ⟨0⟩).utf8ByteSize ≤ 300 ∧
      CompilationId.slot ⟨1⟩ ∈ registered.register.removed ∧
      (registered.run (.step :: DeskMove.asking (.selectCompilation ⟨1⟩))).register.sessions =
        registered.register.sessions := by
    decide +kernel
  obtain ⟨hrequest, hanswer, hfits, hremoved, hsession⟩ := hstate
  constructor
  · rw [← hanswer]
    exact (selections_answered 200 300 selectingMoves ⟨0⟩).1 hrequest hfits
  · exact (selections_answered 200 300 selectingMoves ⟨1⟩).2.2.2 hremoved _ hsession

/-- A removal that is handled before its compilation is recorded is refused, and it does not keep
the graph from being posted later in the same session. -/
theorem graph_follows_refused_removal :
    ¬ ∀ (runtimeBytes panelBytes : Nat) (before later : List DeskMove) (id : CompilationId),
      let registered := RegisteredDesk.run { desk := fresh runtimeBytes panelBytes } before
      registered.desk.request? = some (.removeCompilation id) →
        (registered.run (.step :: later)).register.sessions = registered.register.sessions →
          ∀ frame ∈ (registered.run (.step :: later)).posted.drop registered.posted.length,
            ¬ GraphFrame.Carries id frame := by
  intro hclaim
  let before : List DeskMove := DeskMove.asking .connect ++ DeskMove.telling (.state .attached) ++
    [.panel (.post (Frame.encode (PanelRequest.removeCompilation ⟨0⟩).toJson))]
  let later : List DeskMove :=
    DeskMove.telling (.compilation [] "[]") ++ DeskMove.asking (.selectCompilation ⟨0⟩)
  have hstate :
      let registered := RegisteredDesk.run { desk := fresh 200 200 } before
      registered.desk.request? = some (.removeCompilation ⟨0⟩) ∧
      (registered.run (.step :: later)).register.sessions = registered.register.sessions ∧
      GraphFrame.around ⟨0⟩ [] "[]" ∈
        (registered.run (.step :: later)).posted.drop registered.posted.length := by
    decide +kernel
  obtain ⟨hrequest, hsession, hposted⟩ := hstate
  exact hclaim 200 200 before later ⟨0⟩ hrequest hsession _ hposted ⟨[], "[]", rfl⟩

end ControlDesk

end CompileWatch
