import CompileWatch.Proofs.Controller.Log

/-!
# Numbers of compilations

The store numbers the compilations of a session from zero, and the panel hears of each
under its number.  A reader of the log of the controller can tell these numbers in
advance: they count the compilations that were taken up since the latest `attached` and
have a graph.  Nothing is announced outside a session, and neither a compilation without
a graph nor one that was removed makes any difference to the numbers.
-/

namespace CompileWatch

/-! ## The ledger -/

/-- What a reader of the log keeps account of. -/
structure Ledger where
  /-- Whether a session has begun, and since then neither was it ended nor has the actor gone. -/
  lasting : Bool := false
  /-- The compilations with a graph that were taken up in the session that has begun last. -/
  kept : List Compilation := []
  /-- What was announced in that session. -/
  announced : List (CompilationId × List Script) := []
  /-- What was announced outside any session. -/
  stray : List (CompilationId × List Script) := []
  deriving Repr

namespace Ledger

def enter (ledger : Ledger) : Note → Ledger
  | .took compilation =>
    if ledger.lasting && compilation.isGraph then
      { ledger with kept := ledger.kept ++ [compilation] }
    else ledger
  | .hungUp => { ledger with lasting := false }
  | .posted .attached => { lasting := true, stray := ledger.stray }
  | .posted .detached => { ledger with lasting := false }
  | .posted (.recordCompilation id scripts) =>
    if ledger.lasting then { ledger with announced := ledger.announced ++ [(id, scripts)] }
    else { ledger with stray := ledger.stray ++ [(id, scripts)] }
  | .posted _ => ledger

def read (ledger : Ledger) (notes : List Note) : Ledger :=
  notes.foldl enter ledger

variable {ledger : Ledger}

theorem enter_silent {event : PanelEvent} (hevent : event.isNews = false) :
    ledger.enter (.posted event) = ledger := by
  cases event with
  | attached | detached | recordCompilation => cases hevent
  | _ => rfl

theorem read_silent {frames : List Frame} (hframes : ∀ frame ∈ frames, Silent frame) :
    ledger.read (frames.map fun frame => .posted (Panel.eventOf frame)) = ledger := by
  induction frames with
  | nil => rfl
  | cons frame rest ih =>
      rw [List.forall_mem_cons] at hframes
      rw [List.map_cons, read, List.foldl_cons, enter_silent hframes.1]
      exact ih hframes.2

theorem enter_took_of_ignored {compilation : Compilation}
    (hignored : ledger.lasting = false ∨ compilation.isGraph = false) :
    ledger.enter (.took compilation) = ledger := by
  rcases hignored with h | h <;> simp [enter, h]

end Ledger

/-- The announcements of compilations under their numbers. -/
def numbered (compilations : List Compilation) : List (CompilationId × List Script) :=
  compilations.zipIdx.map fun (compilation, slot) => (.ofSlot slot, compilation.scripts)

theorem numbered_append (compilations : List Compilation) (compilation : Compilation) :
    numbered (compilations ++ [compilation]) =
      numbered compilations ++ [(.ofSlot compilations.length, compilation.scripts)] := by
  simp [numbered, List.zipIdx_append]

/-! ## The ledger and the store -/

/-- The announcements are those that the reader of the log expects, and the controller and its
store agree with the ledger. -/
structure Numbered (desk : ControlDesk) (ledger : Ledger) : Prop where
  announced : ledger.announced = numbered ledger.kept
  stray : ledger.stray = []
  lasting : ∀ controller, desk.controller = some controller →
    ledger.lasting = controller.attached
  holds : ∀ controller, desk.controller = some controller → controller.store.Holds ledger.kept

namespace Numbered

open ControlDesk Controller

variable {desk next : ControlDesk} {ledger : Ledger} {controller after : Controller}
  {compilation : Compilation}

theorem of_controller (hcontroller : next.controller = some controller)
    (hannounced : ledger.announced = numbered ledger.kept) (hstray : ledger.stray = [])
    (hlasting : ledger.lasting = controller.attached)
    (hholds : controller.store.Holds ledger.kept) : Numbered next ledger where
  announced := hannounced
  stray := hstray
  lasting := by
    intro present hpresent
    obtain rfl := Option.some.inj (hcontroller.symm.trans hpresent)
    exact hlasting
  holds := by
    intro present hpresent
    obtain rfl := Option.some.inj (hcontroller.symm.trans hpresent)
    exact hholds

/-- A step in which no compilation is taken up and no news are posted leaves the ledger as it
is. -/
theorem silent (hnumbered : Numbered desk ledger) (hstep : desk.step? = some next)
    (hcontroller : desk.controller = some controller) (hafter : next.controller = some after)
    (hnone : desk.nextCompilation? = none) (hhushed : desk.panel.Hushed next.panel)
    (hopen : after.actorOpen = controller.actorOpen)
    (hattached : after.attached = controller.attached)
    (hstore : controller.store.Reduces after.store) :
    Numbered next (ledger.read (desk.notesIn .step)) := by
  obtain ⟨frames, hframes, hleft⟩ := hhushed
  have hread : ledger.read (desk.notesIn .step) = ledger := by
    rw [notesIn_step hstep hleft, hnone, hangsUp_eq_false hcontroller hafter hopen]
    by_cases hlive : desk.panel.left.isLive
    · rw [if_pos hlive]
      exact Ledger.read_silent hframes
    · rw [if_neg hlive]
      rfl
  rw [hread]
  refine of_controller hafter hnumbered.announced hnumbered.stray ?_ ?_
  · rw [hattached]
    exact hnumbered.lasting controller hcontroller
  · exact (hnumbered.holds controller hcontroller).reduce hstore

/-- A compilation that was taken up gets the next number, or it is ignored. -/
theorem taken (hnumbered : Numbered desk ledger) (base : Controller)
    (hstep : desk.step? = some next) (hcontroller : desk.controller = some controller)
    (hstore : base.store = controller.store) (hattached : base.attached = controller.attached)
    (hopen : base.actorOpen = controller.actorOpen)
    (hafter : next.controller = some (base.record desk.panel compilation).1)
    (hpanel : next.panel = (base.record desk.panel compilation).2)
    (htaken : desk.nextCompilation? = some compilation) (hdelivers : desk.delivers .step) :
    Numbered next (ledger.read (desk.notesIn .step)) := by
  have hlasting := hnumbered.lasting controller hcontroller
  have hholds := hnumbered.holds controller hcontroller
  rcases record_eq base desk.panel compilation with ⟨graph, hbegun, hgraph, heq⟩ | ⟨hor, heq⟩
  · -- the compilation is announced under the number of the slot that it gets
    rw [heq, hstore] at hafter hpanel
    rw [hattached] at hbegun
    have hisGraph : compilation.isGraph = true := by
      simp [Compilation.isGraph, hgraph, Except.toBool]
    have hnews : desk.news? =
        some (.recordCompilation (.ofSlot controller.store.size) compilation.scripts) := by
      rw [news?_of_taken hcontroller htaken]
      simp [recordNews?, hbegun, hisGraph]
    obtain ⟨hsend, hlive⟩ := send_of_delivers hnews hdelivers
    rw [hsend] at hpanel
    have hread : ledger.read (desk.notesIn .step) =
        { ledger with
          kept := ledger.kept ++ [compilation]
          announced :=
            ledger.announced ++ [(.ofSlot controller.store.size, compilation.scripts)] } := by
      rw [notesIn_step hstep (by rw [hpanel, Link.left_posted]), htaken,
        hangsUp_eq_false hcontroller hafter hopen, if_pos hlive, List.map_singleton,
        eventOf_encode rfl]
      simp [Ledger.read, Ledger.enter, hlasting, hbegun, hisGraph]
    rw [hread]
    refine of_controller hafter ?_ hnumbered.stray (hlasting.trans hattached.symm)
      (hholds.append hgraph)
    rw [numbered_append, hnumbered.announced, hholds.1]
  · rw [heq] at hafter hpanel
    have hignored : ledger.lasting = false ∨ compilation.isGraph = false := by
      rcases hor with hover | ⟨error, herror⟩
      · exact .inl (hlasting.trans (hattached.symm.trans hover))
      · exact .inr (by simp [Compilation.isGraph, herror, Except.toBool])
    have hread : ledger.read (desk.notesIn .step) = ledger := by
      rw [notesIn_step hstep (by rw [hpanel, Endpoint.push_nil]), htaken,
        hangsUp_eq_false hcontroller hafter hopen]
      simp [Ledger.read, Ledger.enter_took_of_ignored hignored]
    rw [hread]
    refine of_controller hafter hnumbered.announced hnumbered.stray
      (hlasting.trans hattached.symm) ?_
    rw [hstore]
    exact hholds

/-- A reply of the actor begins a session, ends it, or changes nothing. -/
theorem concluded {pending : Pending} {outcome : Except FrontError ActorReply}
    (hnumbered : Numbered desk ledger) (base : Controller)
    (hstep : desk.step? = some next) (hcontroller : desk.controller = some controller)
    (hstore : base.store = controller.store) (hattached : base.attached = controller.attached)
    (hopen : base.actorOpen = controller.actorOpen)
    (hafter : next.controller = some (base.conclude desk.panel pending outcome).1)
    (hpanel : next.panel = (base.conclude desk.panel pending outcome).2)
    (hnone : desk.nextCompilation? = none) (hnews : desk.news? = outcomeNews? pending outcome)
    (hdelivers : desk.delivers .step) :
    Numbered next (ledger.read (desk.notesIn .step)) := by
  rcases conclude_eq base desk.panel pending outcome with
    ⟨hbegun, heq⟩ | ⟨hover, heq⟩ | ⟨-, after, hhushed, heq⟩
  · -- the session begins with an empty store and an empty ledger
    rw [heq] at hafter hpanel
    obtain ⟨hsend, hlive⟩ := send_of_delivers (hnews.trans hbegun) hdelivers
    rw [hsend] at hpanel
    have hread : ledger.read (desk.notesIn .step) = { lasting := true, stray := ledger.stray } := by
      rw [notesIn_step hstep (by rw [hpanel, Link.left_posted]), hnone,
        hangsUp_eq_false hcontroller hafter hopen, if_pos hlive, List.map_singleton,
        eventOf_encode rfl]
      rfl
    rw [hread]
    exact of_controller hafter rfl hnumbered.stray rfl Store.holds_empty
  · rw [heq] at hafter hpanel
    obtain ⟨hsend, hlive⟩ := send_of_delivers (hnews.trans hover) hdelivers
    -- what follows the news in the same step is silent, and it may even be lost
    obtain ⟨frames, hframes, hleft⟩ :=
      @hushed_send (send desk.panel .detached) .unregistered rfl rfl
    rw [hsend, Link.left_posted, Endpoint.push_push] at hleft
    rw [hsend] at hpanel
    have hread : ledger.read (desk.notesIn .step) = { ledger with lasting := false } := by
      rw [notesIn_step hstep (by rw [hpanel, hleft]), hnone,
        hangsUp_eq_false hcontroller hafter hopen, if_pos hlive, List.map_append,
        List.map_singleton, eventOf_encode rfl]
      exact Ledger.read_silent hframes
    rw [hread]
    refine of_controller hafter hnumbered.announced hnumbered.stray rfl ?_
    rw [hstore]
    exact hnumbered.holds controller hcontroller
  · rw [heq] at hafter hpanel
    refine hnumbered.silent hstep hcontroller hafter hnone ?_ hopen hattached ?_
    · rw [hpanel]
      exact hhushed
    · rw [hstore]
      exact .refl _

/-! ## Steps and runs -/

theorem step (hnumbered : Numbered desk ledger) (hstep : desk.step? = some next)
    (hdelivers : desk.delivers .step) : Numbered next (ledger.read (desk.notesIn .step)) := by
  rcases desk with ⟨_ | controller, runtime, panel⟩
  · cases hstep
  cases turn_of_step? hstep with
  | @handled frame rest hpending hright =>
      have hnone : ControlDesk.nextCompilation? { controller := some controller, runtime, panel } =
          none := by
        simp [ControlDesk.nextCompilation?, Link.next, Link.endpoint, hright]
      have hhandled := handled_of_read hpending runtime panel frame rest
      revert hstep
      generalize hdesk : handleFrame controller runtime { panel with right := .live rest } frame =
        after at hhandled
      intro hstep
      cases hhandled with
      | asked hhushed => exact hnumbered.silent hstep rfl rfl hnone hhushed rfl rfl (.refl _)
      | done hhushed hreduces =>
          exact hnumbered.silent hstep rfl rfl hnone hhushed rfl rfl hreduces
  | stopped hpending hnext =>
      have hhangsUp : hangsUp { controller := some controller, runtime, panel }
          (stop { controller := some controller, runtime, panel }) = false := by
        simp [hangsUp, stop]
      have hread : ledger.read
          (notesIn { controller := some controller, runtime, panel } .step) = ledger := by
        rw [notesIn_step hstep (Endpoint.push_nil _).symm, hhangsUp]
        simp [ControlDesk.nextCompilation?, hnext, Ledger.read]
      rw [hread]
      exact ⟨hnumbered.announced, hnumbered.stray, by simp [stop], by simp [stop]⟩
  | kept hpending hleft hreceive =>
      exact hnumbered.silent hstep rfl rfl (nextCompilation?_of_pending rfl hpending) (.of_left rfl)
        rfl rfl (.refl _)
  | @concluded _ _ _ front _ hpending hleft hreceive =>
      refine hnumbered.concluded { controller with front } hstep rfl rfl rfl rfl rfl rfl
        (nextCompilation?_of_pending rfl hpending) (news?_of_reply hpending hleft hreceive)
        hdelivers
  | @failed pending hpending hgone =>
      obtain ⟨after, hhushed, heq⟩ :=
        conclude_error controller panel pending (Front.goneError runtime)
      rw [heq] at hstep ⊢
      exact hnumbered.silent hstep rfl rfl (nextCompilation?_of_pending rfl hpending) hhushed rfl rfl
        (.refl _)
  | @caughtUp _ rest hpending hbacklog hopen hnext =>
      refine hnumbered.taken { controller with front := { backlog := rest } } hstep rfl rfl rfl rfl
        rfl rfl ?_ hdelivers
      rw [nextCompilation?_of_waiting hpending hnext]
      exact nextCompilation?_of_backlog hopen hbacklog
  | @read frame rest next hpending hbacklog hopen hnext hleft heq =>
      have htaken : ControlDesk.nextCompilation? { controller := some controller, runtime, panel } =
          Front.compilationOf? frame :=
        (nextCompilation?_of_waiting hpending hnext).trans
          (nextCompilation?_of_left hopen hbacklog hleft)
      cases hcompilation : Front.compilationOf? frame with
      | none =>
          rw [hcompilation, Option.map_none, Option.getD_none] at heq
          obtain rfl := heq
          exact hnumbered.silent hstep rfl rfl (htaken.trans hcompilation) (.of_left rfl) rfl rfl
            (.refl _)
      | some compilation =>
          rw [hcompilation, Option.map_some, Option.getD_some] at heq
          obtain rfl := heq
          exact hnumbered.taken controller hstep rfl rfl rfl rfl rfl rfl (htaken.trans hcompilation)
            hdelivers
  | ended hpending hbacklog hopen hnext hgone =>
      -- the panel hears nothing of this, but from now on nothing is announced
      have hnone : ControlDesk.nextCompilation? { controller := some controller, runtime, panel } =
          none :=
        (nextCompilation?_of_waiting hpending hnext).trans
          (nextCompilation?_of_gone hopen hbacklog hgone)
      have hread : ledger.read (notesIn { controller := some controller, runtime, panel } .step) =
          { ledger with lasting := false } := by
        rw [notesIn_step hstep (Endpoint.push_nil _).symm, hnone]
        simp [hangsUp, hopen, Ledger.read, Ledger.enter]
      rw [hread]
      exact of_controller rfl hnumbered.announced hnumbered.stray rfl
        (hnumbered.holds controller rfl)

theorem move (hnumbered : Numbered desk ledger) (move : DeskMove)
    (hdelivers : desk.delivers move) :
    Numbered (desk.move move) (ledger.read (desk.notesIn move)) := by
  cases move with
  | panel | actor => exact ⟨hnumbered.announced, hnumbered.stray, hnumbered.lasting, hnumbered.holds⟩
  | step =>
      cases hstep : desk.step? with
      | none =>
          have hblocked : desk.move .step = desk ∧ desk.notesIn .step = [] := by
            simp [ControlDesk.move, notesIn, hstep]
          rw [hblocked.1, hblocked.2]
          exact hnumbered
      | some next =>
          have hmoves : desk.move .step = next := by
            simp [ControlDesk.move, hstep]
          rw [hmoves]
          exact hnumbered.step hstep hdelivers

end Numbered

theorem LoggedDesk.numbered_run {logged : LoggedDesk}
    (hnumbered : Numbered logged.desk (Ledger.read {} logged.notes)) (moves : List DeskMove)
    (hdelivers : logged.desk.runDelivers moves) :
    Numbered (logged.run moves).desk (Ledger.read {} (logged.run moves).notes) := by
  induction moves generalizing logged with
  | nil => exact hnumbered
  | cons first rest ih =>
      rw [ControlDesk.runDelivers, Bool.and_eq_true] at hdelivers
      refine @ih (logged.move first) ?_ hdelivers.2
      rw [LoggedDesk.move, Ledger.read, List.foldl_append]
      exact hnumbered.move first hdelivers.1

/-- A run with a session in which the actor reports two compilations, the first of them without a
graph. -/
def ControlDesk.sampleMoves : List DeskMove :=
  let report (compilation : Compilation) : DeskMove :=
    .actor (.post (Frame.encode (Actor.report compilation).toJson))
  [.panel (.post (Frame.encode PanelRequest.connect.toJson)), .step,
    .actor (.post (Frame.encode (ActorPacket.state .attached).toJson)), .step,
    report { json := "no" }, .step, report { scripts := [{ url := "b.js" }], json := "[]" }, .step]

end CompileWatch
