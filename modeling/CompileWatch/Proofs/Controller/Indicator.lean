import CompileWatch.Proofs.Controller.Numbering
import CompileWatch.Proofs.Controller.Owed

/-!
# What the panel shows of the session

The panel has an indicator that shows whether a session lasts.  An `attached` lights it and a
`detached` puts it out, so it shows what the last of these two events said.  The controller has a
flag of its own.  The flag and the indicator agree as long as the controller has not found the actor
gone.  Then the session is over for the controller, but it posts nothing.  Since the actor does not
come back, no later request is granted, and the indicator stays for good as it was.
-/

namespace CompileWatch

/-! ## The indicator -/

/-- What the indicator shows after an entry of the log. -/
def Note.indicate (shown : Bool) : Note → Bool
  | .posted .attached => true
  | .posted .detached => false
  | .posted _ | .took _ | .hungUp => shown

/-- Whether the last `attached` or `detached` that was posted is an `attached`. -/
def indicated (notes : List Note) : Bool :=
  notes.foldl Note.indicate false

/-- The event that was posted. -/
def Note.event? : Note → Option PanelEvent
  | .posted event => some event
  | .took _ | .hungUp => none

/-- The entry changes nothing that the indicator shows, and the actor was not found gone. -/
structure Note.Plain (note : Note) : Prop where
  ne_hungUp : note ≠ .hungUp
  indicate_eq : ∀ shown, Note.indicate shown note = shown

theorem Note.plain_of_silent {frame : Frame} (hsilent : Silent frame) :
    Note.Plain (.posted (Panel.eventOf frame)) := by
  refine ⟨nofun, fun shown => ?_⟩
  rw [Silent] at hsilent
  cases hevent : Panel.eventOf frame with
  | attached | detached | recordCompilation => simp [hevent, PanelEvent.isNews] at hsilent
  | _ => rfl

theorem Note.foldl_indicate_of_plain {notes : List Note} (hplain : ∀ note ∈ notes, note.Plain)
    (shown : Bool) : notes.foldl Note.indicate shown = shown := by
  induction notes with
  | nil => rfl
  | cons note rest ih =>
      rw [List.forall_mem_cons] at hplain
      rw [List.foldl_cons, hplain.1.indicate_eq]
      exact ih hplain.2

theorem indicated_of_plain {earlier later : List Note} (hplain : ∀ note ∈ later, note.Plain) :
    indicated (earlier ++ .hungUp :: later) = indicated earlier := by
  rw [indicated, List.foldl_append, List.foldl_cons, Note.foldl_indicate_of_plain hplain]
  rfl

/-- The panel shows what the events said that it has read. -/
theorem Panel.connected_observe {Image : Type} (panel : Panel Image) (notes : List Note) :
    ((notes.filterMap Note.event?).foldl Panel.observe panel).connected =
      notes.foldl Note.indicate panel.connected := by
  induction notes generalizing panel with
  | nil => rfl
  | cons note rest ih =>
      cases note with
      | took | hungUp => exact ih panel
      | posted event =>
          have hevent : (panel.observe event).connected =
              Note.indicate panel.connected (.posted event) := by
            cases event <;> rfl
          rw [List.foldl_cons, ← hevent]
          exact ih (panel.observe event)

namespace Ledger

variable {ledger : Ledger} {notes : List Note}

theorem lasting_enter {note : Note} (hnote : note ≠ .hungUp) :
    (ledger.enter note).lasting = Note.indicate ledger.lasting note := by
  cases note with
  | hungUp => exact absurd rfl hnote
  | took compilation =>
      rw [enter]
      split <;> rfl
  | posted event =>
      cases event with
      | recordCompilation =>
          rw [enter]
          split <;> rfl
      | _ => rfl

/-- Until the actor is found gone, a session lasts if and only if the indicator shows one. -/
theorem lasting_read (hnotes : .hungUp ∉ notes) :
    (ledger.read notes).lasting = notes.foldl Note.indicate ledger.lasting := by
  induction notes generalizing ledger with
  | nil => rfl
  | cons note rest ih =>
      rw [List.mem_cons, not_or] at hnotes
      rw [List.foldl_cons, ← lasting_enter (Ne.symm hnotes.1)]
      exact ih hnotes.2

/-- No session lasts after the actor was found gone, unless an event says so. -/
theorem lasting_of_plain {earlier later : List Note} (hplain : ∀ note ∈ later, note.Plain) :
    (ledger.read (earlier ++ .hungUp :: later)).lasting = false := by
  have hlater : .hungUp ∉ later := fun hmem => (hplain _ hmem).ne_hungUp rfl
  rw [read, List.foldl_append, List.foldl_cons, ← read, lasting_read hlater,
    Note.foldl_indicate_of_plain hplain]
  rfl

end Ledger

/-! ## Entries of a step -/

namespace ControlDesk

open Controller

variable {desk next : ControlDesk} {controller after : Controller}

theorem hangsUp_of_mem (hmem : .hungUp ∈ desk.notesIn .step) (hstep : desk.step? = some next) :
    desk.hangsUp next = true := by
  simp only [notesIn, hstep] at hmem
  rcases List.mem_append.mp hmem with hmem | hposted
  · cases hhangsUp : desk.hangsUp next with
    | true => rfl
    | false => simp [hhangsUp] at hmem
  · obtain ⟨frame, -, hframe⟩ := List.mem_map.mp hposted
    cases hframe

/-- A controller that has found the actor gone posts no news, and never expects the actor back. -/
theorem Spent.hushed (hspent : Spent desk) (hcontroller : desk.controller = some controller)
    (hclosed : controller.actorOpen = false) (hstep : desk.step? = some next) :
    desk.panel.Hushed next.panel ∧
      ∀ after, next.controller = some after → after.actorOpen = false := by
  rcases desk with ⟨present, runtime, panel⟩
  obtain rfl : present = some controller := hcontroller
  have hunread {frame : Frame} {rest : List Frame} : runtime.left ≠ .live (frame :: rest) :=
    hspent.unread rfl hclosed
  -- of all turns only those are left that need nothing of the actor
  cases turn_of_step? hstep with
  | @handled frame rest hpending hright =>
      obtain ⟨awaited, hafter⟩ :=
        controller_handleFrame controller runtime { panel with right := .live rest } frame
      refine ⟨(handled_of_read hpending runtime panel frame rest).hushed, ?_⟩
      intro after hcontroller
      obtain rfl := Option.some.inj (hafter.symm.trans hcontroller)
      exact hclosed
  | stopped => exact ⟨.of_left rfl, by simp [stop]⟩
  | @failed pending =>
      obtain ⟨after, hhushed, heq⟩ :=
        conclude_error controller panel pending (Front.goneError runtime)
      rw [heq]
      refine ⟨hhushed, ?_⟩
      intro after hcontroller
      obtain rfl := Option.some.inj hcontroller
      exact hclosed
  | kept _ hleft | concluded _ hleft => exact absurd hleft hunread
  | caughtUp _ _ hopen | read _ _ hopen | ended _ _ hopen =>
      exact absurd (hclosed.symm.trans hopen) Bool.false_ne_true

theorem Spent.plain (hspent : Spent desk) (hcontroller : desk.controller = some controller)
    (hclosed : controller.actorOpen = false) (hstep : desk.step? = some next) :
    ∀ note ∈ desk.notesIn .step, note.Plain := by
  obtain ⟨⟨frames, hframes, hleft⟩, -⟩ := hspent.hushed hcontroller hclosed hstep
  have hnone : desk.nextCompilation? = none := by
    rw [nextCompilation?, hcontroller, Option.bind_some]
    split
    · rw [Controller.nextCompilation?, hclosed]
    · rfl
  have hhangsUp : desk.hangsUp next = false := by
    simp [hangsUp, hcontroller, hclosed]
  intro note hnote
  rw [notesIn_step hstep hleft, hnone, hhangsUp] at hnote
  by_cases hlive : desk.panel.left.isLive
  · rw [if_pos hlive] at hnote
    obtain ⟨frame, hframe, rfl⟩ : ∃ frame ∈ frames, .posted (Panel.eventOf frame) = note := by
      simpa using hnote
    exact Note.plain_of_silent (hframes frame hframe)
  · simp [hlive] at hnote

/-- The step in which the controller finds the actor gone has no other entry. -/
theorem notesIn_of_hangsUp (hstep : desk.step? = some next) (hhangsUp : desk.hangsUp next = true) :
    desk.notesIn .step = [.hungUp] := by
  rcases desk with ⟨_ | controller, runtime, panel⟩
  · cases hstep
  have hkept {after : Controller} (hafter : next.controller = some after) :
      after.actorOpen ≠ controller.actorOpen := by
    intro hopen
    rw [hangsUp_eq_false rfl hafter hopen] at hhangsUp
    cases hhangsUp
  cases turn_of_step? hstep with
  | @handled frame rest =>
      obtain ⟨awaited, hafter⟩ :=
        controller_handleFrame controller runtime { panel with right := .live rest } frame
      exact (hkept hafter rfl).elim
  | stopped => simp [hangsUp, stop] at hhangsUp
  | kept => exact (hkept rfl rfl).elim
  | concluded | failed => exact (hkept rfl (actorOpen_conclude ..)).elim
  | caughtUp => exact (hkept rfl (actorOpen_record ..)).elim
  | @read frame rest taken _ _ _ _ _ htaken =>
      refine (hkept rfl ?_).elim
      rw [htaken]
      cases Front.compilationOf? frame with
      | none => rfl
      | some compilation => exact actorOpen_record controller panel compilation
  | ended hpending hbacklog hopen hnext hgone =>
      have hnone : nextCompilation? { controller := some controller, runtime, panel } = none :=
        (nextCompilation?_of_waiting hpending hnext).trans
          (nextCompilation?_of_gone hopen hbacklog hgone)
      rw [notesIn_step hstep (Endpoint.push_nil _).symm, hnone, hhangsUp]
      simp

end ControlDesk

/-! ## The indicator and the flag -/

/-- The log of a controller that is at work tells whether it still expects the actor.  If not, the
actor was found gone once, and all later entries are plain. -/
structure Indicated (desk : ControlDesk) (notes : List Note) : Prop where
  numbered : Numbered desk (Ledger.read {} notes)
  spent : desk.Spent
  unspent : ∀ controller, desk.controller = some controller → controller.actorOpen = true →
    .hungUp ∉ notes
  lost : ∀ controller, desk.controller = some controller → controller.actorOpen = false →
    ∃ earlier later, notes = earlier ++ .hungUp :: later ∧ .hungUp ∉ earlier ∧
      ∀ note ∈ later, note.Plain

namespace Indicated

open ControlDesk

variable {desk next : ControlDesk} {notes : List Note}

theorem step (hindicated : Indicated desk notes) (hstep : desk.step? = some next)
    (hdelivers : desk.delivers .step) : Indicated next (notes ++ desk.notesIn .step) := by
  obtain ⟨controller, hcontroller⟩ : ∃ controller, desk.controller = some controller := by
    cases hcontroller : desk.controller with
    | none => simp [step?, hcontroller] at hstep
    | some controller => exact ⟨controller, rfl⟩
  have hnumbered : Numbered next (Ledger.read {} (notes ++ desk.notesIn .step)) := by
    rw [Ledger.read, List.foldl_append]
    exact hindicated.numbered.step hstep hdelivers
  refine ⟨hnumbered, hindicated.spent.step hstep, ?_, ?_⟩
  · intro after hafter hopen
    -- the controller expected the actor before as well
    have hbefore : controller.actorOpen = true := by
      cases hclosed : controller.actorOpen with
      | true => rfl
      | false =>
          have hnever := (hindicated.spent.hushed hcontroller hclosed hstep).2 after hafter
          exact absurd (hnever.symm.trans hopen) Bool.false_ne_true
    have hkept := hangsUp_eq_false hcontroller hafter (hopen.trans hbefore.symm)
    rw [List.mem_append, not_or]
    refine ⟨hindicated.unspent controller hcontroller hbefore, ?_⟩
    intro hmem
    exact absurd (hkept.symm.trans (hangsUp_of_mem hmem hstep)) Bool.false_ne_true
  · intro after hafter hclosed
    cases hbefore : controller.actorOpen with
    | true =>
        have hhangsUp : desk.hangsUp next = true := by
          simp [hangsUp, hcontroller, hafter, hbefore, hclosed]
        rw [notesIn_of_hangsUp hstep hhangsUp]
        exact ⟨notes, [], rfl, hindicated.unspent controller hcontroller hbefore, by simp⟩
    | false =>
        obtain ⟨earlier, later, rfl, hearlier, hlater⟩ :=
          hindicated.lost controller hcontroller hbefore
        have hplain := hindicated.spent.plain hcontroller hbefore hstep
        refine ⟨earlier, later ++ desk.notesIn .step, by simp, hearlier, ?_⟩
        intro note hnote
        exact (List.mem_append.mp hnote).elim (hlater note) (hplain note)

theorem move (hindicated : Indicated desk notes) (move : DeskMove)
    (hdelivers : desk.delivers move) :
    Indicated (desk.move move) (notes ++ desk.notesIn move) := by
  cases move with
  | panel act =>
      have hempty : notes ++ desk.notesIn (.panel act) = notes := List.append_nil notes
      rw [hempty]
      exact ⟨hindicated.numbered.move (.panel act) rfl, hindicated.spent.move (.panel act),
        hindicated.unspent, hindicated.lost⟩
  | actor act =>
      have hempty : notes ++ desk.notesIn (.actor act) = notes := List.append_nil notes
      rw [hempty]
      exact ⟨hindicated.numbered.move (.actor act) rfl, hindicated.spent.move (.actor act),
        hindicated.unspent, hindicated.lost⟩
  | step =>
      cases hstep : desk.step? with
      | none =>
          have hblocked : desk.move .step = desk ∧ desk.notesIn .step = [] := by
            simp [ControlDesk.move, notesIn, hstep]
          rw [hblocked.1, hblocked.2, List.append_nil]
          exact hindicated
      | some next =>
          have hmoves : desk.move .step = next := by
            rw [ControlDesk.move, hstep, Option.getD_some]
          rw [hmoves]
          exact hindicated.step hstep hdelivers

theorem run {logged : LoggedDesk} (hindicated : Indicated logged.desk logged.notes)
    (moves : List DeskMove) (hdelivers : logged.desk.runDelivers moves) :
    Indicated (logged.run moves).desk (logged.run moves).notes := by
  induction moves generalizing logged with
  | nil => exact hindicated
  | cons first rest ih =>
      rw [runDelivers, Bool.and_eq_true] at hdelivers
      exact @ih (logged.move first) (hindicated.move first hdelivers.1) hdelivers.2

theorem attached_iff (hindicated : Indicated desk notes) {controller : Controller}
    (hcontroller : desk.controller = some controller) :
    controller.attached = true ↔ indicated notes = true ∧ .hungUp ∉ notes := by
  rw [← hindicated.numbered.lasting controller hcontroller]
  cases hopen : controller.actorOpen with
  | true =>
      have hnotes := hindicated.unspent controller hcontroller hopen
      rw [Ledger.lasting_read hnotes]
      exact (and_iff_left hnotes).symm
  | false =>
      obtain ⟨earlier, later, rfl, -, hlater⟩ := hindicated.lost controller hcontroller hopen
      simp [Ledger.lasting_of_plain hlater]

theorem indicated_eq (hindicated : Indicated desk notes) {controller : Controller}
    (hcontroller : desk.controller = some controller) {earlier later : List Note}
    (hnotes : notes = earlier ++ .hungUp :: later) : indicated notes = indicated earlier := by
  have hmem : .hungUp ∈ notes := by simp [hnotes]
  cases hopen : controller.actorOpen with
  | true => exact absurd hmem (hindicated.unspent controller hcontroller hopen)
  | false =>
      obtain ⟨before, after, hsplit, hbefore, hafter⟩ :=
        hindicated.lost controller hcontroller hopen
      have hnever : .hungUp ∉ after := fun hmem => (hafter _ hmem).ne_hungUp rfl
      -- the actor is found gone only once, so the log can be cut there in one way only
      obtain ⟨rfl, -, -⟩ := (List.append_cons_inj_of_notMem hbefore hnever).mp
        (hsplit.symm.trans hnotes)
      rw [hsplit, indicated_of_plain hafter]

end Indicated

/-- **The flag and the indicator agree until the actor is found gone.**  Whatever the panel and the
actor do, as long as no news are rejected: whenever the controller is between two steps, a session
lasts for it if and only if the last `attached` or `detached` that it posted is an `attached` and it
has not found the actor gone.  Once it has, the events that it posts change nothing any more.  So a
panel that has read everything shows then what it showed before, for good. -/
theorem ControlDesk.attached_indicated (runtimeBytes panelBytes : Nat) (moves : List DeskMove)
    (hdelivers : (fresh runtimeBytes panelBytes).runDelivers moves) :
    let logged := LoggedDesk.run { desk := fresh runtimeBytes panelBytes } moves
    ∀ controller, logged.desk.controller = some controller →
      (controller.attached = true ↔ indicated logged.notes = true ∧ .hungUp ∉ logged.notes) ∧
      (∀ earlier later, logged.notes = earlier ++ .hungUp :: later →
        indicated logged.notes = indicated earlier) ∧
      ∀ {Image : Type} (panel : Panel Image), panel.connected = false →
        ((logged.notes.filterMap Note.event?).foldl Panel.observe panel).connected =
          indicated logged.notes := by
  intro logged controller hcontroller
  have hfresh : Indicated (fresh runtimeBytes panelBytes) [] := by
    refine ⟨.of_controller rfl rfl rfl rfl Store.holds_empty, spent_fresh _ _, nofun, ?_⟩
    intro present hpresent hclosed
    obtain rfl := Option.some.inj hpresent
    cases hclosed
  have hindicated : Indicated logged.desk logged.notes :=
    @Indicated.run { desk := fresh runtimeBytes panelBytes } hfresh moves hdelivers
  refine ⟨hindicated.attached_iff hcontroller, ?_, ?_⟩
  · intro earlier later hnotes
    exact hindicated.indicated_eq hcontroller hnotes
  · intro Image panel hpanel
    rw [panel.connected_observe, hpanel]
    rfl

/-- In the sample run the actor stays, and the flag and the indicator are both set. -/
theorem ControlDesk.sample_attached_indicated :
    (fresh 200 200).runDelivers sampleMoves ∧
    indicated (LoggedDesk.run { desk := fresh 200 200 } sampleMoves).notes = true ∧
    .hungUp ∉ (LoggedDesk.run { desk := fresh 200 200 } sampleMoves).notes := by
  have hstate : (fresh 200 200).runDelivers sampleMoves ∧
      (LoggedDesk.run { desk := fresh 200 200 } sampleMoves).desk.controller.map
        Controller.attached = some true := by
    decide +kernel
  obtain ⟨hdelivers, hcontroller⟩ := hstate
  obtain ⟨controller, hcontroller, hattached⟩ := Option.map_eq_some_iff.mp hcontroller
  obtain ⟨hiff, -, -⟩ := attached_indicated 200 200 sampleMoves hdelivers controller hcontroller
  exact ⟨hdelivers, hiff.mp hattached⟩

/-- A run in which a session begins and the actor goes away. -/
def ControlDesk.lossMoves : List DeskMove :=
  DeskMove.asking .connect ++ DeskMove.telling (.state .attached) ++ [.actor .close, .step]

/-- When the actor goes away, the panel is left with an `attached` as the last that it has heard,
although both events of the session were delivered and the session is over. -/
theorem ControlDesk.indicator_stays_on :
    let logged := LoggedDesk.run { desk := fresh 200 200 } lossMoves
    (fresh 200 200).runDelivers lossMoves ∧
    logged.desk.panel.queue .left =
      [PanelEvent.registered, .attached].map (fun event => Frame.encode event.toJson) ∧
    ∃ controller, logged.desk.controller = some controller ∧
      ¬ (controller.attached = true ↔ indicated logged.notes = true) := by
  intro logged
  have hstate : (fresh 200 200).runDelivers lossMoves ∧
      logged.desk.panel.queue .left =
        [PanelEvent.registered, .attached].map (fun event => Frame.encode event.toJson) ∧
      logged.desk.controller.map Controller.attached = some false ∧
      indicated logged.notes = true := by
    decide +kernel
  obtain ⟨hdelivers, hqueue, hcontroller, hindicated⟩ := hstate
  obtain ⟨controller, hcontroller, hattached⟩ := Option.map_eq_some_iff.mp hcontroller
  refine ⟨hdelivers, hqueue, controller, hcontroller, ?_⟩
  rw [hattached, hindicated]
  decide

end CompileWatch
