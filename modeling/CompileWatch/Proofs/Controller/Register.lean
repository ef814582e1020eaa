import CompileWatch.Proofs.Controller.Outgoing

/-!
# The register of a session

What a reader of both links needs to know to foretell the answer to a selection: the
compilations that were recorded since a connect was granted for the last time, and which of them
were removed since they were recorded.  The reader writes this down from the frames that the
controller takes up; the store is not looked at.  It turns out to agree with the register after
every run.
-/

namespace CompileWatch

/-! ## Deeds of the controller -/

/-- What the controller does in a step, as far as the register is concerned. -/
inductive Deed
  /-- A connect was granted. -/
  | began
  /-- A disconnect was granted, or the actor was found to be gone. -/
  | ceased
  /-- A compilation was taken up. -/
  | took (compilation : Compilation)
  /-- A request of the panel was handled. -/
  | served (request : PanelRequest)
  deriving DecidableEq, Repr

namespace ControlDesk

/-- The request that the controller handles in its next step. -/
def request? (desk : ControlDesk) : Option PanelRequest :=
  desk.controller.bind fun controller =>
    match controller.pending, desk.panel.next .right with
    | none, .frame frame _ => (Frame.decode PanelRequest.ofJson? frame).toOption
    | _, _ => none

/-- What the reply of the actor does that comes in the next step. -/
def outcomeDeed? (pending : Pending) (outcome : Except FrontError ActorReply) : Option Deed :=
  match pending, outcome.bind Front.stateOf with
  | .attach, .ok _ => some .began
  | .detach, .ok _ => some .ceased
  | _, .error _ => none

/-- What the controller does in its next step. -/
def deed? (desk : ControlDesk) : Option Deed :=
  desk.controller.bind fun controller =>
    match controller.pending, desk.runtime.next .left, desk.panel.next .right with
    | some pending, .frame frame _, _ =>
      (controller.front.receive frame).2.bind (outcomeDeed? pending)
    | none, _, .frame _ _ => desk.request?.map .served
    | none, arrival, .waiting =>
      match controller.nextCompilation? desk.runtime, controller.front.backlog, arrival with
      | some compilation, _, _ => some (.took compilation)
      | none, [], .closed => if controller.actorOpen then some .ceased else none
      | _, _, _ => none
    | _, _, _ => none

def deedIn (desk : ControlDesk) : DeskMove → Option Deed
  | .step => desk.step?.bind fun _ => desk.deed?
  | _ => none

/-- The frames that reach the panel in a move. -/
def postedIn (desk : ControlDesk) (move : DeskMove) : List Frame :=
  match move with
  | .step => ((desk.move .step).panel.queue .left).drop (desk.panel.queue .left).length
  | _ => []

end ControlDesk

/-! ## The register -/

structure Register where
  /-- How many connects were granted. -/
  sessions : Nat := 0
  /-- Whether compilations are recorded. -/
  lasting : Bool := false
  /-- The compilations that were recorded since the latest granted connect, in order. -/
  recorded : List Compilation := []
  /-- The numbers of those whose removal was handled after they were recorded. -/
  removed : List Nat := []
  deriving DecidableEq, Repr

namespace Register

def enter (register : Register) : Deed → Register
  | .began => { sessions := register.sessions + 1, lasting := true }
  | .ceased => { register with lasting := false }
  | .took compilation =>
    if register.lasting && compilation.isGraph then
      { register with recorded := register.recorded ++ [compilation] }
    else register
  | .served (.removeCompilation id) =>
    if id.slot < register.recorded.length then
      { register with removed := id.slot :: register.removed }
    else register
  | .served _ => register

end Register

/-- A desk with its register, and with the frames that have reached the panel. -/
structure RegisteredDesk where
  desk : ControlDesk
  register : Register := {}
  posted : List Frame := []
  deriving DecidableEq, Repr

namespace RegisteredDesk

def move (registered : RegisteredDesk) (move : DeskMove) : RegisteredDesk where
  desk := registered.desk.move move
  register := (registered.desk.deedIn move).elim registered.register registered.register.enter
  posted := registered.posted ++ registered.desk.postedIn move

def run (registered : RegisteredDesk) (moves : List DeskMove) : RegisteredDesk :=
  moves.foldl move registered

end RegisteredDesk

/-! ## The register and the store -/

/-- The store has the compilations of the register in their slots, apart from the ones that were
removed. -/
structure Store.Agrees (store : Store) (register : Register) : Prop where
  size : store.size = register.recorded.length
  removed : ∀ slot ∈ register.removed, store.slots[slot]? = some .removed
  live : ∀ (slot : Nat) (compilation : Compilation),
    register.recorded[slot]? = some compilation → slot ∉ register.removed →
      ∃ graph : RawJson, graph.text = compilation.json ∧
        store.slots[slot]? = some (.live ⟨slot, compilation.scripts, graph⟩)

namespace Store.Agrees

variable {store next : Store} {register : Register}

theorem empty (sessions : Nat) (lasting : Bool) :
    Store.Agrees {} { sessions, lasting } where
  size := rfl
  removed := by simp
  live := by simp

theorem append (hagrees : store.Agrees register) {compilation : Compilation} {graph : RawJson}
    (hgraph : RawJson.ofText? compilation.json = .ok graph) :
    (store.append compilation.scripts graph).Agrees
      { register with recorded := register.recorded ++ [compilation] } where
  size := by simp [Store.append, Store.size, ← hagrees.size]
  removed := by
    intro slot hremoved
    have hkept := hagrees.removed slot hremoved
    rw [Store.append, List.getElem?_append_left (List.getElem?_eq_some_iff.mp hkept).1, hkept]
  live := by
    intro slot other hrecorded hremoved
    by_cases holder : slot < register.recorded.length
    · rw [List.getElem?_append_left holder] at hrecorded
      obtain ⟨kept, htext, hkept⟩ := hagrees.live slot other hrecorded hremoved
      refine ⟨kept, htext, ?_⟩
      rw [Store.append, List.getElem?_append_left (List.getElem?_eq_some_iff.mp hkept).1, hkept]
    · -- the slot is the new one
      obtain rfl : slot = register.recorded.length := by
        have := (List.getElem?_eq_some_iff.mp hrecorded).1
        rw [List.length_append, List.length_singleton] at this
        omega
      obtain rfl : compilation = other := by
        rw [List.getElem?_concat_length] at hrecorded
        exact Option.some.inj hrecorded
      refine ⟨graph, RawJson.text_of_ofText? hgraph, ?_⟩
      rw [Store.append, ← hagrees.size, Store.size, List.getElem?_concat_length]

/-- A removal that succeeds is one of a compilation that was recorded. -/
theorem remove (hagrees : store.Agrees register) {slot : Nat}
    (hremove : store.remove slot = .ok next) :
    slot < register.recorded.length ∧
      next.Agrees { register with removed := slot :: register.removed } := by
  rw [Store.remove] at hremove
  split at hremove
  · cases hremove
  · rename_i found hfound
    obtain rfl := Except.ok.inj hremove
    have hslot : slot < store.slots.length := (List.getElem?_eq_some_iff.mp hfound).1
    have hother : ∀ other, other ≠ slot →
        (store.slots.set slot .removed)[other]? = store.slots[other]? :=
      fun other hne => List.getElem?_set_ne (Ne.symm hne)
    refine ⟨hagrees.size ▸ hslot, ?_, ?_, ?_⟩
    · rw [Store.size, List.length_set]
      exact hagrees.size
    · intro other hremoved
      by_cases hsame : other = slot
      · rw [hsame, List.getElem?_set_self hslot]
      · rw [hother other hsame]
        exact hagrees.removed other ((List.mem_cons.mp hremoved).resolve_left hsame)
    · intro other compilation hrecorded hremoved
      rw [List.mem_cons, not_or] at hremoved
      rw [hother other hremoved.1]
      exact hagrees.live other compilation hrecorded hremoved.2

theorem le_of_remove_error (hagrees : store.Agrees register) {slot : Nat} {error : StoreError}
    (hremove : store.remove slot = .error error) : register.recorded.length ≤ slot := by
  rw [Store.remove] at hremove
  split at hremove
  · rename_i hnone
    rw [← hagrees.size]
    exact List.getElem?_eq_none_iff.mp hnone
  · cases hremove

end Store.Agrees

/-! ## Steps of the controller -/

/-- What a request of the panel makes of the store by itself. -/
def Store.afterRequest (store : Store) : PanelRequest → Store
  | .removeCompilation id => (store.remove id.slot).toOption.getD store
  | _ => store

theorem Store.Agrees.afterRequest {store : Store} {register : Register}
    (hagrees : store.Agrees register) (request : PanelRequest) :
    (store.afterRequest request).Agrees (register.enter (.served request)) := by
  cases request with
  | removeCompilation id =>
      rw [Store.afterRequest, Register.enter]
      cases hremove : store.remove id.slot with
      | ok next =>
          obtain ⟨hslot, hnext⟩ := hagrees.remove hremove
          rw [if_pos hslot]
          exact hnext
      | error error =>
          rw [if_neg (Nat.not_lt.mpr (hagrees.le_of_remove_error hremove))]
          exact hagrees
  | connect | disconnect | selectCompilation | message => exact hagrees

namespace ControlDesk

open Controller

theorem controller_ask (controller : Controller) (runtime panel : Link) (pending : Pending) :
    ∃ awaited, (ask controller runtime panel pending).controller =
      some { controller with pending := awaited } := by
  rw [ask]
  cases Front.request runtime (requestOf pending) with
  | ok next => exact ⟨some pending, rfl⟩
  | error error => cases pending <;> exact ⟨none, rfl⟩

/-- Handling a frame of the panel changes the store at most, and never the session. -/
theorem controller_handleFrame (controller : Controller) (runtime panel : Link) (frame : Frame) :
    ∃ awaited, (handleFrame controller runtime panel frame).controller =
      some { controller with
        store := (Frame.decode PanelRequest.ofJson? frame).toOption.elim controller.store
          controller.store.afterRequest
        pending := awaited } := by
  rw [handleFrame]
  cases Frame.decode PanelRequest.ofJson? frame with
  | error error => exact ⟨controller.pending, rfl⟩
  | ok request =>
      cases request with
      | connect => exact controller_ask controller runtime _ .attach
      | disconnect => exact controller_ask controller runtime panel .detach
      | selectCompilation id => exact ⟨controller.pending, rfl⟩
      | message text => exact ⟨controller.pending, rfl⟩
      | removeCompilation id =>
          refine ⟨controller.pending, ?_⟩
          simp only [handle, Controller.remove, Except.toOption, Option.elim_some,
            Store.afterRequest]
          cases controller.store.remove id.slot <;> rfl

end ControlDesk

/-- The controller and its store agree with the register. -/
structure Registered (desk : ControlDesk) (register : Register) : Prop where
  lasting : ∀ controller, desk.controller = some controller →
    register.lasting = controller.attached
  agrees : ∀ controller, desk.controller = some controller → controller.store.Agrees register

namespace Registered

open ControlDesk Controller

variable {desk next : ControlDesk} {register : Register} {controller : Controller}
  {compilation : Compilation}

theorem of_controller (hcontroller : next.controller = some controller)
    (hlasting : register.lasting = controller.attached)
    (hagrees : controller.store.Agrees register) : Registered next register where
  lasting := by
    intro present hpresent
    obtain rfl := Option.some.inj (hcontroller.symm.trans hpresent)
    exact hlasting
  agrees := by
    intro present hpresent
    obtain rfl := Option.some.inj (hcontroller.symm.trans hpresent)
    exact hagrees

/-- A compilation is written down exactly if it is recorded. -/
theorem taken (base : Controller) (panel : Link) (hlasting : register.lasting = base.attached)
    (hagrees : base.store.Agrees register)
    (hnext : next.controller = some (base.record panel compilation).1) :
    Registered next (register.enter (.took compilation)) := by
  rcases record_eq base panel compilation with ⟨graph, hattached, hgraph, heq⟩ | ⟨hor, heq⟩
  · have hkept : register.enter (.took compilation) =
        { register with recorded := register.recorded ++ [compilation] } := by
      simp [Register.enter, hlasting, hattached, Compilation.isGraph, hgraph, Except.toBool]
    rw [heq] at hnext
    rw [hkept]
    exact of_controller hnext hlasting (hagrees.append hgraph)
  · have hignored : register.enter (.took compilation) = register := by
      rcases hor with h | ⟨error, h⟩
      · simp [Register.enter, hlasting, h]
      · simp [Register.enter, Compilation.isGraph, h, Except.toBool]
    rw [heq] at hnext
    rw [hignored]
    exact of_controller hnext hlasting hagrees

/-- A reply of the actor begins a session, ends it, or changes nothing. -/
theorem concluded {pending : Pending} {outcome : Except FrontError ActorReply}
    (base : Controller) (panel : Link) (hlasting : register.lasting = base.attached)
    (hagrees : base.store.Agrees register)
    (hnext : next.controller = some (base.conclude panel pending outcome).1) :
    Registered next ((outcomeDeed? pending outcome).elim register register.enter) := by
  cases houtcome : outcome.bind Front.stateOf with
  | error error =>
      have hdeed : outcomeDeed? pending outcome = none := by
        simp [outcomeDeed?, houtcome]
      have hafter : (base.conclude panel pending outcome).1 = { base with pending := none } := by
        simp [conclude, houtcome]
      rw [hdeed]
      exact of_controller (hnext.trans (congrArg some hafter)) hlasting hagrees
  | ok state =>
      cases pending with
      | attach =>
          have hafter : (base.conclude panel .attach outcome).1 =
              { base with pending := none, store := {}, attached := true } := by
            simp [conclude, houtcome]
          simp only [outcomeDeed?, houtcome, Option.elim_some]
          exact of_controller (hnext.trans (congrArg some hafter)) rfl (.empty _ _)
      | detach =>
          have hafter : (base.conclude panel .detach outcome).1 =
              { base with
                pending := none, attached := false, front := base.front.discardBacklog.2 } := by
            simp [conclude, houtcome]
          simp only [outcomeDeed?, houtcome, Option.elim_some]
          exact of_controller (hnext.trans (congrArg some hafter)) rfl
            ⟨hagrees.size, hagrees.removed, hagrees.live⟩

/-- **The register keeps agreeing with the store** in each step. -/
theorem step (hregistered : Registered desk register) (hstep : desk.step? = some next) :
    Registered next (desk.deed?.elim register register.enter) := by
  rcases desk with ⟨_ | controller, runtime, panel⟩
  · cases hstep
  have hlasting := hregistered.lasting controller rfl
  have hagrees := hregistered.agrees controller rfl
  cases turn_of_step? hstep with
  | @handled frame rest hpending hright =>
      have hnext : panel.next .right = .frame frame { panel with right := .live rest } :=
        Link.next_of_frame hright
      have hdeed : deed? { controller := some controller, runtime, panel } =
          (Frame.decode PanelRequest.ofJson? frame).toOption.map .served := by
        simp [deed?, request?, hpending, hnext]
      rw [hdeed]
      obtain ⟨awaited, hafter⟩ :=
        controller_handleFrame controller runtime { panel with right := .live rest } frame
      cases hdecode : Frame.decode PanelRequest.ofJson? frame with
      | error error =>
          rw [hdecode] at hafter
          exact of_controller hafter hlasting hagrees
      | ok request =>
          rw [hdecode] at hafter
          refine of_controller hafter ?_ (hagrees.afterRequest request)
          rw [← hlasting]
          cases request with
          | removeCompilation id =>
              simp only [Except.toOption, Option.map_some, Option.elim_some, Register.enter]
              split <;> rfl
          | connect | disconnect | selectCompilation | message => rfl
  | stopped hpending hnext =>
      exact ⟨by simp [stop], by simp [stop]⟩
  | kept hpending hleft hreceive =>
      have hdeed : deed? { controller := some controller, runtime, panel } = none := by
        simp [deed?, hpending, @Link.next_of_frame runtime .left _ _ hleft, hreceive]
      rw [hdeed]
      exact of_controller rfl hlasting hagrees
  | @concluded pending frame rest front outcome hpending hleft hreceive =>
      have hdeed : deed? { controller := some controller, runtime, panel } =
          outcomeDeed? pending outcome := by
        simp [deed?, hpending, @Link.next_of_frame runtime .left _ _ hleft, hreceive]
      rw [hdeed]
      exact concluded { controller with front } panel hlasting hagrees rfl
  | @failed pending hpending hgone =>
      have hdeed : deed? { controller := some controller, runtime, panel } = none := by
        simp [deed?, hpending, @Link.next_of_gone runtime .left hgone]
      have hfailed : outcomeDeed? pending (.error (Front.goneError runtime)) = none := by
        cases pending <;> rfl
      rw [hdeed, ← hfailed]
      exact concluded controller panel hlasting hagrees rfl
  | @caughtUp compilation rest hpending hbacklog hopen hnext =>
      have hdeed : deed? { controller := some controller, runtime, panel } =
          some (.took compilation) := by
        simp [deed?, hpending, hnext, nextCompilation?_of_backlog hopen hbacklog]
      rw [hdeed]
      exact taken { controller with front := { backlog := rest } } panel hlasting hagrees rfl
  | @read frame rest next hpending hbacklog hopen hnext hleft heq =>
      have hdeed : deed? { controller := some controller, runtime, panel } =
          (Front.compilationOf? frame).map .took := by
        cases hcompilation : Front.compilationOf? frame <;>
          simp [deed?, hpending, hnext, nextCompilation?_of_left hopen hbacklog hleft, hbacklog,
            hcompilation, @Link.next_of_frame runtime .left _ _ hleft]
      rw [hdeed]
      cases hcompilation : Front.compilationOf? frame with
      | none =>
          rw [hcompilation, Option.map_none, Option.getD_none] at heq
          obtain rfl := heq
          exact of_controller rfl hlasting hagrees
      | some compilation =>
          rw [hcompilation, Option.map_some, Option.getD_some] at heq
          obtain rfl := heq
          exact taken controller panel hlasting hagrees rfl
  | ended hpending hbacklog hopen hnext hgone =>
      have htaken := nextCompilation?_of_gone hopen hbacklog hgone
      have hdeed : deed? { controller := some controller, runtime, panel } = some .ceased := by
        simp [deed?, hpending, hnext, htaken, hbacklog, hopen,
          @Link.next_of_gone runtime .left hgone]
      rw [hdeed]
      exact of_controller rfl rfl ⟨hagrees.size, hagrees.removed, hagrees.live⟩

end Registered

theorem RegisteredDesk.registered_move {registered : RegisteredDesk}
    (hregistered : Registered registered.desk registered.register) (move : DeskMove) :
    Registered (registered.move move).desk (registered.move move).register := by
  cases move with
  | panel | actor => exact ⟨hregistered.lasting, hregistered.agrees⟩
  | step =>
      cases hstep : registered.desk.step? with
      | none =>
          have hblocked : registered.desk.move .step = registered.desk ∧
              registered.desk.deedIn .step = none := by
            simp [ControlDesk.move, ControlDesk.deedIn, hstep]
          rw [move, hblocked.1, hblocked.2]
          exact hregistered
      | some next =>
          have hmoves : registered.desk.move .step = next ∧
              registered.desk.deedIn .step = registered.desk.deed? := by
            simp [ControlDesk.move, ControlDesk.deedIn, hstep]
          rw [move, hmoves.1, hmoves.2]
          exact hregistered.step hstep

/-- **The store agrees with the register after every run**, whatever the panel and the actor do and
whatever is lost on the way. -/
theorem RegisteredDesk.registered_run {registered : RegisteredDesk}
    (hregistered : Registered registered.desk registered.register) (moves : List DeskMove) :
    Registered (registered.run moves).desk (registered.run moves).register := by
  induction moves generalizing registered with
  | nil => exact hregistered
  | cons first rest ih => exact ih (registered_move hregistered first)

theorem registered_fresh (runtimeBytes panelBytes : Nat) :
    Registered (ControlDesk.fresh runtimeBytes panelBytes) {} :=
  .of_controller rfl rfl (.empty 0 false)

end CompileWatch
