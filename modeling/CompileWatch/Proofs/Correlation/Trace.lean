import CompileWatch.Proofs.Json.Grammar
import CompileWatch.Session

/-!
# Requests and what becomes of them

Messages carry no number, but an observer can number the requests of the panel in the
order in which they are posted, which is also the order in which the controller takes
them up.  For every frame that the controller posts, the observer notes the request that
was being handled at that time, and so sees which request each event answers and which
of them made the actor change its state.
-/

namespace CompileWatch

/-- An operation of the panel that was ended by an event. -/
structure Ending (Image : Type) where
  call : Panel.Call
  /-- The number of the request that began the operation. -/
  request : Nat
  /-- The request that was being handled when the event was posted, if there was one. -/
  origin : Option Nat
  frame : Frame
  result : Except PanelError Panel.Answer
  /-- The panel when the operation has ended. -/
  panel : Panel Image

/-- A session with what was observed of its requests. -/
structure Traced (Image : Type) where
  session : Session Image
  /-- The number of requests that were posted. -/
  posted : Nat := 0
  /-- The number of the request that began the latest operation. -/
  own : Nat := 0
  /-- The store that the controller had when it took up each request. -/
  stores : List Store := []
  /-- For each frame that waits at the actor, the request that was being handled when it was
  posted. -/
  asked : List (Option Nat) := []
  /-- The same for each frame that waits at the panel. -/
  origins : List (Option Nat) := []
  /-- The changes of the actor's state, with the requests behind them. -/
  switches : List (Option Nat × AttachState) := []
  endings : List (Ending Image) := []

/-! ## What is expected of an operation -/

/-- The panel shows the compilation as the store holds it.  Nothing is said of a graph whose text is
not well-formed. -/
def Panel.Renders {Image : Type} (panel : Panel Image) (id : CompilationId) (snapshot : Snapshot) :
    Prop :=
  Json.WellFormed snapshot.graph.text →
    ∃ graph, Frame.decode Graph.ofJson? snapshot.graph.text = .ok graph ∧
      let selection : Selection :=
        { id
          scripts := snapshot.scripts
          graph
          tree := InlineTree.rebuild graph.mir.blocks snapshot.scripts }
      panel.selection = some selection ∧
        panel.outcome = some (outcomeOf panel.renderer (drawingOf panel.mode selection))

/-- The operation was ended by an answer to its own request, and the result is right: connecting and
disconnecting succeed if and only if the request made the actor change its state, and a
selection shows what the store held when the request was taken up. -/
def Ending.Correct {Image : Type} (stores : List Store)
    (switches : List (Option Nat × AttachState)) (ending : Ending Image) : Prop :=
  ending.origin = some ending.request ∧
    match ending.call with
    | .connect => ending.result.isOk ↔ (some ending.request, .attached) ∈ switches
    | .disconnect => ending.result.isOk ↔ (some ending.request, .detached) ∈ switches
    | .select id => ending.result.isOk →
        ∃ store snapshot, stores[ending.request]? = some store ∧
          store.get id.slot = .ok snapshot ∧
          GraphFrame.encode { id, scripts := snapshot.scripts, graph := snapshot.graph } =
            .ok ending.frame ∧
          ending.panel.Renders id snapshot
    | .event => False

/-- What happens after an ending does not matter, if it is about later requests. -/
theorem Ending.Correct.mono {Image : Type} {ending : Ending Image} {stores further : List Store}
    {switches after : List (Option Nat × AttachState)} (hcorrect : ending.Correct stores switches)
    (holder : ending.request < stores.length)
    (hswitches : ∀ state, (some ending.request, state) ∈ after ↔
      (some ending.request, state) ∈ switches) :
    ending.Correct (stores ++ further) after := by
  obtain ⟨horigin, hresult⟩ := hcorrect
  refine ⟨horigin, ?_⟩
  cases hcall : ending.call with
  | connect =>
      simp only [hcall] at hresult
      exact hresult.trans (hswitches .attached).symm
  | disconnect =>
      simp only [hcall] at hresult
      exact hresult.trans (hswitches .detached).symm
  | event => simp only [hcall] at hresult
  | select id =>
      simp only [hcall] at hresult ⊢
      intro hok
      obtain ⟨store, snapshot, hstore, hshown⟩ := hresult hok
      refine ⟨store, snapshot, ?_, hshown⟩
      rw [List.getElem?_append_left holder]
      exact hstore

namespace Session

variable {Image : Type}

/-! ## Orderly runs -/

/-- An operation waits for the answer to its request. -/
def awaitsAnswer (session : Session Image) : Bool :=
  match session.call with
  | .waiting call => call.request?.isSome
  | _ => false

/-- The user lets one operation end before doing anything else at the panel, and no party stops. -/
def orderly (session : Session Image) : Move → Bool
  | .compile _ => true
  | .step _ => true
  | .stopActor => false
  | .stopController => false
  | .closePanel => false
  | .call _ => !session.awaitsAnswer
  | .clearCall => !session.awaitsAnswer
  | .setMode _ => !session.awaitsAnswer
  | .remove _ => !session.awaitsAnswer
  | .message _ => !session.awaitsAnswer

def runOrderly (session : Session Image) : List Move → Bool
  | [] => true
  | first :: rest => session.orderly first && (session.move first).runOrderly rest

/-- The frame that the controller takes up as a request in its next step. -/
def request? (session : Session Image) : Option Frame :=
  session.controller.bind fun controller =>
    match controller.pending, session.panelLink.next .right with
    | none, .frame frame _ => some frame
    | _, _ => none

/-- In a move the controller does not refuse to remove a compilation. -/
def removes (session : Session Image) : Move → Bool
  | .step .controller =>
    match session.controller, session.request?.map (Frame.decode PanelRequest.ofJson?) with
    | some controller, some (.ok (.removeCompilation id)) =>
      (controller.store.remove id.slot).toBool
    | _, _ => true
  | _ => true

def runRemoves (session : Session Image) : List Move → Bool
  | [] => true
  | first :: rest => session.removes first && (session.move first).runRemoves rest

end Session

/-! ## Observing -/

namespace Traced

variable {Image : Type}

/-- The request that the controller handles in its next step. -/
def handled? (traced : Traced Image) : Option Nat :=
  match traced.session.controller.bind Controller.pending, traced.session.request? with
  | some _, _ => some (traced.stores.length - 1)
  | none, some _ => some traced.stores.length
  | none, none => none

/-- Observes something that the user does. -/
def user (traced : Traced Image) (next : Session Image) : Traced Image :=
  let count := (next.panelLink.queue .right).length - (traced.session.panelLink.queue .right).length
  { traced with session := next, posted := traced.posted + count }

/-- Observes a step of the controller. -/
def controller (traced : Traced Image) (next : Session Image) : Traced Image :=
  let asked := (next.runtime.queue .right).length - (traced.session.runtime.queue .right).length
  let sent := (next.panelLink.queue .left).length - (traced.session.panelLink.queue .left).length
  { traced with
    session := next
    stores := traced.stores ++ (traced.session.request?.bind fun _ =>
      traced.session.controller.map Controller.store).toList
    asked := traced.asked ++ List.replicate asked traced.handled?
    origins := traced.origins ++ List.replicate sent traced.handled? }

/-- Observes a step of the actor. -/
def actor (traced : Traced Image) (next : Session Image) : Traced Image :=
  let taken := (traced.session.runtime.queue .right).length - (next.runtime.queue .right).length
  { traced with
    session := next
    asked := traced.asked.drop taken
    switches := traced.switches ++
      if next.actor.map Actor.state = traced.session.actor.map Actor.state then []
      else next.actor.toList.map fun actor => (traced.asked.head?.join, actor.state) }

/-- The operation that ends with the frame that the panel reads. -/
def ended? (traced : Traced Image) (next : Session Image) : Option (Ending Image) :=
  match traced.session.call, traced.session.panelLink.next .left, next.call, next.panel with
  | .waiting call, .frame frame _, .ended result, some panel =>
    call.request?.map fun _ =>
      { call, request := traced.own, origin := traced.origins.head?.join, frame, result, panel }
  | _, _, _, _ => none

/-- Observes a step of the panel. -/
def panel (traced : Traced Image) (next : Session Image) : Traced Image :=
  let taken := (traced.session.panelLink.queue .left).length - (next.panelLink.queue .left).length
  { traced with
    session := next
    origins := traced.origins.drop taken
    endings := traced.endings ++ (traced.ended? next).toList }

/-- Makes a move and observes it. -/
def move (traced : Traced Image) (move : Move) : Traced Image :=
  let next := traced.session.move move
  match move with
  | .step .panel => traced.panel next
  | .step .controller => traced.controller next
  | .step .actor => traced.actor next
  | .call call =>
    { traced.user next with own := if call.request?.isSome then traced.posted else traced.own }
  | _ => traced.user next

def run (traced : Traced Image) (moves : List Move) : Traced Image :=
  moves.foldl move traced

theorem session_move (traced : Traced Image) (move : Move) :
    (traced.move move).session = traced.session.move move := by
  cases move with
  | step party => cases party <;> rfl
  | _ => rfl

/-- What is observed is the session itself. -/
theorem session_run (traced : Traced Image) (moves : List Move) :
    (traced.run moves).session = traced.session.run moves := by
  induction moves generalizing traced with
  | nil => rfl
  | cons first rest ih =>
      have hrest := ih (traced.move first)
      rw [session_move] at hrest
      exact hrest

end Traced

end CompileWatch
