import CompileWatch.Front
import CompileWatch.Message.Panel
import CompileWatch.Run
import CompileWatch.Store

/-!
# The controller

The controller stands between the panel and the actor.  It owns the store and the
front of the actor, and it answers one request of the panel at a time.

* Connecting attaches the actor.  Only when that succeeds does a new session begin,
  with an empty store.
* Disconnecting detaches the actor and drops what arrived in the meantime.
* Selecting a compilation sends its graph, or an error that names it.
* Compilations that arrive are recorded and announced while a session lasts.

An event that cannot be delivered to the panel is dropped.
-/

namespace CompileWatch

/-- The reply of the actor that the controller waits for. -/
inductive Pending
  /-- The reply that ends a connect. -/
  | attach
  /-- The reply that ends a disconnect. -/
  | detach
  deriving DecidableEq, Repr, Inhabited

/-- The control side of a session. -/
structure Controller where
  store : Store := {}
  front : Front := {}
  /-- Whether a session lasts. -/
  attached : Bool := false
  /-- Whether the actor may still report compilations. -/
  actorOpen : Bool := true
  /-- The reply that is awaited; nothing else is done until it is there. -/
  pending : Option Pending := none
  deriving DecidableEq, Repr

/-- The controller with the right end of the panel link and the left end of the runtime link.
There is no controller once it has stopped. -/
structure ControlDesk where
  controller : Option Controller
  runtime : Link
  panel : Link
  deriving DecidableEq, Repr

namespace Controller

/-! ## Sending to the panel -/

/-- Sends an event; it is dropped if it cannot be delivered. -/
def send (panel : Link) (event : PanelEvent) : Link :=
  match panel.post .right (Frame.encode event.toJson) with
  | .ok panel => panel
  | .error _ => panel

/-- Sends an error, with the id of the compilation involved if there is one. -/
def sendError (panel : Link) (id : Option CompilationId) (message : String) : Link :=
  send panel (.error id message)

/-! ## Requests that need no reply of the actor -/

/-- Sends the frame of a selected compilation, or says why that failed. -/
def sendGraph (panel : Link) (frame : GraphFrame) : Except String Link := do
  let text ← frame.encode.mapError WireError.message
  (panel.post .right text).mapError TransportError.message

/-- Answers a request for the graph of a compilation. -/
def select (controller : Controller) (panel : Link) (id : CompilationId) : Link :=
  match controller.store.get id.slot with
  | .error error => sendError panel (some id) error.message
  | .ok snapshot =>
    match sendGraph panel { id, scripts := snapshot.scripts, graph := snapshot.graph } with
    | .ok panel => panel
    | .error message => sendError panel (some id) message

/-- Removes a compilation; there is an answer only if it was never recorded. -/
def remove (controller : Controller) (panel : Link) (id : CompilationId) : Controller × Link :=
  match controller.store.remove id.slot with
  | .ok store => ({ controller with store }, panel)
  | .error error => (controller, sendError panel (some id) error.message)

/-- Records a compilation and announces it.  It is ignored outside a session, and if its graph is
not the text of an object or array. -/
def record (controller : Controller) (panel : Link) (compilation : Compilation) :
    Controller × Link :=
  if controller.attached then
    match RawJson.ofText? compilation.json with
    | .error _ => (controller, panel)
    | .ok graph =>
      let id := CompilationId.ofSlot controller.store.size
      ({ controller with store := controller.store.append compilation.scripts graph },
        send panel (.recordCompilation id compilation.scripts))
  else (controller, panel)

/-! ## Requests that wait for a reply of the actor -/

/-- Begins or ends a session once the actor has replied. -/
def conclude (controller : Controller) (panel : Link) (pending : Pending)
    (outcome : Except FrontError ActorReply) : Controller × Link :=
  let controller := { controller with pending := none }
  match pending, outcome.bind Front.stateOf with
  | .attach, .ok _ =>
    ({ controller with store := {}, attached := true }, send panel .attached)
  | .detach, .ok _ =>
    ({ controller with attached := false, front := controller.front.discardBacklog.2 },
      send (send panel .detached) .unregistered)
  | _, .error error => (controller, sendError panel none error.message)

/-- The request to the actor whose reply is then awaited. -/
def requestOf : Pending → ActorRequest
  | .attach => .attach
  | .detach => .detach

end Controller

namespace ControlDesk

/-- Makes a request to the actor; if it cannot be made, the panel hears of it at once. -/
def ask (controller : Controller) (runtime panel : Link) (pending : Pending) : ControlDesk :=
  match Front.request runtime (Controller.requestOf pending) with
  | .ok runtime =>
    { controller := some { controller with pending := some pending }, runtime, panel }
  | .error error =>
    let (controller, panel) := controller.conclude panel pending (.error error)
    { controller := some controller, runtime, panel }

def handle (controller : Controller) (runtime panel : Link) : PanelRequest → ControlDesk
  | .connect => ask controller runtime (Controller.send panel .registered) .attach
  | .disconnect => ask controller runtime panel .detach
  | .selectCompilation id =>
    { controller := some controller, runtime, panel := controller.select panel id }
  | .removeCompilation id =>
    let (controller, panel) := controller.remove panel id
    { controller := some controller, runtime, panel }
  | .message _ => { controller := some controller, runtime, panel }

def handleFrame (controller : Controller) (runtime panel : Link) (frame : Frame) : ControlDesk :=
  match Frame.decode PanelRequest.ofJson? frame with
  | .ok request => handle controller runtime panel request
  | .error error =>
    { controller := some controller, runtime
      panel := Controller.sendError panel none error.message }

/-- Stops the controller and drops its ends of both links. -/
def stop (desk : ControlDesk) : ControlDesk :=
  { controller := none, runtime := desk.runtime.close .left, panel := desk.panel.close .right }

/-- Takes in one frame while a reply of the actor is awaited. -/
def awaitStep? (controller : Controller) (pending : Pending) (runtime panel : Link) :
    Option ControlDesk :=
  match runtime.next .left with
  | .waiting => none
  | .closed =>
    let (controller, panel) := controller.conclude panel pending (.error (Front.goneError runtime))
    some { controller := some controller, runtime, panel }
  | .frame frame runtime =>
    let (front, outcome) := controller.front.receive frame
    let controller := { controller with front }
    match outcome with
    | none => some { controller := some controller, runtime, panel }
    | some outcome =>
      let (controller, panel) := controller.conclude panel pending outcome
      some { controller := some controller, runtime, panel }

/-- Takes in one compilation, from the backlog or from the runtime link, where frames that report
none are dropped.  When the actor is gone the session is over. -/
def eventStep? (controller : Controller) (runtime panel : Link) : Option ControlDesk :=
  match controller.front.backlog with
  | compilation :: rest =>
    let (controller, panel) :=
      { controller with front := { backlog := rest } }.record panel compilation
    some { controller := some controller, runtime, panel }
  | [] =>
    match runtime.next .left with
    | .waiting => none
    | .closed =>
      let controller := { controller with actorOpen := false, attached := false }
      some { controller := some controller, runtime, panel }
    | .frame frame runtime =>
      match Front.compilationOf? frame with
      | none => some { controller := some controller, runtime, panel }
      | some compilation =>
        let (controller, panel) := controller.record panel compilation
        some { controller := some controller, runtime, panel }

/-- Takes one step: a reply that is awaited goes first, then a frame from the panel, then a
compilation.  When the panel is gone the controller stops. -/
def step? (desk : ControlDesk) : Option ControlDesk :=
  match desk.controller with
  | none => none
  | some controller =>
    match controller.pending with
    | some pending => awaitStep? controller pending desk.runtime desk.panel
    | none =>
      match desk.panel.next .right with
      | .frame frame panel => some (handleFrame controller desk.runtime panel frame)
      | .closed => some desk.stop
      | .waiting =>
        if controller.actorOpen then eventStep? controller desk.runtime desk.panel else none

/-- A bound on the steps that the controller can take by itself.  A frame from the panel may leave
a reply to wait for, and a frame from the actor may leave a compilation in the backlog. -/
def potential (desk : ControlDesk) : Nat :=
  2 * (desk.panel.queue .right).length + 2 * (desk.runtime.queue .left).length +
    ((desk.controller.map fun controller => controller.front.backlog.length).getD 0) + 4

/-- Lets the controller run until it is blocked. -/
def settle (desk : ControlDesk) : ControlDesk :=
  untilBlocked step? desk.potential desk

end ControlDesk

end CompileWatch
