import CompileWatch.Actor.Service
import CompileWatch.Controller.Basic
import CompileWatch.Panel.Desk

/-!
# Sessions

A session joins all parties: the host with its actor, the controller, and the
panel.  The runtime link runs from the controller at its left end to the actor at
its right end, the panel link from the panel to the controller.

What happens in a session is a list of moves.  A move is a completed compilation,
something the user does at the panel, the end of a party, or one step of a party;
moves may come in any order.  `settle` is one particular order for the steps: the
panel runs until it is blocked, then the controller, then the actor, and so on in
turn until all three are blocked.
-/

namespace CompileWatch

/-- A host with its actor, a controller and a panel, and the links between them. -/
structure Session (Image : Type) where
  host : Host := {}
  /-- The actor, unless it has stopped. -/
  actor : Option Actor := some .detached
  /-- The link from the controller to the actor. -/
  runtime : Link
  /-- The controller, unless it has stopped. -/
  controller : Option Controller := some {}
  /-- The link from the panel to the controller. -/
  panelLink : Link
  /-- The panel, unless it was closed. -/
  panel : Option (Panel Image)
  /-- The operation of the panel. -/
  call : CallState := .idle

inductive Party
  | panel
  | controller
  | actor
  deriving DecidableEq, Repr, Inhabited

/-- Something that happens in a session. -/
inductive Move
  | compile (compilation : Compilation)
  /-- The user begins an operation at the panel. -/
  | call (call : Panel.Call)
  /-- The user gives up the operation, or takes note of its result. -/
  | clearCall
  | setMode (mode : DisplayMode)
  | remove (id : CompilationId)
  | message (text : String)
  | stopActor
  | stopController
  | closePanel
  | step (party : Party)
  deriving Repr

namespace Session

variable {Image : Type}

/-- A session in which nothing has happened yet. -/
def fresh (runtimeBytes panelBytes : Nat) (panel : Panel Image) : Session Image :=
  { runtime := { name := "runtime", maxBytes := runtimeBytes }
    panelLink := { name := "panel", maxBytes := panelBytes }
    panel := some panel }

/-! ## The parties at their links -/

/-- The actor with the host and the runtime link. -/
def service (session : Session Image) : ActorService :=
  { actor := session.actor, host := session.host, link := session.runtime }

/-- The session with another state of the actor. -/
def withService (session : Session Image) (service : ActorService) : Session Image :=
  { session with actor := service.actor, host := service.host, runtime := service.link }

/-- The controller with both links. -/
def controlDesk (session : Session Image) : ControlDesk :=
  { controller := session.controller, runtime := session.runtime, panel := session.panelLink }

/-- The session with another state of the controller. -/
def withControlDesk (session : Session Image) (desk : ControlDesk) : Session Image :=
  { session with controller := desk.controller, runtime := desk.runtime, panelLink := desk.panel }

/-- The panel with the panel link. -/
def panelDesk? (session : Session Image) : Option (PanelDesk Image) :=
  session.panel.map fun panel => { panel, link := session.panelLink, call := session.call }

/-- The session with another state of the panel. -/
def withPanelDesk (session : Session Image) (desk : PanelDesk Image) : Session Image :=
  { session with panel := some desk.panel, panelLink := desk.link, call := desk.call }

/-! ## Moves -/

/-- One step of a party, unless it is blocked. -/
def step? (session : Session Image) : Party → Option (Session Image)
  | .panel => (session.panelDesk?.bind PanelDesk.step?).map session.withPanelDesk
  | .controller => session.controlDesk.step?.map session.withControlDesk
  | .actor => session.service.step?.map session.withService

/-- Changes the panel, unless it was closed. -/
def onPanel (session : Session Image) (change : PanelDesk Image → PanelDesk Image) :
    Session Image :=
  (session.panelDesk?.map fun desk => session.withPanelDesk (change desk)).getD session

/-- Makes a move.  A step of a party that is blocked or gone changes nothing, and nothing happens
at a panel that was closed. -/
def move (session : Session Image) : Move → Session Image
  | .compile compilation =>
    { session with host := (session.host.compile? compilation).getD session.host }
  | .call call => session.onPanel fun desk => desk.start call
  | .clearCall => session.onPanel PanelDesk.clearCall
  | .setMode mode => session.onPanel fun desk => desk.setMode mode
  | .remove id => session.onPanel fun desk => (desk.remove id).1
  | .message text => session.onPanel fun desk => (desk.message text).1
  | .stopActor =>
    if session.actor.isSome then session.withService session.service.stop else session
  | .stopController =>
    if session.controller.isSome then session.withControlDesk session.controlDesk.stop else session
  | .closePanel => { session with panel := none, panelLink := session.panelLink.close .left }
  | .step party => (session.step? party).getD session

def run (session : Session Image) (moves : List Move) : Session Image :=
  moves.foldl move session

/-! ## The order in turn -/

/-- A bound on the steps that all parties can take without the user and the host.  Each step uses
up a frame, a compilation that waits, or a reply that is awaited, and what it leaves behind weighs
less. -/
def potential (session : Session Image) : Nat :=
  8 * (session.panelLink.queue .right).length + 4 * (session.runtime.queue .right).length +
    4 * session.host.waiting + 3 * (session.runtime.queue .left).length +
    2 * ((session.controller.map fun controller => controller.front.backlog.length).getD 0) +
    (session.panelLink.queue .left).length + 6

/-- Lets one party run until it is blocked. -/
def runParty (session : Session Image) (party : Party) : Session Image :=
  untilBlocked (fun session => session.step? party) session.potential session

/-- One turn of all parties, unless all of them are blocked. -/
def turn? (session : Session Image) : Option (Session Image) :=
  if [Party.panel, .controller, .actor].all fun party => (session.step? party).isNone then none
  else some (((session.runParty .panel).runParty .controller).runParty .actor)

/-- Lets the parties run in turn until all of them are blocked. -/
def settle (session : Session Image) : Session Image :=
  untilBlocked turn? session.potential session

end Session

end CompileWatch
