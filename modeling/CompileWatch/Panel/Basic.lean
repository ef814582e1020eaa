import CompileWatch.Dot.Drawing
import CompileWatch.InlineTree.Rebuild
import CompileWatch.Message.Panel
import CompileWatch.Settings

/-!
# The panel

The panel lists the compilations of a session and shows one of them.  Everything it
knows comes from the events that the control side sends.  What is shown is the
drawing of the selected compilation in the current mode, as the renderer makes it;
if the renderer or the control side fails, the message of the failure is shown in
its place.
-/

namespace CompileWatch

/-- Why a renderer makes no image. -/
structure RenderError where
  reason : String
  deriving DecidableEq, Repr

def RenderError.message (error : RenderError) : String :=
  "render failed: " ++ error.reason

/-- Turns the text of a drawing into an image.  A renderer keeps nothing from one drawing to the
next: its answer is taken to depend on the text alone. -/
structure Renderer (Image : Type) where
  render : String → Except RenderError Image

/-- The renderer that hands the text of the drawing on. -/
def Renderer.source : Renderer String :=
  ⟨.ok⟩

/-- The renderer that refuses every drawing for the given reason. -/
def Renderer.refusing {Image : Type} (reason : String) : Renderer Image :=
  ⟨fun _ => .error ⟨reason⟩⟩

/-- A compilation in the listing. -/
structure ListEntry where
  id : CompilationId
  scripts : List Script
  deriving DecidableEq, Repr

/-- The title of an entry: name and place of its first script, or its id if it has none. -/
def ListEntry.title (entry : ListEntry) : String :=
  match entry.scripts.head? with
  | some script => script.name ++ " (" ++ script.location ++ ")"
  | none => "compilation " ++ entry.id.text

/-- The compilation on display. -/
structure Selection where
  id : CompilationId
  scripts : List Script
  graph : Graph
  tree : InlineTree
  deriving Repr

/-- What became of the last attempt to show a compilation. -/
inductive RenderOutcome (Image : Type)
  | rendered (image : Image)
  | failed (message : String)
  deriving DecidableEq, Repr

/-- Why an operation of the panel failed. -/
inductive PanelError
  | transport (error : TransportError)
  /-- The control side answered with an error. -/
  | remote (message : String)
  deriving DecidableEq, Repr

def PanelError.message : PanelError → String
  | .transport error => "panel transport: " ++ error.message
  | .remote message => message

/-- The state of a panel. -/
structure Panel (Image : Type) where
  renderer : Renderer Image
  mode : DisplayMode := .mir
  entries : List ListEntry := []
  connected : Bool := false
  selection : Option Selection := none
  outcome : Option (RenderOutcome Image) := none

namespace Panel

variable {Image : Type}

/-- A new panel in the configured mode. -/
def ofSettings (renderer : Renderer Image) (settings : Settings) : Panel Image :=
  { renderer, mode := settings.defaultMode }

/-! ## Showing -/

/-- What the renderer makes of a drawing. -/
def outcomeOf (renderer : Renderer Image) (drawing : String) : RenderOutcome Image :=
  match renderer.render drawing with
  | .ok image => .rendered image
  | .error error => .failed error.message

/-- The drawing of a selected compilation. -/
def drawingOf (mode : DisplayMode) (selection : Selection) : String :=
  Dot.drawing mode selection.graph selection.scripts selection.tree

/-- Shows the selected compilation, if there is one. -/
def redraw (panel : Panel Image) : Panel Image :=
  match panel.selection with
  | none => panel
  | some selection =>
    { panel with outcome := some (outcomeOf panel.renderer (drawingOf panel.mode selection)) }

/-- Changes the mode, and shows the selected compilation again if the mode is a new one. -/
def setMode (panel : Panel Image) (mode : DisplayMode) : Panel Image :=
  if panel.mode = mode then panel else redraw { panel with mode }

/-- Selects a compilation that has arrived and shows it. -/
def display (panel : Panel Image) (id : CompilationId) (scripts : List Script) (graph : Graph) :
    Panel Image :=
  let tree := InlineTree.rebuild graph.mir.blocks scripts
  redraw { panel with selection := some { id, scripts, graph, tree } }

/-- Shows the message of a failed selection. -/
def displayFailure (panel : Panel Image) (message : String) : Panel Image :=
  { panel with selection := none, outcome := some (.failed message) }

/-! ## Events -/

/-- The event in a frame.  A frame that cannot be decoded counts as an error without an id. -/
def eventOf (frame : Frame) : PanelEvent :=
  match Frame.decode PanelEvent.ofJson? frame with
  | .ok event => event
  | .error error => .error none error.message

/-- What an event changes by itself, whatever the panel waits for. -/
def observe (panel : Panel Image) : PanelEvent → Panel Image
  | .recordCompilation id scripts => { panel with entries := panel.entries ++ [{ id, scripts }] }
  | .attached => { panel with connected := true, entries := [] }
  | .detached => { panel with connected := false }
  | _ => panel

/-! ## Operations that are over at once -/

/-- Posts a request from the left end of the panel link. -/
def post (link : Link) (request : PanelRequest) : Except PanelError Link :=
  (link.post .left (Frame.encode request.toJson)).mapError .transport

/-- The panel without a compilation in its listing or on display. -/
def forget (panel : Panel Image) (id : CompilationId) : Panel Image :=
  let kept := { panel with entries := panel.entries.filter fun entry => entry.id ≠ id }
  if panel.selection.any fun selection => selection.id = id then
    { kept with selection := none, outcome := none }
  else kept

/-! ## Operations that wait for events -/

/-- An operation that ends with an event of the control side. -/
inductive Call
  | connect
  | disconnect
  | select (id : CompilationId)
  /-- Waits for the next event, whatever it is. -/
  | event
  deriving DecidableEq, Repr, Inhabited

/-- How an operation ends well. -/
inductive Answer
  | done
  /-- The event that was waited for. -/
  | event (event : PanelEvent)
  deriving Repr

/-- The request that starts an operation, if it starts with one. -/
def Call.request? : Call → Option PanelRequest
  | .connect => some .connect
  | .disconnect => some .disconnect
  | .select id => some (.selectCompilation id)
  | .event => none

/-- What an event that was observed means for the operation that waits.  An operation goes on until
it has its result.  Connecting and disconnecting end at any error; selecting ends at errors without
an id or with its own. -/
def resolve (panel : Panel Image) : Call → PanelEvent →
    Panel Image × Option (Except PanelError Answer)
  | .connect, .attached => (panel, some (.ok .done))
  | .connect, .error _ message => (panel, some (.error (.remote message)))
  | .disconnect, .unregistered => (panel, some (.ok .done))
  | .disconnect, .error _ message => (panel, some (.error (.remote message)))
  | .select wanted, .compilationGraph id scripts graph =>
    if id = wanted then (panel.display id scripts graph, some (.ok .done)) else (panel, none)
  | .select wanted, .error about message =>
    if about = none ∨ about = some wanted then
      (panel.displayFailure message, some (.error (.remote message)))
    else (panel, none)
  | .event, event => (panel, some (.ok (.event event)))
  | _, _ => (panel, none)

/-- Takes in one frame for the operation that waits. -/
def receive (panel : Panel Image) (call : Call) (frame : Frame) :
    Panel Image × Option (Except PanelError Answer) :=
  let event := eventOf frame
  (panel.observe event).resolve call event

end Panel

end CompileWatch
