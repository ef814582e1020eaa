import CompileWatch.Panel.Basic
import CompileWatch.Run

/-!
# The panel at its link

The panel works at the left end of the panel link.  An operation posts its request
and then takes in frames until one of them ends it.  It can be given up before
that; what it has posted and taken in remains so, and its result is lost.
-/

namespace CompileWatch

/-- How far an operation of the panel has come. -/
inductive CallState
  /-- No operation was begun. -/
  | idle
  | waiting (call : Panel.Call)
  | ended (result : Except PanelError Panel.Answer)

/-- A panel with the left end of the panel link. -/
structure PanelDesk (Image : Type) where
  panel : Panel Image
  link : Link
  call : CallState := .idle

namespace PanelDesk

variable {Image : Type}

/-- Begins an operation, which fails at once if its request cannot be posted. -/
def start (desk : PanelDesk Image) (call : Panel.Call) : PanelDesk Image :=
  match call.request? with
  | none => { desk with call := .waiting call }
  | some request =>
    match Panel.post desk.link request with
    | .ok link => { desk with link, call := .waiting call }
    | .error error => { desk with call := .ended (.error error) }

/-- Takes in one frame for the operation that waits. -/
def step? (desk : PanelDesk Image) : Option (PanelDesk Image) :=
  match desk.call with
  | .waiting call =>
    match desk.link.next .left with
    | .waiting => none
    | .closed =>
      some { desk with call := .ended (.error (.transport (.closed desk.link.name))) }
    | .frame frame link =>
      let (panel, result) := desk.panel.receive call frame
      some { panel, link, call := (result.map CallState.ended).getD (.waiting call) }
  | _ => none

/-- Gives up the operation, or forgets its result. -/
def clearCall (desk : PanelDesk Image) : PanelDesk Image :=
  { desk with call := .idle }

/-- A bound on the steps that the panel can take by itself. -/
def potential (desk : PanelDesk Image) : Nat :=
  (desk.link.queue .left).length + 1

/-- Lets the panel run until it is blocked. -/
def settle (desk : PanelDesk Image) : PanelDesk Image :=
  untilBlocked step? desk.potential desk

/-- Removes a compilation from the listing and asks the control side to forget it.  The listing
changes even if the request cannot be posted. -/
def remove (desk : PanelDesk Image) (id : CompilationId) :
    PanelDesk Image × Except PanelError Unit :=
  let panel := desk.panel.forget id
  match Panel.post desk.link (.removeCompilation id) with
  | .ok link => ({ desk with panel, link }, .ok ())
  | .error error => ({ desk with panel }, .error error)

/-- Sends a line for the control side's log. -/
def message (desk : PanelDesk Image) (text : String) : PanelDesk Image × Except PanelError Unit :=
  match Panel.post desk.link (.message text) with
  | .ok link => ({ desk with link }, .ok ())
  | .error error => (desk, .error error)

/-- Changes the mode. -/
def setMode (desk : PanelDesk Image) (mode : DisplayMode) : PanelDesk Image :=
  { desk with panel := desk.panel.setMode mode }

end PanelDesk

end CompileWatch
