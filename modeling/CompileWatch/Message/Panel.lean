import CompileWatch.CompilationId
import CompileWatch.Graph.Codec
import CompileWatch.Script

/-!
# Messages of the panel link

The panel sends requests, the control side sends events.  A message is an object
whose `type` names its kind; its other members are the fields of that kind, and
members that the kind does not have are ignored.
-/

namespace CompileWatch

open Json.Value

/-- A message from the panel to the control side. -/
inductive PanelRequest
  /-- Start a session. -/
  | connect
  /-- End the session. -/
  | disconnect
  | selectCompilation (id : CompilationId)
  | removeCompilation (id : CompilationId)
  /-- A line for the control side's log. -/
  | message (text : String)
  deriving DecidableEq, Repr, Inhabited

/-- A message from the control side to the panel. -/
inductive PanelEvent
  /-- A compilation was recorded and can be listed. -/
  | recordCompilation (id : CompilationId) (scripts : List Script)
  /-- The graph of a selected compilation. -/
  | compilationGraph (id : CompilationId) (scripts : List Script) (graph : Graph)
  | registered
  | unregistered
  | attached
  | detached
  /-- A request could not be served; the id names the compilation involved, if there is one. -/
  | error (id : Option CompilationId) (message : String)
  deriving Repr, Inhabited

namespace PanelRequest

def ofJson? (value : Json.Value) : Option PanelRequest := do
  let members ← value.members?
  let kind ← kind? members
  if kind = "connect" then return .connect
  else if kind = "disconnect" then return .disconnect
  else if kind = "select-compilation" then
    return .selectCompilation (← field? CompilationId.ofJson? "id" members)
  else if kind = "remove-compilation" then
    return .removeCompilation (← field? CompilationId.ofJson? "id" members)
  else if kind = "message" then return .message (← field? toText? "msg" members)
  else none

def toJson : PanelRequest → Json.Value
  | .connect => .object [("type", .string "connect")]
  | .disconnect => .object [("type", .string "disconnect")]
  | .selectCompilation id => .object [("type", .string "select-compilation"), ("id", id.toJson)]
  | .removeCompilation id => .object [("type", .string "remove-compilation"), ("id", id.toJson)]
  | .message text => .object [("type", .string "message"), ("msg", .string text)]

end PanelRequest

namespace PanelEvent

def ofJson? (value : Json.Value) : Option PanelEvent := do
  let members ← value.members?
  let kind ← kind? members
  if kind = "record-compilation" then
    let id ← field? CompilationId.ofJson? "id" members
    let scripts ← field? (toList? Script.ofJson?) "scripts" members
    return .recordCompilation id scripts
  else if kind = "compilation-graph" then
    let id ← field? CompilationId.ofJson? "id" members
    let scripts ← field? (toList? Script.ofJson?) "scripts" members
    let graph ← field? Graph.ofJson? "graph" members
    return .compilationGraph id scripts graph
  else if kind = "registered" then return .registered
  else if kind = "unregistered" then return .unregistered
  else if kind = "attached" then return .attached
  else if kind = "detached" then return .detached
  else if kind = "error" then
    let id ← fieldOr? none (toOption? CompilationId.ofJson?) "id" members
    let message ← field? toText? "message" members
    return .error id message
  else none

def toJson : PanelEvent → Json.Value
  | .recordCompilation id scripts =>
    .object [("type", .string "record-compilation"), ("id", id.toJson),
      ("scripts", ofList Script.toJson scripts)]
  | .compilationGraph id scripts graph =>
    .object [("type", .string "compilation-graph"), ("id", id.toJson),
      ("scripts", ofList Script.toJson scripts), ("graph", graph.toJson)]
  | .registered => .object [("type", .string "registered")]
  | .unregistered => .object [("type", .string "unregistered")]
  | .attached => .object [("type", .string "attached")]
  | .detached => .object [("type", .string "detached")]
  | .error id message =>
    .object [("type", .string "error"), ("id", ofOption CompilationId.toJson id),
      ("message", .string message)]

end PanelEvent

end CompileWatch
