import CompileWatch.Script

/-!
# Messages of the runtime link

The control side sends requests to the runtime actor.  The actor answers each
with one reply, and in between reports compilations.
-/

namespace CompileWatch

open Json.Value

/-- Whether the actor has a session with the runtime. -/
inductive AttachState
  | detached
  | attached
  deriving DecidableEq, Repr, Inhabited

inductive ActorRequest
  | attach
  | detach
  /-- Asks whether the actor is there. -/
  | hello
  deriving DecidableEq, Repr, Inhabited

inductive ActorPacket
  | state (current : AttachState)
  | hello (text : String)
  | wrongState (expected actual : AttachState)
  /-- A request could not be decoded. -/
  | protocolError (message : String)
  /-- A compilation was completed; its graph is the text that the compiler wrote. -/
  | compilation (scripts : List Script) (json : String)
  deriving DecidableEq, Repr, Inhabited

namespace AttachState

def name : AttachState → String
  | .detached => "detached"
  | .attached => "attached"

/-- Reads a state from its exact name. -/
def ofJson? (value : Json.Value) : Option AttachState := do
  let name ← value.choice?
  if name = "detached" then return .detached
  else if name = "attached" then return .attached
  else none

def toJson (state : AttachState) : Json.Value :=
  .string state.name

end AttachState

namespace ActorRequest

def ofJson? (value : Json.Value) : Option ActorRequest := do
  let members ← value.members?
  let kind ← kind? members
  if kind = "attach" then return .attach
  else if kind = "detach" then return .detach
  else if kind = "hello" then return .hello
  else none

def toJson : ActorRequest → Json.Value
  | .attach => .object [("type", .string "attach")]
  | .detach => .object [("type", .string "detach")]
  | .hello => .object [("type", .string "hello")]

end ActorRequest

namespace ActorPacket

/-- Whether the packet answers a request, as opposed to reporting a compilation. -/
def isReply : ActorPacket → Bool
  | .compilation _ _ => false
  | _ => true

def ofJson? (value : Json.Value) : Option ActorPacket := do
  let members ← value.members?
  let kind ← kind? members
  if kind = "state" then return .state (← field? AttachState.ofJson? "state" members)
  else if kind = "hello" then return .hello (← field? toText? "msg" members)
  else if kind = "wrong-state" then
    let expected ← field? AttachState.ofJson? "expected" members
    let actual ← field? AttachState.ofJson? "actual" members
    return .wrongState expected actual
  else if kind = "protocol-error" then
    return .protocolError (← field? toText? "message" members)
  else if kind = "compilation" then
    let scripts ← field? (toList? Script.ofJson?) "scripts" members
    let json ← field? toText? "json" members
    return .compilation scripts json
  else none

def toJson : ActorPacket → Json.Value
  | .state current => .object [("type", .string "state"), ("state", current.toJson)]
  | .hello text => .object [("type", .string "hello"), ("msg", .string text)]
  | .wrongState expected actual =>
    .object [("type", .string "wrong-state"), ("expected", expected.toJson),
      ("actual", actual.toJson)]
  | .protocolError message =>
    .object [("type", .string "protocol-error"), ("message", .string message)]
  | .compilation scripts json =>
    .object [("type", .string "compilation"), ("scripts", ofList Script.toJson scripts),
      ("json", .string json)]

end ActorPacket

end CompileWatch
