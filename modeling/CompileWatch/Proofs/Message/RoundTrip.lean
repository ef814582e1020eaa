import CompileWatch.Frame
import CompileWatch.Message.Actor
import CompileWatch.Message.Panel
import CompileWatch.Proofs.Json.RoundTrip

/-!
# Messages survive their frames

Every message is read back from its value, and its value only has numbers that survive
being written as text.  So a message is decoded from the frame it was encoded to.
-/

namespace CompileWatch

open Json.Value

/-- A message is decoded from its frame if it is read back from its value. -/
theorem Frame.decode_encode {α : Type} {ofJson? : Json.Value → Option α} {value : Json.Value}
    {message : α} (hvalue : value.Integral) (hmessage : ofJson? value = some message) :
    Frame.decode ofJson? (Frame.encode value) = .ok message := by
  rw [Frame.decode, Frame.encode, Json.read?_render hvalue]
  simp only [hmessage]

/-! ## Scalars and lists -/

theorem integral_natural {n : Nat} (hn : n < 2 ^ 64) : (natural n).Integral := by
  simp only [natural, Integral, Json.Fits64]
  omega

theorem toWord?_natural {size n : Nat} (hn : n < size) : (natural n).toWord? size = some n := by
  rw [natural, toWord?, Int.emod_eq_of_lt (Int.natCast_nonneg n) (by exact_mod_cast hn),
    Int.toNat_natCast]

theorem toUInt32?_natural (word : UInt32) : (natural word.toNat).toUInt32? = some word := by
  rw [toUInt32?, toWord?_natural word.toNat_lt_size, Option.map_some, UInt32.ofNat_toNat]

theorem toUInt64?_natural (word : UInt64) : (natural word.toNat).toUInt64? = some word := by
  rw [toUInt64?, toWord?_natural word.toNat_lt_size, Option.map_some, UInt64.ofNat_toNat]

theorem toOption?_ofOption_of_mem {α : Type} {encode : α → Json.Value}
    {decode : Json.Value → Option α} {item : Option α}
    (hround : ∀ a ∈ item, decode (encode a) = some a) (hpresent : ∀ a, encode a ≠ .null) :
    toOption? decode (ofOption encode item) = some item := by
  cases item with
  | none => rfl
  | some a =>
      rw [ofOption, toOption?, hround a rfl]
      · rfl
      · exact hpresent a

theorem toOption?_ofOption {α : Type} {encode : α → Json.Value} {decode : Json.Value → Option α}
    (hround : ∀ a, decode (encode a) = some a) (hpresent : ∀ a, encode a ≠ .null)
    (item : Option α) : toOption? decode (ofOption encode item) = some item :=
  toOption?_ofOption_of_mem (fun a _ => hround a) hpresent

theorem integral_ofOption {α : Type} {encode : α → Json.Value} {item : Option α}
    (hencode : ∀ a ∈ item, (encode a).Integral) : (ofOption encode item).Integral := by
  cases item with
  | none => trivial
  | some a => exact hencode a rfl

theorem toList?_ofList_of_mem {α : Type} {encode : α → Json.Value} {decode : Json.Value → Option α}
    {items : List α} (hround : ∀ a ∈ items, decode (encode a) = some a) :
    toList? decode (ofList encode items) = some items := by
  rw [ofList, toList?]
  induction items with
  | nil => rfl
  | cons item items ih =>
      rw [List.forall_mem_cons] at hround
      rw [List.map_cons, List.mapM_cons, hround.1, ih hround.2]
      rfl

theorem toList?_ofList {α : Type} {encode : α → Json.Value} {decode : Json.Value → Option α}
    (hround : ∀ a, decode (encode a) = some a) (items : List α) :
    toList? decode (ofList encode items) = some items :=
  toList?_ofList_of_mem fun a _ => hround a

theorem integral_ofList_of_mem {α : Type} {encode : α → Json.Value} {items : List α}
    (hencode : ∀ a ∈ items, (encode a).Integral) : (ofList encode items).Integral := by
  rw [ofList, Integral, integralItems_iff, List.forall_mem_map]
  exact hencode

theorem integral_ofList {α : Type} {encode : α → Json.Value} (hencode : ∀ a, (encode a).Integral)
    (items : List α) : (ofList encode items).Integral :=
  integral_ofList_of_mem fun a _ => hencode a

/-! ## Scripts and ids -/

theorem Script.ofJson?_toJson (script : Script) : Script.ofJson? script.toJson = some script := by
  have hname : toOption? toText? (ofOption .string script.displayName) = some script.displayName := by
    refine toOption?_ofOption (fun text => ?_) (fun text => ?_) script.displayName
    · rfl
    · exact nofun
  simp [ofJson?, toJson, members?, field?, fieldOr?, occurrences?, hname, toText?,
    toUInt32?_natural]

theorem Script.integral_toJson (script : Script) : script.toJson.Integral := by
  have hword : ∀ word : UInt32, (natural word.toNat).Integral := fun word =>
    integral_natural (by have := word.toNat_lt; omega)
  obtain ⟨displayName, url, startLine, lineCount, sourceStart, sourceLength⟩ := script
  cases displayName <;> simp [toJson, Integral, IntegralMembers, ofOption, hword]

theorem CompilationId.ofJson?_toJson (id : CompilationId) :
    CompilationId.ofJson? id.toJson = some id := by
  simp [ofJson?, toJson, slot, toUInt64?_natural]

theorem CompilationId.integral_toJson (id : CompilationId) : id.toJson.Integral :=
  integral_natural id.word.toNat_lt

/-! ## Messages of the runtime link -/

theorem ActorRequest.decode_encode (request : ActorRequest) :
    Frame.decode ActorRequest.ofJson? (Frame.encode request.toJson) = .ok request := by
  cases request <;> exact Frame.decode_encode ⟨trivial, trivial⟩ rfl

theorem AttachState.ofJson?_toJson (state : AttachState) :
    AttachState.ofJson? state.toJson = some state := by
  cases state <;> rfl

theorem AttachState.integral_toJson (state : AttachState) : state.toJson.Integral :=
  trivial

theorem ActorPacket.ofJson?_toJson (packet : ActorPacket) :
    ActorPacket.ofJson? packet.toJson = some packet := by
  cases packet <;>
    simp [ofJson?, toJson, members?, kind?, List.lookup, field?, occurrences?, toText?,
      AttachState.ofJson?_toJson, toList?_ofList Script.ofJson?_toJson]

theorem ActorPacket.integral_toJson (packet : ActorPacket) : packet.toJson.Integral := by
  cases packet <;>
    simp [toJson, Integral, IntegralMembers, AttachState.integral_toJson,
      integral_ofList Script.integral_toJson]

theorem ActorPacket.decode_encode (packet : ActorPacket) :
    Frame.decode ActorPacket.ofJson? (Frame.encode packet.toJson) = .ok packet :=
  Frame.decode_encode packet.integral_toJson packet.ofJson?_toJson

/-! ## Messages of the panel link -/

theorem PanelRequest.ofJson?_toJson (request : PanelRequest) :
    PanelRequest.ofJson? request.toJson = some request := by
  cases request <;>
    simp [ofJson?, toJson, members?, kind?, List.lookup, field?, occurrences?, toText?,
      CompilationId.ofJson?_toJson]

theorem PanelRequest.integral_toJson (request : PanelRequest) : request.toJson.Integral := by
  cases request <;> simp [toJson, Integral, IntegralMembers, CompilationId.integral_toJson]

theorem PanelRequest.decode_encode (request : PanelRequest) :
    Frame.decode PanelRequest.ofJson? (Frame.encode request.toJson) = .ok request :=
  Frame.decode_encode request.integral_toJson request.ofJson?_toJson

/-- Whether an event carries a graph. -/
def PanelEvent.hasGraph : PanelEvent → Bool
  | .compilationGraph _ _ _ => true
  | _ => false

theorem PanelEvent.ofJson?_toJson {event : PanelEvent} (hevent : event.hasGraph = false) :
    PanelEvent.ofJson? event.toJson = some event := by
  cases event with
  | compilationGraph => simp [hasGraph] at hevent
  | error id message =>
      have hid := toOption?_ofOption CompilationId.ofJson?_toJson (fun _ => nofun) id
      simp [ofJson?, toJson, members?, kind?, List.lookup, field?, fieldOr?, occurrences?, toText?,
        hid]
  | _ =>
      simp [ofJson?, toJson, members?, kind?, List.lookup, field?, occurrences?,
        CompilationId.ofJson?_toJson, toList?_ofList Script.ofJson?_toJson]

theorem PanelEvent.integral_toJson {event : PanelEvent} (hevent : event.hasGraph = false) :
    event.toJson.Integral := by
  cases event with
  | compilationGraph => simp [hasGraph] at hevent
  | error id message =>
      cases id <;>
        simp [toJson, Integral, IntegralMembers, ofOption, CompilationId.integral_toJson]
  | _ =>
      simp [toJson, Integral, IntegralMembers, CompilationId.integral_toJson,
        integral_ofList Script.integral_toJson]

theorem PanelEvent.decode_encode {event : PanelEvent} (hevent : event.hasGraph = false) :
    Frame.decode PanelEvent.ofJson? (Frame.encode event.toJson) = .ok event :=
  Frame.decode_encode (integral_toJson hevent) (ofJson?_toJson hevent)

/-! ## All messages -/

/-- **Every message is decoded from its own frame**, whatever its texts and numbers are.  The event
with a graph is left out: its frame is not written as a value but made from the graph's text. -/
theorem Frame.decode_encode_message :
    (∀ request : PanelRequest,
      decode PanelRequest.ofJson? (encode request.toJson) = .ok request) ∧
    (∀ event : PanelEvent, event.hasGraph = false →
      decode PanelEvent.ofJson? (encode event.toJson) = .ok event) ∧
    (∀ request : ActorRequest,
      decode ActorRequest.ofJson? (encode request.toJson) = .ok request) ∧
    ∀ packet : ActorPacket, decode ActorPacket.ofJson? (encode packet.toJson) = .ok packet :=
  ⟨PanelRequest.decode_encode, fun _ => PanelEvent.decode_encode, ActorRequest.decode_encode,
    ActorPacket.decode_encode⟩

/-- An error with the largest id, and with a quote, a backslash, a control character and a character
beyond ASCII in its text. -/
theorem Frame.decode_encode_error_sample :
    (PanelEvent.error (some ⟨18446744073709551615⟩) "\"\\\x01é").hasGraph = false ∧
    decode PanelEvent.ofJson?
        (encode (PanelEvent.error (some ⟨18446744073709551615⟩) "\"\\\x01é").toJson) =
      .ok (.error (some ⟨18446744073709551615⟩) "\"\\\x01é") :=
  ⟨rfl, decode_encode_message.2.1 _ rfl⟩

end CompileWatch
