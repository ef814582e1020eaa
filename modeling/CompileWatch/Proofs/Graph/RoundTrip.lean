import CompileWatch.Graph.Codec
import CompileWatch.Proofs.Message.RoundTrip
import CompileWatch.Proofs.Text.Assoc

/-!
# Graphs survive their frames

Everything in a graph is written field by field and read back the same way, except for
the operands of its resume points.  These are values of any shape, and the reader keeps
each of them in its merged form.  An operand survives that if no object in it has a name
twice, and it survives being written as text if its numbers are integers of 64 bits.
-/

namespace CompileWatch

/-! ## Merging -/

namespace Json.Value

/-- A value that merging leaves as it is and that its text stands for: no object has a name twice,
and all numbers are integers of 64 bits, with a sign or without. -/
inductive Canonical : Value → Prop
  | null : Canonical .null
  | bool (value : Bool) : Canonical (.bool value)
  | integer {value : Int} (hvalue : Fits64 value) : Canonical (.number (.integer value))
  | string (text : String) : Canonical (.string text)
  | array {items : List Value} (hitems : ∀ item ∈ items, Canonical item) : Canonical (.array items)
  | object {members : List (String × Value)} (hnames : (members.map Prod.fst).Nodup)
      (hmembers : ∀ member ∈ members, Canonical member.2) : Canonical (.object members)

theorem Canonical.integral {value : Value} (hvalue : value.Canonical) : value.Integral := by
  induction hvalue with
  | null => trivial
  | bool => trivial
  | integer hvalue => exact hvalue
  | string => trivial
  | array _ ih => exact (integralItems_iff _).2 ih
  | object _ _ ih => exact (integralMembers_iff _).2 ih

theorem mergedItems_eq_self {items : List Value} (hitems : ∀ item ∈ items, item.merged = item) :
    mergedItems items = items := by
  induction items with
  | nil => rfl
  | cons item items ih =>
      rw [List.forall_mem_cons] at hitems
      rw [mergedItems, ← merged, hitems.1, ih hitems.2]

/-- Members with new names go to the end, in their order. -/
theorem mergedMembers_of_nodup {before : Assoc String Value} {members : List (String × Value)}
    (hnames : ((before ++ members).map Prod.fst).Nodup)
    (hmembers : ∀ member ∈ members, member.2.merged = member.2) :
    mergedMembers before members = before ++ members := by
  induction members generalizing before with
  | nil => rw [mergedMembers, List.append_nil]
  | cons member members ih =>
      obtain ⟨name, value⟩ := member
      rw [List.forall_mem_cons] at hmembers
      have hname : name ∉ before.map Prod.fst := by
        rw [List.map_append, List.nodup_append] at hnames
        exact fun hmem => hnames.2.2 name hmem name (by simp) rfl
      rw [List.append_cons] at hnames ⊢
      rw [mergedMembers, Assoc.get?_of_notMem hname, ← merged, hmembers.1,
        Assoc.set_of_notMem hname, ih hnames hmembers.2]

theorem Canonical.merged_eq {value : Value} (hvalue : value.Canonical) : value.merged = value := by
  induction hvalue with
  | null => rfl
  | bool => rfl
  | integer => rfl
  | string => rfl
  | array _ ih => rw [merged, mergedInto, withItems, mergedItems_eq_self ih]
  | object hnames _ ih =>
      rw [merged, mergedInto, mergedMembers_of_nodup _ ih]
      · rfl
      · exact hnames

end Json.Value

/-! ## Resume points -/

open Json.Value

theorem integral_wordToJson (word : UInt32) : (wordToJson word).Integral :=
  integral_natural (by have := word.toNat_lt; omega)

theorem integral_words (words : List UInt32) : (ofList wordToJson words).Integral :=
  integral_ofList integral_wordToJson words

theorem toList?_words (words : List UInt32) :
    toList? toUInt32? (ofList wordToJson words) = some words :=
  toList?_ofList toUInt32?_natural words

theorem toText?_string (text : String) : toText? (.string text) = some text :=
  rfl

theorem integral_texts (texts : List String) : (ofList .string texts).Integral :=
  @integral_ofList String .string (fun _ => trivial) texts

theorem toList?_texts (texts : List String) : toList? toText? (ofList .string texts) = some texts :=
  toList?_ofList toText?_string texts

theorem ResumeMode.ofJson?_name (mode : ResumeMode) :
    ResumeMode.ofJson? (.string mode.name) = some mode := by
  cases mode <;> rfl

namespace ResumePoint

/-- All operands survive a frame. -/
def Canonical (point : ResumePoint) : Prop :=
  ∀ operand ∈ point.operands, operand.Canonical

variable {point : ResumePoint}

theorem toList?_operands (hpoint : point.Canonical) :
    toList? (fun operand => some operand.merged) (.array point.operands) = some point.operands := by
  have hread := @toList?_ofList_of_mem _ id (fun operand => some operand.merged) point.operands
    fun operand hoperand => congrArg some (hpoint operand hoperand).merged_eq
  rwa [ofList, List.map_id] at hread

theorem ofJson?_toJson (hpoint : point.Canonical) : ofJson? point.toJson = some point := by
  have hcaller : toOption? toUInt32? (ofOption wordToJson point.caller) = some point.caller :=
    toOption?_ofOption toUInt32?_natural (fun _ => nofun) point.caller
  simp [ofJson?, toJson, members?, field?, fieldOr?, occurrences?, ResumeMode.ofJson?_name,
    toList?_operands hpoint, hcaller]

theorem integral_toJson (hpoint : point.Canonical) : point.toJson.Integral := by
  have hoperands : IntegralItems point.operands :=
    (integralItems_iff _).2 fun operand hoperand => (hpoint operand hoperand).integral
  have hcaller : (ofOption wordToJson point.caller).Integral :=
    integral_ofOption fun word _ => integral_wordToJson word
  simp [toJson, Integral, IntegralMembers, hoperands, hcaller]

/-- A resume point that may be absent is read back. -/
theorem toOption?_toJson {point : Option ResumePoint} (hpoint : ∀ here ∈ point, here.Canonical) :
    toOption? ofJson? (ofOption toJson point) = some point :=
  toOption?_ofOption_of_mem (fun here hhere => ofJson?_toJson (hpoint here hhere)) fun _ => nofun

theorem integral_toJson? {point : Option ResumePoint} (hpoint : ∀ here ∈ point, here.Canonical) :
    (ofOption toJson point).Integral :=
  integral_ofOption fun here hhere => integral_toJson (hpoint here hhere)

end ResumePoint

/-! ## Instructions, blocks and passes -/

namespace Instruction

/-- All operands of the resume point survive a frame. -/
def Canonical (instruction : Instruction) : Prop :=
  ∀ point ∈ instruction.resumePoint, point.Canonical

variable {instruction : Instruction}

theorem ofJson?_toJson (hinstruction : instruction.Canonical) :
    ofJson? instruction.toJson = some instruction := by
  have htype : toOption? toText? (ofOption .string instruction.type) = some instruction.type :=
    toOption?_ofOption toText?_string (fun _ => nofun) instruction.type
  simp [ofJson?, toJson, members?, field?, fieldOr?, occurrences?, toText?, wordToJson,
    toUInt32?_natural, htype, toList?_texts, toList?_words,
    ResumePoint.toOption?_toJson hinstruction]

theorem integral_toJson (hinstruction : instruction.Canonical) : instruction.toJson.Integral := by
  have htype : (ofOption .string instruction.type).Integral := integral_ofOption fun _ _ => trivial
  simp [toJson, Integral, IntegralMembers, integral_wordToJson, htype, integral_texts,
    integral_words, ResumePoint.integral_toJson? hinstruction]

end Instruction

namespace Block

/-- All operands of the resume points survive a frame. -/
@[mk_iff canonical_iff]
structure Canonical (block : Block) : Prop where
  instructions : ∀ instruction ∈ block.instructions, instruction.Canonical
  resumePoint : ∀ point ∈ block.resumePoint, point.Canonical

variable {block : Block}

theorem ofJson?_toJson (hblock : block.Canonical) : ofJson? block.toJson = some block := by
  have hinstructions : toList? Instruction.ofJson? (ofList Instruction.toJson block.instructions) =
      some block.instructions :=
    toList?_ofList_of_mem fun instruction hinstruction =>
      Instruction.ofJson?_toJson (hblock.instructions instruction hinstruction)
  simp [ofJson?, toJson, members?, field?, fieldOr?, occurrences?, wordToJson, toUInt32?_natural,
    hinstructions, ResumePoint.toOption?_toJson hblock.resumePoint, toList?_texts, toList?_words]

theorem integral_toJson (hblock : block.Canonical) : block.toJson.Integral := by
  have hinstructions : (ofList Instruction.toJson block.instructions).Integral :=
    integral_ofList_of_mem fun instruction hinstruction =>
      Instruction.integral_toJson (hblock.instructions instruction hinstruction)
  simp [toJson, Integral, IntegralMembers, integral_wordToJson, hinstructions,
    ResumePoint.integral_toJson? hblock.resumePoint, integral_texts, integral_words]

end Block

namespace Pass

/-- All operands in the blocks survive a frame. -/
def Canonical (pass : Pass) : Prop :=
  ∀ block ∈ pass.blocks, block.Canonical

variable {pass : Pass}

theorem ofJson?_toJson (hpass : pass.Canonical) : ofJson? pass.toJson = some pass := by
  have hblocks : toList? Block.ofJson? (ofList Block.toJson pass.blocks) = some pass.blocks :=
    toList?_ofList_of_mem fun block hblock => Block.ofJson?_toJson (hpass block hblock)
  simp [ofJson?, toJson, members?, fieldOr?, occurrences?, hblocks]

theorem integral_toJson (hpass : pass.Canonical) : pass.toJson.Integral :=
  ⟨integral_ofList_of_mem fun block hblock => Block.integral_toJson (hpass block hblock), trivial⟩

end Pass

/-! ## Graphs -/

namespace Graph

/-- All operands at both lowering stages survive a frame. -/
structure Canonical (graph : Graph) : Prop where
  mir : graph.mir.Canonical
  lir : graph.lir.Canonical

variable {graph : Graph}

theorem ofJson?_toJson (hgraph : graph.Canonical) : ofJson? graph.toJson = some graph := by
  simp [ofJson?, toJson, members?, fieldOr?, occurrences?, Pass.ofJson?_toJson hgraph.mir,
    Pass.ofJson?_toJson hgraph.lir]

theorem integral_toJson (hgraph : graph.Canonical) : graph.toJson.Integral :=
  ⟨Pass.integral_toJson hgraph.mir, Pass.integral_toJson hgraph.lir, trivial⟩

/-- **A graph is decoded from its own frame**, whatever its blocks, instructions, resume points,
words and texts are: every field is the one that was written, absent ones included, and the operands
stand in their order, with the members of their objects in theirs. -/
theorem decode_encode_graph (graph : Graph) (hgraph : graph.Canonical) :
    Frame.decode Graph.ofJson? (Frame.encode graph.toJson) = .ok graph :=
  Frame.decode_encode (integral_toJson hgraph) (ofJson?_toJson hgraph)

/-- An operand with the least and the greatest integer, a name that has to be escaped, and objects
below one another. -/
def sampleOperand : Json.Value :=
  .object [("\"\\\x01", .array [.number (.integer (-9223372036854775808)), .null,
      .number (.integer 18446744073709551615)]),
    ("é", .object [("b", .bool true), ("a", .string "\n")])]

/-- One instruction that can resume in a caller, in a block that cannot. -/
def sampleGraph : Graph :=
  { mir := { blocks := [{
      number := 4294967295
      instructions := [{
        id := 0
        opcode := "\"Add\"\t"
        resumePoint := some { mode := .outer, operands := [sampleOperand, .null], caller := some 3 } }]
      successors := [7, 7] }] } }

theorem sampleGraph_survives :
    sampleGraph.Canonical ∧
      Frame.decode Graph.ofJson? (Frame.encode sampleGraph.toJson) = .ok sampleGraph := by
  have hoperand : sampleOperand.Canonical := by
    refine .object (by decide) ?_
    suffices harray : Json.Value.Canonical (.array _) ∧ Json.Value.Canonical (.object _) by
      simpa using harray
    constructor
    · refine .array ?_
      have hleast : (Json.Value.number (.integer (-9223372036854775808))).Canonical :=
        .integer (by simp [Json.Fits64])
      have hgreatest : (Json.Value.number (.integer 18446744073709551615)).Canonical :=
        .integer (by simp [Json.Fits64])
      simp [hleast, hgreatest, Json.Value.Canonical.null]
    · exact .object (by decide) (by simp [Json.Value.Canonical.bool, Json.Value.Canonical.string])
  have hgraph : sampleGraph.Canonical := by
    constructor
    · simp [sampleGraph, Pass.Canonical, Block.canonical_iff, Instruction.Canonical,
        ResumePoint.Canonical, hoperand, Json.Value.Canonical.null]
    · simp [sampleGraph, Pass.Canonical]
  exact ⟨hgraph, decode_encode_graph sampleGraph hgraph⟩

end Graph

end CompileWatch
