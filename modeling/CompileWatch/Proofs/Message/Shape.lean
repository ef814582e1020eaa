import CompileWatch.Message.Actor
import CompileWatch.Message.Panel
import CompileWatch.Proofs.Json.Field
import Mathlib.Tactic.SplitIfs

/-!
# The fields of a message

The objects in a message have one shape each, and a shape has fields: for each its name on the
wire, what its value stands for, and what it is if it is left out.  In a message the fields depend
on its kind.  What is read from an object depends on nothing but its kind and these fields.
-/

namespace CompileWatch

open Json.Value

/-- What an object stands for. -/
inductive Shape
  | panelRequest
  | panelEvent
  | actorRequest
  | actorPacket
  | graph
  | pass
  | block
  | instruction
  | resumePoint
  | script
  deriving DecidableEq, Repr

namespace Shape

/-- What is read from an object of the shape. -/
@[reducible]
def Result : Shape → Type
  | .panelRequest => PanelRequest
  | .panelEvent => PanelEvent
  | .actorRequest => ActorRequest
  | .actorPacket => ActorPacket
  | .graph => Graph
  | .pass => Pass
  | .block => Block
  | .instruction => Instruction
  | .resumePoint => ResumePoint
  | .script => Script

def ofJson? : (shape : Shape) → Json.Value → Option shape.Result
  | .panelRequest => PanelRequest.ofJson?
  | .panelEvent => PanelEvent.ofJson?
  | .actorRequest => ActorRequest.ofJson?
  | .actorPacket => ActorPacket.ofJson?
  | .graph => Graph.ofJson?
  | .pass => Pass.ofJson?
  | .block => Block.ofJson?
  | .instruction => Instruction.ofJson?
  | .resumePoint => ResumePoint.ofJson?
  | .script => Script.ofJson?

/-- Whether the objects of the shape are messages, which name their kind. -/
def isMessage : Shape → Bool
  | .panelRequest | .panelEvent | .actorRequest | .actorPacket => true
  | _ => false

end Shape

/-- What the value of a field stands for. -/
inductive Contents : Type 1
  /-- A value without objects that stand for something. -/
  | plain {Held : Type} (decode : Json.Value → Option Held)
  | one (shape : Shape)
  | optional (shape : Shape)
  | many (shape : Shape)

namespace Contents

@[reducible]
def Held : Contents → Type
  | @plain Held _ => Held
  | .one shape => shape.Result
  | .optional shape => Option shape.Result
  | .many shape => List shape.Result

def decode : (contents : Contents) → Json.Value → Option contents.Held
  | .plain decode => decode
  | .one shape => shape.ofJson?
  | .optional shape => toOption? shape.ofJson?
  | .many shape => toList? shape.ofJson?

end Contents

/-- A field as it is written in an object. -/
structure WireField : Type 1 where
  name : String
  contents : Contents
  /-- What the field holds if it is left out, if it may be. -/
  missing : Option contents.Held := none

namespace WireField

def read? (field : WireField) (members : List (String × Json.Value)) :
    Option field.contents.Held :=
  match field.missing with
  | none => field? field.contents.decode field.name members
  | some missing => fieldOr? missing field.contents.decode field.name members

variable {field : WireField} {before after members members' : List (String × Json.Value)}

theorem read?_congr
    (hfound : occurrences? field.contents.decode field.name members =
      occurrences? field.contents.decode field.name members') :
    field.read? members = field.read? members' := by
  simp only [read?, field?, fieldOr?, hfound]

/-- A field that may be left out is the same without it and with what it then holds. -/
theorem read?_drop {missing : field.contents.Held} {value : Json.Value}
    (hmissing : field.missing = some missing) (hvalue : field.contents.decode value = some missing)
    (hnames : NamesDistinct (before ++ (field.name, value) :: after)) :
    field.read? (before ++ (field.name, value) :: after) = field.read? (before ++ after) := by
  have hgone : field.name ∉ (before ++ after).map Prod.fst := by
    rw [NamesDistinct, List.map_append, List.map_cons, List.nodup_middle, List.nodup_cons] at hnames
    rw [List.map_append]
    exact hnames.1
  simp only [read?, hmissing, fieldOr?, occurrences?_of_distinct hnames,
    occurrences?_of_notMem hgone, hvalue, Option.map_some, Option.getD_some, Option.getD_none]

end WireField

namespace Shape

/-! ## The fields of each shape -/

/-- The id of a compilation, which has to be there. -/
def idField : WireField :=
  { name := "id", contents := .plain CompilationId.ofJson? }

def scriptsField : WireField :=
  { name := "scripts", contents := .many .script }

/-- A field with a text, which has to be there. -/
def textField (name : String) : WireField :=
  { name, contents := .plain toText? }

/-- A field with a word, which has to be there. -/
def wordField (name : String) : WireField :=
  { name, contents := .plain toUInt32? }

def stateField (name : String) : WireField :=
  { name, contents := .plain AttachState.ofJson? }

/-- A field with a list of texts or words, which may be left out. -/
def listField {Item : Type} (name : String) (decode : Json.Value → Option Item) : WireField :=
  { name, contents := .plain (toList? decode), missing := some [] }

/-- A field with a text, a word or an id that may be left out. -/
def optionField {Held : Type} (name : String) (decode : Json.Value → Option Held) : WireField :=
  { name, contents := .plain (toOption? decode), missing := some none }

def resumePointField : WireField :=
  { name := "resumePoint", contents := .optional .resumePoint, missing := some none }

/-- A field with a pass, which may be left out. -/
def passField (name : String) : WireField :=
  { name, contents := .one .pass, missing := some {} }

def requestFields : Option String → List WireField
  | some "select-compilation" | some "remove-compilation" => [idField]
  | some "message" => [textField "msg"]
  | _ => []

def eventFields : Option String → List WireField
  | some "record-compilation" => [idField, scriptsField]
  | some "compilation-graph" =>
    [idField, scriptsField, { name := "graph", contents := .one .graph }]
  | some "error" => [optionField "id" CompilationId.ofJson?, textField "message"]
  | _ => []

def packetFields : Option String → List WireField
  | some "state" => [stateField "state"]
  | some "hello" => [textField "msg"]
  | some "wrong-state" => [stateField "expected", stateField "actual"]
  | some "protocol-error" => [textField "message"]
  | some "compilation" => [scriptsField, textField "json"]
  | _ => []

/-- The fields of the shape.  Those of a message depend on its kind; no other shape has kinds. -/
def fields : Shape → Option String → List WireField
  | .panelRequest, kind => requestFields kind
  | .panelEvent, kind => eventFields kind
  | .actorRequest, _ => []
  | .actorPacket, kind => packetFields kind
  | .graph, _ => [passField "mir", passField "lir"]
  | .pass, _ => [{ name := "blocks", contents := .many .block, missing := some [] }]
  | .block, _ =>
    [wordField "number",
      { name := "instructions", contents := .many .instruction, missing := some [] },
      resumePointField, listField "predecessors" toUInt32?, listField "successors" toUInt32?,
      listField "attributes" toText?]
  | .instruction, _ =>
    [wordField "id", textField "opcode", optionField "type" toText?, listField "attributes" toText?,
      listField "memInputs" toUInt32?, resumePointField]
  | .resumePoint, _ =>
    [{ name := "mode", contents := .plain ResumeMode.ofJson? },
      listField "operands" fun operand => some operand.merged, optionField "caller" toUInt32?]
  | .script, _ =>
    [optionField "displayName" toText?, textField "url", wordField "startLine",
      wordField "lineCount", wordField "sourceStart", wordField "sourceLength"]

/-- The names that are known in an object, with that of its kind if it has one. -/
def names (shape : Shape) (kind : Option String) : List String :=
  (if shape.isMessage then ["type"] else []) ++ (shape.fields kind).map WireField.name

/-- Each name is known for one thing. -/
theorem nodup_names (shape : Shape) (kind : Option String) : (shape.names kind).Nodup := by
  cases shape with
  | panelRequest =>
      simp only [names, isMessage, reduceIte, fields, requestFields.eq_def]
      split <;> decide
  | panelEvent =>
      simp only [names, isMessage, reduceIte, fields, eventFields.eq_def]
      split <;> decide
  | actorPacket =>
      simp only [names, isMessage, reduceIte, fields, packetFields.eq_def]
      split <;> decide
  | actorRequest | graph | pass | block | instruction | resumePoint | script =>
      rw [names, fields]
      decide

variable {members members' : List (String × Json.Value)}

/-- **What an object stands for depends on its kind and its fields alone.** -/
theorem ofJson?_congr (shape : Shape) (hkind : shape.isMessage → kind? members = kind? members')
    (hfields : ∀ field ∈ shape.fields (kind? members), field.read? members = field.read? members') :
    shape.ofJson? (.object members) = shape.ofJson? (.object members') := by
  cases shape with
  | graph | pass | block | instruction | resumePoint | script =>
      simp only [fields, List.forall_mem_cons, passField, wordField, textField, listField,
        optionField, resumePointField, WireField.read?, Contents.decode, ofJson?] at hfields
      simp only [ofJson?, Graph.ofJson?, Pass.ofJson?, Block.ofJson?, Instruction.ofJson?,
        ResumePoint.ofJson?, Script.ofJson?, members?, Option.bind_eq_bind, Option.bind_some,
        hfields]
  | actorRequest =>
      simp only [ofJson?, ActorRequest.ofJson?, members?, Option.bind_eq_bind, Option.bind_some,
        hkind rfl]
  | panelRequest | panelEvent | actorPacket =>
      simp only [ofJson?, PanelRequest.ofJson?, PanelEvent.ofJson?, ActorPacket.ofJson?, members?,
        Option.bind_eq_bind, Option.bind_some, ← hkind rfl]
      generalize kind? members = kind at hfields
      cases kind with
      | none => rfl
      | some kind =>
          simp only [Option.bind_some]
          -- one case for each kind of message, and one for a kind that there is not
          split_ifs
          all_goals
            subst_vars
            simp only [fields, requestFields, eventFields, packetFields, List.forall_mem_cons,
              idField, scriptsField, textField, stateField, optionField, WireField.read?,
              Contents.decode, ofJson?] at hfields
            simp only [hfields]

/-! ## Changes that do not matter -/

variable {shape : Shape} {kind : Option String} {field : WireField}
  {before after : List (String × Json.Value)} {value value' : Json.Value}

theorem eq_of_name {other : WireField} (hfield : field ∈ shape.fields kind)
    (hother : other ∈ shape.fields kind) (hname : field.name = other.name) : field = other :=
  List.inj_on_of_nodup_map (shape.nodup_names kind).of_append_right hfield hother hname

theorem name_ne_type (hmessage : shape.isMessage) (hfield : field ∈ shape.fields kind) :
    field.name ≠ "type" := by
  have hnames := shape.nodup_names kind
  rw [names, if_pos hmessage, List.singleton_append, List.nodup_cons] at hnames
  rintro hname
  exact hnames.1 (hname ▸ List.mem_map_of_mem hfield)

/-- A member whose name is not known changes nothing. -/
theorem ofJson?_insert {member : String × Json.Value}
    (hname : member.1 ∉ shape.names (kind? (before ++ after))) :
    shape.ofJson? (.object (before ++ after)) =
      shape.ofJson? (.object (before ++ member :: after)) := by
  simp only [names, List.mem_append, not_or] at hname
  refine shape.ofJson?_congr (fun hmessage => (kind?_insert ?_).symm) fun field hfield =>
    WireField.read?_congr (occurrences?_insert ?_).symm
  · rw [if_pos hmessage, List.mem_singleton] at hname
    exact hname.1
  · rintro hsame
    exact hname.2 (hsame ▸ List.mem_map_of_mem hfield)

/-- The order of the members does not matter. -/
theorem ofJson?_perm (hnames : NamesDistinct members) (hperm : members.Perm members') :
    shape.ofJson? (.object members) = shape.ofJson? (.object members') :=
  shape.ofJson?_congr (fun _ => kind?_perm hnames hperm) fun _ _ =>
    WireField.read?_congr (occurrences?_perm hnames hperm)

/-- What a field holds matters only as it is read. -/
theorem ofJson?_replace
    (hfield : field ∈ shape.fields (kind? (before ++ (field.name, value) :: after)))
    (hdecode : field.contents.decode value = field.contents.decode value') :
    shape.ofJson? (.object (before ++ (field.name, value) :: after)) =
      shape.ofJson? (.object (before ++ (field.name, value') :: after)) := by
  refine shape.ofJson?_congr (fun hmessage => kind?_replace (name_ne_type hmessage hfield) _ _)
    fun other hother => WireField.read?_congr (occurrences?_replace fun hname => ?_)
  obtain rfl := eq_of_name hfield hother hname
  exact hdecode

/-- A field that may be left out can be left out instead of what it then holds. -/
theorem ofJson?_drop {missing : field.contents.Held}
    (hfield : field ∈ shape.fields (kind? (before ++ (field.name, value) :: after)))
    (hmissing : field.missing = some missing) (hvalue : field.contents.decode value = some missing)
    (hnames : NamesDistinct (before ++ (field.name, value) :: after)) :
    shape.ofJson? (.object (before ++ (field.name, value) :: after)) =
      shape.ofJson? (.object (before ++ after)) := by
  refine shape.ofJson?_congr (fun hmessage => kind?_insert (name_ne_type hmessage hfield))
    fun other hother => ?_
  by_cases hname : field.name = other.name
  · -- no other field has the name
    obtain rfl := eq_of_name hfield hother hname
    exact WireField.read?_drop hmissing hvalue hnames
  · exact WireField.read?_congr (occurrences?_insert hname)

end Shape

end CompileWatch
