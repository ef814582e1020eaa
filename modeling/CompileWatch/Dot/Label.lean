import CompileWatch.Dot.Markup
import CompileWatch.Graph.Operand
import CompileWatch.InlineTree.Basic

/-!
# Labels

The label of a block or frame is a table of three columns.  A block shows its
number, its resume point and its instructions; a frame shows its script.  An
instruction takes a row of its own, with its resume point above it or below it
depending on the mode, and a row for the memory it depends on.
-/

namespace CompileWatch.Dot

open Markup

/-! ## Cells and rows -/

/-- A cell at the left of its column. -/
def leftCell (children : List Markup) : Markup :=
  .element "td" [("align", "left")] children

/-- Pieces in a colour. -/
def coloured (colour : String) (children : List Markup) : Markup :=
  .element "font" [("color", colour)] children

/-- The row at the head of a table, with a title across all columns. -/
def titleRow (title : String) : Markup :=
  .element "tr" []
    [.element "td" [("align", "center"), ("bgcolor", "black"), ("colspan", "3")]
      [coloured "white" [.text title]]]

/-- A row with one text across all columns. -/
def wideRow (content : String) : Markup :=
  .element "tr" [] [.element "td" [("align", "left"), ("colspan", "3")] [.text content]]

/-- The caller of a resume point between double parentheses, which are written by references. -/
def callerMarkup (caller : UInt32) : List Markup :=
  [.reference '(', .reference '(', .text (toString caller.toNat), .reference ')', .reference ')']

/-- The row of a resume point: its caller, if it has one, and its operands. -/
def resumePointRow (point : ResumePoint) : Markup :=
  .element "tr" []
    [leftCell ((point.caller.map callerMarkup).getD []),
      leftCell [coloured "grey50" [.text ("resumepoint " ++ point.operandList)]],
      .element "td" [] []]

/-! ## Instructions -/

/-- The opcode of an instruction: grey if it is recovered on a bailout, else blue if it is movable,
and underlined if it is never hoisted. -/
def opcodeMarkup (instruction : Instruction) : Markup :=
  let plain := Markup.text instruction.opcode
  let shaded :=
    if instruction.isRecoveredOnBailout then coloured "gray50" [plain]
    else if instruction.isMovable then coloured "blue" [plain]
    else plain
  if instruction.isNeverHoisted then .element "u" [] [shaded] else shaded

/-- The row of an instruction itself: its id, its opcode and the type of its result. -/
def instructionRow (instruction : Instruction) : Markup :=
  let id := toString instruction.id.toNat
  .element "tr" []
    [.element "td" [("align", "left"), ("port", "i" ++ id)] [.text id],
      leftCell [opcodeMarkup instruction],
      .element "td" [("align", "right")] [.text (instruction.resultType?.getD "")]]

/-- The row with the instructions that an instruction depends on through memory. -/
def memoryRow (inputs : List UInt32) : Markup :=
  let ids := " ".intercalate (inputs.map fun input => toString input.toNat)
  .element "tr" []
    [leftCell [], leftCell [coloured "grey50" [.text ("memory " ++ ids)]], .element "td" [] []]

/-- The row of the instruction's resume point, if it has one of the given mode. -/
def resumePointRowIn (mode : ResumeMode) (instruction : Instruction) : List Markup :=
  match instruction.resumePoint with
  | some point => if point.mode = mode then [resumePointRow point] else []
  | none => []

/-- All rows of an instruction. -/
def instructionRows (instruction : Instruction) : List Markup :=
  resumePointRowIn .at instruction ++ [instructionRow instruction] ++
    (if instruction.memInputs = [] then [] else [memoryRow instruction.memInputs]) ++
    resumePointRowIn .after instruction

/-! ## Labels -/

/-- A table with the given rows. -/
def table (rows : List Markup) : Markup :=
  .element "table" [("border", "0"), ("cellborder", "0"), ("cellpadding", "1")] rows

/-- The label of a block. -/
def blockLabel (block : Block) : Markup :=
  table (titleRow ("Block " ++ toString block.number.toNat) ::
    ((block.resumePoint.map resumePointRow).toList ++ block.instructions.flatMap instructionRows))

/-- The label of a frame, which shows its script or, if it is not known, its number. -/
def frameLabel (id : FrameId) (script : Option Script) : Markup :=
  table <| match script with
    | some script => [titleRow script.name, wideRow script.location]
    | none => [titleRow ("frame " ++ toString id.index)]

end CompileWatch.Dot
