import CompileWatch.Proofs.Dot.Blocks
import CompileWatch.Proofs.Dot.Drawing
import CompileWatch.Proofs.Dot.Table
import Mathlib.Algebra.GroupWithZero.Nat

/-!
# The rows of a block

A block is shown as a table that is three columns wide, with its number at the head, then
its resume point and then its instructions.  An instruction has a row of its own, a row of
the instructions that it depends on through memory if there are any, and the row of its
resume point, above or below these as its mode says.  A resume point of the mode `outer`
has no row at an instruction.

`shownBlock` says so in terms of cells with the texts of the block as they are.  Whatever
characters are in them, the label of the block is read as these rows.
-/

namespace CompileWatch.Dot.Label

/-! ## What is shown -/

/-- The row of a resume point, with its caller between double parentheses. -/
def pointCells (point : ResumePoint) : List Cell :=
  [{ text := point.caller.elim "" fun caller => "((" ++ toString caller.toNat ++ "))" },
    { text := "resumepoint " ++ point.operandList, colour := some "grey50" }, {}]

/-- The row of the resume point of an instruction, if it is one of the given mode. -/
def pointCellsIn (mode : ResumeMode) (instruction : Instruction) : List (List Cell) :=
  (instruction.resumePoint.toList.filter fun point => point.mode = mode).map pointCells

/-- The colour of an opcode. -/
def shade (attributes : List String) : Option String :=
  if "RecoveredOnBailout" ∈ attributes then some "gray50"
  else if "Movable" ∈ attributes then some "blue"
  else none

/-- A type that is given and is not `None`. -/
def typeText : Option String → String
  | none => ""
  | some type => if type = "None" then "" else type

/-- The row of an instruction itself. -/
def instructionCells (instruction : Instruction) : List Cell :=
  [{ text := toString instruction.id.toNat },
    { text := instruction.opcode
      colour := shade instruction.attributes
      underlined := "NeverHoisted" ∈ instruction.attributes },
    { text := typeText instruction.type }]

/-- The row of the instructions that an instruction depends on. -/
def memoryCells (inputs : List UInt32) : List Cell :=
  [{},
    { text := "memory " ++ " ".intercalate (inputs.map fun input => toString input.toNat)
      colour := some "grey50" },
    {}]

/-- The rows of an instruction. -/
def shownInstruction (instruction : Instruction) : List (List Cell) :=
  pointCellsIn .at instruction ++
    (instructionCells instruction ::
      ((if instruction.memInputs = [] then [] else [memoryCells instruction.memInputs]) ++
        pointCellsIn .after instruction))

/-- The rows of a block. -/
def shownBlock (block : Block) : List (List Cell) :=
  titleCells ("Block " ++ toString block.number.toNat) ::
    (block.resumePoint.toList.map pointCells ++ block.instructions.flatMap shownInstruction)

/-! ## What is read -/

/-- The parentheses around a caller join its number. -/
theorem shows_callerMarkup (caller : UInt32) :
    Shows (callerMarkup caller) { text := "((" ++ toString caller.toNat ++ "))" } := by
  refine ⟨⟨trivial, trivial, trivial, trivial, trivial, trivial⟩, ?_⟩
  have hjoined : joined (callerMarkup caller) =
      [.text ("((" ++ toString caller.toNat ++ "))")] := by
    simp [joined, callerMarkup, addAll, add, Siblings.close, ← String.toList_inj]
  rw [hjoined]
  rfl

theorem means_emptyCell : Means cell? (.element "td" [] []) {} :=
  means_cell shows_nil (by simp) rfl

theorem means_resumePointRow (point : ResumePoint) :
    Means row? (resumePointRow point) (pointCells point) := by
  have hcaller : Shows ((point.caller.map callerMarkup).getD [])
      { text := point.caller.elim "" fun caller => "((" ++ toString caller.toNat ++ "))" } := by
    cases point.caller with
    | none => exact shows_nil
    | some caller => exact shows_callerMarkup caller
  have hoperands := (shows_text ("resumepoint " ++ point.operandList)).coloured
    "grey50" (by decide)
  exact means_row (.cons (means_leftCell hcaller)
    (.cons (means_leftCell hoperands) (.cons means_emptyCell .nil)))

theorem shows_opcodeMarkup (instruction : Instruction) :
    Shows [opcodeMarkup instruction]
      { text := instruction.opcode
        colour := shade instruction.attributes
        underlined := "NeverHoisted" ∈ instruction.attributes } := by
  have hplain := shows_text instruction.opcode
  have hgrey := hplain.coloured "gray50" (by decide)
  have hblue := hplain.coloured "blue" (by decide)
  unfold opcodeMarkup shade Instruction.isRecoveredOnBailout Instruction.isMovable
    Instruction.isNeverHoisted Instruction.hasAttribute
  simp only [List.contains_iff_mem]
  by_cases hnever : "NeverHoisted" ∈ instruction.attributes
  · rw [if_pos hnever, decide_eq_true hnever]
    split_ifs
    · exact hgrey.underlined
    · exact hblue.underlined
    · exact hplain.underlined
  · rw [if_neg hnever, decide_eq_false hnever]
    split_ifs
    · exact hgrey
    · exact hblue
    · exact hplain

theorem getD_resultType? (instruction : Instruction) :
    instruction.resultType?.getD "" = typeText instruction.type := by
  unfold Instruction.resultType? typeText
  cases instruction.type with
  | none => rfl
  | some type =>
      dsimp only
      by_cases hnone : type = "None"
      · rw [Option.filter_some_neg (by simpa using hnone), if_pos hnone]
        rfl
      · rw [Option.filter_some_pos (by simpa using hnone), if_neg hnone]
        rfl

theorem means_instructionRow (instruction : Instruction) :
    Means row? (instructionRow instruction) (instructionCells instruction) := by
  have hport : ∀ pair ∈ [("align", "left"), ("port", "i" ++ toString instruction.id.toNat)],
      IsAttribute pair := by
    rw [List.forall_mem_cons, List.forall_mem_singleton]
    have hname : IsName "port" := by decide
    have hplain : IsPlain ("i" ++ toString instruction.id.toNat) :=
      isPlain_number (by decide) instruction.id.toNat
    exact ⟨by decide, hname, fun c hc => (hplain c hc).1⟩
  have hnumber := means_cell (shows_text (toString instruction.id.toNat)) hport rfl
  have hopcode := means_leftCell (shows_opcodeMarkup instruction)
  have htype : Means cell? (.element "td" [("align", "right")]
      [.text (instruction.resultType?.getD "")]) { text := typeText instruction.type } := by
    rw [getD_resultType?]
    exact means_cell (shows_text (typeText instruction.type)) (by decide) rfl
  exact means_row (.cons hnumber (.cons hopcode (.cons htype .nil)))

theorem means_memoryRow (inputs : List UInt32) :
    Means row? (memoryRow inputs) (memoryCells inputs) := by
  have hinputs := (shows_text
    ("memory " ++ " ".intercalate (inputs.map fun input => toString input.toNat))).coloured
    "grey50" (by decide)
  exact means_row (.cons (means_leftCell shows_nil)
    (.cons (means_leftCell hinputs) (.cons means_emptyCell .nil)))

theorem means_resumePointRowIn (mode : ResumeMode) (instruction : Instruction) :
    List.Forall₂ (Means row?) (resumePointRowIn mode instruction)
      (pointCellsIn mode instruction) := by
  unfold resumePointRowIn pointCellsIn
  cases instruction.resumePoint with
  | none => exact .nil
  | some point =>
      dsimp only
      by_cases hmode : point.mode = mode
      · rw [if_pos hmode, Option.toList_some, List.filter_singleton, decide_eq_true hmode]
        exact .cons (means_resumePointRow point) .nil
      · rw [if_neg hmode, Option.toList_some, List.filter_singleton, decide_eq_false hmode]
        exact .nil

/-- The rows of an instruction show it, one after the other. -/
theorem means_instructionRows (instruction : Instruction) :
    List.Forall₂ (Means row?) (instructionRows instruction) (shownInstruction instruction) := by
  have hmemory : List.Forall₂ (Means row?)
      (if instruction.memInputs = [] then [] else [memoryRow instruction.memInputs])
      (if instruction.memInputs = [] then [] else [memoryCells instruction.memInputs]) := by
    split_ifs with hnone
    · exact .nil
    · exact .cons (means_memoryRow instruction.memInputs) .nil
  unfold instructionRows shownInstruction
  rw [List.append_assoc, List.append_assoc]
  refine List.rel_append (means_resumePointRowIn .at instruction) ?_
  refine .cons (means_instructionRow instruction) ?_
  exact List.rel_append hmemory (means_resumePointRowIn .after instruction)

theorem means_blockRows (block : Block) :
    List.Forall₂ (Means row?)
      (titleRow ("Block " ++ toString block.number.toNat) ::
        ((block.resumePoint.map resumePointRow).toList ++
          block.instructions.flatMap instructionRows))
      (shownBlock block) := by
  have hpoint : List.Forall₂ (Means row?) (block.resumePoint.map resumePointRow).toList
      (block.resumePoint.toList.map pointCells) := by
    cases block.resumePoint with
    | none => exact .nil
    | some point => exact .cons (means_resumePointRow point) .nil
  refine .cons (means_titleRow ("Block " ++ toString block.number.toNat)) ?_
  refine List.rel_append hpoint (forall₂_flatMap ?_)
  intro instruction _
  exact means_instructionRows instruction

/-! ## The width of a row -/

/-- How many columns some cells span together. -/
def width (cells : List Cell) : Nat :=
  (cells.map Cell.columns).sum

theorem width_shownInstruction (instruction : Instruction) :
    ∀ row ∈ shownInstruction instruction, width row = 3 := by
  have hpoint : ∀ mode, ∀ row ∈ pointCellsIn mode instruction, width row = 3 := by
    intro mode row hrow
    obtain ⟨point, -, rfl⟩ := List.mem_map.mp hrow
    rfl
  intro row hrow
  unfold shownInstruction at hrow
  rw [List.mem_append, List.mem_cons, List.mem_append] at hrow
  rcases hrow with hat | rfl | hmemory | hafter
  · exact hpoint .at row hat
  · rfl
  · split_ifs at hmemory with hnone
    · exact absurd hmemory List.not_mem_nil
    · rw [List.mem_singleton.mp hmemory]
      rfl
  · exact hpoint .after row hafter

theorem width_shownBlock (block : Block) : ∀ row ∈ shownBlock block, width row = 3 := by
  intro row hrow
  unfold shownBlock at hrow
  rw [List.mem_cons, List.mem_append] at hrow
  rcases hrow with rfl | hpoint | hinstruction
  · rfl
  · obtain ⟨point, -, rfl⟩ := List.mem_map.mp hpoint
    rfl
  · obtain ⟨instruction, -, hrow⟩ := List.mem_flatMap.mp hinstruction
    exact width_shownInstruction instruction row hrow

/-- **The label of a block is one table that shows the block**: its number, its resume point
and its instructions in their order, with the texts as they are in the block, and every row is
three columns wide. -/
theorem blockLabel_read (block : Block) :
    readTable? (blockLabel block).render = some (shownBlock block) ∧
      ∀ row ∈ shownBlock block, width row = 3 :=
  ⟨readTable?_table (means_blockRows block), width_shownBlock block⟩

end CompileWatch.Dot.Label
