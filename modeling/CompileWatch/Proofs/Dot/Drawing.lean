import CompileWatch.Dot.Drawing
import CompileWatch.Proofs.Dot.Escape
import CompileWatch.Proofs.Dot.Reader
import CompileWatch.Proofs.Text.Sets

/-!
# Drawings are read back

The drawing of a compilation holds free text in three places: in the cells of its labels,
where it is escaped, and in names and style classes, which are made from numbers.  So its
labels close every bracket that they open, whatever the texts are, and a reader of graph
documents finds the document that was drawn.
-/

namespace CompileWatch.Dot

/-! ## Labels close their brackets -/

/-- Whether a text can neither open nor close a tag. -/
def Bracketless (text : String) : Prop :=
  ∀ c ∈ text.toList, c ≠ '<' ∧ c ≠ '>'

instance (text : String) : Decidable (Bracketless text) :=
  decidable_of_iff (text.toList.all fun c => c ≠ '<' ∧ c ≠ '>') (by simp [Bracketless])

theorem Bracketless.balanced {text : String} (htext : Bracketless text) : Balanced text.toList :=
  balanced_of_forall htext

theorem Bracketless.append {first second : String} (hfirst : Bracketless first)
    (hsecond : Bracketless second) : Bracketless (first ++ second) := by
  intro c hc
  rw [String.toList_append, List.mem_append] at hc
  rcases hc with hc | hc
  · exact hfirst c hc
  · exact hsecond c hc

theorem isDigit_toString {n : Nat} {c : Char} (hc : c ∈ (toString n).toList) : c.isDigit := by
  rw [show (toString n).toList = Nat.toDigits 10 n from Nat.toList_repr] at hc
  exact Nat.isDigit_of_mem_toDigits (by decide) (by decide) hc

theorem bracketless_toString (n : Nat) : Bracketless (toString n) := by
  intro c hc
  have hdigit := isDigit_toString hc
  constructor <;> (rintro rfl; exact absurd hdigit (by decide))

/-- An escaped text has no brackets, whatever the text is. -/
theorem bracketless_escape (text : String) : Bracketless (escape text) := by
  intro c hc
  constructor
  · rintro rfl
    exact notMem_escape (by decide) text hc
  · rintro rfl
    exact notMem_escape (by decide) text hc

namespace Markup

mutual

/-- The tags and attributes of a piece have no brackets in them; its texts may have any. -/
def Tidy : Markup → Prop
  | .text _ => True
  | .reference _ => True
  | .element tag attributes children =>
    Bracketless tag ∧ (∀ pair ∈ attributes, Bracketless pair.1 ∧ Bracketless pair.2) ∧
      AllTidy children

def AllTidy : List Markup → Prop
  | [] => True
  | piece :: rest => piece.Tidy ∧ AllTidy rest

end

theorem allTidy_iff {pieces : List Markup} : AllTidy pieces ↔ ∀ piece ∈ pieces, piece.Tidy := by
  induction pieces with
  | nil => simp [AllTidy]
  | cons piece rest ih => simp [AllTidy, ih]

theorem bracketless_renderAttributes {attributes : List (String × String)}
    (hattributes : ∀ pair ∈ attributes, Bracketless pair.1 ∧ Bracketless pair.2) :
    Bracketless (renderAttributes attributes) := by
  intro c hc
  rw [renderAttributes, String.toList_join, List.flatMap_map, List.mem_flatMap] at hc
  obtain ⟨pair, hpair, hc⟩ := hc
  obtain ⟨hname, hvalue⟩ := hattributes pair hpair
  have hblank : Bracketless " " := by decide
  have hequals : Bracketless "=\"" := by decide
  have hquote : Bracketless "\"" := by decide
  exact (((hblank.append hname).append hequals).append hvalue).append hquote c hc

mutual

theorem balanced_render {piece : Markup} (hpiece : piece.Tidy) : Balanced piece.render.toList := by
  cases piece with
  | text content =>
      rw [render]
      exact (bracketless_escape content).balanced
  | reference c =>
      have hopening : Bracketless "&#" := by decide
      have hclosing : Bracketless ";" := by decide
      rw [render]
      exact ((hopening.append (bracketless_toString c.toNat)).append hclosing).balanced
  | element tag attributes children =>
      obtain ⟨htag, hattributes, hchildren⟩ := hpiece
      have hslash : Bracketless "/" := by decide
      have hopening := (htag.append (bracketless_renderAttributes hattributes)).balanced.tag
      have hclosing := (hslash.append htag).balanced.tag
      have hall := (hopening.append (balanced_renderAll hchildren)).append hclosing
      rw [render]
      simpa using hall

theorem balanced_renderAll {pieces : List Markup} (hpieces : AllTidy pieces) :
    Balanced (renderAll pieces).toList := by
  cases pieces with
  | nil => exact balanced_nil
  | cons piece rest =>
      rw [renderAll, String.toList_append]
      exact (balanced_render hpieces.1).append (balanced_renderAll hpieces.2)

end

end Markup

open Markup

/-! ### The pieces of a label -/

theorem tidy_leftCell {children : List Markup} (hchildren : AllTidy children) :
    (leftCell children).Tidy := by
  refine ⟨by decide, by decide, hchildren⟩

theorem tidy_coloured {colour : String} (hcolour : Bracketless colour) {children : List Markup}
    (hchildren : AllTidy children) : (coloured colour children).Tidy := by
  refine ⟨by decide, ?_, hchildren⟩
  rw [List.forall_mem_singleton]
  exact ⟨show Bracketless "color" by decide, hcolour⟩

theorem tidy_row {cells : List Markup} (hcells : AllTidy cells) :
    (Markup.element "tr" [] cells).Tidy :=
  ⟨by decide, by simp, hcells⟩

theorem tidy_titleRow (title : String) : (titleRow title).Tidy :=
  tidy_row ⟨⟨by decide, by decide, tidy_coloured (by decide) ⟨trivial, trivial⟩, trivial⟩, trivial⟩

theorem tidy_wideRow (content : String) : (wideRow content).Tidy :=
  tidy_row ⟨⟨by decide, by decide, trivial, trivial⟩, trivial⟩

theorem tidy_emptyCell : (Markup.element "td" [] []).Tidy :=
  ⟨by decide, by simp, trivial⟩

theorem tidy_resumePointRow (point : ResumePoint) : (resumePointRow point).Tidy := by
  have hcaller : AllTidy ((point.caller.map callerMarkup).getD []) := by
    cases point.caller with
    | none => trivial
    | some caller => exact ⟨trivial, trivial, trivial, trivial, trivial, trivial⟩
  exact tidy_row ⟨tidy_leftCell hcaller,
    tidy_leftCell ⟨tidy_coloured (by decide) ⟨trivial, trivial⟩, trivial⟩, tidy_emptyCell, trivial⟩

theorem tidy_opcodeMarkup (instruction : Instruction) : (opcodeMarkup instruction).Tidy := by
  have hplain : AllTidy [.text instruction.opcode] := ⟨trivial, trivial⟩
  unfold opcodeMarkup
  dsimp only
  split_ifs
  · exact ⟨by decide, by simp, tidy_coloured (by decide) hplain, trivial⟩
  · exact ⟨by decide, by simp, tidy_coloured (by decide) hplain, trivial⟩
  · exact ⟨by decide, by simp, trivial, trivial⟩
  · exact tidy_coloured (by decide) hplain
  · exact tidy_coloured (by decide) hplain
  · trivial

theorem tidy_instructionRow (instruction : Instruction) : (instructionRow instruction).Tidy := by
  have hport : Bracketless ("i" ++ toString instruction.id.toNat) :=
    Bracketless.append (by decide) (bracketless_toString _)
  have hnumber : (Markup.element "td"
      [("align", "left"), ("port", "i" ++ toString instruction.id.toNat)]
      [.text (toString instruction.id.toNat)]).Tidy := by
    refine ⟨by decide, ?_, trivial, trivial⟩
    rw [List.forall_mem_cons, List.forall_mem_singleton]
    exact ⟨by decide, show Bracketless "port" by decide, hport⟩
  exact tidy_row ⟨hnumber, tidy_leftCell ⟨tidy_opcodeMarkup instruction, trivial⟩,
    ⟨by decide, by decide, trivial, trivial⟩, trivial⟩

theorem tidy_memoryRow (inputs : List UInt32) : (memoryRow inputs).Tidy :=
  tidy_row ⟨tidy_leftCell trivial,
    tidy_leftCell ⟨tidy_coloured (by decide) ⟨trivial, trivial⟩, trivial⟩, tidy_emptyCell, trivial⟩

theorem tidy_resumePointRowIn (mode : ResumeMode) (instruction : Instruction) :
    ∀ row ∈ resumePointRowIn mode instruction, row.Tidy := by
  intro row hrow
  unfold resumePointRowIn at hrow
  split at hrow
  · split_ifs at hrow
    · rw [List.mem_singleton.mp hrow]
      exact tidy_resumePointRow _
    · cases hrow
  · cases hrow

theorem tidy_instructionRows (instruction : Instruction) :
    ∀ row ∈ instructionRows instruction, row.Tidy := by
  intro row hrow
  simp only [instructionRows, List.mem_append, List.mem_singleton] at hrow
  rcases hrow with ((hrow | rfl) | hrow) | hrow
  · exact tidy_resumePointRowIn .at instruction row hrow
  · exact tidy_instructionRow instruction
  · split_ifs at hrow
    · cases hrow
    · rw [List.mem_singleton.mp hrow]
      exact tidy_memoryRow _
  · exact tidy_resumePointRowIn .after instruction row hrow

theorem tidy_table {rows : List Markup} (hrows : ∀ row ∈ rows, row.Tidy) : (table rows).Tidy :=
  ⟨by decide, by decide, allTidy_iff.mpr hrows⟩

theorem tidy_blockLabel (block : Block) : (blockLabel block).Tidy := by
  refine tidy_table fun row hrow => ?_
  simp only [List.mem_cons, List.mem_append, Option.mem_toList, Option.map_eq_some_iff,
    List.mem_flatMap] at hrow
  rcases hrow with rfl | ⟨point, -, rfl⟩ | ⟨instruction, -, hrow⟩
  · exact tidy_titleRow _
  · exact tidy_resumePointRow point
  · exact tidy_instructionRows instruction row hrow

theorem tidy_frameLabel (id : FrameId) (script : Option Script) : (frameLabel id script).Tidy := by
  refine tidy_table ?_
  cases script with
  | none =>
      rw [List.forall_mem_singleton]
      exact tidy_titleRow _
  | some script =>
      rw [List.forall_mem_cons, List.forall_mem_singleton]
      exact ⟨tidy_titleRow _, tidy_wideRow _⟩

/-! ## Drawings are sound -/

theorem sound_word {text : String} (htext : IsWord text.toList) : (Value.word text).Sound :=
  htext

theorem isPlain_number {word : String} (hword : IsPlain word) (n : Nat) :
    IsPlain (word ++ toString n) := by
  intro c hc
  rw [String.toList_append, List.mem_append] at hc
  rcases hc with hc | hc
  · exact hword c hc
  · have hdigit := isDigit_toString hc
    constructor <;> (rintro rfl; exact absurd hdigit (by decide))

/-- Names of one word differ in their numbers. -/
theorem numbered_injective (word : String) :
    Function.Injective fun n : Nat => word ++ toString n := by
  intro first second hname
  have htext : toString first = toString second := (String.append_right_inj word).mp hname
  have hdigits : Nat.toDigits 10 first = Nat.toDigits 10 second := by
    rw [← Nat.toList_repr, ← Nat.toList_repr]
    exact congrArg String.toList htext
  calc first = Nat.ofDigitChars 10 (Nat.toDigits 10 first) 0 := Nat.ofDigitChars_ten_toDigits.symm
    _ = Nat.ofDigitChars 10 (Nat.toDigits 10 second) 0 := by rw [hdigits]
    _ = second := Nat.ofDigitChars_ten_toDigits

theorem isPlain_blockName (number : UInt32) : IsPlain (blockName number) :=
  isPlain_number (by decide) number.toNat

theorem isPlain_frameName (id : FrameId) : IsPlain (frameName id) :=
  isPlain_number (by decide) id.index

/-- Attributes are sound if the sets that they come from are. -/
theorem sound_ofSets {sets : List (String × Value)} (hsets : Attributes.Sound sets) :
    Attributes.Sound (Assoc.ofSets sets) := by
  rintro ⟨key, value⟩ hpair
  exact hsets _ (((Assoc.reflects_ofSets sets).mem_iff key value).mp hpair).mem

theorem sound_decoration (block : Block) : Attributes.Sound (decoration block) := by
  intro pair hpair
  simp only [decoration, List.mem_append] at hpair
  rcases hpair with (hpair | hpair) | hpair
  all_goals
    split_ifs at hpair
    · rw [List.mem_singleton.mp hpair]
      exact ⟨by decide, sound_word (by decide)⟩
    · cases hpair

theorem sound_blockNode (block : Block) (upper : Option Block) (frame : FrameId) :
    (blockNode block upper frame).Sound where
  name := isPlain_blockName block.number
  attributes := by
    refine sound_ofSets fun pair hpair => ?_
    simp only [List.mem_append, List.mem_cons, List.not_mem_nil, or_false] at hpair
    rcases hpair with ((rfl | rfl) | hpair) | rfl
    · exact ⟨by decide, sound_word (by decide)⟩
    · exact ⟨show IsWord "label".toList by decide, balanced_render (tidy_blockLabel block)⟩
    · cases upper with
      | none => cases hpair
      | some upper => exact sound_decoration upper pair hpair
    · exact ⟨show IsWord "class".toList by decide, trivial⟩

theorem sound_frameNode (scripts : List Script) (id : FrameId) (frame : InlineFrame) :
    (frameNode scripts id frame).Sound where
  name := isPlain_frameName id
  attributes := by
    refine sound_ofSets fun pair hpair => ?_
    simp only [List.mem_cons, List.not_mem_nil, or_false] at hpair
    rcases hpair with rfl | rfl | rfl
    · exact ⟨by decide, sound_word (by decide)⟩
    · exact ⟨show IsWord "label".toList by decide, balanced_render (tidy_frameLabel _ _)⟩
    · exact ⟨show IsWord "class".toList by decide, trivial⟩

theorem sound_edgeLabel (successors : List UInt32) (position : Nat) :
    (edgeLabel successors position).Sound := by
  intro pair hpair
  unfold edgeLabel at hpair
  split_ifs at hpair with htwo hfirst
  · rw [List.mem_singleton.mp hpair]
    exact ⟨by decide, sound_word (by decide)⟩
  · rw [List.mem_singleton.mp hpair]
    exact ⟨by decide, sound_word (by decide)⟩
  · cases hpair

theorem sound_passEdges (blocks : List Block) (graph : Graph) :
    ∀ edge ∈ passEdges blocks graph, edge.Sound := by
  intro edge hedge
  simp only [passEdges, blockEdges, List.mem_flatMap, List.mem_map] at hedge
  obtain ⟨⟨block, index⟩, -, ⟨successor, position⟩, -, rfl⟩ := hedge
  exact ⟨isPlain_blockName _, isPlain_blockName _, sound_edgeLabel _ _⟩

theorem sound_nodes (mode : DisplayMode) (graph : Graph) (scripts : List Script)
    (tree : InlineTree) : ∀ node ∈ nodes mode graph scripts tree, node.Sound := by
  intro node hnode
  cases mode with
  | mir | lir =>
      obtain ⟨⟨block, position⟩, -, rfl⟩ := List.mem_map.mp hnode
      exact sound_blockNode block _ _
  | src =>
      obtain ⟨⟨id, frame⟩, -, rfl⟩ := List.mem_map.mp hnode
      exact sound_frameNode scripts id frame

theorem sound_edges (mode : DisplayMode) (graph : Graph) (tree : InlineTree) :
    ∀ edge ∈ edges mode graph tree, edge.Sound := by
  cases mode with
  | mir => exact sound_passEdges graph.mir.blocks graph
  | lir => exact sound_passEdges graph.lir.blocks graph
  | src =>
      intro edge hedge
      obtain ⟨⟨id, frame⟩, -, hedge⟩ := List.mem_filterMap.mp hedge
      obtain ⟨parent, -, rfl⟩ := Option.map_eq_some_iff.mp hedge
      exact ⟨isPlain_frameName _, isPlain_frameName _, by simp [Attributes.Sound]⟩

theorem sound_draw (mode : DisplayMode) (graph : Graph) (scripts : List Script)
    (tree : InlineTree) : (draw mode graph scripts tree).Sound where
  name := by
    have hname : ∀ mode : DisplayMode, IsWord mode.name.toList := by
      intro mode
      cases mode <;> decide
    exact hname mode
  attributes := by
    intro pair hpair
    simp only [draw, List.mem_cons, List.not_mem_nil, or_false] at hpair
    rcases hpair with rfl | rfl
    · exact ⟨by decide, sound_word (by decide)⟩
    · exact ⟨by decide, sound_word (by decide)⟩
  nodes := sound_nodes mode graph scripts tree
  edges := sound_edges mode graph tree

/-- **A drawing is read back as it was drawn.**  Whatever characters there are in the texts of a
compilation, a reader of its drawing finds the name, the attributes, the nodes and the edges of
the document, in order, and all their attributes with their values. -/
theorem drawing_read_back (mode : DisplayMode) (graph : Graph) (scripts : List Script)
    (tree : InlineTree) :
    Document.read? (drawing mode graph scripts tree) = some (draw mode graph scripts tree) :=
  Document.read?_render (sound_draw mode graph scripts tree)

end CompileWatch.Dot
