import CompileWatch.Dot.Label
import CompileWatch.Proofs.Dot.Tag
import Mathlib.Data.List.Forall2

/-!
# Labels as tables

The tags of a label have to be nested: each closing tag ends the element that was opened
last.  Texts that stand next to each other are read as one, and an empty text leaves no
trace (`joined`).

What a viewer makes of a label is a table, that is, some rows of cells.  A cell spans one
or more columns and holds one text in one style.  `readTable?` reads the table from the
label, and refuses whatever is not one table of that kind.
-/

namespace CompileWatch.Dot.Label

/-! ## Nested tags -/

/-- Pieces next to each other, and the characters behind the last tag. -/
structure Siblings where
  pieces : List Markup := []
  pending : List Char := []

/-- The pieces, the last of which is a text if characters are pending. -/
def Siblings.close (siblings : Siblings) : List Markup :=
  siblings.pieces ++
    if siblings.pending = [] then [] else [.text (String.ofList siblings.pending)]

/-- An element whose closing tag is still to come, with the pieces in front of it. -/
structure Unclosed where
  tag : String
  attributes : List (String × String)
  before : List Markup

/-- The pieces that the tokens stand for, inside of some unclosed elements. -/
def nest? (around : List Unclosed) (siblings : Siblings) : List Token → Option (List Markup)
  | [] =>
    match around with
    | [] => some siblings.close
    | _ :: _ => none
  | .char c :: rest => nest? around { siblings with pending := siblings.pending ++ [c] } rest
  | .opening tag attributes :: rest => nest? (⟨tag, attributes, siblings.close⟩ :: around) {} rest
  | .closing tag :: rest =>
    match around with
    | [] => none
    | unclosed :: around =>
      if unclosed.tag = tag then
        nest? around
          { pieces := unclosed.before ++ [.element tag unclosed.attributes siblings.close] } rest
      else none

/-- Reads the pieces of a label. -/
def read? (label : String) : Option (List Markup) :=
  (tokens? label.toList).bind (nest? [] {})

mutual

/-- Some pieces with one more behind them. -/
def add (siblings : Siblings) : Markup → Siblings
  | .text content => { siblings with pending := siblings.pending ++ content.toList }
  | .reference c => { siblings with pending := siblings.pending ++ [c] }
  | .element tag attributes children =>
    { pieces := siblings.close ++ [.element tag attributes (addAll {} children).close] }

def addAll (siblings : Siblings) : List Markup → Siblings
  | [] => siblings
  | piece :: rest => addAll (add siblings piece) rest

end

/-- The pieces with adjacent texts joined, at every depth. -/
def joined (pieces : List Markup) : List Markup :=
  (addAll {} pieces).close

theorem nest?_chars (around : List Unclosed) (siblings : Siblings) (content : List Char)
    (rest : List Token) :
    nest? around siblings (content.map .char ++ rest) =
      nest? around { siblings with pending := siblings.pending ++ content } rest := by
  induction content generalizing siblings with
  | nil => rw [List.append_nil]; rfl
  | cons c content ih =>
      rw [List.map_cons, List.cons_append, nest?, ih, List.append_assoc]
      rfl

mutual

theorem nest?_tokens (piece : Markup) (around : List Unclosed) (siblings : Siblings)
    (rest : List Token) :
    nest? around siblings (tokens piece ++ rest) = nest? around (add siblings piece) rest := by
  cases piece with
  | text content => exact nest?_chars around siblings content.toList rest
  | reference c => rfl
  | element tag attributes children =>
      rw [tokens, List.cons_append, nest?, List.append_assoc, nest?_allTokens,
        List.singleton_append, nest?, if_pos rfl, add]

theorem nest?_allTokens (pieces : List Markup) (around : List Unclosed) (siblings : Siblings)
    (rest : List Token) :
    nest? around siblings (allTokens pieces ++ rest) =
      nest? around (addAll siblings pieces) rest := by
  cases pieces with
  | nil => rfl
  | cons piece others =>
      rw [allTokens, List.append_assoc, nest?_tokens, nest?_allTokens, addAll]

end

/-- **A piece is read back from its text**, with adjacent texts joined. -/
theorem read?_render {piece : Markup} (hpiece : Legible piece) :
    read? piece.render = some (joined [piece]) := by
  have hnested := nest?_tokens piece [] {} []
  rw [List.append_nil] at hnested
  rw [read?, (scans_render hpiece).tokens?, Option.bind_some, hnested]
  rfl

/-- Tags that overlap are not read. -/
example : (read? "<u>a<font>b</u></font>").isNone := by decide

/-! ## Tables -/

/-- A cell of a table as it is shown. -/
structure Cell where
  columns : Nat := 1
  text : String := ""
  colour : Option String := none
  underlined : Bool := false
  deriving DecidableEq, Repr

mutual

/-- The text inside a cell, with the styles around it. -/
def content? : Markup → Option Cell
  | .text content => some { text := content }
  | .reference _ => none
  | .element tag attributes children =>
    if tag = "font" then do
      let colour ← attributes.lookup "color"
      let inner ← contents? children
      return { inner with colour := inner.colour.or (some colour) }
    else if tag = "u" then do
      let inner ← contents? children
      return { inner with underlined := true }
    else none

def contents? : List Markup → Option Cell
  | [] => some {}
  | [piece] => content? piece
  | _ :: _ :: _ => none

end

/-- How many columns a cell spans. -/
def columns? (attributes : List (String × String)) : Option Nat :=
  match attributes.lookup "colspan" with
  | none => some 1
  | some count => Text.natural? count.toList

def cell? : Markup → Option Cell
  | .element "td" attributes children => do
    let inner ← contents? children
    let columns ← columns? attributes
    return { inner with columns }
  | _ => none

def row? : Markup → Option (List Cell)
  | .element "tr" _ cells => cells.mapM cell?
  | _ => none

def table? : List Markup → Option (List (List Cell))
  | [.element "table" _ rows] => rows.mapM row?
  | _ => none

/-- Reads a label that is one table. -/
def readTable? (label : String) : Option (List (List Cell)) :=
  (read? label).bind table?

/-! ## Cells that are shown -/

section Shown

variable {children pieces : List Markup} {cell : Cell} {cells : List Cell}
  {rows : List (List Cell)} {attributes : List (String × String)}

/-- The pieces inside a cell show its text in its style. -/
structure Shows (children : List Markup) (cell : Cell) : Prop where
  legible : AllLegible children
  read : contents? (joined children) = some cell

theorem shows_nil : Shows [] {} :=
  ⟨trivial, rfl⟩

theorem shows_text (content : String) : Shows [.text content] { text := content } := by
  refine ⟨⟨trivial, trivial⟩, ?_⟩
  unfold joined addAll addAll add Siblings.close
  simp only [List.nil_append]
  split_ifs with hempty
  · rw [String.toList_eq_nil_iff.mp hempty]
    rfl
  · rw [String.ofList_toList]
    rfl

theorem joined_element (tag : String) (attributes : List (String × String))
    (children : List Markup) :
    joined [.element tag attributes children] = [.element tag attributes (joined children)] := by
  simp [joined, addAll, add, Siblings.close]

theorem Shows.coloured (hchildren : Shows children cell) (colour : String)
    (hcolour : IsAttribute ("color", colour)) :
    Shows [coloured colour children] { cell with colour := cell.colour.or (some colour) } := by
  have htag : IsName "font" := by decide
  have hattributes : ∀ pair ∈ [("color", colour)], IsAttribute pair := by
    rwa [List.forall_mem_singleton]
  refine ⟨⟨⟨htag, hattributes, hchildren.legible⟩, trivial⟩, ?_⟩
  rw [Dot.coloured, joined_element, contents?, content?, if_pos rfl, hchildren.read]
  rfl

theorem Shows.underlined (hchildren : Shows children cell) :
    Shows [.element "u" [] children] { cell with underlined := true } := by
  have htag : IsName "u" := by decide
  refine ⟨⟨⟨htag, by simp, hchildren.legible⟩, trivial⟩, ?_⟩
  rw [joined_element, contents?, content?, if_neg (by decide), if_pos rfl, hchildren.read]
  rfl

/-! ## Elements that stand for something -/

/-- The element has a meaning, whatever is next to it. -/
structure Means {α : Type} (read : Markup → Option α) (piece : Markup) (meant : α) : Prop where
  legible : Legible piece
  read : ∃ tag attributes children, piece = .element tag attributes children ∧
    read (.element tag attributes (joined children)) = some meant

section Elements

variable {α : Type} {read : Markup → Option α} {meant : List α}

theorem allLegible_of_means (hpieces : List.Forall₂ (Means read) pieces meant) :
    AllLegible pieces := by
  induction hpieces with
  | nil => trivial
  | cons hfirst _ ih => exact ⟨hfirst.legible, ih⟩

/-- Elements next to each other are read one by one. -/
theorem addAll_elements (hpieces : List.Forall₂ (Means read) pieces meant)
    (before : List Markup) :
    ∃ after, addAll { pieces := before } pieces = { pieces := before ++ after } ∧
      after.mapM read = some meant := by
  induction hpieces generalizing before with
  | nil => exact ⟨[], by simp [addAll], rfl⟩
  | cons hfirst _ ih =>
      obtain ⟨tag, attributes, children, rfl, hread⟩ := hfirst.read
      obtain ⟨after, hafter, hmeant⟩ := ih (before ++ [.element tag attributes (joined children)])
      refine ⟨.element tag attributes (joined children) :: after, ?_, ?_⟩
      · rw [List.append_assoc, List.singleton_append] at hafter
        rw [addAll, add, ← hafter]
        simp [Siblings.close, joined]
      · rw [List.mapM_cons, hread, hmeant]
        rfl

theorem mapM_joined (hpieces : List.Forall₂ (Means read) pieces meant) :
    (joined pieces).mapM read = some meant := by
  obtain ⟨after, hafter, hmeant⟩ := addAll_elements hpieces []
  rw [List.nil_append] at hafter
  rw [joined, hafter, Siblings.close, if_pos rfl, List.append_nil, hmeant]

end Elements

theorem means_cell (hchildren : Shows children cell)
    (hattributes : ∀ pair ∈ attributes, IsAttribute pair) {columns : Nat}
    (hcolumns : columns? attributes = some columns) :
    Means cell? (.element "td" attributes children) { cell with columns } := by
  have htag : IsName "td" := by decide
  refine ⟨⟨htag, hattributes, hchildren.legible⟩, _, _, _, rfl, ?_⟩
  rw [cell?, hchildren.read, hcolumns]
  rfl

theorem means_leftCell (hchildren : Shows children cell) :
    Means cell? (leftCell children) { cell with columns := 1 } :=
  means_cell hchildren (by decide) rfl

theorem means_row (hcells : List.Forall₂ (Means cell?) pieces cells) :
    Means row? (.element "tr" [] pieces) cells := by
  have htag : IsName "tr" := by decide
  exact ⟨⟨htag, by simp, allLegible_of_means hcells⟩, _, _, _, rfl, mapM_joined hcells⟩

/-- **A table is read row by row.** -/
theorem readTable?_table (hrows : List.Forall₂ (Means row?) pieces rows) :
    readTable? (table pieces).render = some rows := by
  have htag : IsName "table" := by decide
  have hlegible : Legible (table pieces) := ⟨htag, by decide, allLegible_of_means hrows⟩
  rw [readTable?, read?_render hlegible, table, joined_element, Option.bind_some, table?,
    mapM_joined hrows]

/-! ## Titles -/

/-- A row with a title for all columns. -/
def titleCells (title : String) : List Cell :=
  [{ columns := 3, text := title, colour := some "white" }]

/-- A row with one plain text for all columns. -/
def wideCells (content : String) : List Cell :=
  [{ columns := 3, text := content }]

theorem means_titleRow (title : String) : Means row? (titleRow title) (titleCells title) := by
  have htitle := (shows_text title).coloured "white" (by decide)
  exact means_row (.cons (means_cell htitle (by decide) rfl) .nil)

theorem means_wideRow (content : String) : Means row? (wideRow content) (wideCells content) :=
  means_row (.cons (means_cell (shows_text content) (by decide) rfl) .nil)

end Shown

end CompileWatch.Dot.Label
