import CompileWatch.Proofs.Dot.Token

/-!
# Reading graph documents

A document is read from its tokens.  Between the braces stand statements, each with a
semicolon behind it: an attribute of the graph, a node or an edge.  Nodes and edges may
have a list of attributes in brackets.  Names are bare words or quoted texts.

A document that is sound is read back from its text as it was: its words are words of
the format, its labels close every bracket that they open, and its names need no
escapes.
-/

namespace CompileWatch.Dot

/-! ## The reader -/

/-- The text of a value that serves as a name. -/
def Value.name? : Value → Option String
  | .word text => some text
  | .quoted text => some text
  | .label _ => none

/-- The attributes up to the closing bracket. -/
def pairs? : List Token → Option Attributes
  | [.value key, .mark '=', .value value, .mark ']'] => do
    let key ← key.name?
    return [(key, value)]
  | .value key :: .mark '=' :: .value value :: .mark ',' :: rest => do
    let key ← key.name?
    let others ← pairs? rest
    return (key, value) :: others
  | _ => none

/-- The attributes of a node or an edge, which may have none. -/
def attributes? : List Token → Option Attributes
  | [] => some []
  | [.mark '[', .mark ']'] => some []
  | .mark '[' :: rest => pairs? rest
  | _ => none

inductive Statement
  | graphAttribute (pair : String × Value)
  | node (node : Node)
  | edge (edge : Edge)
  deriving DecidableEq, Repr

namespace Statement

/-- Reads a statement from its tokens, without the semicolon behind it. -/
def ofTokens? : List Token → Option Statement
  | [.value key, .mark '=', .value value] => do
    let key ← key.name?
    return .graphAttribute (key, value)
  | .value source :: .arrow :: .value target :: rest => do
    let source ← source.name?
    let target ← target.name?
    let attributes ← attributes? rest
    return .edge { source, target, attributes }
  | .value name :: rest => do
    let name ← name.name?
    let attributes ← attributes? rest
    return .node { name, attributes }
  | _ => none

def graphAttribute? : Statement → Option (String × Value)
  | .graphAttribute pair => some pair
  | _ => none

def node? : Statement → Option Node
  | .node drawn => some drawn
  | _ => none

def edge? : Statement → Option Edge
  | .edge drawn => some drawn
  | _ => none

end Statement

/-- The statements up to the closing brace, behind which nothing may stand; `begun` holds the tokens
of the statement that is being read. -/
def statements? (begun : List Token) : List Token → Option (List Statement)
  | [] => none
  | [.mark '}'] => if begun = [] then some [] else none
  | .mark ';' :: rest =>
    (Statement.ofTokens? begun).bind fun statement => (statements? [] rest).map (statement :: ·)
  | token :: rest => statements? (begun ++ [token]) rest

namespace Document

def ofTokens? : List Token → Option Document
  | .value (.word "digraph") :: .value name :: .mark '{' :: rest => do
    let name ← name.name?
    let statements ← statements? [] rest
    return {
      name
      attributes := statements.filterMap Statement.graphAttribute?
      nodes := statements.filterMap Statement.node?
      edges := statements.filterMap Statement.edge? }
  | _ => none

/-- Reads a document from its text. -/
def read? (text : String) : Option Document :=
  (tokens? text.toList).bind ofTokens?

end Document

/-! ## Sound documents -/

def Value.Sound : Value → Prop
  | .word text => IsWord text.toList
  | .quoted _ => True
  | .label markup => Balanced markup.toList

def Attributes.Sound (attributes : Attributes) : Prop :=
  ∀ pair ∈ attributes, IsWord pair.1.toList ∧ pair.2.Sound

/-- A name that is the same between quotes. -/
def IsPlain (name : String) : Prop :=
  ∀ c ∈ name.toList, c ≠ '"' ∧ c ≠ '\\'

instance (name : String) : Decidable (IsPlain name) :=
  decidable_of_iff (name.toList.all fun c => c ≠ '"' ∧ c ≠ '\\') (by simp [IsPlain])

structure Node.Sound (node : Node) : Prop where
  name : IsPlain node.name
  attributes : node.attributes.Sound

structure Edge.Sound (edge : Edge) : Prop where
  source : IsPlain edge.source
  target : IsPlain edge.target
  attributes : edge.attributes.Sound

structure Document.Sound (document : Document) : Prop where
  name : IsWord document.name.toList
  attributes : document.attributes.Sound
  nodes : ∀ node ∈ document.nodes, node.Sound
  edges : ∀ edge ∈ document.edges, edge.Sound

/-! ## The tokens of a document -/

def pairTokens (pair : String × Value) : List Token :=
  [.value (.word pair.1), .mark '=', .value pair.2]

def Attributes.tokens (attributes : Attributes) : List Token :=
  if attributes = [] then []
  else .mark '[' :: ([.mark ','].intercalate (attributes.map pairTokens) ++ [.mark ']'])

def Node.tokens (node : Node) : List Token :=
  .value (.quoted node.name) :: node.attributes.tokens

def Edge.tokens (edge : Edge) : List Token :=
  .value (.quoted edge.source) :: .arrow :: .value (.quoted edge.target) :: edge.attributes.tokens

/-- A statement with its semicolon. -/
def closed (tokens : List Token) : List Token :=
  tokens ++ [.mark ';']

def Document.tokens (document : Document) : List Token :=
  .value (.word "digraph") :: .value (.word document.name) :: .mark '{' ::
    (document.attributes.flatMap (fun pair => closed (pairTokens pair)) ++
      (document.nodes.flatMap (fun node => closed node.tokens) ++
        (document.edges.flatMap (fun edge => closed edge.tokens) ++ [.mark '}'])))

/-! ## Texts of documents -/

section Lexing

variable {c : Char} {text : List Char} {tokens : List Token}

/-- A value is read up to a character that goes on with no word. -/
theorem lexes_value {value : Value} (hvalue : value.Sound) (hc : isWordChar c = false)
    (htext : Lexes (c :: text) tokens) :
    Lexes (value.render.toList ++ c :: text) (.value value :: tokens) := by
  cases value with
  | word content =>
      have hword := Lexes.word hvalue hc htext
      rwa [String.ofList_toList] at hword
  | quoted content => exact htext.quoted content
  | label markup => exact htext.label hvalue

theorem lexes_pair {pair : String × Value} (hkey : IsWord pair.1.toList) (hvalue : pair.2.Sound)
    (hc : isWordChar c = false) (htext : Lexes (c :: text) tokens) :
    Lexes ((Attributes.renderPair pair).toList ++ c :: text) (pairTokens pair ++ tokens) := by
  have hbehind := (lexes_value hvalue hc htext).mark (c := '=') (by decide)
  have hpair := Lexes.word hkey (by decide) hbehind
  rw [String.ofList_toList] at hpair
  simpa [Attributes.renderPair, pairTokens] using hpair

/-- Attributes with commas between them, up to the closing bracket. -/
theorem lexes_pairs {attributes : Attributes} (hattributes : attributes.Sound)
    (hnonempty : attributes ≠ []) (htext : Lexes text tokens) :
    Lexes ([','].intercalate (attributes.map fun pair => (Attributes.renderPair pair).toList) ++
        ']' :: text)
      ([.mark ','].intercalate (attributes.map pairTokens) ++ .mark ']' :: tokens) := by
  induction attributes with
  | nil => exact absurd rfl hnonempty
  | cons pair attributes ih =>
      obtain ⟨⟨hkey, hvalue⟩, hothers⟩ := List.forall_mem_cons.mp hattributes
      cases attributes with
      | nil =>
          have hclosing : Lexes (']' :: text) (.mark ']' :: tokens) := htext.mark (by decide)
          simpa using lexes_pair hkey hvalue (by decide) hclosing
      | cons next attributes =>
          have hrest := ih hothers (List.cons_ne_nil next attributes)
          have hbehind := hrest.mark (c := ',') (by decide)
          have hpair := lexes_pair hkey hvalue (by decide) hbehind
          simpa [List.intercalate_cons_cons] using hpair

theorem lexes_attributes {attributes : Attributes} (hattributes : attributes.Sound)
    (htext : Lexes text tokens) :
    Lexes (attributes.render.toList ++ text) (attributes.tokens ++ tokens) := by
  unfold Attributes.render Attributes.tokens
  split_ifs with hempty
  · exact htext
  · have hpairs := (lexes_pairs hattributes hempty htext).mark (c := '[') (by decide)
    have hopening := hpairs.blank (c := ' ') (by decide)
    simpa [String.toList_intercalate, Function.comp_def] using hopening

theorem flatMap_quoteChar {name : List Char} (hname : ∀ c ∈ name, c ≠ '"' ∧ c ≠ '\\') :
    name.flatMap quoteChar = name := by
  induction name with
  | nil => rfl
  | cons c name ih =>
      rw [List.forall_mem_cons] at hname
      obtain ⟨⟨hquote, hbackslash⟩, hothers⟩ := hname
      rw [List.flatMap_cons, ih hothers, quoteChar, if_neg hbackslash, if_neg hquote]
      rfl

theorem lexes_name {name : String} (hname : IsPlain name) (htext : Lexes text tokens) :
    Lexes ('"' :: (name.toList ++ '"' :: text)) (.value (.quoted name) :: tokens) := by
  have hquoted := htext.quoted name
  rw [Value.render, flatMap_quoteChar hname] at hquoted
  simpa using hquoted

/-- The end of a line. -/
theorem lexes_lineEnd : Lexes [';', '\n'] [.mark ';'] :=
  (lexes_nil.blank (by decide)).mark (by decide)

theorem lexes_attributeLine {pair : String × Value} (hkey : IsWord pair.1.toList)
    (hvalue : pair.2.Sound) :
    Lexes ("  " ++ Attributes.renderPair pair ++ ";\n").toList (closed (pairTokens pair)) := by
  have hpair := lexes_pair hkey hvalue (by decide) lexes_lineEnd
  have hline := (hpair.blank (c := ' ') (by decide)).blank (c := ' ') (by decide)
  simpa [closed] using hline

theorem lexes_nodeLine {node : Node} (hnode : node.Sound) :
    Lexes node.render.toList (closed node.tokens) := by
  have hname := lexes_name hnode.name (lexes_attributes hnode.attributes lexes_lineEnd)
  have hline := (hname.blank (c := ' ') (by decide)).blank (c := ' ') (by decide)
  simpa [Node.render, closed, Node.tokens] using hline

theorem lexes_edgeLine {edge : Edge} (hedge : edge.Sound) :
    Lexes edge.render.toList (closed edge.tokens) := by
  have htarget := lexes_name hedge.target (lexes_attributes hedge.attributes lexes_lineEnd)
  have harrow := ((htarget.blank (c := ' ') (by decide)).arrow).blank (c := ' ') (by decide)
  have hsource := lexes_name hedge.source harrow
  have hline := (hsource.blank (c := ' ') (by decide)).blank (c := ' ') (by decide)
  simpa [Edge.render, closed, Edge.tokens] using hline

/-- **The text of a sound document has the tokens of the document.** -/
theorem lexes_document {document : Document} (hdocument : document.Sound) :
    Lexes document.render.toList document.tokens := by
  have hattributes : Lexes
      (document.attributes.flatMap fun pair =>
        ("  " ++ Attributes.renderPair pair ++ ";\n").toList)
      (document.attributes.flatMap fun pair => closed (pairTokens pair)) :=
    lexes_flatMap fun pair hpair =>
      lexes_attributeLine (hdocument.attributes pair hpair).1 (hdocument.attributes pair hpair).2
  have hnodes : Lexes (document.nodes.flatMap fun node => node.render.toList)
      (document.nodes.flatMap fun node => closed node.tokens) :=
    lexes_flatMap fun node hnode => lexes_nodeLine (hdocument.nodes node hnode)
  have hedges : Lexes (document.edges.flatMap fun edge => edge.render.toList)
      (document.edges.flatMap fun edge => closed edge.tokens) :=
    lexes_flatMap fun edge hedge => lexes_edgeLine (hdocument.edges edge hedge)
  have hend : Lexes ['}', '\n'] [.mark '}'] := (lexes_nil.blank (by decide)).mark (by decide)
  have hbody := hattributes.append
    ((hnodes.append ((hedges.append hend).blank (c := '\n') (by decide))).blank (c := '\n')
      (by decide))
  have hopened := ((hbody.blank (c := '\n') (by decide)).mark (c := '{') (by decide)).blank
    (c := ' ') (by decide)
  have hnamed := Lexes.word hdocument.name (by decide) hopened
  have hkeyword : IsWord "digraph".toList := by decide
  have htext := Lexes.word hkeyword (by decide) (hnamed.blank (c := ' ') (by decide))
  rw [String.ofList_toList, String.ofList_toList] at htext
  simpa [Document.render, Document.tokens, String.toList_join, List.flatMap_map,
    Function.comp_def] using htext

end Lexing

/-! ## Reading the tokens back -/

theorem pairs?_tokens {attributes : Attributes} (hnonempty : attributes ≠ []) :
    pairs? ([.mark ','].intercalate (attributes.map pairTokens) ++ [.mark ']']) =
      some attributes := by
  induction attributes with
  | nil => exact absurd rfl hnonempty
  | cons pair attributes ih =>
      cases attributes with
      | nil => rfl
      | cons next attributes =>
          have hothers := ih (List.cons_ne_nil next attributes)
          rw [List.map_cons, List.map_cons, List.intercalate_cons_cons, ← List.map_cons]
          simp only [List.append_assoc]
          rw [pairTokens, List.cons_append, List.cons_append, List.cons_append, List.nil_append,
            List.singleton_append, pairs?, hothers]
          rfl

theorem attributes?_tokens (attributes : Attributes) :
    attributes? attributes.tokens = some attributes := by
  unfold Attributes.tokens
  split_ifs with hempty
  · rw [hempty]
    rfl
  · rw [← pairs?_tokens hempty]
    obtain ⟨pair, others, rfl⟩ := List.exists_cons_of_ne_nil hempty
    cases others <;> rfl

/-- A statement is read up to its semicolon. -/
theorem statements?_closed {tokens : List Token} (htokens : .mark ';' ∉ tokens)
    (begun rest : List Token) :
    statements? begun (closed tokens ++ rest) =
      (Statement.ofTokens? (begun ++ tokens)).bind fun statement =>
        (statements? [] rest).map (statement :: ·) := by
  induction tokens generalizing begun with
  | nil =>
      rw [List.append_nil]
      rfl
  | cons token tokens ih =>
      obtain ⟨htoken, hothers⟩ : .mark ';' ≠ token ∧ .mark ';' ∉ tokens := by
        simpa using htokens
      have hbehind := ih hothers (begun ++ [token])
      rw [List.append_assoc, List.singleton_append] at hbehind
      rw [← hbehind, closed, List.cons_append, List.cons_append, statements?]
      · rfl
      · -- the token is not the last one
        simp
      · exact fun h => htoken h.symm

theorem statements?_flatMap {α : Type} (tokens : α → List Token) (statement : α → Statement)
    {items : List α} (hsemicolon : ∀ item ∈ items, .mark ';' ∉ tokens item)
    (hread : ∀ item ∈ items, Statement.ofTokens? (tokens item) = some (statement item))
    (rest : List Token) :
    statements? [] (items.flatMap (fun item => closed (tokens item)) ++ rest) =
      (statements? [] rest).map (items.map statement ++ ·) := by
  induction items with
  | nil => simp
  | cons item items ih =>
      rw [List.forall_mem_cons] at hsemicolon hread
      rw [List.flatMap_cons, List.append_assoc, statements?_closed hsemicolon.1, List.nil_append,
        hread.1, ih hsemicolon.2 hread.2, Option.bind_some, Option.map_map]
      rfl

/-! ### Statements of a document -/

theorem semicolon_notMem_pairs (attributes : Attributes) :
    .mark ';' ∉ [.mark ','].intercalate (attributes.map pairTokens) := by
  induction attributes with
  | nil => exact List.not_mem_nil
  | cons pair attributes ih =>
      cases attributes with
      | nil => simp [pairTokens]
      | cons next attributes =>
          rw [List.map_cons, List.map_cons, List.intercalate_cons_cons, ← List.map_cons,
            List.mem_append, not_or]
          exact ⟨by simp [pairTokens], ih⟩

theorem semicolon_notMem_attributes (attributes : Attributes) :
    .mark ';' ∉ attributes.tokens := by
  unfold Attributes.tokens
  split_ifs with hempty
  · exact List.not_mem_nil
  · simpa using semicolon_notMem_pairs attributes

/-- Attributes begin with a bracket, if there are any. -/
theorem tokens_cases (attributes : Attributes) :
    attributes.tokens = [] ∨ ∃ rest, attributes.tokens = .mark '[' :: rest := by
  unfold Attributes.tokens
  split_ifs with hempty
  · exact .inl rfl
  · exact .inr ⟨_, rfl⟩

theorem ofTokens?_node (node : Node) : Statement.ofTokens? node.tokens = some (.node node) := by
  have hattributes := attributes?_tokens node.attributes
  unfold Node.tokens
  rcases tokens_cases node.attributes with hnone | ⟨rest, hsome⟩
  · rw [hnone] at hattributes ⊢
    simp [Statement.ofTokens?, Value.name?, hattributes]
  · rw [hsome] at hattributes ⊢
    simp [Statement.ofTokens?, Value.name?, hattributes]

theorem ofTokens?_edge (edge : Edge) : Statement.ofTokens? edge.tokens = some (.edge edge) := by
  simp [Edge.tokens, Statement.ofTokens?, Value.name?, attributes?_tokens edge.attributes]

/-- The tokens of a document are those of that document. -/
theorem ofTokens?_tokens (document : Document) :
    Document.ofTokens? document.tokens = some document := by
  have hattributes : ∀ pair ∈ document.attributes, .mark ';' ∉ pairTokens pair := by
    intro pair _
    simp [pairTokens]
  have hnodes : ∀ node ∈ document.nodes, .mark ';' ∉ node.tokens := by
    intro node _
    simpa [Node.tokens] using semicolon_notMem_attributes node.attributes
  have hedges : ∀ edge ∈ document.edges, .mark ';' ∉ edge.tokens := by
    intro edge _
    simpa [Edge.tokens] using semicolon_notMem_attributes edge.attributes
  have hend : statements? [] [.mark '}'] = some [] := rfl
  simp only [Document.tokens, Document.ofTokens?, Value.name?,
    statements?_flatMap pairTokens .graphAttribute hattributes fun pair _ => rfl,
    statements?_flatMap Node.tokens .node hnodes fun node _ => ofTokens?_node node,
    statements?_flatMap Edge.tokens .edge hedges fun edge _ => ofTokens?_edge edge, hend,
    Option.map_some, List.append_nil]
  simp [List.filterMap_append, List.filterMap_map, Function.comp_def, Statement.graphAttribute?,
    Statement.node?, Statement.edge?]

/-- **A sound document is read back from its text.** -/
theorem Document.read?_render {document : Document} (hdocument : document.Sound) :
    read? document.render = some document := by
  rw [read?, (lexes_document hdocument).tokens?, Option.bind_some, ofTokens?_tokens]

end CompileWatch.Dot
