import CompileWatch.Proofs.Dot.Rows
import CompileWatch.Proofs.InlineTree.Query
import Mathlib.Data.List.Nodup

/-!
# Drawings of frames

The drawing of the frames of a compilation has a node for each frame and an edge from each
parent to each of its children.  `DrawsFrames` says so of any inline tree.

The tree that is rebuilt from the blocks has a root without a parent, every other frame has
a parent with a smaller number, and the parents lead to the root.  Since the names of the
nodes differ, the drawing is a tree as well (`IsTree`): nothing leads to the node of the
root, one edge leads to each of the others, all are reached from the root, and no way leads
back to where it began.
-/

namespace CompileWatch.Dot

variable {blocks : List Block} {scripts : List Script} {tree : InlineTree} {document : Document}
  {id parent : FrameId} {frame : InlineFrame} {count : Nat}

/-! ## What is drawn -/

/-- The header row of a label. -/
def headerText (title : String) : String :=
  "<tr><td align=\"center\" bgcolor=\"black\" colspan=\"3\"><font color=\"white\">" ++ title ++
    "</font></td></tr>"

/-- The row below the header. -/
def secondText (content : String) : String :=
  "<tr><td align=\"left\" colspan=\"3\">" ++ content ++ "</td></tr>"

/-- The label of a frame: its script's name above its script's location, or its number alone if
it has no script. -/
def frameText (id : FrameId) (script : Option Script) : String :=
  "<table border=\"0\" cellborder=\"0\" cellpadding=\"1\">" ++
    (match script with
      | some script => headerText (escape script.name) ++ secondText (escape script.location)
      | none => headerText ("frame " ++ toString id.index)) ++
    "</table>"

/-- What is read from that label. -/
def frameCells (id : FrameId) : Option Script → List (List Label.Cell)
  | some script => [Label.titleCells script.name, Label.wideCells script.location]
  | none => [Label.titleCells ("frame " ++ toString id.index)]

/-- The node shows a frame of a script. -/
structure ShowsFrame (id : FrameId) (script : Option Script) (node : Node) : Prop where
  style : node.attributes.get? "class" = some (.quoted ("style-frame-" ++ toString id.index))
  label : node.attributes.get? "label" = some (.label (frameText id script))
  cells : Label.readTable? (frameText id script) = some (frameCells id script)

/-- The edge to a frame from its parent, if it has one. -/
def edgeTo? (tree : InlineTree) (id : FrameId) : Option Edge :=
  (tree.parent? id).map fun parent =>
    { source := "Frame" ++ toString parent.index, target := "Frame" ++ toString id.index }

/-- The document draws the frames of a tree: it has a node for each, in the order of their numbers,
and the edges from parents to children. -/
structure DrawsFrames (tree : InlineTree) (document : Document) : Prop where
  names : document.nodes.map Node.name =
    (List.range tree.frames.length).map fun index => "Frame" ++ toString index
  nodes : List.Forall₂ (fun id => ShowsFrame id ((tree.frame? id).bind InlineFrame.script))
    tree.frameIds document.nodes
  edges : document.edges = tree.frameIds.filterMap (edgeTo? tree)

/-- An edge of the document leads from one name to the other. -/
def Links (document : Document) (source target : String) : Prop :=
  ∃ edge ∈ document.edges, edge.source = source ∧ edge.target = target

/-- The document is a tree, with its edges directed away from the root. -/
structure IsTree (root : String) (document : Document) : Prop where
  names : (document.nodes.map Node.name).Nodup ∧ root ∈ document.nodes.map Node.name
  /-- Edges are between nodes of the document. -/
  inside : ∀ edge ∈ document.edges,
    edge.source ∈ document.nodes.map Node.name ∧ edge.target ∈ document.nodes.map Node.name
  /-- No edge leads to the root, and one leads to every other node. -/
  entered : ∀ node ∈ document.nodes,
    (document.edges.map Edge.target).count node.name = if node.name = root then 0 else 1
  reached : ∀ node ∈ document.nodes, Relation.ReflTransGen (Links document) root node.name
  acyclic : ∀ name, ¬ Relation.TransGen (Links document) name name

/-! ## Labels -/

theorem escape_of_forall {content : String}
    (hcontent : ∀ c ∈ content.toList, escapeChar c = [c]) : escape content = content := by
  have hsame : content.toList.flatMap escapeChar = content.toList.flatMap fun c => [c] :=
    List.flatMap_congr hcontent
  rw [escape, hsame, List.flatMap_singleton', String.ofList_toList]

theorem escapeChar_of_isDigit {c : Char} (hc : c.isDigit) : escapeChar c = [c] := by
  unfold escapeChar
  split_ifs
  iterate 5
    · subst c
      exact absurd hc (by decide)
  · rfl

theorem escape_frameNumber (n : Nat) :
    escape ("frame " ++ toString n) = "frame " ++ toString n := by
  apply escape_of_forall
  intro c hc
  rw [String.toList_append, List.mem_append] at hc
  rcases hc with hc | hc
  · have hword : "frame ".toList.all fun c => escapeChar c = [c] := by decide
    exact of_decide_eq_true (List.all_eq_true.mp hword c hc)
  · exact escapeChar_of_isDigit (isDigit_toString hc)

theorem renderAll_singleton (piece : Markup) : Markup.renderAll [piece] = piece.render := by
  rw [Markup.renderAll, Markup.renderAll, String.append_empty]

/-- The tags of an element go around what its pieces have around their content. -/
theorem renderAll_element {tag before content after opening closing : String}
    {attributes : List (String × String)} {children : List Markup}
    (hchildren : Markup.renderAll children = before ++ content ++ after)
    (hopening : "<" ++ tag ++ Markup.renderAttributes attributes ++ ">" ++ before = opening)
    (hclosing : after ++ ("</" ++ tag ++ ">") = closing) :
    Markup.renderAll [.element tag attributes children] = opening ++ content ++ closing := by
  rw [renderAll_singleton, Markup.render, hchildren, ← hopening, ← hclosing]
  simp only [String.append_assoc]

theorem renderAll_text (content : String) :
    Markup.renderAll [.text content] = "" ++ escape content ++ "" := by
  rw [renderAll_singleton, Markup.render, String.append_empty, String.empty_append]

theorem renderAll_titleRow (title : String) :
    Markup.renderAll [titleRow title] = headerText (escape title) := by
  have hfont : Markup.renderAll [coloured "white" [.text title]] =
      "<font color=\"white\">" ++ escape title ++ "</font>" :=
    renderAll_element (renderAll_text title) rfl rfl
  exact renderAll_element (renderAll_element hfont rfl rfl) rfl rfl

theorem renderAll_wideRow (content : String) :
    Markup.renderAll [wideRow content] = secondText (escape content) :=
  renderAll_element (renderAll_element (renderAll_text content) rfl rfl) rfl rfl

theorem render_table {rows : List Markup} {content : String}
    (hrows : Markup.renderAll rows = content) :
    (table rows).render =
      "<table border=\"0\" cellborder=\"0\" cellpadding=\"1\">" ++ content ++ "</table>" := by
  have hbare : Markup.renderAll rows = "" ++ content ++ "" := by
    rw [hrows, String.append_empty, String.empty_append]
  rw [← renderAll_singleton]
  exact renderAll_element hbare rfl rfl

theorem render_frameLabel (id : FrameId) (script : Option Script) :
    (frameLabel id script).render = frameText id script := by
  cases script with
  | none =>
      refine render_table ?_
      rw [renderAll_titleRow, escape_frameNumber]
  | some script =>
      refine render_table ?_
      rw [Markup.renderAll, ← renderAll_singleton, renderAll_titleRow, renderAll_wideRow]

theorem readTable?_frameLabel (id : FrameId) (script : Option Script) :
    Label.readTable? (frameLabel id script).render = some (frameCells id script) := by
  cases script with
  | none => exact Label.readTable?_table (.cons (Label.means_titleRow _) .nil)
  | some script =>
      have hname := Label.means_titleRow script.name
      have hlocation := Label.means_wideRow script.location
      exact Label.readTable?_table (.cons hname (.cons hlocation .nil))

/-! ## Nodes and edges -/

theorem showsFrame_frameNode
    (hscript : frame.script.or (if id = FrameId.root then scripts.head? else none) =
      frame.script) :
    ShowsFrame id frame.script (frameNode scripts id frame) := by
  have hattributes : (frameNode scripts id frame).attributes =
      [("shape", .word "box"), ("label", .label (frameText id frame.script)),
        ("class", styleClass id)] := by
    rw [frameNode, hscript, render_frameLabel]
    simp [Assoc.ofSets, Assoc.set]
  refine ⟨?_, ?_, ?_⟩
  · rw [hattributes]
    rfl
  · rw [hattributes]
    rfl
  · rw [← render_frameLabel]
    exact readTable?_frameLabel id frame.script

theorem frameIds_eq_numbered (tree : InlineTree) :
    tree.frameIds = (numberedFrames tree).map Prod.fst := by
  rw [InlineTree.frameIds, range_eq_zipIdx, numberedFrames, List.map_map, List.map_map]
  rfl

theorem frame?_of_mem_numbered {entry : FrameId × InlineFrame}
    (hentry : entry ∈ numberedFrames tree) : tree.frame? entry.1 = some entry.2 := by
  obtain ⟨⟨frame, index⟩, hmem, rfl⟩ := List.mem_map.mp hentry
  exact List.mk_mem_zipIdx_iff_getElem?.mp hmem

/-- In a tree that is rebuilt, the root already has the script that it would fall back to. -/
theorem script_or (hdiscovered : tree.Discovered blocks scripts count)
    (hframe : tree.frame? id = some frame) :
    frame.script.or (if id = FrameId.root then scripts.head? else none) = frame.script := by
  split_ifs with hroot
  · rw [hroot, hdiscovered.root] at hframe
    obtain rfl := Option.some_inj.mp hframe
    rw [List.head?_eq_getElem?, Option.or_self]
  · exact Option.or_none

theorem names_nodes (graph : Graph) (scripts : List Script) (tree : InlineTree) :
    (nodes .src graph scripts tree).map Node.name = tree.frameIds.map frameName := by
  rw [nodes, List.map_map, frameIds_eq_numbered, List.map_map]
  rfl

theorem edges_eq (graph : Graph) (tree : InlineTree) :
    edges .src graph tree = tree.frameIds.filterMap (edgeTo? tree) := by
  rw [edges, frameIds_eq_numbered, List.filterMap_map]
  apply List.filterMap_congr
  intro entry hentry
  rw [Function.comp_apply, edgeTo?, InlineTree.parent?, frame?_of_mem_numbered hentry]
  rfl

theorem drawsFrames (graph : Graph) (hdiscovered : tree.Discovered blocks scripts count) :
    DrawsFrames tree (draw .src graph scripts tree) where
  names := by
    show (nodes .src graph scripts tree).map Node.name = _
    rw [names_nodes, InlineTree.frameIds, List.map_map]
    rfl
  nodes := by
    show List.Forall₂ _ tree.frameIds (nodes .src graph scripts tree)
    rw [nodes, frameIds_eq_numbered, List.forall₂_map_left_iff, List.forall₂_map_right_iff]
    apply List.forall₂_same.mpr
    rintro ⟨id, frame⟩ hentry
    have hframe := frame?_of_mem_numbered hentry
    rw [hframe, Option.bind_some]
    exact showsFrame_frameNode (script_or hdiscovered hframe)
  edges := edges_eq graph tree

/-! ## The tree of the nodes -/

theorem frameName_injective : Function.Injective frameName := by
  intro first second hname
  exact congrArg FrameId.mk (numbered_injective "Frame" hname)

/-- An edge leads from a parent to its child. -/
theorem mem_edges (hdraws : DrawsFrames tree document) {edge : Edge} :
    edge ∈ document.edges ↔
      ∃ id parent, tree.parent? id = some parent ∧
        edge = { source := frameName parent, target := frameName id } := by
  rw [hdraws.edges, List.mem_filterMap]
  constructor
  · rintro ⟨id, -, hedge⟩
    obtain ⟨parent, hparent, rfl⟩ := Option.map_eq_some_iff.mp hedge
    exact ⟨id, parent, hparent, rfl⟩
  · rintro ⟨id, parent, hparent, rfl⟩
    refine ⟨id, InlineTree.mem_frameIds_of_parent? hparent, ?_⟩
    rw [edgeTo?, hparent]
    rfl

theorem links_iff (hdraws : DrawsFrames tree document) {source target : String} :
    Links document source target ↔
      ∃ id parent, tree.parent? id = some parent ∧ source = frameName parent ∧
        target = frameName id := by
  constructor
  · rintro ⟨edge, hedge, rfl, rfl⟩
    obtain ⟨id, parent, hparent, rfl⟩ := (mem_edges hdraws).mp hedge
    exact ⟨id, parent, hparent, rfl, rfl⟩
  · rintro ⟨id, parent, hparent, rfl, rfl⟩
    exact ⟨_, (mem_edges hdraws).mpr ⟨id, parent, hparent, rfl⟩, rfl, rfl⟩

/-- The numbers of the frames grow along a path. -/
theorem lt_of_transGen (hdiscovered : tree.Discovered blocks scripts count)
    (hdraws : DrawsFrames tree document) {source target : String}
    (hpath : Relation.TransGen (Links document) source target) :
    ∃ first last : FrameId, source = frameName first ∧ target = frameName last ∧
      first.index < last.index := by
  induction hpath with
  | single hlink =>
      obtain ⟨id, parent, hparent, hsource, htarget⟩ := (links_iff hdraws).mp hlink
      exact ⟨parent, id, hsource, htarget, hdiscovered.parent_lt hparent⟩
  | tail _ hlink ih =>
      obtain ⟨first, middle, hsource, hmiddle, hlt⟩ := ih
      obtain ⟨id, parent, hparent, hsame, htarget⟩ := (links_iff hdraws).mp hlink
      obtain rfl : middle = parent := frameName_injective (hmiddle.symm.trans hsame)
      exact ⟨first, id, hsource, htarget, hlt.trans (hdiscovered.parent_lt hparent)⟩

/-- The root is the first frame, and all frames behind it have a parent. -/
theorem exists_frameIds_eq_cons (hdiscovered : tree.Discovered blocks scripts count) :
    ∃ others, tree.frameIds = FrameId.root :: others ∧
      ∀ id ∈ others, ∃ parent, tree.parent? id = some parent := by
  have hpos : tree.frames.length ≠ 0 :=
    Nat.ne_zero_of_lt (InlineTree.lt_of_frame? hdiscovered.root)
  obtain ⟨last, hlength⟩ := Nat.exists_eq_succ_of_ne_zero hpos
  refine ⟨(List.range last).map fun index => ⟨index + 1⟩, ?_, ?_⟩
  · rw [InlineTree.frameIds, hlength, List.range_succ_eq_map, List.map_cons, List.map_map]
    rfl
  · intro id hid
    obtain ⟨index, hindex, rfl⟩ := List.mem_map.mp hid
    have hlt : index + 1 < tree.frames.length :=
      hlength ▸ Nat.succ_lt_succ (List.mem_range.mp hindex)
    obtain ⟨parent, hparent, -⟩ := hdiscovered.exists_parent (Nat.succ_pos index) hlt
    exact ⟨parent, hparent⟩

theorem names_eq (hdraws : DrawsFrames tree document) :
    document.nodes.map Node.name = tree.frameIds.map frameName := by
  rw [hdraws.names, InlineTree.frameIds, List.map_map]
  rfl

/-- The edges lead to all nodes but the first, in order. -/
theorem targets_eq (hdiscovered : tree.Discovered blocks scripts count)
    (hdraws : DrawsFrames tree document) :
    document.edges.map Edge.target = (document.nodes.map Node.name).tail := by
  obtain ⟨others, hids, hparents⟩ := exists_frameIds_eq_cons hdiscovered
  have hroot : (edgeTo? tree FrameId.root).map Edge.target = none := by
    rw [edgeTo?, hdiscovered.parent?_root]
    rfl
  rw [names_eq hdraws, hdraws.edges, hids, List.map_filterMap, List.filterMap_cons, hroot,
    List.map_cons, List.tail_cons]
  apply List.filterMap_eq_map_iff_forall_eq_some.mpr
  intro id hid
  obtain ⟨parent, hparent⟩ := hparents id hid
  rw [edgeTo?, hparent]
  rfl

theorem nodup_names (hdraws : DrawsFrames tree document) :
    (document.nodes.map Node.name).Nodup := by
  rw [hdraws.names]
  exact (List.nodup_map_iff (numbered_injective "Frame")).mpr List.nodup_range

/-- A drawing of the frames is a tree if the frames were discovered one after the other. -/
theorem isTree (hdiscovered : tree.Discovered blocks scripts count)
    (hdraws : DrawsFrames tree document) : IsTree "Frame0" document where
  names := by
    refine ⟨nodup_names hdraws, ?_⟩
    rw [names_eq hdraws]
    exact List.mem_map_of_mem hdiscovered.root_mem
  inside := by
    intro edge hedge
    obtain ⟨id, parent, hparent, rfl⟩ := (mem_edges hdraws).mp hedge
    rw [names_eq hdraws]
    exact ⟨List.mem_map_of_mem (hdiscovered.parent_mem hparent),
      List.mem_map_of_mem (InlineTree.mem_frameIds_of_parent? hparent)⟩
  entered := by
    intro node hnode
    obtain ⟨others, hids, -⟩ := exists_frameIds_eq_cons hdiscovered
    have hnames : document.nodes.map Node.name = "Frame0" :: others.map frameName := by
      rw [names_eq hdraws, hids]
      rfl
    have hnodup := nodup_names hdraws
    have hname : node.name ∈ document.nodes.map Node.name := List.mem_map_of_mem hnode
    rw [targets_eq hdiscovered hdraws]
    rw [hnames, List.mem_cons] at hname
    rw [hnames, List.nodup_cons] at hnodup
    rw [hnames, List.tail_cons, hnodup.2.count]
    rcases hname with hroot | hother
    · rw [if_pos hroot, hroot, if_neg hnodup.1]
    · have hroot : node.name ≠ "Frame0" := by
        intro hroot
        exact hnodup.1 (hroot ▸ hother)
      rw [if_neg hroot, if_pos hother]
  reached := by
    intro node hnode
    have hname : node.name ∈ document.nodes.map Node.name := List.mem_map_of_mem hnode
    rw [names_eq hdraws] at hname
    obtain ⟨id, hid, hsame⟩ := List.mem_map.mp hname
    have hdown : Relation.ReflTransGen (Function.swap tree.ParentOf) FrameId.root id :=
      Relation.ReflTransGen.swap _ _ (hdiscovered.reaches_root (InlineTree.mem_frameIds.mp hid))
    have hlinks : ∀ parent child, tree.ParentOf child parent →
        Links document (frameName parent) (frameName child) := by
      intro parent child hparent
      exact (links_iff hdraws).mpr ⟨child, parent, hparent, rfl, rfl⟩
    rw [← hsame]
    exact Relation.ReflTransGen.lift frameName hlinks _ _ hdown
  acyclic := by
    intro name hpath
    obtain ⟨first, last, hfirst, hlast, hlt⟩ := lt_of_transGen hdiscovered hdraws hpath
    obtain rfl := frameName_injective (hfirst.symm.trans hlast)
    exact absurd hlt (Nat.lt_irrefl _)

/-- **The frames of a compilation are drawn as a tree.**  The drawing has a node for each frame of
the tree that is rebuilt from the blocks, named for its number and of its style class, with the
name and the location of its script as they are, or with its number alone.  The edges lead from
parents to children: none to `Frame0`, one to every other node, which is reached from there, and
there are no cycles. -/
theorem frames_drawn (graph : Graph) (scripts : List Script) :
    DrawsFrames (.rebuild graph.mir.blocks scripts)
        (draw .src graph scripts (.rebuild graph.mir.blocks scripts)) ∧
      IsTree "Frame0" (draw .src graph scripts (.rebuild graph.mir.blocks scripts)) := by
  have hdiscovered := InlineTree.rebuild_discovered graph.mir.blocks scripts
  have hdraws := drawsFrames graph hdiscovered
  exact ⟨hdraws, isTree hdiscovered hdraws⟩

end CompileWatch.Dot
