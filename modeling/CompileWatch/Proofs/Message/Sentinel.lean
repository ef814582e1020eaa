import CompileWatch.Proofs.Message.GraphFrame

/-!
# The text of a graph frame

A frame with a graph can be written exactly when the digits of the sentinel occur neither
in the id nor in the scripts.  It then is the graph text between an opening that names the
id and the scripts and a closing brace.
-/

namespace CompileWatch.GraphFrame

open Json.Value

/-! ## The frame as text -/

/-- How a frame with a graph begins, whatever else is in it. -/
def opening : String :=
  "\x7b\"type\":\"compilation-graph\",\"id\":"

/-- The frame of a compilation with the given id, scripts and graph text. -/
def around (id : CompilationId) (scripts : List Script) (graph : String) : Frame :=
  opening ++ id.text ++ ",\"scripts\":" ++ (ofList Script.toJson scripts).render ++ ",\"graph\":" ++
    graph ++ "\x7d"

/-- The digits of the sentinel occur neither in the id nor in the scripts as they are written. -/
def Clear (id : CompilationId) (scripts : List Script) : Prop :=
  ¬ sentinelDigits <:+: id.text.toList ∧
    ¬ sentinelDigits <:+: (ofList Script.toJson scripts).render.toList

instance (id : CompilationId) (scripts : List Script) : Decidable (Clear id scripts) :=
  inferInstanceAs (Decidable (_ ∧ _))

theorem write_id (id : CompilationId) : id.toJson.write = id.text.toList := by
  rw [CompilationId.toJson, natural, write, Json.write_integer]
  rfl

theorem objectWith_leadMembers (id : CompilationId) (scripts : List Script) (graph : String) :
    Json.objectWith (leadMembers id scripts) "graph" graph.toList =
      (around id scripts graph).toList := by
  simp only [Json.objectWith, leadMembers, Json.memberRow, List.flatMap_cons, List.flatMap_nil,
    write_id, around, opening, render, String.toList_append, String.toList_ofList]
  simp [write, Json.writeString, Json.escapeChar]

/-- The envelope is the frame with the sentinel for its graph. -/
theorem envelope_eq_around (id : CompilationId) (scripts : List Script) :
    envelope id scripts = around id scripts (String.ofList sentinelDigits) := by
  rw [← String.toList_inj, ← objectWith_leadMembers, String.toList_ofList]
  exact toList_envelope id scripts

/-! ## When it can be written -/

/-- The sentinel in its own place, and what is found of it in the id and in the scripts. -/
theorem count_envelope (id : CompilationId) (scripts : List Script) :
    Text.count sentinelDigits (envelope id scripts).toList =
      Text.count sentinelDigits id.text.toList +
        Text.count sentinelDigits (ofList Script.toJson scripts).render.toList + 1 := by
  have hsplit : (envelope id scripts).toList =
      "\x7b\"type\":\"compilation-graph\",\"id\"".toList ++ ':' :: (id.text.toList ++
        ',' :: ("\"scripts\"".toList ++ ':' :: ((ofList Script.toJson scripts).render.toList ++
        ',' :: ("\"graph\"".toList ++ ':' :: (sentinelDigits ++ '\x7d' :: []))))) := by
    rw [envelope_eq_around]
    simp [around, opening]
  -- the sentinel has digits only, so that it cannot reach over a mark between the members
  have hacross := fun (mark : Char) (hmark : mark ∉ sentinelDigits) =>
    @Text.count_append_cons sentinelDigits mark (by decide) hmark
  rw [hsplit, hacross ':' (by decide), hacross ',' (by decide), hacross ':' (by decide),
    hacross ',' (by decide), hacross ':' (by decide), hacross '\x7d' (by decide)]
  have hnames : Text.count sentinelDigits "\x7b\"type\":\"compilation-graph\",\"id\"".toList = 0 ∧
      Text.count sentinelDigits "\"scripts\"".toList = 0 ∧
      Text.count sentinelDigits "\"graph\"".toList = 0 ∧
      Text.count sentinelDigits sentinelDigits = 1 ∧ Text.count sentinelDigits [] = 0 := by
    decide +kernel
  omega

theorem clear_iff (id : CompilationId) (scripts : List Script) :
    Clear id scripts ↔ Text.count sentinelDigits (envelope id scripts).toList = 1 := by
  rw [count_envelope, Clear, ← Text.count_eq_zero_iff (by decide),
    ← Text.count_eq_zero_iff (by decide)]
  omega

/-- **A frame with a graph is the graph text in its place**, and it can be written exactly when
nothing else in it could be taken for that place. -/
theorem encode_eq (frame : GraphFrame) :
    frame.encode =
      if Clear frame.id frame.scripts then
        .ok (around frame.id frame.scripts frame.graph.text)
      else .error
        (.sentinelCollision (Text.count sentinelDigits (envelope frame.id frame.scripts).toList)) := by
  by_cases hclear : Clear frame.id frame.scripts
  · obtain ⟨text, htext⟩ := exists_encode ((clear_iff _ _).mp hclear)
    rw [if_pos hclear, htext, ← String.ofList_toList (s := text), toList_of_encode htext,
      objectWith_leadMembers, String.ofList_toList]
  · rw [if_neg hclear, encode, spliceGraph]
    rw [if_neg (mt (clear_iff _ _).mpr hclear)]

/-! ## Which frames carry a graph -/

/-- The frame carries a graph under the id. -/
def Carries (id : CompilationId) (frame : Frame) : Prop :=
  ∃ scripts graph, frame = around id scripts graph

theorem comma_notMem_text (id : CompilationId) : ',' ∉ id.text.toList := by
  intro hmem
  rw [CompilationId.text, Nat.toString_eq_repr, Nat.toList_repr] at hmem
  have hdigit : Char.isDigit ',' = true := Nat.isDigit_of_mem_toDigits (by omega) (by omega) hmem
  exact absurd hdigit (by decide)

/-- A frame with a graph can be told to belong to one id. -/
theorem eq_of_carries {first second : CompilationId} {frame : Frame}
    (hfirst : Carries first frame) (hsecond : Carries second frame) : first = second := by
  obtain ⟨scripts, graph, rfl⟩ := hfirst
  obtain ⟨scripts', graph', heq⟩ := hsecond
  have hsplit : ∀ (id : CompilationId) (scripts : List Script) (graph : String),
      ((around id scripts graph).toList.drop opening.length).takeWhile (· ≠ ',') =
        id.text.toList := by
    intro id scripts graph
    have hdigits : ∀ c ∈ id.text.toList, decide (c ≠ ',') = true := by
      intro c hc
      exact decide_eq_true fun hcomma => comma_notMem_text id (hcomma ▸ hc)
    simp only [around, String.toList_append, List.append_assoc]
    rw [← String.length_toList, List.drop_left, List.takeWhile_append_of_pos hdigits]
    simp
  have htext : first.text = second.text := by
    rw [← String.toList_inj, ← hsplit first scripts graph, heq, hsplit]
  have hslot : first.slot = second.slot := Nat.repr_inj.mp htext
  cases first
  cases second
  exact congrArg _ (UInt64.toNat_inj.mp hslot)

/-- No other event is taken for a frame with a graph. -/
theorem not_carries_encode {event : PanelEvent} (hgraph : event.hasGraph = false)
    (id : CompilationId) : ¬ Carries id (Frame.encode event.toJson) := by
  rintro ⟨scripts, graph, heq⟩
  have hread := Json.read?_render (PanelEvent.integral_toJson hgraph)
  have htext : Json.Value.render event.toJson =
      String.ofList (Json.objectWith (leadMembers id scripts) "graph" graph.toList) := by
    rw [objectWith_leadMembers, String.ofList_toList]
    exact heq
  rw [htext] at hread
  obtain ⟨further, hmembers⟩ := Json.exists_read_objectWith (integral_leadMembers id scripts) hread
  cases event <;> simp_all [PanelEvent.toJson, leadMembers, PanelEvent.hasGraph]

end CompileWatch.GraphFrame
