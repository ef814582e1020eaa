import CompileWatch.Proofs.Json.Member
import CompileWatch.Proofs.Message.RoundTrip
import CompileWatch.Proofs.Text.Occurrence
import CompileWatch.RawJson

/-!
# Frames with a graph in them

The graph text takes the place of the sentinel in the field `graph` of the envelope and
of nothing else.  There the reader takes exactly that text, in front of the closing
brace as it would alone, so that decoding the frame comes down to decoding the graph.
-/

namespace CompileWatch.GraphFrame

open Json.Value

/-- The members of an envelope in front of the graph. -/
def leadMembers (id : CompilationId) (scripts : List Script) : List (String × Json.Value) :=
  [("type", .string "compilation-graph"), ("id", id.toJson),
    ("scripts", ofList Script.toJson scripts)]

theorem integral_leadMembers (id : CompilationId) (scripts : List Script) :
    IntegralMembers (leadMembers id scripts) := by
  simp [leadMembers, IntegralMembers, Integral, CompilationId.integral_toJson,
    integral_ofList Script.integral_toJson]

/-! ## The text of a frame -/

/-- The sentinel stands where the graph goes. -/
theorem toList_envelope (id : CompilationId) (scripts : List Script) :
    (envelope id scripts).toList =
      Json.objectWith (leadMembers id scripts) "graph" sentinelDigits := by
  have hsentinel : (natural graphSentinel).write = sentinelDigits := by
    rw [natural, write, Json.write_integer, Json.toList_toString]
    rfl
  rw [envelope, Frame.encode, render, String.toList_ofList, ← hsentinel, ← Json.write_object_append]
  rfl

/-- A frame can be built if the sentinel occurs once. -/
theorem exists_encode {frame : GraphFrame}
    (hcount : Text.count sentinelDigits (envelope frame.id frame.scripts).toList = 1) :
    ∃ text, frame.encode = .ok text :=
  ⟨_, by rw [encode, spliceGraph]; exact if_pos hcount⟩

/-- In a frame that can be built, the graph text stands where the graph goes. -/
theorem toList_of_encode {frame : GraphFrame} {text : Frame} (htext : frame.encode = .ok text) :
    text.toList =
      Json.objectWith (leadMembers frame.id frame.scripts) "graph" frame.graph.text.toList := by
  simp only [encode, spliceGraph] at htext
  split at htext
  · rename_i hcount
    obtain rfl := Except.ok.inj htext
    -- the sentinel that is found once can only be the one in the place of the graph
    rw [toList_envelope, Json.objectWith_eq_append] at hcount
    rw [String.toList_ofList, toList_envelope, Json.objectWith_eq_append,
      Json.objectWith_eq_append, Text.replaceFirst_of_count_eq_one (by decide) (by decide) _ hcount]
  · cases htext

/-! ## Reading a frame -/

/-- The members in front of the graph are read back, and the graph is read by itself. -/
theorem ofJson?_object (id : CompilationId) (scripts : List Script) (graph : Json.Value) :
    PanelEvent.ofJson? (.object (leadMembers id scripts ++ [("graph", graph)])) =
      (Graph.ofJson? graph).map (.compilationGraph id scripts) := by
  cases hgraph : Graph.ofJson? graph <;>
    simp [leadMembers, PanelEvent.ofJson?, members?, kind?, List.lookup, field?, occurrences?,
      CompilationId.ofJson?_toJson, toList?_ofList Script.ofJson?_toJson, hgraph]

/-- **Decoding a graph frame is decoding its graph.** -/
theorem decode_of_encode {frame : GraphFrame} {text : Frame} (htext : frame.encode = .ok text)
    (hgraph : Json.WellFormed frame.graph.text) :
    Frame.decode PanelEvent.ofJson? text =
      (Frame.decode Graph.ofJson? frame.graph.text).map
        (.compilationGraph frame.id frame.scripts) := by
  have hread := Json.read?_objectWith (integral_leadMembers frame.id frame.scripts) "graph" hgraph
  rw [← toList_of_encode htext, String.ofList_toList] at hread
  rw [Frame.decode, Frame.decode, hread]
  cases Json.read? frame.graph.text with
  | none => rfl
  | some value =>
      simp only [Option.map_some, ofJson?_object]
      cases Graph.ofJson? value <;> rfl

theorem hasGraph_of_kind {members : List (String × Json.Value)}
    (hkind : kind? members = some "compilation-graph") {event : PanelEvent}
    (hevent : PanelEvent.ofJson? (.object members) = some event) : event.hasGraph := by
  simp [PanelEvent.ofJson?, members?, hkind, Option.bind_eq_some_iff] at hevent
  obtain ⟨id, -, scripts, -, graph, -, rfl⟩ := hevent
  rfl

/-- Whatever the graph text is, a graph frame is never taken for another event. -/
theorem hasGraph_of_encode {frame : GraphFrame} {text : Frame} (htext : frame.encode = .ok text)
    {event : PanelEvent} (hevent : Frame.decode PanelEvent.ofJson? text = .ok event) :
    event.hasGraph := by
  cases hread : Json.read? text with
  | none => simp [Frame.decode, hread] at hevent
  | some value =>
      cases hvalue : PanelEvent.ofJson? value with
      | none => simp [Frame.decode, hread, hvalue] at hevent
      | some found =>
          simp only [Frame.decode, hread, hvalue, Except.ok.injEq] at hevent
          -- the members in front of the graph are read back, and the kind is one of them
          rw [← String.ofList_toList (s := text), toList_of_encode htext] at hread
          obtain ⟨further, rfl⟩ :=
            Json.exists_read_objectWith (integral_leadMembers frame.id frame.scripts) hread
          rw [← hevent]
          exact hasGraph_of_kind rfl hvalue

/-- **A spliced frame says what its graph text says.**  If the text is a graph by itself, the frame
is decoded to that graph with the id and the scripts of the compilation.  If it is not, the frame
is not decoded. -/
theorem decode_spliced {frame : GraphFrame} {text : Frame} (htext : frame.encode = .ok text)
    (hgraph : Json.WellFormed frame.graph.text) :
    (∀ graph, Frame.decode Graph.ofJson? frame.graph.text = .ok graph →
      Frame.decode PanelEvent.ofJson? text = .ok (.compilationGraph frame.id frame.scripts graph)) ∧
    ((∀ graph, Frame.decode Graph.ofJson? frame.graph.text ≠ .ok graph) →
      ∀ event, Frame.decode PanelEvent.ofJson? text ≠ .ok event) := by
  rw [decode_of_encode htext hgraph]
  constructor
  · intro graph hdecode
    rw [hdecode]
    rfl
  · intro hdecode event
    cases hresult : Frame.decode Graph.ofJson? frame.graph.text with
    | error reason => exact nofun
    | ok graph => exact absurd hresult (hdecode graph)

/-- A frame with an empty graph between blanks, and one with a text that is no graph. -/
theorem decode_spliced_samples :
    (∃ text, encode ⟨⟨7⟩, [{ url := "a.js" }], ⟨" \x7b \x7d\n", by decide⟩⟩ = .ok text ∧
      Frame.decode PanelEvent.ofJson? text =
        .ok (.compilationGraph ⟨7⟩ [{ url := "a.js" }] {})) ∧
    ∃ text, encode ⟨⟨7⟩, [], ⟨"[null]", by decide⟩⟩ = .ok text ∧
      ∀ event, Frame.decode PanelEvent.ofJson? text ≠ .ok event := by
  have hobject : Json.WellFormed " \x7b \x7d\n" :=
    @Json.Derives.spaced [' '] _ ['\n'] (by simp [Json.Gap, Json.isGap])
      (.object (@Json.Derives.closeMembers [' '] (by simp [Json.Gap, Json.isGap])))
      (by simp [Json.Gap, Json.isGap])
  have harray : Json.WellFormed "[null]" :=
    @Json.Derives.spaced [] _ [] Json.gap_nil
      (.array (.lastItem (@Json.Derives.spaced [] _ [] Json.gap_nil .null Json.gap_nil)))
      Json.gap_nil
  have hgraph : Frame.decode Graph.ofJson? " \x7b \x7d\n" = .ok {} := by cbv
  have hrefused : Frame.decode Graph.ofJson? "[null]" = .error (.decode .unexpected) := by cbv
  constructor
  · obtain ⟨text, htext⟩ := @exists_encode ⟨⟨7⟩, [{ url := "a.js" }], ⟨" \x7b \x7d\n", by decide⟩⟩
      (by decide +kernel)
    exact ⟨text, htext, (decode_spliced htext hobject).1 {} hgraph⟩
  · obtain ⟨text, htext⟩ := @exists_encode ⟨⟨7⟩, [], ⟨"[null]", by decide⟩⟩ (by decide +kernel)
    have hundecoded : ∀ graph, Frame.decode Graph.ofJson? "[null]" ≠ .ok graph := by
      simp [hrefused]
    exact ⟨text, htext, (decode_spliced htext harray).2 hundecoded⟩

end CompileWatch.GraphFrame
