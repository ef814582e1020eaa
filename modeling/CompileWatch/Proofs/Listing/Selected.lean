import CompileWatch.Proofs.Listing.Graph
import CompileWatch.Proofs.Session.Origin

/-!
# The selection and the listing

The panel selects a compilation that it lists, and drops the selection together with the entry when
the user removes it.  The event that clears the listing leaves the selection alone, so the panel
goes on to show a compilation of a session that is over.  This is the only way for the two to part.
-/

namespace CompileWatch

variable {Image : Type}

/-! ## The selection of a panel -/

namespace Panel

theorem selection_redraw (panel : Panel Image) : panel.redraw.selection = panel.selection := by
  rw [redraw]
  split <;> rfl

theorem selection_setMode (panel : Panel Image) (mode : DisplayMode) :
    (panel.setMode mode).selection = panel.selection := by
  rw [setMode]
  split
  · rfl
  · exact selection_redraw _

theorem selection_forget {panel : Panel Image} {id : CompilationId} {selection : Selection}
    (hselection : (panel.forget id).selection = some selection) :
    panel.selection = some selection ∧ selection.id ≠ id := by
  rw [forget] at hselection
  split at hselection
  · cases hselection
  · rename_i hother
    have hselected : panel.selection = some selection := hselection
    exact ⟨hselected, by simpa [hselected] using hother⟩

theorem selection_observe (panel : Panel Image) (event : PanelEvent) :
    (panel.observe event).selection = panel.selection := by
  cases event <;> rfl

/-- An event that puts a compilation on display shows its graph to an operation that selects it. -/
theorem selection_resolve {panel : Panel Image} {call : Call} {event : PanelEvent}
    {selection : Selection}
    (hselection : (panel.resolve call event).1.selection = some selection) :
    panel.selection = some selection ∨ ∃ graph, call = .select selection.id ∧
      event = .compilationGraph selection.id selection.scripts graph := by
  unfold resolve at hselection
  split at hselection
  case h_5 wanted id scripts graph =>
    split at hselection
    · rename_i hid
      rw [display, selection_redraw, Option.some.injEq] at hselection
      subst hid hselection
      exact .inr ⟨graph, rfl, rfl⟩
    · exact .inl hselection
  case h_6 =>
    split at hselection
    · cases hselection
    · exact .inl hselection
  all_goals exact .inl hselection

/-- A frame that puts a compilation on display holds the graph that was waited for. -/
theorem selection_receive {panel : Panel Image} {call : Call} {frame : Frame}
    {selection : Selection}
    (hselection : (panel.receive call frame).1.selection = some selection) :
    panel.selection = some selection ∨ ∃ graph, call = .select selection.id ∧
      eventOf frame = .compilationGraph selection.id selection.scripts graph := by
  rw [receive] at hselection
  have hresolve := selection_resolve hselection
  rwa [selection_observe] at hresolve

end Panel

theorem PanelEvent.subset_list {event : PanelEvent} (hevent : event.isAttached = false)
    (entries : List ListEntry) : entries ⊆ event.list entries := by
  cases event with
  | attached => cases hevent
  | recordCompilation id scripts => exact List.subset_append_left _ _
  | compilationGraph | registered | unregistered | detached | error => exact List.Subset.refl _

/-! ## Moves -/

namespace Session

def selection? (session : Session Image) : Option Selection :=
  session.panel.bind Panel.selection

/-- The compilation is in the listing, with its scripts if the graphs are trusted. -/
def Lists (trusted : Prop) (session : Session Image) (selection : Selection) : Prop :=
  ∃ panel, session.panel = some panel ∧
    Enlisted trusted panel.entries selection.id selection.scripts

/-- In its next step the panel takes in the event that clears the listing. -/
def clears (session : Session Image) : Bool :=
  match session.panel, session.call, session.panelLink.left with
  | some _, .waiting _, .live (frame :: _) => (Panel.eventOf frame).isAttached
  | _, _, _ => false

variable {trusted : Prop} {session : Session Image} {selection : Selection}

/-- A compilation that comes on display is listed. -/
theorem Backed.lists_new (hbacked : session.Backed trusted) {move : Move}
    (hselection : (session.move move).selection? = some selection) :
    session.selection? = some selection ∨ (session.move move).Lists trusted selection := by
  have hturn := session.panelTurn_move move
  rw [selection?] at hselection
  rw [Lists]
  generalize (session.move move).panel = after at hturn hselection ⊢
  cases hturn with
  | kept => exact .inl hselection
  | redrawn mode =>
      obtain ⟨after, hafter, hselected⟩ := Option.bind_eq_some_iff.mp hselection
      obtain ⟨panel, hpanel, rfl⟩ := Option.map_eq_some_iff.mp hafter
      rw [Panel.selection_setMode] at hselected
      exact .inl (Option.bind_eq_some_iff.mpr ⟨panel, hpanel, hselected⟩)
  | forgot id =>
      obtain ⟨after, hafter, hselected⟩ := Option.bind_eq_some_iff.mp hselection
      obtain ⟨panel, hpanel, rfl⟩ := Option.map_eq_some_iff.mp hafter
      exact .inl (Option.bind_eq_some_iff.mpr
        ⟨panel, hpanel, (Panel.selection_forget hselected).1⟩)
  | closed => cases hselection
  | @read panel call frame rest hpanel hcall hleft =>
      rcases Panel.selection_receive hselection with hselected | ⟨graph, hselect, hevent⟩
      · refine .inl ?_
        rw [selection?, hpanel]
        exact hselected
      · have hbacks := hbacked panel selection.id hpanel (hselect ▸ hcall)
        rw [@Link.queue_of_live session.panelLink .left _ hleft] at hbacks
        refine .inr ⟨_, rfl, ?_⟩
        rw [Panel.entries_receive, hevent]
        exact hbacks.1 _ _ hevent

/-- A compilation that is listed and on display stays so, unless the listing is cleared. -/
theorem lists_move {move : Move} (hselection : (session.move move).selection? = some selection)
    (hlists : session.Lists trusted selection) :
    (session.move move).Lists trusted selection ∨ (move = .step .panel ∧ session.clears) := by
  obtain ⟨panel, hpanel, henlisted⟩ := hlists
  have hturn := session.panelTurn_move move
  rw [selection?] at hselection
  rw [Lists]
  generalize (session.move move).panel = after at hturn hselection ⊢
  cases hturn with
  | kept => exact .inl ⟨panel, hpanel, henlisted⟩
  | redrawn mode =>
      refine .inl ⟨panel.setMode mode, by rw [hpanel, Option.map_some], ?_⟩
      rwa [Panel.entries_setMode]
  | forgot id =>
      rw [hpanel, Option.map_some, Option.bind_some] at hselection
      obtain ⟨-, hother⟩ := Panel.selection_forget hselection
      obtain ⟨entry, hentry, hid, hscripts⟩ := henlisted
      refine .inl ⟨panel.forget id, by rw [hpanel, Option.map_some], entry, ?_, hid, hscripts⟩
      rw [Panel.entries_forget, List.mem_filter]
      exact ⟨hentry, by simpa [hid] using hother⟩
  | closed => cases hselection
  | @read present call frame rest hpresent hcall hleft =>
      obtain rfl := Option.some.inj (hpanel.symm.trans hpresent)
      cases hattached : (Panel.eventOf frame).isAttached with
      | true =>
          refine .inr ⟨rfl, ?_⟩
          simp only [clears, hpanel, hcall, hleft, hattached]
      | false =>
          refine .inl ⟨_, rfl, ?_⟩
          rw [Panel.entries_receive]
          exact henlisted.mono (PanelEvent.subset_list hattached panel.entries)

/-! ## Runs -/

theorem run_concat (session : Session Image) (moves : List Move) (last : Move) :
    session.run (moves ++ [last]) = (session.run moves).move last :=
  List.foldl_concat ..

theorem runOrderly_iff {session : Session Image} {moves : List Move} :
    session.runOrderly moves ↔ session.throughout orderly moves := by
  induction moves generalizing session with
  | nil => rfl
  | cons first rest ih => rw [throughout_cons, runOrderly, Bool.and_eq_true, ih]

/-- In the course of the moves the listing was cleared while the compilation was on display, and it
has been on display since. -/
def Outlives (start : Session Image) (moves : List Move) (selection : Selection) : Prop :=
  ∃ earlier later, moves = earlier ++ .step .panel :: later ∧ (start.run earlier).clears ∧
    ∀ further, further <+: .step .panel :: later →
      ((start.run earlier).run further).selection? = some selection

theorem Outlives.concat {start : Session Image} {moves : List Move} {last : Move}
    (houtlives : start.Outlives moves selection)
    (hselection : (start.run (moves ++ [last])).selection? = some selection) :
    start.Outlives (moves ++ [last]) selection := by
  obtain ⟨earlier, later, rfl, hclears, hshown⟩ := houtlives
  refine ⟨earlier, later ++ [last], by simp, hclears, fun further hfurther => ?_⟩
  rw [← List.cons_append, List.prefix_concat_iff] at hfurther
  rcases hfurther with rfl | hfurther
  · rw [List.append_assoc, run, List.foldl_append] at hselection
    exact hselection
  · exact hshown further hfurther

theorem outlives_concat {start : Session Image} {moves : List Move}
    (hclears : (start.run moves).clears) (hbefore : (start.run moves).selection? = some selection)
    (hafter : (start.run (moves ++ [.step .panel])).selection? = some selection) :
    start.Outlives (moves ++ [.step .panel]) selection := by
  refine ⟨moves, [], rfl, hclears, fun further hfurther => ?_⟩
  rcases List.prefix_cons_iff.mp hfurther with rfl | ⟨rest, rfl, hrest⟩
  · exact hbefore
  · rw [List.prefix_nil.mp hrest]
    rw [run_concat] at hafter
    exact hafter

/-- Every graph that is compiled in the moves is a JSON text. -/
def CompilesJson (moves : List Move) : Prop :=
  ∀ compilation, .compile compilation ∈ moves → compilation.isGraph →
    Json.WellFormed compilation.json

theorem CompilesJson.wellFormed {start : Session Image} (hstart : start.compilations = [])
    {moves : List Move} (hjson : CompilesJson moves) {controller : Controller}
    (hcontroller : (start.run moves).controller = some controller) :
    ∀ snapshot ∈ controller.store.live, Json.WellFormed snapshot.graph.text := by
  intro snapshot hsnapshot
  refine hjson _ (compile_of_live hstart hcontroller hsnapshot) ?_
  rw [Compilation.isGraph, RawJson.ofText?, dif_pos snapshot.graph.structured]
  rfl

theorem CompilesJson.of_concat {moves : List Move} {last : Move}
    (hjson : CompilesJson (moves ++ [last])) : CompilesJson moves :=
  fun compilation hcompiled => hjson compilation (List.mem_append_left _ hcompiled)

/-- What every move of an orderly run keeps up. -/
structure Attended (trusted : Prop) (traced : Traced Image) : Prop where
  correlated : ∃ controller requests inbox, Correlated traced controller requests inbox
  listed : traced.session.Listed
  backed : traced.session.Backed trusted

theorem attended_fresh (trusted : Prop) (runtimeBytes panelBytes : Nat) (renderer : Renderer Image)
    (mode : DisplayMode) :
    Attended trusted { session := fresh runtimeBytes panelBytes { renderer, mode } } where
  correlated := ⟨{}, [], [], correlated_fresh runtimeBytes panelBytes { renderer, mode }⟩
  listed := listed_fresh runtimeBytes panelBytes renderer mode
  backed := by
    intro panel id hpanel hcall
    cases hcall

theorem attended_move {traced : Traced Image} (hattended : Attended trusted traced)
    (htrusted : trusted → ∀ controller, traced.session.controller = some controller →
      ∀ snapshot ∈ controller.store.live, Json.WellFormed snapshot.graph.text)
    (move : Move) (horderly : traced.session.orderly move)
    (haccepts : traced.session.accepts move) (hin : traced.session.removesListed move)
    (hnumbers : traced.session.numbers move) : Attended trusted (traced.move move) := by
  obtain ⟨⟨controller, requests, inbox, hcorrelated⟩, hlisted, hbacked⟩ := hattended
  have hremoves := hlisted.removes hcorrelated.panel move
  have hsettled := removesSettled_of_orderly hcorrelated move horderly
  constructor
  case correlated => exact hcorrelated.move move horderly hremoves
  case listed =>
    rw [traced.session_move]
    exact hlisted.move move haccepts hin hsettled hnumbers
  case backed =>
    rw [traced.session_move]
    exact hbacked.move hcorrelated hlisted
      (fun htrust => htrusted htrust controller hcorrelated.present) move horderly

/-- A run that keeps to the rules is attended, and a compilation on display is listed or has
outlived the listing. -/
theorem attended_run {start : Session Image} (hstart : start.compilations = [])
    (hattended : Attended trusted { session := start }) (hnothing : start.selection? = none)
    (moves : List Move) (horderly : start.throughout orderly moves)
    (haccepts : start.throughout accepts moves) (hin : start.throughout removesListed moves)
    (hnumbers : start.throughout numbers moves) (htrusted : trusted → CompilesJson moves) :
    Attended trusted (Traced.run { session := start } moves) ∧
      ∀ selection, (start.run moves).selection? = some selection →
        (start.run moves).Lists trusted selection ∨ start.Outlives moves selection := by
  -- on the last move: being backed says that what comes on display with it is listed
  induction moves using List.reverseRecOn with
  | nil =>
      refine ⟨hattended, fun selection hselection => ?_⟩
      rw [run, List.foldl_nil, hnothing] at hselection
      cases hselection
  | append_singleton moves last ih =>
      rw [throughout_concat] at horderly haccepts hin hnumbers
      obtain ⟨hbefore, hselected⟩ := ih horderly.1 haccepts.1 hin.1 hnumbers.1
        fun htrust => (htrusted htrust).of_concat
      have hsession := Traced.session_run { session := start } moves
      have hlast : Traced.run { session := start } (moves ++ [last]) =
          (Traced.run { session := start } moves).move last := List.foldl_concat ..
      constructor
      · rw [hlast]
        refine attended_move hbefore ?_ last ?_ ?_ ?_ ?_
        · intro htrust controller hcontroller
          rw [hsession] at hcontroller
          exact (htrusted htrust).of_concat.wellFormed hstart hcontroller
        all_goals rw [hsession]
        · exact horderly.2
        · exact haccepts.2
        · exact hin.2
        · exact hnumbers.2
      · intro selection hselection
        have hbacked := hbefore.backed
        rw [hsession] at hbacked
        have hmoved := hselection
        rw [run_concat] at hmoved ⊢
        rcases hbacked.lists_new hmoved with hshown | hlists
        -- it was on display before, so the listing has lost it only if this move clears it
        · rcases hselected selection hshown with hlists | houtlives
          · rcases lists_move hmoved hlists with hlists | ⟨rfl, hclears⟩
            · exact .inl hlists
            · exact .inr (outlives_concat hclears hshown hselection)
          · exact .inr (houtlives.concat hselection)
        · exact .inl hlists

/-- **A selection is listed unless it has outlived the listing.**  In an orderly run in which no
post is rejected and the user removes only compilations that are in the listing, the listing has an
entry with the id of the selection, and with its scripts if every graph is a JSON text.  The one
exception is a selection that was on display when a new session cleared the listing. -/
theorem selection_listed (runtimeBytes panelBytes : Nat) (renderer : Renderer Image)
    (mode : DisplayMode) (moves : List Move) :
    let start := fresh runtimeBytes panelBytes { renderer, mode }
    let final := start.run moves
    start.runOrderly moves → start.throughout accepts moves → start.throughout removesListed moves →
      start.throughout numbers moves →
        ∀ (panel : Panel Image) (selection : Selection), final.panel = some panel →
          panel.selection = some selection →
            (∃ entry ∈ panel.entries, entry.id = selection.id ∧
              (CompilesJson moves → entry.scripts = selection.scripts)) ∨
            start.Outlives moves selection := by
  intro start final horderly haccepts hin hnumbers panel selection hpanel hselection
  have hattended : Attended (CompilesJson moves) { session := start } :=
    attended_fresh _ runtimeBytes panelBytes renderer mode
  have hempty : start.compilations = [] := compilations_fresh runtimeBytes panelBytes _
  obtain ⟨-, hselected⟩ := attended_run hempty hattended rfl moves (runOrderly_iff.mp horderly)
    haccepts hin hnumbers id
  have hshown : final.selection? = some selection :=
    Option.bind_eq_some_iff.mpr ⟨panel, hpanel, hselection⟩
  refine (hselected selection hshown).imp_left ?_
  rintro ⟨present, hpresent, henlisted⟩
  obtain rfl := Option.some.inj (hpanel.symm.trans hpresent)
  exact henlisted

/-- A listing that is never cleared while a compilation is on display is not outlived. -/
theorem not_outlives {start : Session Image} {moves : List Move}
    (hquiet : start.throughout (fun session _ => !session.clears || session.selection?.isNone)
      moves) : ¬ start.Outlives moves selection := by
  rintro ⟨earlier, later, rfl, hclears, hshown⟩
  have hbefore := hshown [] List.nil_prefix
  rw [run, List.foldl_nil] at hbefore
  rw [throughout_append, throughout_cons, hclears, hbefore] at hquiet
  exact absurd hquiet.2.1 (by simp)

/-- Connecting, and recording a compilation with an empty graph. -/
def recordingMoves : List Move :=
  [.call .connect, .step .controller, .step .actor, .step .controller, .step .panel, .step .panel,
    .clearCall, .compile { json := "\x7b\x7d" }, .step .actor, .step .controller]

/-- Selecting the compilation that was recorded first. -/
def selectingMoves : List Move :=
  [.call (.select ⟨0⟩), .step .controller, .step .panel, .step .panel, .clearCall]

def leavingMoves : List Move :=
  [.call .disconnect, .step .controller, .step .actor, .step .controller, .step .panel,
    .step .panel, .step .panel, .clearCall]

/-- A run with a compilation in each of two sessions, which selects the later one. -/
def reconnectingMoves : List Move :=
  recordingMoves ++ leavingMoves ++ recordingMoves ++ selectingMoves

/-- At the end of this run the compilation of the second session is on display, and it is listed
under the id that both had. -/
theorem sample_selection_listed :
    let start := fresh 200 200 { renderer := Renderer.source }
    let final := start.run reconnectingMoves
    start.runOrderly reconnectingMoves ∧ start.throughout accepts reconnectingMoves ∧
      start.throughout removesListed reconnectingMoves ∧
      start.throughout numbers reconnectingMoves ∧ CompilesJson reconnectingMoves ∧
      ∃ panel selection, final.panel = some panel ∧ panel.selection = some selection ∧
        ∃ entry ∈ panel.entries, entry.id = selection.id ∧ entry.scripts = selection.scripts := by
  have hrun :
      let start := fresh 200 200 { renderer := Renderer.source }
      let final := start.run reconnectingMoves
      start.runOrderly reconnectingMoves ∧ start.throughout accepts reconnectingMoves ∧
        start.throughout removesListed reconnectingMoves ∧
        start.throughout numbers reconnectingMoves ∧
        start.throughout (fun session _ => !session.clears || session.selection?.isNone)
          reconnectingMoves ∧
        final.selection?.isSome := by
    decide +kernel
  dsimp only at hrun ⊢
  obtain ⟨horderly, haccepts, hin, hnumbers, hquiet, hselected⟩ := hrun
  have hjson : CompilesJson reconnectingMoves := by
    have hempty : Json.WellFormed "\x7b\x7d" :=
      @Json.Derives.spaced [] _ [] Json.gap_nil (.object (.closeMembers Json.gap_nil)) Json.gap_nil
    intro compilation hcompiled _
    simp only [reconnectingMoves, recordingMoves, selectingMoves, leavingMoves, List.mem_append,
      List.mem_cons, reduceCtorEq, Move.compile.injEq, List.not_mem_nil, false_or, or_false]
      at hcompiled
    obtain rfl : compilation = { json := "\x7b\x7d" } := by simpa using hcompiled
    exact hempty
  obtain ⟨selection, hselection⟩ := Option.isSome_iff_exists.mp hselected
  obtain ⟨panel, hpanel, hdisplayed⟩ := Option.bind_eq_some_iff.mp hselection
  refine ⟨horderly, haccepts, hin, hnumbers, hjson, panel, selection, hpanel, hdisplayed, ?_⟩
  rcases selection_listed 200 200 Renderer.source .mir reconnectingMoves horderly haccepts hin
    hnumbers panel selection hpanel hdisplayed with ⟨entry, hentry, hid, hscripts⟩ | houtlives
  · exact ⟨entry, hentry, hid, hscripts hjson⟩
  · exact absurd houtlives (not_outlives hquiet)

/-- A run that selects a compilation, disconnects and connects again. -/
def strandingMoves : List Move :=
  recordingMoves ++ selectingMoves ++ leavingMoves ++
    [.call .connect, .step .controller, .step .actor, .step .controller, .step .panel, .step .panel]

/-- At the end of this run nothing is under way and the new session lists nothing, but the
compilation of the old one is still on display. -/
theorem selection_outlives_listing :
    let start := fresh 200 200 { renderer := Renderer.source }
    let final := start.run strandingMoves
    start.runOrderly strandingMoves ∧ start.throughout accepts strandingMoves ∧
      start.throughout removesListed strandingMoves ∧ start.throughout numbers strandingMoves ∧
      final.turn?.isNone ∧
      ∃ panel selection, final.panel = some panel ∧ panel.connected ∧
        panel.selection = some selection ∧ selection.id = ⟨0⟩ ∧ panel.entries = [] := by
  have hrun :
      let start := fresh 200 200 { renderer := Renderer.source }
      let final := start.run strandingMoves
      start.runOrderly strandingMoves ∧ start.throughout accepts strandingMoves ∧
        start.throughout removesListed strandingMoves ∧ start.throughout numbers strandingMoves ∧
        final.turn?.isNone ∧ final.selection?.map Selection.id = some ⟨0⟩ ∧
        final.panel.map (fun panel => (panel.connected, panel.entries)) = some (true, []) := by
    decide +kernel
  dsimp only at hrun ⊢
  obtain ⟨horderly, haccepts, hin, hnumbers, hblocked, hselected, hlisting⟩ := hrun
  obtain ⟨selection, hselection, hid⟩ := Option.map_eq_some_iff.mp hselected
  obtain ⟨panel, hpanel, hdisplayed⟩ := Option.bind_eq_some_iff.mp hselection
  rw [hpanel, Option.map_some, Option.some.injEq] at hlisting
  obtain ⟨hconnected, hentries⟩ := Prod.mk.inj hlisting
  exact ⟨horderly, haccepts, hin, hnumbers, hblocked, panel, selection, hpanel, hconnected,
    hdisplayed, hid, hentries⟩

end Session

end CompileWatch
