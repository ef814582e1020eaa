import CompileWatch.Proofs.Correlation.Run
import CompileWatch.Proofs.Listing.Moves

/-!
# The listing agrees with the store

Whenever nothing is under way between the panel and the controller, the panel lists what the store
holds.  It is enough for this that every removal names a compilation in the listing and that none
is made while a connect is under way.

A user who lets every operation end never removes anything while a connect is under way.  A user
who gives up a connect can, and then the removal reaches the store of the new session although the
listing was still that of the old one.
-/

namespace CompileWatch

variable {Image : Type}

namespace Session

/-- Every move of a run is as it should be, in the state in which it is made. -/
def throughout (allows : Session Image → Move → Bool) (session : Session Image) : List Move → Bool
  | [] => true
  | first :: rest => allows session first && (session.move first).throughout allows rest

theorem throughout_cons {allows : Session Image → Move → Bool} {session : Session Image}
    {first : Move} {rest : List Move} :
    session.throughout allows (first :: rest) ↔
      allows session first ∧ (session.move first).throughout allows rest := by
  rw [throughout, Bool.and_eq_true]

theorem throughout_append {allows : Session Image → Move → Bool} {session : Session Image}
    {moves later : List Move} :
    session.throughout allows (moves ++ later) ↔
      session.throughout allows moves ∧ (session.run moves).throughout allows later := by
  induction moves generalizing session with
  | nil => simp [throughout, run]
  | cons first rest ih =>
      rw [List.cons_append, throughout_cons, throughout_cons, ih, and_assoc]
      rfl

theorem throughout_concat {allows : Session Image → Move → Bool} {session : Session Image}
    {moves : List Move} {last : Move} :
    session.throughout allows (moves ++ [last]) ↔
      session.throughout allows moves ∧ allows (session.run moves) last := by
  rw [throughout_append, throughout_cons]
  simp [throughout]

theorem Listed.run {session : Session Image} (hlisted : session.Listed) (moves : List Move)
    (haccepts : session.throughout accepts moves) (hin : session.throughout removesListed moves)
    (hsettled : session.throughout removesSettled moves)
    (hnumbers : session.throughout numbers moves) : (session.run moves).Listed := by
  induction moves generalizing session with
  | nil => exact hlisted
  | cons first rest ih =>
      rw [throughout_cons] at haccepts hin hsettled hnumbers
      exact ih (hlisted.move first haccepts.1 hin.1 hsettled.1 hnumbers.1) haccepts.2 hin.2
        hsettled.2 hnumbers.2

theorem listed_fresh (runtimeBytes panelBytes : Nat) (renderer : Renderer Image)
    (mode : DisplayMode) : (fresh runtimeBytes panelBytes { renderer, mode }).Listed := by
  intro panel controller hpanel hcontroller
  obtain rfl := Option.some.inj hpanel
  obtain rfl := Option.some.inj hcontroller
  exact .initial

/-- With an empty link between them, the panel lists what the controller holds. -/
theorem Listed.entries_eq {session : Session Image} (hlisted : session.Listed)
    {panel : Panel Image} {controller : Controller} (hpanel : session.panel = some panel)
    (hcontroller : session.controller = some controller)
    (hleft : session.panelLink.queue .left = []) (hright : session.panelLink.queue .right = []) :
    panel.entries = controller.store.live.map ListEntry.ofSnapshot ∧
      panel.entries.Pairwise fun first second => first.id.slot < second.id.slot := by
  have hmirrored := hlisted panel controller hpanel hcontroller
  rw [hleft, hright] at hmirrored
  have hentries : panel.entries = controller.store.listing := hmirrored.entries_eq
  refine ⟨hentries, ?_⟩
  rw [hentries]
  exact hmirrored.tidy.pairwise_listing

/-- **The listing agrees with the store.**  In a run in which no post is rejected and the user
removes only compilations that are in the listing, and none while a connect is under way, the panel
lists exactly what the store holds whenever the panel link is empty in both directions.  The ids
increase along the listing. -/
theorem listing_agrees (runtimeBytes panelBytes : Nat) (renderer : Renderer Image)
    (mode : DisplayMode) (moves : List Move) :
    let start := fresh runtimeBytes panelBytes { renderer, mode }
    let final := start.run moves
    start.throughout accepts moves → start.throughout removesListed moves →
      start.throughout removesSettled moves → start.throughout numbers moves →
        ∀ (panel : Panel Image) (controller : Controller), final.panel = some panel →
          final.controller = some controller → final.panelLink.queue .left = [] →
            final.panelLink.queue .right = [] →
              panel.entries = controller.store.live.map ListEntry.ofSnapshot ∧
                panel.entries.Pairwise fun first second => first.id.slot < second.id.slot := by
  intro start final haccepts hin hsettled hnumbers panel controller hpanel hcontroller hleft hright
  have hlisted : final.Listed :=
    (listed_fresh runtimeBytes panelBytes renderer mode).run moves haccepts hin hsettled hnumbers
  exact hlisted.entries_eq hpanel hcontroller hleft hright

/-- A run that connects, records two compilations, removes the first one, and connects again to
record and remove once more. -/
def listedMoves : List Move :=
  [.call .connect, .step .controller, .step .actor, .step .controller, .step .panel, .step .panel,
    .clearCall, .compile { json := "\x7b\x7d" }, .compile { json := "[]" }, .step .actor,
    .step .actor, .step .controller, .step .controller, .call .event, .step .panel, .remove ⟨0⟩,
    .clearCall, .call .event, .step .panel, .step .controller]

/-- At the end of this run the second compilation is listed and held, and the first is neither. -/
theorem sample_listing_agrees :
    let start := fresh 200 200 { renderer := Renderer.source }
    let final := start.run listedMoves
    start.throughout accepts listedMoves ∧ start.throughout removesListed listedMoves ∧
      start.throughout removesSettled listedMoves ∧ start.throughout numbers listedMoves ∧
      ∃ panel controller, final.panel = some panel ∧ final.controller = some controller ∧
        panel.entries = [{ id := ⟨1⟩, scripts := [] }] ∧
        panel.entries = controller.store.live.map ListEntry.ofSnapshot ∧
        panel.entries.Pairwise fun first second => first.id.slot < second.id.slot := by
  have hrun :
      let start := fresh 200 200 { renderer := Renderer.source }
      let final := start.run listedMoves
      start.throughout accepts listedMoves ∧ start.throughout removesListed listedMoves ∧
        start.throughout removesSettled listedMoves ∧ start.throughout numbers listedMoves ∧
        final.panelLink.queue .left = [] ∧ final.panelLink.queue .right = [] ∧
        final.controller.isSome ∧
        final.panel.map Panel.entries = some [{ id := ⟨1⟩, scripts := [] }] := by
    decide +kernel
  dsimp only at hrun ⊢
  obtain ⟨haccepts, hin, hsettled, hnumbers, hleft, hright, hpresent, hentries⟩ := hrun
  obtain ⟨controller, hcontroller⟩ := Option.isSome_iff_exists.mp hpresent
  obtain ⟨panel, hpanel, hlisting⟩ := Option.map_eq_some_iff.mp hentries
  have hagrees := listing_agrees 200 200 Renderer.source .mir listedMoves haccepts hin hsettled
    hnumbers panel controller hpanel hcontroller hleft hright
  exact ⟨haccepts, hin, hsettled, hnumbers, panel, controller, hpanel, hcontroller, hlisting,
    hagrees⟩

/-- A run that gives up the second of two connects and removes a compilation while that connect is
under way. -/
def abandonedMoves : List Move :=
  [.call .connect, .step .controller, .step .actor, .step .controller, .step .panel, .step .panel,
    .clearCall, .compile { json := "\x7b\x7d" }, .step .actor, .step .controller, .call .event,
    .step .panel, .clearCall, .call .disconnect, .step .controller, .step .actor, .step .controller,
    .step .panel, .step .panel, .clearCall, .call .connect, .clearCall, .step .controller,
    .step .actor, .step .controller, .compile { json := "[]" }, .step .actor, .step .controller,
    .remove ⟨0⟩, .step .controller, .call .event, .step .panel, .clearCall, .call .event,
    .step .panel, .clearCall, .call .event, .step .panel, .clearCall]

/-- In this run every removal names a compilation in the listing and no post is rejected, and at the
end nothing is under way, no operation waits and all parties are blocked.  Yet the panel lists a
compilation that the store does not hold. -/
theorem abandoned_connect_misleads :
    let start := fresh 200 200 { renderer := Renderer.source }
    let final := start.run abandonedMoves
    start.throughout accepts abandonedMoves ∧ start.throughout removesListed abandonedMoves ∧
      start.throughout numbers abandonedMoves ∧ final.turn?.isNone ∧
      (final.call matches .idle) ∧ final.panelLink.queue .left = [] ∧
      final.panelLink.queue .right = [] ∧
      ∃ panel controller, final.panel = some panel ∧ final.controller = some controller ∧
        panel.entries = [{ id := ⟨0⟩, scripts := [] }] ∧ controller.store.live = [] ∧
        panel.entries ≠ controller.store.live.map ListEntry.ofSnapshot := by
  have hrun :
      let start := fresh 200 200 { renderer := Renderer.source }
      let final := start.run abandonedMoves
      start.throughout accepts abandonedMoves ∧ start.throughout removesListed abandonedMoves ∧
        start.throughout numbers abandonedMoves ∧ final.turn?.isNone ∧
        (final.call matches .idle) ∧ final.panelLink.queue .left = [] ∧
        final.panelLink.queue .right = [] ∧
        final.panel.map Panel.entries = some [{ id := ⟨0⟩, scripts := [] }] ∧
        final.controller.map (fun controller => controller.store.live) = some [] := by
    decide +kernel
  dsimp only at hrun ⊢
  obtain ⟨haccepts, hin, hnumbers, hblocked, hidle, hleft, hright, hentries, hlive⟩ := hrun
  obtain ⟨panel, hpanel, hlisting⟩ := Option.map_eq_some_iff.mp hentries
  obtain ⟨controller, hcontroller, hstore⟩ := Option.map_eq_some_iff.mp hlive
  refine ⟨haccepts, hin, hnumbers, hblocked, hidle, hleft, hright, panel, controller, hpanel,
    hcontroller, hlisting, hstore, ?_⟩
  rw [hlisting, hstore]
  nofun

/-! ## Runs in which every operation ends -/

/-- While no operation waits for its answer, no connect is under way. -/
theorem not_connecting_of_idle {traced : Traced Image} {controller : Controller}
    {requests : List Frame} {inbox : List (Frame × Option Nat)}
    (hcorrelated : Correlated traced controller requests inbox)
    (hidle : traced.session.awaitsAnswer = false) : traced.session.connecting = false := by
  have hcall : ∀ call, traced.session.call = .waiting call → call.request? = none := by
    intro call hwaiting
    simpa [awaitsAnswer, hwaiting] using hidle
  obtain ⟨hpending, hrequests, hinbox⟩ := hcorrelated.phase.idle hcall
  have hleft : traced.session.panelLink.queue .left = inbox.map Prod.fst :=
    Link.queue_of_live hcorrelated.left
  have hright : traced.session.panelLink.queue .right = requests :=
    Link.queue_of_live hcorrelated.right
  rw [connecting, hcorrelated.present, Option.bind_some, hpending, hleft, hright]
  simp only [connectUnderWay, Bool.or_eq_false_iff, List.any_eq_false, decide_eq_true_eq,
    decide_eq_false_iff_not, Bool.not_eq_true]
  refine ⟨⟨?_, by simp⟩, ?_⟩
  · intro frame hframe hconnects
    rcases hrequests frame hframe with ⟨id, rfl⟩ | ⟨text, rfl⟩
    · simp at hconnects
    · simp at hconnects
  · intro frame hframe
    obtain ⟨entry, hentry, rfl⟩ := List.mem_map.mp hframe
    have hpassing := hinbox entry hentry
    rw [Passing] at hpassing
    cases hevent : Panel.eventOf entry.1 <;>
      simp_all [PanelEvent.isPassing, PanelEvent.isAttached]

/-- The controller does not refuse to remove a compilation that was listed. -/
theorem Listed.removes {session : Session Image} (hlisted : session.Listed)
    (hpresent : session.panel.isSome) (move : Move) : session.removes move := by
  unfold Session.removes
  split
  · split
    · rename_i controller id hcontroller hrequest
      obtain ⟨panel, hpanel⟩ := Option.isSome_iff_exists.mp hpresent
      obtain ⟨frame, hframe, hdecode⟩ := Option.map_eq_some_iff.mp hrequest
      have hmirrored := hlisted panel controller hpanel hcontroller
      rw [request?, hcontroller, Option.bind_some] at hframe
      cases hpending : controller.pending with
      | some pending => simp [hpending] at hframe
      | none =>
          cases hnext : session.panelLink.next .right with
          | waiting | closed => simp [hpending, hnext] at hframe
          | frame first link =>
              simp only [hpending, hnext, Option.some.injEq] at hframe
              subst hframe
              obtain ⟨rest, hright, -⟩ := Link.next_eq_frame hnext
              have hqueue : session.panelLink.queue .right = first :: rest :=
                Link.queue_of_live hright
              rw [hqueue] at hmirrored
              have htaken : first.request? = some (.removeCompilation id) := by
                rw [Frame.request?, hdecode]
                rfl
              obtain ⟨store, hremove⟩ := hmirrored.exists_removed htaken
              rw [hremove]
              rfl
    · rfl
  · rfl

/-- The user makes no removal while a connect is under way. -/
theorem removesSettled_of_orderly {traced : Traced Image} {controller : Controller}
    {requests : List Frame} {inbox : List (Frame × Option Nat)}
    (hcorrelated : Correlated traced controller requests inbox) (move : Move)
    (horderly : traced.session.orderly move) : traced.session.removesSettled move := by
  cases move with
  | remove id =>
      have hidle : traced.session.awaitsAnswer = false := by simpa [orderly] using horderly
      simp [removesSettled, not_connecting_of_idle hcorrelated hidle]
  | compile | call | clearCall | setMode | message | stopActor | stopController | closePanel | step =>
      rfl

/-- In an orderly run no removal is made while a connect is under way. -/
theorem settled_of_orderly {traced : Traced Image} {controller : Controller}
    {requests : List Frame} {inbox : List (Frame × Option Nat)}
    (hcorrelated : Correlated traced controller requests inbox) (hlisted : traced.session.Listed)
    (moves : List Move) (horderly : traced.session.runOrderly moves)
    (haccepts : traced.session.throughout accepts moves)
    (hin : traced.session.throughout removesListed moves)
    (hnumbers : traced.session.throughout numbers moves) :
    traced.session.throughout removesSettled moves := by
  induction moves generalizing traced controller requests inbox with
  | nil => rfl
  | cons first rest ih =>
      rw [runOrderly, Bool.and_eq_true] at horderly
      rw [throughout_cons] at haccepts hin hnumbers ⊢
      have hfirst := removesSettled_of_orderly hcorrelated first horderly.1
      obtain ⟨after, waiting, arrived, hnext⟩ := hcorrelated.move first horderly.1
        (hlisted.removes hcorrelated.panel first)
      have hkept := hlisted.move first haccepts.1 hin.1 hfirst hnumbers.1
      rw [← traced.session_move first] at horderly haccepts hin hnumbers hkept ⊢
      exact ⟨hfirst, ih hnext hkept horderly.2 haccepts.2 hin.2 hnumbers.2⟩

/-- **In an orderly run the listing agrees with the store** as soon as every removal names a
compilation in the listing: a user who lets every operation end never removes anything while a
connect is under way. -/
theorem orderly_listing_agrees (runtimeBytes panelBytes : Nat) (renderer : Renderer Image)
    (mode : DisplayMode) (moves : List Move) :
    let start := fresh runtimeBytes panelBytes { renderer, mode }
    let final := start.run moves
    start.runOrderly moves → start.throughout accepts moves → start.throughout removesListed moves →
      start.throughout numbers moves →
        ∀ (panel : Panel Image) (controller : Controller), final.panel = some panel →
          final.controller = some controller → final.panelLink.queue .left = [] →
            final.panelLink.queue .right = [] →
              panel.entries = controller.store.live.map ListEntry.ofSnapshot ∧
                panel.entries.Pairwise fun first second => first.id.slot < second.id.slot := by
  intro start final horderly haccepts hin hnumbers panel controller hpanel hcontroller hleft hright
  have hfresh := listed_fresh runtimeBytes panelBytes renderer mode
  have hsettled : start.throughout removesSettled moves :=
    settled_of_orderly (correlated_fresh runtimeBytes panelBytes { renderer, mode }) hfresh moves
      horderly haccepts hin hnumbers
  have hlisted : final.Listed := hfresh.run moves haccepts hin hsettled hnumbers
  exact hlisted.entries_eq hpanel hcontroller hleft hright

end Session

end CompileWatch
