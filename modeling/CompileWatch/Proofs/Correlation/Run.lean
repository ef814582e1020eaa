import CompileWatch.Proofs.Correlation.ActorMoves
import CompileWatch.Proofs.Correlation.ControllerMoves
import CompileWatch.Proofs.Correlation.PanelMoves

/-!
# Answers belong to their requests

In an orderly run every operation is ended by an answer to its own request, unless the
controller has refused to remove a compilation.  A refused removal is answered by an error
that nobody waits for.  It ends the next operation, and from then on each answer is left to
the operation after its own.
-/

namespace CompileWatch

variable {Image : Type} {traced : Traced Image} {controller : Controller} {requests : List Frame}
  {inbox : List (Frame × Option Nat)}

/-- **Every move of an orderly run keeps requests and answers together.** -/
theorem Correlated.move (hcorrelated : Correlated traced controller requests inbox) (move : Move)
    (horderly : traced.session.orderly move) (hremoves : traced.session.removes move) :
    ∃ controller requests inbox, Correlated (traced.move move) controller requests inbox := by
  by_cases hstep : ∃ party, move = .step party
  · obtain ⟨party, rfl⟩ := hstep
    cases party with
    | panel =>
        obtain ⟨inbox, hnext⟩ := hcorrelated.stepPanel
        exact ⟨controller, requests, inbox, hnext⟩
    | controller => exact hcorrelated.stepController hremoves
    | actor => exact ⟨controller, requests, inbox, hcorrelated.stepActor⟩
  · have houtside : ∀ party, move ≠ .step party := fun party hmove => hstep ⟨party, hmove⟩
    obtain ⟨requests, hnext⟩ := hcorrelated.outside move horderly houtside
    exact ⟨controller, requests, inbox, hnext⟩

theorem Correlated.run (hcorrelated : Correlated traced controller requests inbox)
    (moves : List Move) (horderly : traced.session.runOrderly moves)
    (hremoves : traced.session.runRemoves moves) :
    ∃ controller requests inbox, Correlated (traced.run moves) controller requests inbox := by
  induction moves generalizing traced controller requests inbox with
  | nil => exact ⟨controller, requests, inbox, hcorrelated⟩
  | cons first rest ih =>
      rw [Session.runOrderly, Bool.and_eq_true] at horderly
      rw [Session.runRemoves, Bool.and_eq_true] at hremoves
      obtain ⟨controller, requests, inbox, hnext⟩ :=
        hcorrelated.move first horderly.1 hremoves.1
      rw [← traced.session_move first] at horderly hremoves
      exact ih hnext horderly.2 hremoves.2

theorem correlated_fresh (runtimeBytes panelBytes : Nat) (panel : Panel Image) :
    Correlated { session := Session.fresh runtimeBytes panelBytes panel } {} [] [] where
  panel := rfl
  actor := rfl
  present := rfl
  right := rfl
  left := rfl
  origins := rfl
  posted := rfl
  errand := ⟨[], [], rfl, rfl, .quiet []⟩
  phase := .free nofun (by simp) (by simp)
  switches := by simp
  older := by simp
  correct := by simp

namespace Session

/-- **Operations and answers are correlated.**  In an orderly run in which no removal is refused,
every operation of the panel is ended by an event that the controller posted while it handled
the request of that very operation, and the result is the right one for that request. -/
theorem answers_correlated (runtimeBytes panelBytes : Nat) (panel : Panel Image) (moves : List Move)
    (horderly : (fresh runtimeBytes panelBytes panel).runOrderly moves)
    (hremoves : (fresh runtimeBytes panelBytes panel).runRemoves moves) :
    let traced := Traced.run { session := fresh runtimeBytes panelBytes panel } moves
    traced.session = (fresh runtimeBytes panelBytes panel).run moves ∧
      ∀ ending ∈ traced.endings, ending.Correct traced.stores traced.switches := by
  intro traced
  have hsession : traced.session = (fresh runtimeBytes panelBytes panel).run moves :=
    Traced.session_run _ moves
  obtain ⟨controller, requests, inbox, hcorrelated⟩ :=
    (correlated_fresh runtimeBytes panelBytes panel).run moves horderly hremoves
  exact ⟨hsession, hcorrelated.correct⟩

/-- A run that connects, selects and removes a compilation, and disconnects. -/
def answeredMoves : List Move :=
  [.call .connect, .step .controller, .step .actor, .step .controller, .step .panel, .step .panel,
    .clearCall, .compile { json := "\x7b\x7d" }, .step .actor, .step .controller,
    .call (.select ⟨0⟩), .step .controller, .step .panel, .step .panel, .clearCall,
    .remove ⟨0⟩, .call .disconnect, .step .controller, .step .controller, .step .actor,
    .step .controller, .step .panel, .step .panel]

/-- In this run all three operations end well, each by the answer to its own request. -/
theorem answered_correlated :
    let start := fresh 200 200 { renderer := Renderer.source }
    let traced := Traced.run { session := start } answeredMoves
    start.runOrderly answeredMoves ∧ start.runRemoves answeredMoves ∧
      (traced.endings.map fun ending => (ending.call, ending.request, ending.result.isOk)) =
        [(.connect, 0, true), (.select ⟨0⟩, 1, true), (.disconnect, 3, true)] ∧
      ∀ ending ∈ traced.endings, ending.Correct traced.stores traced.switches := by
  intro start traced
  have hrun : start.runOrderly answeredMoves ∧ start.runRemoves answeredMoves ∧
      (traced.endings.map fun ending => (ending.call, ending.request, ending.result.isOk)) =
        [(.connect, 0, true), (.select ⟨0⟩, 1, true), (.disconnect, 3, true)] := by
    decide +kernel
  obtain ⟨horderly, hremoves, hendings⟩ := hrun
  have hcorrect :=
    answers_correlated 200 200 { renderer := Renderer.source } answeredMoves horderly hremoves
  exact ⟨horderly, hremoves, hendings, hcorrect.2⟩

/-- A run that removes an unknown compilation and connects. -/
def misledMoves : List Move :=
  [.remove ⟨7⟩, .call .connect, .step .controller, .step .panel, .step .controller, .step .actor]

/-- In this run connecting ends with the error about the removal, although the request to connect
then attaches the actor. -/
theorem misled_by_removal :
    let start := fresh 200 200 { renderer := Renderer.source }
    let traced := Traced.run { session := start } misledMoves
    start.runOrderly misledMoves ∧ ∃ ending ∈ traced.endings, ending.call = .connect ∧
      ending.result.isOk = false ∧ (some ending.request, .attached) ∈ traced.switches ∧
      ¬ending.Correct traced.stores traced.switches := by
  intro start traced
  have hrun : start.runOrderly misledMoves ∧ ∃ ending ∈ traced.endings, ending.call = .connect ∧
      ending.result.isOk = false ∧ (some ending.request, .attached) ∈ traced.switches ∧
      ending.origin = some 0 ∧ ending.request = 1 := by
    decide +kernel
  obtain ⟨horderly, ending, hending, hcall, hresult, hswitch, horigin, hrequest⟩ := hrun
  refine ⟨horderly, ending, hending, hcall, hresult, hswitch, ?_⟩
  intro hcorrect
  have hown := hcorrect.1
  rw [horigin, hrequest] at hown
  cases hown

end Session

end CompileWatch
