import CompileWatch.Proofs.Correlation.Answers
import CompileWatch.Proofs.Correlation.Trace

/-!
# How far an operation has come

An operation waits for its request to be taken up, then perhaps for the actor, and then
for the answer to arrive at the panel.  Nothing that arrives before the answer can end
it, because no answer to an older request is left: each was read when the operation ended
that it belonged to.
-/

namespace CompileWatch

/-! ## Requests and answers -/

/-- The operation whose request makes the controller wait for a reply of the actor. -/
def Pending.call : Pending → Panel.Call
  | .attach => .connect
  | .detach => .disconnect

/-- The frame is the right answer to the request with the number. -/
def RightAnswer (stores : List Store) (switches : List (Option Nat × AttachState)) (number : Nat) :
    Panel.Call → Frame → Prop
  | .connect => Controller.Settles .attach ((some number, .attached) ∈ switches)
  | .disconnect => Controller.Settles .detach ((some number, .detached) ∈ switches)
  | .select id => fun frame => ∃ store, stores[number]? = some store ∧
      Controller.Shows store id frame
  | .event => fun _ => False

theorem rightAnswer_call (stores : List Store) (switches : List (Option Nat × AttachState))
    (number : Nat) (pending : Pending) :
    RightAnswer stores switches number pending.call =
      Controller.Settles pending ((some number, pending.target) ∈ switches) := by
  cases pending <;> rfl

/-! ## What the panel makes of a frame -/

namespace Panel

variable {Image : Type} {call : Call} {frame : Frame}

/-- A passing frame ends no operation that was begun with a request. -/
theorem receive_passing (panel : Panel Image) (hcall : call.request?.isSome)
    (hframe : Passing frame) : (panel.receive call frame).2 = none := by
  rw [Passing] at hframe
  rw [receive]
  cases call with
  | event => cases hcall
  | connect | disconnect | select =>
      cases hevent : eventOf frame <;> simp_all [PanelEvent.isPassing, resolve]

theorem receive_settles (panel : Panel Image) (pending : Pending) {granted : Prop}
    (hframe : Controller.Settles pending granted frame) :
    ∃ after result, panel.receive pending.call frame = (after, some result) ∧
      (result.isOk ↔ granted) := by
  rw [receive]
  rcases hframe with ⟨hgranted, hevent⟩ | ⟨hrefused, message, hevent⟩
  · rw [hevent]
    cases pending <;> exact ⟨_, _, rfl, by simp [Except.isOk, Except.toBool, hgranted]⟩
  · rw [hevent]
    cases pending <;> exact ⟨_, _, rfl, by simp [Except.isOk, Except.toBool, hrefused]⟩

/-- A graph frame ends the selection of its compilation, which is then on display. -/
theorem receive_graphFrame (panel : Panel Image) {id : CompilationId} {snapshot : Snapshot}
    (htext : GraphFrame.encode { id, scripts := snapshot.scripts, graph := snapshot.graph } =
      .ok frame)
    {after : Panel Image} {result : Except PanelError Answer}
    (hreceive : panel.receive (.select id) frame = (after, some result)) (hok : result.isOk) :
    after.Renders id snapshot := by
  intro hgraph
  have hdecode := GraphFrame.decode_of_encode htext hgraph
  cases hresult : Frame.decode Graph.ofJson? snapshot.graph.text with
  | error error =>
      rw [hresult] at hdecode
      have hevent : eventOf frame = .error none error.message := by
        rw [eventOf, hdecode]
        rfl
      simp only [receive, hevent, observe, resolve] at hreceive
      obtain ⟨-, rfl⟩ := hreceive
      cases hok
  | ok graph =>
      rw [hresult] at hdecode
      have hevent : eventOf frame = .compilationGraph id snapshot.scripts graph := by
        rw [eventOf, hdecode]
        rfl
      simp only [receive, hevent, observe, resolve, if_pos, Prod.mk.injEq] at hreceive
      obtain ⟨rfl, -⟩ := hreceive
      exact ⟨graph, rfl, rfl, rfl⟩

/-- The right answer ends the operation as it should, or it is a graph that cannot be told from that
of another compilation. -/
theorem receive_rightAnswer (panel : Panel Image) {stores : List Store}
    {switches : List (Option Nat × AttachState)} {number : Nat}
    (hanswer : RightAnswer stores switches number call frame) :
    (panel.receive call frame).2 = none ∨
      ∃ after result, panel.receive call frame = (after, some result) ∧
        Ending.Correct stores switches
          { call, request := number, origin := some number, frame, result, panel := after } := by
  cases call with
  | connect =>
      obtain ⟨after, result, hreceive, hok⟩ := panel.receive_settles .attach hanswer
      exact .inr ⟨after, result, hreceive, rfl, hok⟩
  | disconnect =>
      obtain ⟨after, result, hreceive, hok⟩ := panel.receive_settles .detach hanswer
      exact .inr ⟨after, result, hreceive, rfl, hok⟩
  | event => exact absurd hanswer (by simp [RightAnswer])
  | select id =>
      obtain ⟨store, hstore, hshows⟩ := hanswer
      cases hresult : (panel.receive (.select id) frame).2 with
      | none => exact .inl rfl
      | some result =>
          refine .inr ⟨_, result, Prod.ext rfl hresult, rfl, ?_⟩
          intro hok
          rcases hshows with ⟨snapshot, hget, htext⟩ | ⟨message, hevent⟩
          · exact ⟨store, snapshot, hstore, hget, htext,
              panel.receive_graphFrame htext (Prod.ext rfl hresult) hok⟩
          · -- an error is no success
            simp only [receive, hevent, observe, resolve, or_true, if_true, Option.some.injEq]
              at hresult
            rw [← hresult] at hok
            cases hok

end Panel

/-! ## The errand of the controller -/

/-- How far the controller has come with its request to the actor, as seen at the runtime link: what
it waits for, the requests behind the frames at the actor's end, these frames, and the frames at
its own end. -/
inductive Errand (number : Nat) (switches : List (Option Nat × AttachState)) :
    Option Pending → List (Option Nat) → List Frame → List Frame → Prop
  | quiet (reports : List Compilation) :
      Errand number switches none [] [] (reports.map Progress.frameOf)
  | asked {pending : Pending} (reports : List Compilation) :
      (∀ state, (some number, state) ∉ switches) →
      Errand number switches (some pending) [some number]
        [Frame.encode (Controller.requestOf pending).toJson] (reports.map Progress.frameOf)
  | replied {pending : Pending} {verdict : Verdict} (sent later : List Compilation) :
      (verdict = .granted ↔ (some number, pending.target) ∈ switches) →
      Errand number switches (some pending) [] []
        (sent.map Progress.frameOf ++
          Frame.encode (verdict.packet pending).toJson :: later.map Progress.frameOf)
  /-- The reply was too long for the link. -/
  | lost {pending : Pending} (reports : List Compilation) :
      Errand number switches (some pending) [] [] (reports.map Progress.frameOf)

/-- Without a reply to wait for, there is nothing on the runtime link but reports. -/
theorem Errand.of_none {number : Nat} {switches : List (Option Nat × AttachState)}
    {asked : List (Option Nat)} {waiting replies : List Frame}
    (herrand : Errand number switches none asked waiting replies) :
    asked = [] ∧ waiting = [] ∧ ∃ reports : List Compilation,
      replies = reports.map Progress.frameOf := by
  cases herrand with
  | quiet reports => exact ⟨rfl, rfl, reports, rfl⟩

/-- A frame that waits at the actor's end is the request. -/
theorem Errand.of_waiting {number : Nat} {switches : List (Option Nat × AttachState)}
    {pending : Option Pending} {asked : List (Option Nat)} {frame : Frame}
    {rest replies : List Frame}
    (herrand : Errand number switches pending asked (frame :: rest) replies) :
    ∃ (request : Pending) (reports : List Compilation), pending = some request ∧
      asked = [some number] ∧ frame = Frame.encode (Controller.requestOf request).toJson ∧
      rest = [] ∧ replies = reports.map Progress.frameOf ∧
      ∀ state, (some number, state) ∉ switches := by
  cases herrand with
  | asked reports hswitches => exact ⟨_, reports, rfl, rfl, rfl, rfl, rfl, hswitches⟩

/-- The first frame at the controller's end is a report, or it is the reply. -/
theorem Errand.first {number : Nat} {switches : List (Option Nat × AttachState)} {request : Pending}
    {asked : List (Option Nat)} {frame : Frame} {waiting rest : List Frame}
    (herrand : Errand number switches (some request) asked waiting (frame :: rest)) :
    (∃ compilation, frame = Progress.frameOf compilation ∧
      Errand number switches (some request) asked waiting rest) ∨
    ∃ (verdict : Verdict) (later : List Compilation), asked = [] ∧ waiting = [] ∧
      frame = Frame.encode (verdict.packet request).toJson ∧
      rest = later.map Progress.frameOf ∧
      (verdict = .granted ↔ (some number, request.target) ∈ switches) := by
  generalize hreplies : frame :: rest = replies at herrand
  cases herrand with
  | asked reports hswitches =>
      obtain ⟨compilation, later, rfl, rfl, rfl⟩ := List.map_eq_cons_iff.mp hreplies.symm
      exact .inl ⟨compilation, rfl, .asked later hswitches⟩
  | lost reports =>
      obtain ⟨compilation, later, rfl, rfl, rfl⟩ := List.map_eq_cons_iff.mp hreplies.symm
      exact .inl ⟨compilation, rfl, .lost later⟩
  | @replied _ verdict sent later hverdict =>
      cases sent with
      | nil =>
          obtain ⟨rfl, rfl⟩ := List.cons.inj hreplies
          exact .inr ⟨verdict, later, rfl, rfl, rfl, rfl, hverdict⟩
      | cons compilation sent =>
          obtain ⟨rfl, rfl⟩ := List.cons.inj hreplies
          exact .inl ⟨compilation, rfl, .replied sent later hverdict⟩

/-- A compilation is reported behind whatever is on the link. -/
theorem Errand.report {number : Nat} {switches : List (Option Nat × AttachState)}
    {pending : Option Pending} {asked : List (Option Nat)} {replies : List Frame}
    (herrand : Errand number switches pending asked [] replies) (compilation : Compilation) :
    Errand number switches pending asked [] (replies ++ [Progress.frameOf compilation]) := by
  cases herrand with
  | quiet reports => simpa using Errand.quiet (reports ++ [compilation])
  | replied sent later hverdict =>
      simpa using Errand.replied sent (later ++ [compilation]) hverdict
  | lost reports => simpa using Errand.lost (reports ++ [compilation])

/-- The actor grants a request if and only if that makes it change its state. -/
theorem Actor.exists_verdict (actor : Actor) (host : Host) (pending : Pending) :
    ∃ verdict : Verdict,
      (actor.handle host (Controller.requestOf pending)).1 = verdict.packet pending ∧
      ((verdict = .granted ∧ actor.state ≠ pending.target ∧
          (actor.handle host (Controller.requestOf pending)).2.1.state = pending.target) ∨
        (verdict ≠ .granted ∧
          (actor.handle host (Controller.requestOf pending)).2.1.state = actor.state)) := by
  cases pending <;> cases actor
  case attach.detached => exact ⟨.granted, rfl, .inl ⟨rfl, nofun, rfl⟩⟩
  case attach.attached => exact ⟨.refused .detached .attached, rfl, .inr ⟨nofun, rfl⟩⟩
  case detach.detached => exact ⟨.refused .attached .detached, rfl, .inr ⟨nofun, rfl⟩⟩
  case detach.attached => exact ⟨.granted, rfl, .inl ⟨rfl, nofun, rfl⟩⟩

/-! ## The phases of an operation -/

/-- How far the operation of the panel has come: its state, what the controller waits for, the
requests that were not taken up, and the frames at the panel with their origins. -/
inductive Phase (stores : List Store) (switches : List (Option Nat × AttachState)) (own : Nat) :
    CallState → Option Pending → List Frame → List (Frame × Option Nat) → Prop
  /-- No operation waits for an answer. -/
  | free {state : CallState} {requests : List Frame} {inbox : List (Frame × Option Nat)} :
      (∀ call, state = .waiting call → call.request? = none) →
      (∀ frame ∈ requests, Background frame) → (∀ entry ∈ inbox, Passing entry.1) →
      Phase stores switches own state none requests inbox
  /-- The request was not taken up. -/
  | posted {call : Panel.Call} {request : PanelRequest} {before : List Frame}
      {inbox : List (Frame × Option Nat)} : call.request? = some request →
      own = stores.length + before.length →
      (∀ frame ∈ before, Background frame) → (∀ entry ∈ inbox, Passing entry.1) →
      Phase stores switches own (.waiting call) none (before ++ [Frame.encode request.toJson]) inbox
  /-- The controller waits for the reply of the actor. -/
  | serving {pending : Pending} {inbox : List (Frame × Option Nat)} : own + 1 = stores.length →
      (∀ entry ∈ inbox, Passing entry.1) →
      Phase stores switches own (.waiting pending.call) (some pending) [] inbox
  /-- The answer is on the link. -/
  | answered {call : Panel.Call} {before later : List (Frame × Option Nat)} {frame : Frame} :
      call.request?.isSome → own + 1 = stores.length →
      (∀ entry ∈ before, Passing entry.1) → (∀ entry ∈ later, Passing entry.1) →
      RightAnswer stores switches own call frame →
      Phase stores switches own (.waiting call) none [] (before ++ (frame, some own) :: later)
  /-- The answer was too long for the link, or it cannot be told from another. -/
  | unanswered {call : Panel.Call} {inbox : List (Frame × Option Nat)} : call.request?.isSome →
      (∀ entry ∈ inbox, Passing entry.1) →
      Phase stores switches own (.waiting call) none [] inbox

namespace Phase

variable {stores : List Store} {switches : List (Option Nat × AttachState)} {own : Nat}
  {state : CallState} {pending : Option Pending} {requests : List Frame}
  {inbox : List (Frame × Option Nat)}

/-- A row of frames with one origin. -/
def row (frames : List Frame) (origin : Option Nat) : List (Frame × Option Nat) :=
  frames.map fun frame => (frame, origin)

@[simp]
theorem map_fst_row (frames : List Frame) (origin : Option Nat) :
    (row frames origin).map Prod.fst = frames := by
  simp [row, Function.comp_def]

@[simp]
theorem map_snd_row (frames : List Frame) (origin : Option Nat) :
    (row frames origin).map Prod.snd = List.replicate frames.length origin := by
  simp [row, Function.comp_def, List.map_const']

theorem passing_append {frames : List Frame} (hinbox : ∀ entry ∈ inbox, Passing entry.1)
    (hframes : ∀ frame ∈ frames, Passing frame) (origin : Option Nat) :
    ∀ entry ∈ inbox ++ row frames origin, Passing entry.1 := by
  intro entry hentry
  rcases List.mem_append.mp hentry with hentry | hentry
  · exact hinbox entry hentry
  · obtain ⟨frame, hframe, rfl⟩ := List.mem_map.mp hentry
    exact hframes frame hframe

/-- Passing frames arrive. -/
theorem passes (hphase : Phase stores switches own state pending requests inbox)
    {frames : List Frame} (hframes : ∀ frame ∈ frames, Passing frame) (origin : Option Nat) :
    Phase stores switches own state pending requests (inbox ++ row frames origin) := by
  cases hphase with
  | free hstate hrequests hinbox =>
      exact .free hstate hrequests (passing_append hinbox hframes origin)
  | posted hrequest hown hbefore hinbox =>
      exact .posted hrequest hown hbefore (passing_append hinbox hframes origin)
  | serving hown hinbox => exact .serving hown (passing_append hinbox hframes origin)
  | answered hcall hown hbefore hlater hanswer =>
      rw [List.append_assoc, List.cons_append]
      exact .answered hcall hown hbefore (passing_append hlater hframes origin) hanswer
  | unanswered hcall hinbox => exact .unanswered hcall (passing_append hinbox hframes origin)

/-- Without an operation that waits for its answer, nothing but what passes is underway. -/
theorem idle (hphase : Phase stores switches own state pending requests inbox)
    (hidle : ∀ call, state = .waiting call → call.request? = none) :
    pending = none ∧ (∀ frame ∈ requests, Background frame) ∧
      ∀ entry ∈ inbox, Passing entry.1 := by
  cases hphase with
  | free _ hrequests hinbox => exact ⟨rfl, hrequests, hinbox⟩
  | posted hrequest => simp [hidle _ rfl] at hrequest
  | @serving pending => cases pending <;> cases hidle _ rfl
  | answered hcall => simp [hidle _ rfl] at hcall
  | unanswered hcall => simp [hidle _ rfl] at hcall

/-- What the first frame at the panel is to an operation that waits: any event will do, the frame
passes by, or it is the right answer. -/
theorem first {call : Panel.Call} {frame : Frame} {origin : Option Nat}
    (hphase : Phase stores switches own (.waiting call) pending requests
      ((frame, origin) :: inbox)) :
    (call = .event ∧ ∀ result, Phase stores switches own (.ended result) pending requests inbox) ∨
    (call.request?.isSome ∧ Passing frame ∧
      Phase stores switches own (.waiting call) pending requests inbox) ∨
    (call.request?.isSome ∧ origin = some own ∧ own + 1 = stores.length ∧ pending = none ∧
      requests = [] ∧ RightAnswer stores switches own call frame ∧
      ∀ entry ∈ inbox, Passing entry.1) := by
  generalize hfirst : (frame, origin) :: inbox = entries at hphase
  cases hphase with
  | free hidle hrequests hpassing =>
      rw [← hfirst, List.forall_mem_cons] at hpassing
      have hrequest := hidle call rfl
      cases call with
      | event => exact .inl ⟨rfl, fun result => .free nofun hrequests hpassing.2⟩
      | connect | disconnect | select => cases hrequest
  | posted hrequest hown hbefore hpassing =>
      rw [← hfirst, List.forall_mem_cons] at hpassing
      exact .inr (.inl
        ⟨by rw [hrequest]; rfl, hpassing.1, .posted hrequest hown hbefore hpassing.2⟩)
  | @serving pending _ hown hpassing =>
      rw [← hfirst, List.forall_mem_cons] at hpassing
      exact .inr (.inl ⟨by cases pending <;> rfl, hpassing.1, .serving hown hpassing.2⟩)
  | unanswered hcall hpassing =>
      rw [← hfirst, List.forall_mem_cons] at hpassing
      exact .inr (.inl ⟨hcall, hpassing.1, .unanswered hcall hpassing.2⟩)
  | @answered _ before later answer hcall hown hbefore hlater hanswer =>
      cases before with
      | cons entry before =>
          obtain ⟨rfl, rfl⟩ := List.cons.inj hfirst
          rw [List.forall_mem_cons] at hbefore
          exact .inr (.inl ⟨hcall, hbefore.1, .answered hcall hown hbefore.2 hlater hanswer⟩)
      | nil =>
          obtain ⟨hentry, rfl⟩ := List.cons.inj hfirst
          obtain ⟨rfl, rfl⟩ := Prod.mk.inj hentry
          exact .inr (.inr ⟨hcall, rfl, hown, rfl, rfl, hanswer, hlater⟩)

/-- While the controller waits for the actor, the request was taken up last. -/
theorem stores_pos {waiting : Pending}
    (hphase : Phase stores switches own state (some waiting) requests inbox) :
    0 < stores.length := by
  cases hphase with
  | serving hown => omega

/-- While the controller waits for the actor, it does not matter what the actor does. -/
theorem switch {waiting : Pending}
    (hphase : Phase stores switches own state (some waiting) requests inbox)
    (after : List (Option Nat × AttachState)) :
    Phase stores after own state (some waiting) requests inbox := by
  cases hphase with
  | serving hown hinbox => exact .serving hown hinbox

/-- The controller has handled the request, and its answer is on the link unless it was lost. -/
theorem of_answers {call : Panel.Call} {answer : Frame → Prop} {first second : Link}
    (hcall : call.request?.isSome) (hown : own + 1 = stores.length)
    (hinbox : ∀ entry ∈ inbox, Passing entry.1) (hanswers : first.Answers answer second)
    (hright : ∀ frame, answer frame → RightAnswer stores switches own call frame) :
    ∃ frames, second = first.posted frames ∧
      Phase stores switches own (.waiting call) none [] (inbox ++ row frames (some own)) := by
  obtain ⟨frames, last, hframes, hlast, rfl⟩ := hanswers
  refine ⟨_, rfl, ?_⟩
  cases last with
  | none =>
      rw [Option.toList_none, List.append_nil]
      exact .unanswered hcall (passing_append hinbox hframes _)
  | some frame =>
      have hrow : inbox ++ row (frames ++ [frame]) (some own) =
          (inbox ++ row frames (some own)) ++ (frame, some own) :: [] := by
        simp [row]
      rw [Option.toList_some, hrow]
      exact .answered hcall hown (passing_append hinbox hframes _) (by simp)
        (hright frame (hlast frame rfl))

end Phase

/-! ## The invariant -/

/-- What was observed agrees with the parties and their links. -/
structure Correlated {Image : Type} (traced : Traced Image) (controller : Controller)
    (requests : List Frame) (inbox : List (Frame × Option Nat)) : Prop where
  panel : traced.session.panel.isSome
  actor : traced.session.actor.isSome
  present : traced.session.controller = some controller
  right : traced.session.panelLink.right = .live requests
  left : traced.session.panelLink.left = .live (inbox.map Prod.fst)
  origins : traced.origins = inbox.map Prod.snd
  posted : traced.posted = traced.stores.length + requests.length
  errand : ∃ waiting replies, traced.session.runtime.right = .live waiting ∧
    traced.session.runtime.left = .live replies ∧
    Errand (traced.stores.length - 1) traced.switches controller.pending traced.asked waiting
      replies
  phase : Phase traced.stores traced.switches traced.own traced.session.call controller.pending
    requests inbox
  /-- Nothing was changed by a request that was not taken up. -/
  switches : ∀ number state, (some number, state) ∈ traced.switches → number < traced.stores.length
  older : ∀ ending ∈ traced.endings, ending.request < traced.stores.length ∧
    ∀ number, some number ∈ traced.asked → ending.request < number
  correct : ∀ ending ∈ traced.endings, ending.Correct traced.stores traced.switches

end CompileWatch
