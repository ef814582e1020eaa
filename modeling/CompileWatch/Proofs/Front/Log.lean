import CompileWatch.Proofs.Front.Receiving

/-!
# The log of the front

The front is followed through any calls, any requests for a compilation and any discards, while the
actor does what it wants at its end.  A call can be left waiting and resumed, or it can be
abandoned, and so can a request for a compilation.

The log of such a run keeps the frames that arrived, the frames that were read, what the front
answered, and what became of each call.  An answer settles compilations: one that is handed out
settles the oldest of those that were read, and a discard settles as many as it counts.
-/

namespace CompileWatch

/-! ## The front at work -/

/-- The front with its end of the runtime link. -/
structure FrontDesk where
  front : Front := {}
  link : Link
  /-- The request whose reply is awaited. -/
  awaited : Option ActorRequest := none
  deriving DecidableEq, Repr

/-- Something that is asked of the front.  A call that is left waiting is abandoned if anything else
is asked before it is resumed. -/
inductive FrontAct
  | call (request : ActorRequest)
  | resume
  | nextEvent
  | discard
  deriving DecidableEq, Repr

inductive FrontAnswer
  /-- How a call ended; without an outcome, it is left waiting. -/
  | ended (outcome : Option (Except FrontError ActorReply))
  | event (event : FrontEvent)
  | discarded (count : Nat)
  /-- There was no call to resume. -/
  | idle

namespace FrontDesk

/-- The end of a call, or as far as it could get. -/
def settle (request : ActorRequest)
    (result : Front × Link × Option (Except FrontError ActorReply)) : FrontAnswer × FrontDesk :=
  let (front, link, outcome) := result
  (.ended outcome, { front, link, awaited := if outcome.isSome then none else some request })

def perform (desk : FrontDesk) : FrontAct → FrontAnswer × FrontDesk
  | .call request => settle request (desk.front.call desk.link request)
  | .resume =>
    match desk.awaited with
    | none => (.idle, desk)
    | some request => settle request (desk.front.awaitReply desk.link)
  | .nextEvent =>
    let (event, front, link) := desk.front.nextEvent desk.link
    (.event event, { front, link })
  | .discard =>
    let (count, front) := desk.front.discardBacklog
    (.discarded count, { front, link := desk.link })

theorem perform_call (desk : FrontDesk) (request : ActorRequest) :
    desk.perform (.call request) = settle request (desk.front.call desk.link request) :=
  rfl

theorem perform_resume {desk : FrontDesk} {request : ActorRequest}
    (hawaited : desk.awaited = some request) :
    desk.perform .resume = settle request (desk.front.awaitReply desk.link) := by
  rw [perform, hawaited]

theorem perform_nextEvent (desk : FrontDesk) :
    desk.perform .nextEvent =
      (.event (desk.front.nextEvent desk.link).1,
        { front := (desk.front.nextEvent desk.link).2.1
          link := (desk.front.nextEvent desk.link).2.2 }) :=
  rfl

/-- The compilations that can still be handed out, oldest first. -/
def pending (desk : FrontDesk) : List Compilation :=
  desk.front.backlog ++ (desk.link.queue .left).filterMap Front.compilationOf?

/-- What there is for the one who asks for a compilation. -/
def offer (desk : FrontDesk) : FrontEvent :=
  match desk.pending with
  | compilation :: _ => .compilation compilation
  | [] => if desk.link.right.isLive then .waiting else .closed

end FrontDesk

/-! ## What is written down -/

/-- The compilations that an answer leaves of those that are not settled, oldest first, unless the
answer is wrong. -/
def FrontAnswer.settle? : FrontAnswer → List Compilation → Option (List Compilation)
  | .event (.compilation compilation), oldest :: rest =>
    if compilation = oldest then some rest else none
  | .event (.compilation _), [] => none
  | .discarded count, pending =>
    if count ≤ pending.length then some (pending.drop count) else none
  | .ended _, pending | .event .closed, pending | .event .waiting, pending | .idle, pending =>
    some pending

/-- The compilations that some answers have not settled. -/
def unsettled? (answers : List FrontAnswer) (compilations : List Compilation) :
    Option (List Compilation) :=
  answers.foldlM (fun pending answer => answer.settle? pending) compilations

/-- The compilation that an answer hands out. -/
def FrontAnswer.handed? : FrontAnswer → Option Compilation
  | .event (.compilation compilation) => some compilation
  | .event .closed | .event .waiting | .ended _ | .discarded _ | .idle => none

/-- The number of compilations that an answer counts as discarded. -/
def FrontAnswer.dropped : FrontAnswer → Nat
  | .discarded count => count
  | .ended _ | .event _ | .idle => 0

/-- The number of compilations that some answers count as discarded. -/
def discarded (answers : List FrontAnswer) : Nat :=
  answers.foldr (fun answer count => answer.dropped + count) 0

/-- A call, with all that it did from the time it was made. -/
structure FrontCall where
  request : ActorRequest
  /-- Why the request could not be posted. -/
  refusal : Option FrontError
  /-- The frames that the call has read. -/
  taken : List Frame := []
  outcome : Option (Except FrontError ActorReply)

/-- The call reads up to the first packet that ends it, and no further. -/
inductive FrontCall.Proper (link : Link) : FrontCall → Prop
  | refused {request : ActorRequest} {error : FrontError} :
      Proper link ⟨request, some error, [], some (.error error)⟩
  /-- The call waits, or it was abandoned before its reply came. -/
  | waiting {request : ActorRequest} {taken : List Frame} :
      (∀ frame ∈ taken, Front.replyIn? frame = none) → Proper link ⟨request, none, taken, none⟩
  | replied {request : ActorRequest} {earlier : List Frame} {frame : Frame}
      {outcome : Except FrontError ActorReply} :
      (∀ other ∈ earlier, Front.replyIn? other = none) → Front.replyIn? frame = some outcome →
      Proper link ⟨request, none, earlier ++ [frame], some outcome⟩
  /-- The actor is gone and everything that it sent was read. -/
  | closed {request : ActorRequest} {taken : List Frame} :
      (∀ frame ∈ taken, Front.replyIn? frame = none) → link.queue .left = [] →
      link.right.isLive = false →
      Proper link ⟨request, none, taken, some (.error (Front.goneError link))⟩

/-- Something that happens at one of the two ends. -/
inductive FrontMove
  | actor (act : Link.Act)
  | front (act : FrontAct)
  deriving DecidableEq, Repr

/-- The front with what is written down. -/
structure LoggedFront where
  desk : FrontDesk
  /-- All frames that came in. -/
  arrived : List Frame := []
  /-- The frames that were read. -/
  consumed : List Frame := []
  answers : List FrontAnswer := []
  /-- The calls, the latest first. -/
  calls : List FrontCall := []

namespace LoggedFront

/-- Before anything is asked. -/
def fresh (name : String) (maxBytes : Nat) : LoggedFront where
  desk := { link := { name, maxBytes } }

/-- Why a request cannot be posted. -/
def refusal? (log : LoggedFront) (request : ActorRequest) : Option FrontError :=
  match Front.request log.desk.link request with
  | .ok _ => none
  | .error error => some error

/-- The calls after an answer for which some frames were read. -/
def callsAfter (log : LoggedFront) (read : List Frame) :
    FrontAct → FrontAnswer → List FrontCall
  | .call request, .ended outcome => ⟨request, log.refusal? request, read, outcome⟩ :: log.calls
  | .resume, .ended outcome =>
    match log.calls with
    | [] => []
    | call :: earlier => { call with taken := call.taken ++ read, outcome } :: earlier
  | _, _ => log.calls

/-- The frames that are read between two states of the link. -/
def readBetween (link next : Link) : List Frame :=
  (link.queue .left).take ((link.queue .left).length - (next.queue .left).length)

def move (log : LoggedFront) : FrontMove → LoggedFront
  | .actor act =>
    let link := log.desk.link.act .right act
    { log with
      desk := { log.desk with link }
      arrived := log.arrived ++ (link.queue .left).drop (log.desk.link.queue .left).length }
  | .front act =>
    let (answer, desk) := log.desk.perform act
    let read := readBetween log.desk.link desk.link
    { desk
      arrived := log.arrived
      consumed := log.consumed ++ read
      answers := log.answers ++ [answer]
      calls := log.callsAfter read act answer }

def run (log : LoggedFront) (moves : List FrontMove) : LoggedFront :=
  moves.foldl move log

end LoggedFront

/-! ## Answers that settle compilations -/

theorem FrontAnswer.settle?_append {answer : FrontAnswer} {pending rest : List Compilation}
    (further : List Compilation) (hsettle : answer.settle? pending = some rest) :
    answer.settle? (pending ++ further) = some (rest ++ further) := by
  cases answer with
  | event event =>
      cases event with
      | compilation compilation =>
          cases pending with
          | nil => cases hsettle
          | cons oldest others =>
              simp only [settle?, List.cons_append] at hsettle ⊢
              split at hsettle
              case isTrue holdest => rw [if_pos holdest, Option.some.inj hsettle]
              case isFalse => cases hsettle
      | closed | waiting => rw [settle?, Option.some.inj hsettle]
  | discarded count =>
      rw [settle?] at hsettle ⊢
      split at hsettle
      case isTrue hcount =>
        rw [if_pos (by rw [List.length_append]; omega), List.drop_append_of_le_length hcount,
          Option.some.inj hsettle]
      case isFalse => cases hsettle
  | ended | idle => rw [settle?, Option.some.inj hsettle]

/-- Answers settle what was read before them, whatever is read later. -/
theorem unsettled?_append {answers : List FrontAnswer} {pending rest : List Compilation}
    (further : List Compilation) (hrest : unsettled? answers pending = some rest) :
    unsettled? answers (pending ++ further) = some (rest ++ further) := by
  induction answers generalizing pending with
  | nil =>
      cases hrest
      rfl
  | cons answer others ih =>
      rw [unsettled?, List.foldlM_cons, Option.bind_eq_bind, Option.bind_eq_some_iff] at hrest
      obtain ⟨middle, hfirst, hothers⟩ := hrest
      rw [unsettled?, List.foldlM_cons, FrontAnswer.settle?_append further hfirst,
        Option.bind_eq_bind, Option.bind_some]
      exact ih hothers

theorem unsettled?_concat {answers : List FrontAnswer} {answer : FrontAnswer}
    {pending rest : List Compilation} (hrest : unsettled? answers pending = some rest) :
    unsettled? (answers ++ [answer]) pending = answer.settle? rest := by
  rw [unsettled?] at hrest
  rw [unsettled?, List.foldlM_append, hrest, Option.bind_eq_bind, Option.bind_some,
    List.foldlM_cons]
  cases answer.settle? rest <;> rfl

theorem FrontAnswer.of_settle? {answer : FrontAnswer} {pending rest : List Compilation}
    (hsettle : answer.settle? pending = some rest) :
    (answer.handed?.toList ++ rest).Sublist pending ∧
      answer.handed?.toList.length + answer.dropped + rest.length = pending.length := by
  cases answer with
  | event event =>
      cases event with
      | compilation compilation =>
          cases pending with
          | nil => cases hsettle
          | cons oldest others =>
              rw [settle?] at hsettle
              split at hsettle
              case isTrue holdest =>
                obtain rfl := Option.some.inj hsettle
                subst holdest
                refine ⟨List.Sublist.refl _, ?_⟩
                simp only [handed?, dropped, Option.toList, List.length_cons, List.length_nil]
                omega
              case isFalse => cases hsettle
      | closed | waiting =>
          obtain rfl := Option.some.inj hsettle
          exact ⟨List.Sublist.refl _, by simp [handed?, dropped]⟩
  | discarded count =>
      rw [settle?] at hsettle
      split at hsettle
      case isTrue hcount =>
        obtain rfl := Option.some.inj hsettle
        refine ⟨List.drop_sublist count pending, ?_⟩
        rw [List.length_drop]
        simp only [handed?, dropped, Option.toList, List.length_nil]
        omega
      case isFalse => cases hsettle
  | ended | idle =>
      obtain rfl := Option.some.inj hsettle
      exact ⟨List.Sublist.refl _, by simp [handed?, dropped]⟩

/-- What answers hand out and leave are the compilations that they do not discard, in order. -/
theorem of_unsettled? {answers : List FrontAnswer} {pending rest : List Compilation}
    (hrest : unsettled? answers pending = some rest) :
    (answers.filterMap FrontAnswer.handed? ++ rest).Sublist pending ∧
      (answers.filterMap FrontAnswer.handed?).length + discarded answers + rest.length =
        pending.length := by
  induction answers generalizing pending with
  | nil =>
      obtain rfl := Option.some.inj hrest
      exact ⟨List.Sublist.refl _, by simp [discarded]⟩
  | cons answer others ih =>
      rw [unsettled?, List.foldlM_cons, Option.bind_eq_bind, Option.bind_eq_some_iff] at hrest
      obtain ⟨middle, hfirst, hothers⟩ := hrest
      obtain ⟨hsublist, hlength⟩ := FrontAnswer.of_settle? hfirst
      obtain ⟨hsublist_others, hlength_others⟩ := ih hothers
      have hhanded : (answer :: others).filterMap FrontAnswer.handed? =
          answer.handed?.toList ++ others.filterMap FrontAnswer.handed? := by
        cases hanswer : answer.handed? <;> simp [hanswer]
      rw [hhanded, List.append_assoc, List.length_append, discarded, List.foldr_cons, ← discarded]
      refine ⟨(hsublist_others.append_left _).trans hsublist, ?_⟩
      omega

end CompileWatch
