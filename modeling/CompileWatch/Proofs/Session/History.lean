import CompileWatch.Proofs.Controller.News
import CompileWatch.Session

/-!
# Histories of sessions

What an observer of a session writes down from move to move: the compilations that the
host accepted, each with the session whose hook was fired, and the news that reached the
panel's end of its link, with the compilation that the store took in at that time.

The news fall into sessions as the panel hears of them.  `Told` collects what was
announced from one `attached` to the next `detached`.
-/

namespace CompileWatch

/-! ## News at the panel -/

/-- A compilation that was announced. -/
structure Announcement where
  /-- The scripts in the event. -/
  scripts : List Script
  /-- The compilation in the newest slot of the store. -/
  kept : Option Compilation
  deriving DecidableEq, Repr

/-- The announcement that has the scripts and the graph text of the compilation. -/
def Announcement.of (compilation : Compilation) : Announcement :=
  ⟨compilation.scripts, some compilation⟩

/-- News that reached the panel's end of its link. -/
inductive Notice
  | attached
  | detached
  | recorded (announcement : Announcement)
  deriving DecidableEq, Repr

/-- The notice of an event, with the compilation in the newest slot of the store. -/
def Notice.of? (kept : Option Compilation) : PanelEvent → Option Notice
  | .attached => some .attached
  | .detached => some .detached
  | .recordCompilation _ scripts => some (.recorded ⟨scripts, kept⟩)
  | _ => none

/-- The compilation in the newest slot of a store. -/
def Store.newest? (store : Store) : Option Compilation :=
  match store.slots.getLast? with
  | some (.live snapshot) => some ⟨snapshot.scripts, snapshot.graph.text⟩
  | _ => none

theorem Store.newest?_append (store : Store) (scripts : List Script) (graph : RawJson) :
    (store.append scripts graph).newest? = some ⟨scripts, graph.text⟩ := by
  simp [newest?, append]

/-- What was announced in each session that the panel heard of, in order. -/
structure Told where
  /-- The sessions that are over. -/
  finished : List (List Announcement) := []
  /-- The session that has begun last, until it is over. -/
  current : Option (List Announcement) := none
  deriving DecidableEq, Repr

namespace Told

/-- All sessions, the one that is not over included. -/
def sessions (told : Told) : List (List Announcement) :=
  told.finished ++ told.current.toList

/-- Takes in one notice.  What is announced outside a session belongs to none. -/
def hear (told : Told) : Notice → Told
  | .attached => { finished := told.sessions, current := some [] }
  | .detached => { finished := told.sessions, current := none }
  | .recorded announcement =>
    { told with current := told.current.map fun list => list ++ [announcement] }

/-- What some notices tell. -/
def of (notices : List Notice) : Told :=
  notices.foldl hear {}

theorem length_sessions {told : Told} {list : List Announcement}
    (hcurrent : told.current = some list) : told.sessions.length = told.finished.length + 1 := by
  simp [sessions, hcurrent]

theorem of_attached (notices : List Notice) :
    Told.of (notices ++ [.attached]) = ⟨(Told.of notices).sessions, some []⟩ := by
  simp [of, hear]

theorem of_detached (notices : List Notice) :
    Told.of (notices ++ [.detached]) = ⟨(Told.of notices).sessions, none⟩ := by
  simp [of, hear]

theorem of_recorded {notices : List Notice} {list : List Announcement}
    (hcurrent : (Told.of notices).current = some list) (announcement : Announcement) :
    Told.of (notices ++ [.recorded announcement]) =
      ⟨(Told.of notices).finished, some (list ++ [announcement])⟩ := by
  have hlast : Told.of (notices ++ [.recorded announcement]) =
      (Told.of notices).hear (.recorded announcement) := by
    simp [of]
  rw [hlast, hear, hcurrent]
  rfl

/-- A session is over, or it is the one that has begun last. -/
theorem getElem?_sessions {finished : List (List Announcement)} {current list : List Announcement}
    {number : Nat} (hlist : (Told.mk finished (some current)).sessions[number]? = some list) :
    finished[number]? = some list ∨ number = finished.length ∧ list = current := by
  have hsessions : (Told.mk finished (some current)).sessions = finished ++ [current] := rfl
  rw [hsessions, List.getElem?_append] at hlist
  by_cases hnumber : number < finished.length
  · rw [if_pos hnumber] at hlist
    exact .inl hlist
  · rw [if_neg hnumber, List.getElem?_singleton] at hlist
    split at hlist
    · exact .inr ⟨by omega, (Option.some.inj hlist).symm⟩
    · cases hlist

section

variable {told : Told} {all : Nat → List Announcement}
  (htold : ∀ (number : Nat) (list : List Announcement), told.sessions[number]? = some list →
    list <+: all number)

include htold

/-- In a session that has just begun, nothing was announced. -/
theorem isPrefix_of_begun (number : Nat) (list : List Announcement)
    (hlist : (Told.mk told.sessions (some [])).sessions[number]? = some list) :
    list <+: all number := by
  rcases getElem?_sessions hlist with hover | ⟨-, rfl⟩
  · exact htold number list hover
  · exact List.nil_prefix

/-- What is announced in the session that has begun last concerns no other. -/
theorem isPrefix_of_recorded {after : List Announcement}
    (hafter : after <+: all told.finished.length) (number : Nat) (list : List Announcement)
    (hlist : (Told.mk told.finished (some after)).sessions[number]? = some list) :
    list <+: all number := by
  rcases getElem?_sessions hlist with hover | ⟨rfl, rfl⟩
  · refine htold number list ?_
    have hnumber : number < told.finished.length := (List.getElem?_eq_some_iff.mp hover).1
    rw [sessions, List.getElem?_append, if_pos hnumber]
    exact hover
  · exact hafter

end

end Told

theorem Notice.of?_eq_none {event : PanelEvent} (hevent : event.isNews = false)
    (kept : Option Compilation) : Notice.of? kept event = none := by
  cases event <;> simp_all [PanelEvent.isNews, of?]

theorem notices_of_silent {frames : List Frame} (hframes : ∀ frame ∈ frames, Silent frame)
    (kept : Option Compilation) :
    (frames.filterMap fun frame => Notice.of? kept (Panel.eventOf frame)) = [] := by
  rw [List.filterMap_eq_nil_iff]
  exact fun frame hframe => Notice.of?_eq_none (hframes frame hframe) kept

theorem notices_of_news {event : PanelEvent} (hgraph : event.hasGraph = false)
    {kept : Option Compilation} {notice : Notice} (hnotice : Notice.of? kept event = some notice) :
    ([Frame.encode event.toJson].filterMap fun frame => Notice.of? kept (Panel.eventOf frame)) =
      [notice] := by
  simp [eventOf_encode hgraph, hnotice]

/-! ## Histories -/

/-- A session with what was observed in it so far. -/
structure Observed (Image : Type) where
  session : Session Image
  /-- The compilations that the host accepted, each with the session whose hook was fired. -/
  accepted : List (Nat × Compilation) := []
  notices : List Notice := []

namespace Session

variable {Image : Type}

/-- The compilation that the host accepts in a move, with the session whose hook is fired. -/
def acceptedIn (session : Session Image) : Move → List (Nat × Compilation)
  | .compile compilation =>
    match session.host.hook, session.host.compile? compilation with
    | some number, some _ => [(number, compilation)]
    | _, _ => []
  | _ => []

/-- The news among the frames that a move adds at the panel's end of its link. -/
def noticesIn (session : Session Image) (move : Move) : List Notice :=
  let next := session.move move
  let added := (next.panelLink.queue .left).drop (session.panelLink.queue .left).length
  added.filterMap fun frame =>
    Notice.of? (next.controller.bind fun controller => controller.store.newest?)
      (Panel.eventOf frame)

end Session

namespace Observed

variable {Image : Type}

/-- Makes a move and observes it. -/
def move (observed : Observed Image) (move : Move) : Observed Image :=
  { session := observed.session.move move
    accepted := observed.accepted ++ observed.session.acceptedIn move
    notices := observed.notices ++ observed.session.noticesIn move }

/-- Makes some moves and observes them. -/
def run (observed : Observed Image) (moves : List Move) : Observed Image :=
  moves.foldl move observed

/-- Observing does not disturb the session. -/
theorem session_run (observed : Observed Image) (moves : List Move) :
    (observed.run moves).session = observed.session.run moves := by
  induction moves generalizing observed with
  | nil => rfl
  | cons first rest ih => exact ih (observed.move first)

/-- The compilations that were accepted in a session, oldest first. -/
def acceptedBy (observed : Observed Image) (number : Nat) : List Compilation :=
  (observed.accepted.filter fun entry => entry.1 = number).map Prod.snd

end Observed

/-- Whether a compilation has a graph that the store takes in. -/
def Compilation.isGraph (compilation : Compilation) : Bool :=
  (RawJson.ofText? compilation.json).toBool

/-- The announcements of some compilations.  One whose graph the store does not take in has
none. -/
def announcements (compilations : List Compilation) : List Announcement :=
  (compilations.filter Compilation.isGraph).map Announcement.of

@[simp]
theorem announcements_nil : announcements [] = [] :=
  rfl

@[simp]
theorem announcements_append (first second : List Compilation) :
    announcements (first ++ second) = announcements first ++ announcements second := by
  simp [announcements]

theorem announcements_of_isGraph {compilation : Compilation} (hgraph : compilation.isGraph) :
    announcements [compilation] = [Announcement.of compilation] := by
  simp [announcements, hgraph]

theorem announcements_of_not_isGraph {compilation : Compilation}
    (hgraph : compilation.isGraph = false) : announcements [compilation] = [] := by
  simp [announcements, hgraph]

/-! ## Frames that fit -/

/-- The packet that the actor posts in its next step. -/
def ActorService.packet? (service : ActorService) : Option ActorPacket :=
  service.actor.bind fun actor =>
    match service.link.next .right with
    | .frame frame _ => some (reply actor service.host frame).1
    | .waiting => (actor.take? service.host).map fun taken => Actor.report taken.1
    | .closed => none

namespace Controller

/-- The news in the outcome of a request to the actor. -/
def outcomeNews? (pending : Pending) (outcome : Except FrontError ActorReply) :
    Option PanelEvent :=
  match pending, outcome.bind Front.stateOf with
  | .attach, .ok _ => some .attached
  | .detach, .ok _ => some .detached
  | _, .error _ => none

/-- The news of a compilation: there are none if it is ignored. -/
def recordNews? (controller : Controller) (compilation : Compilation) : Option PanelEvent :=
  if controller.attached && compilation.isGraph then
    some (.recordCompilation (.ofSlot controller.store.size) compilation.scripts)
  else none

/-- The compilation that is taken in next when there is nothing else to do. -/
def nextCompilation? (controller : Controller) (runtime : Link) : Option Compilation :=
  match controller.actorOpen, controller.front.backlog, runtime.left with
  | true, compilation :: _, _ => some compilation
  | true, [], .live (frame :: _) => Front.compilationOf? frame
  | _, _, _ => none

end Controller

/-- The news that the controller sends in its next step. -/
def ControlDesk.news? (desk : ControlDesk) : Option PanelEvent :=
  desk.controller.bind fun controller =>
    match controller.pending, desk.runtime.left, desk.panel.next .right with
    | some pending, .live (frame :: _), _ =>
      (controller.front.receive frame).2.bind (Controller.outcomeNews? pending)
    | none, _, .waiting =>
      (controller.nextCompilation? desk.runtime).bind controller.recordNews?
    | _, _, _ => none

/-! ## What a step takes in -/

section

variable {controller : Controller} {runtime panel : Link}

theorem Controller.nextCompilation?_of_backlog {compilation : Compilation}
    {rest : List Compilation} (hopen : controller.actorOpen = true)
    (hbacklog : controller.front.backlog = compilation :: rest) :
    controller.nextCompilation? runtime = some compilation := by
  rw [nextCompilation?, hopen, hbacklog]

theorem Controller.nextCompilation?_of_left {frame : Frame} {rest : List Frame}
    (hopen : controller.actorOpen = true) (hbacklog : controller.front.backlog = [])
    (hleft : runtime.left = .live (frame :: rest)) :
    controller.nextCompilation? runtime = Front.compilationOf? frame := by
  rw [nextCompilation?, hopen, hbacklog, hleft]

theorem Controller.nextCompilation?_of_gone (hopen : controller.actorOpen = true)
    (hbacklog : controller.front.backlog = [])
    (hgone : (runtime.left = .live [] ∧ runtime.right.isLive = false) ∨ runtime.left = .dropped) :
    controller.nextCompilation? runtime = none := by
  rcases hgone with ⟨hleft, -⟩ | hleft
  · rw [nextCompilation?, hopen, hbacklog, hleft]
  · rw [nextCompilation?, hopen, hbacklog, hleft]

namespace ControlDesk

/-- The news of a reply are those of its outcome. -/
theorem news?_of_reply {pending : Pending} {frame : Frame} {rest : List Frame} {front : Front}
    {outcome : Except FrontError ActorReply} (hpending : controller.pending = some pending)
    (hleft : runtime.left = .live (frame :: rest))
    (hreceive : controller.front.receive frame = (front, some outcome)) :
    news? { controller := some controller, runtime, panel } =
      Controller.outcomeNews? pending outcome := by
  simp [news?, hpending, hleft, hreceive]

theorem news?_of_gone {pending : Pending} (hpending : controller.pending = some pending)
    (hgone : (runtime.left = .live [] ∧ runtime.right.isLive = false) ∨ runtime.left = .dropped) :
    news? { controller := some controller, runtime, panel } =
      Controller.outcomeNews? pending (.error (Front.goneError runtime)) := by
  rcases hgone with ⟨hleft, -⟩ | hleft <;> cases pending <;>
    simp [news?, hpending, hleft, Controller.outcomeNews?, Except.bind]

end ControlDesk

end

namespace Session

variable {Image : Type}

/-- No packet of the actor and no news of the controller is too long for its link in a move. -/
def fits (session : Session Image) : Move → Bool
  | .step .actor =>
    session.service.packet?.all fun packet =>
      (Frame.encode packet.toJson).utf8ByteSize ≤ session.runtime.maxBytes
  | .step .controller =>
    session.controlDesk.news?.all fun news =>
      (Frame.encode news.toJson).utf8ByteSize ≤ session.panelLink.maxBytes
  | _ => true

/-- In no move of a run a packet of the actor or news of the controller is too long for its
link. -/
def runFits (session : Session Image) : List Move → Bool
  | [] => true
  | move :: moves => session.fits move && (session.move move).runFits moves

end Session

end CompileWatch
