import CompileWatch.Proofs.Controller.Owed
import CompileWatch.Proofs.Message.Sentinel

/-!
# Handling a request

The controller handles one frame of the panel at a time.  It may have to wait for the actor in
between, and takes up nothing else in that time.  What it posts until it is done depends on the
request alone, up to what the errors say, and a request that fails leaves no other trace.
-/

namespace CompileWatch

namespace ControlDesk

open Controller

variable {desk next : ControlDesk} {moves : List DeskMove}

/-! ## Moves while a reply is awaited -/

/-- The frame of the panel that the controller handles in its next step. -/
def frame? (desk : ControlDesk) : Option Frame :=
  desk.controller.bind fun controller =>
    match controller.pending, desk.panel.next .right with
    | none, .frame frame _ => some frame
    | _, _ => none

def awaits (desk : ControlDesk) : Bool :=
  desk.controller.any fun controller => controller.pending.isSome

/-- A reply is awaited before each of the moves, and none is awaited after the last one. -/
def finishes (desk : ControlDesk) : List DeskMove → Bool
  | [] => !desk.awaits
  | first :: rest => desk.awaits && (desk.move first).finishes rest

/-- The frames that the controller sends in a move, delivered or not. -/
def sentIn (desk : ControlDesk) : DeskMove → List Frame
  | .step => (desk.step?.map fun _ => desk.outgoing).getD []
  | _ => []

def sentOver (desk : ControlDesk) : List DeskMove → List Frame
  | [] => []
  | first :: rest => desk.sentIn first ++ (desk.move first).sentOver rest

def postedOver (desk : ControlDesk) : List DeskMove → List Frame
  | [] => []
  | first :: rest => desk.postedIn first ++ (desk.move first).postedOver rest

/-- No frame that is sent in the moves is too long for the link to the panel. -/
def fitsOver (desk : ControlDesk) (moves : List DeskMove) : Bool :=
  (desk.sentOver moves).all fun frame => frame.utf8ByteSize ≤ desk.panel.maxBytes

theorem sentIn_step (hstep : desk.step? = some next) : desk.sentIn .step = desk.outgoing := by
  rw [sentIn, hstep, Option.map_some, Option.getD_some]

theorem sentIn_of_blocked (hstep : desk.step? = none) : desk.sentIn .step = [] := by
  rw [sentIn, hstep, Option.map_none, Option.getD_none]

theorem eq_nil_of_finishes (hawaits : desk.awaits = false) (hfinishes : desk.finishes moves) :
    moves = [] := by
  cases moves with
  | nil => rfl
  | cons first rest => simp [finishes, hawaits] at hfinishes

theorem takenOver_of_finishes (hfinishes : desk.finishes moves) : desk.takenOver moves = [] := by
  induction moves generalizing desk with
  | nil => rfl
  | cons first rest ih =>
      rw [finishes, Bool.and_eq_true] at hfinishes
      rw [takenOver, ih hfinishes.2, List.append_nil]
      cases first with
      | panel | actor => rfl
      | step =>
          rw [takenIn]
          cases hcontroller : desk.controller with
          | none => simp [nextCompilation?, hcontroller]
          | some controller =>
              obtain ⟨pending, hpending⟩ := Option.isSome_iff_exists.mp
                (by simpa [awaits, hcontroller] using hfinishes.1)
              rw [nextCompilation?_of_pending hcontroller hpending, Option.toList_none]

/-! ## What reaches the panel -/

theorem isLive_of_move {move : DeskMove} (hlive : (desk.move move).panel.left.isLive) :
    desk.panel.left.isLive := by
  cases move with
  | panel act => exact (Link.isLive_act desk.panel act).1 hlive
  | actor act => exact hlive
  | step =>
      cases hstep : desk.step? with
      | none => simpa [ControlDesk.move, hstep] using hlive
      | some next =>
          obtain ⟨panel, hleft, -, hsends⟩ := sends_step hstep
          obtain ⟨sent, -, hnext⟩ := hsends.exists_posted
          rwa [ControlDesk.move, hstep, Option.getD_some, hnext, Link.left_posted, hleft,
            Endpoint.isLive_push] at hlive

theorem isLive_of_run (hlive : (desk.run moves).panel.left.isLive) : desk.panel.left.isLive := by
  induction moves generalizing desk with
  | nil => exact hlive
  | cons first rest ih => exact isLive_of_move (ih hlive)

theorem postedIn_eq {move : DeskMove} (hlive : desk.panel.left.isLive)
    (hfits : ∀ frame ∈ desk.sentIn move, frame.utf8ByteSize ≤ desk.panel.maxBytes) :
    desk.postedIn move = desk.sentIn move := by
  cases move with
  | panel | actor => rfl
  | step =>
      cases hstep : desk.step? with
      | none =>
          rw [postedIn, ControlDesk.move, hstep, Option.getD_none, List.drop_length,
            sentIn_of_blocked hstep]
      | some next =>
          obtain ⟨panel, hleft, hmax, hsends⟩ := sends_step hstep
          rw [sentIn_step hstep, ← hmax] at hfits
          rw [postedIn, ControlDesk.move, hstep, Option.getD_some, hsends.of_fits hfits,
            Link.queue, Link.queue, Link.endpoint, Link.endpoint, Link.left_posted, hleft,
            Endpoint.queue_push, if_pos hlive, sentIn_step hstep]

/-- What is sent reaches a panel that stays, if it is not too long. -/
theorem postedOver_eq (hlive : (desk.run moves).panel.left.isLive) (hfits : desk.fitsOver moves) :
    desk.postedOver moves = desk.sentOver moves := by
  induction moves generalizing desk with
  | nil => rfl
  | cons first rest ih =>
      simp only [fitsOver, sentOver, List.all_append, Bool.and_eq_true, List.all_eq_true,
        decide_eq_true_eq] at hfits
      have hrest : (desk.move first).fitsOver rest := by
        simp only [fitsOver, List.all_eq_true, decide_eq_true_eq]
        rw [maxBytes_move]
        exact hfits.2
      rw [postedOver, sentOver, postedIn_eq (isLive_of_run hlive) hfits.1, ih hlive hrest]

/-! ## Waiting for a reply -/

/-- How a connect or a disconnect ends: with the events that say so, and with the store and the
session as they are to be then. -/
inductive Settled (controller after : Controller) : Pending → Bool → List PanelEvent → Prop
  | attached : after.store = {} → after.attached = true →
      Settled controller after .attach false [.attached]
  | detached : after.store = controller.store → after.attached = false →
      Settled controller after .detach true [.detached, .unregistered]
  | failed (pending : Pending) (message : String) : after.store = controller.store →
      after.attached = controller.attached →
      Settled controller after pending false [.error none message]

theorem settled_conclude (controller : Controller) (panel : Link) (pending : Pending)
    (outcome : Except FrontError ActorReply) :
    Settled controller (controller.conclude panel pending outcome).1 pending
      (match outcomeNews? pending outcome with
        | some .detached => true
        | _ => false) (outcomeEvents pending outcome) := by
  cases houtcome : outcome.bind Front.stateOf with
  | ok state =>
      cases pending with
      | attach =>
          simp only [outcomeNews?, outcomeEvents, conclude, houtcome]
          exact .attached rfl rfl
      | detach =>
          simp only [outcomeNews?, outcomeEvents, conclude, houtcome]
          exact .detached rfl rfl
  | error error =>
      cases pending <;>
        (simp only [outcomeNews?, outcomeEvents, conclude, houtcome]
         exact .failed _ error.message rfl rfl)

theorem Settled.congr {controller other after : Controller} {pending : Pending} {released : Bool}
    {events : List PanelEvent} (hsettled : Settled controller after pending released events)
    (hstore : controller.store = other.store) (hattached : controller.attached = other.attached) :
    Settled other after pending released events := by
  cases hsettled with
  | attached hempty hbegun => exact .attached hempty hbegun
  | detached hkept hover => exact .detached (hkept.trans hstore) hover
  | failed _ message hkept hsame =>
      exact .failed pending message (hkept.trans hstore) (hsame.trans hattached)

theorem pending_conclude (controller : Controller) (panel : Link) (pending : Pending)
    (outcome : Except FrontError ActorReply) :
    (controller.conclude panel pending outcome).1.pending = none := by
  rcases conclude_eq controller panel pending outcome with
    ⟨-, heq⟩ | ⟨-, heq⟩ | ⟨-, next, -, heq⟩ <;> rw [heq]

/-- A reply that has come settles the request. -/
theorem settled_reply {controller : Controller} {pending : Pending}
    {outcome : Except FrontError ActorReply} (hstep : desk.step? = some next)
    (base : Controller) (hstore : base.store = controller.store)
    (hattached : base.attached = controller.attached)
    (hafter : next.controller = some (base.conclude desk.panel pending outcome).1)
    (houtgoing : desk.outgoing = framesOf (outcomeEvents pending outcome))
    (hnews : desk.news? = outcomeNews? pending outcome) :
    next.awaits = false ∧ ∃ after events, next.controller = some after ∧
      desk.sentIn .step = framesOf events ∧
      Settled controller after pending (desk.releasesIn .step) events := by
  constructor
  · rw [awaits, hafter, Option.any_some, pending_conclude]
    rfl
  · refine ⟨_, outcomeEvents pending outcome, hafter, ?_, ?_⟩
    · rw [sentIn_step hstep, houtgoing]
    · rw [releasesIn, hnews]
      exact (settled_conclude base desk.panel pending outcome).congr hstore hattached

theorem releasesIn_of_blocked {controller : Controller} {pending : Pending}
    (hcontroller : desk.controller = some controller) (hpending : controller.pending = some pending)
    (hstep : desk.step? = none) : desk.releasesIn .step = false := by
  simp only [step?, hcontroller, hpending, awaitStep?] at hstep
  split at hstep
  · rename_i hnext
    obtain ⟨hleft, -⟩ := Link.next_eq_waiting hnext
    have hleft' : desk.runtime.left = .live [] := hleft
    simp [releasesIn, news?, hcontroller, hpending, hleft']
  · cases hstep
  · split at hstep <;> cases hstep

/-- A step leaves the reply outstanding, or settles the request. -/
theorem await_step {controller : Controller} {pending : Pending}
    (hcontroller : desk.controller = some controller)
    (hpending : controller.pending = some pending) (hstep : desk.step? = some next) :
    (∃ waiting, next.controller = some waiting ∧ waiting.pending = some pending ∧
      waiting.store = controller.store ∧ waiting.attached = controller.attached ∧
      desk.sentIn .step = [] ∧ desk.releasesIn .step = false) ∨
    (next.awaits = false ∧ ∃ after events, next.controller = some after ∧
      desk.sentIn .step = framesOf events ∧
      Settled controller after pending (desk.releasesIn .step) events) := by
  rcases desk with ⟨_ | present, runtime, panel⟩
  · cases hcontroller
  obtain rfl := Option.some.inj hcontroller
  cases turn_of_step? hstep with
  | handled hidle | stopped hidle | caughtUp hidle | read hidle | ended hidle =>
      rw [hpending] at hidle
      cases hidle
  | @kept awaited frame queue front hawaited hleft hreceive =>
      refine .inl ⟨_, rfl, hpending, rfl, rfl, ?_, ?_⟩
      · rw [sentIn_step hstep, outgoing]
        simp only [hawaited, @Link.next_of_frame runtime .left _ _ hleft, hreceive]
        rfl
      · simp [releasesIn, news?, hawaited, hleft, hreceive]
  | @concluded awaited frame queue front outcome hawaited hleft hreceive =>
      obtain rfl : awaited = pending := Option.some.inj (hawaited.symm.trans hpending)
      refine .inr (settled_reply hstep { present with front } rfl rfl rfl ?_ ?_)
      · simp [outgoing, hawaited, @Link.next_of_frame runtime .left _ _ hleft, hreceive]
      · exact news?_of_reply hawaited hleft hreceive
  | @failed awaited hawaited hgone =>
      obtain rfl : awaited = pending := Option.some.inj (hawaited.symm.trans hpending)
      refine .inr (settled_reply hstep present rfl rfl rfl ?_ ?_)
      · simp [outgoing, hawaited, @Link.next_of_gone runtime .left hgone]
      · exact news?_of_gone hawaited hgone

/-- **A reply that is awaited settles the request**, once the waiting is over. -/
theorem settled_run {controller : Controller} {pending : Pending}
    (hcontroller : desk.controller = some controller)
    (hpending : controller.pending = some pending) (hfinishes : desk.finishes moves) :
    ∃ after events, (desk.run moves).controller = some after ∧
      desk.sentOver moves = framesOf events ∧
      Settled controller after pending (desk.releasesOver moves) events := by
  induction moves generalizing desk controller with
  | nil => simp [finishes, awaits, hcontroller, hpending] at hfinishes
  | cons first rest ih =>
      rw [finishes, Bool.and_eq_true] at hfinishes
      -- a move that leaves the reply outstanding does not count
      have hlater : ∀ {waiting : Controller}, (desk.move first).controller = some waiting →
          waiting.pending = some pending → waiting.store = controller.store →
          waiting.attached = controller.attached → desk.sentIn first = [] →
          desk.releasesIn first = false →
          ∃ after events, (desk.run (first :: rest)).controller = some after ∧
            desk.sentOver (first :: rest) = framesOf events ∧
            Settled controller after pending (desk.releasesOver (first :: rest)) events := by
        intro waiting hwaiting hstill hstore hattached hposted hreleases
        obtain ⟨after, events, hafter, hevents, hsettled⟩ :=
          ih hwaiting hstill hfinishes.2
        refine ⟨after, events, hafter, ?_, ?_⟩
        · rw [sentOver, hposted, hevents, List.nil_append]
        · rw [releasesOver, hreleases, Bool.false_or]
          exact hsettled.congr hstore hattached
      cases first with
      | panel | actor => exact hlater hcontroller hpending rfl rfl rfl rfl
      | step =>
          cases hstep : desk.step? with
          | none =>
              have hmove : (desk.move .step).controller = some controller := by
                rw [ControlDesk.move, hstep, Option.getD_none, hcontroller]
              exact hlater hmove hpending rfl rfl (sentIn_of_blocked hstep)
                (releasesIn_of_blocked hcontroller hpending hstep)
          | some next =>
              have hmove : desk.move .step = next := by
                rw [ControlDesk.move, hstep, Option.getD_some]
              rcases await_step hcontroller hpending hstep with
                ⟨waiting, hwaiting, hstill, hstore, hattached, hposted, hreleases⟩ |
                ⟨hdone, after, events, hafter, hevents, hsettled⟩
              · exact hlater (hmove ▸ hwaiting) hstill hstore hattached hposted hreleases
              · obtain rfl : rest = [] := eq_nil_of_finishes (hmove ▸ hdone) hfinishes.2
                refine ⟨after, events, ?_, ?_, ?_⟩
                · exact (congrArg ControlDesk.controller hmove).trans hafter
                · rw [sentOver, sentOver, List.append_nil, hevents]
                · rw [releasesOver, releasesOver, Bool.or_false]
                  exact hsettled

/-- A connect or disconnect that was begun is settled, at once or by a reply. -/
theorem settled_ask (controller : Controller) (runtime panel : Link) (pending : Pending)
    (hfinishes : (ask controller runtime panel pending).finishes moves) :
    ∃ after events, ((ask controller runtime panel pending).run moves).controller = some after ∧
      framesOf (askEvents runtime pending) ++
        (ask controller runtime panel pending).sentOver moves = framesOf events ∧
      Settled controller after pending
        ((ask controller runtime panel pending).releasesOver moves) events := by
  rw [ask] at hfinishes ⊢
  rw [askEvents]
  cases hrequest : Front.request runtime (requestOf pending) with
  | ok next =>
      rw [hrequest] at hfinishes
      obtain ⟨after, events, hafter, hevents, hsettled⟩ := settled_run rfl rfl hfinishes
      exact ⟨after, events, hafter, hevents, hsettled.congr rfl rfl⟩
  | error error =>
      rw [hrequest] at hfinishes
      have hdone : awaits
          { controller := some (controller.conclude panel pending (.error error)).1, runtime
            panel := (controller.conclude panel pending (.error error)).2 } = false := by
        rw [awaits, Option.any_some, pending_conclude]
        rfl
      obtain rfl := eq_nil_of_finishes hdone hfinishes
      refine ⟨_, outcomeEvents pending (.error error), rfl, ?_, ?_⟩
      · rw [sentOver, List.append_nil]
      · have hsettled := settled_conclude controller panel pending (.error error)
        cases pending <;> exact hsettled

/-! ## Requests -/

theorem step_of_frame? {frame : Frame} (hframe : desk.frame? = some frame) :
    ∃ controller panel, desk.controller = some controller ∧ controller.pending = none ∧
      panel.left = desk.panel.left ∧ panel.maxBytes = desk.panel.maxBytes ∧
      desk.step? = some (handleFrame controller desk.runtime panel frame) ∧
      desk.outgoing = handledFrames controller.store desk.runtime panel frame ∧
      desk.takenIn .step = [] ∧ desk.releasesIn .step = false := by
  rcases desk with ⟨_ | controller, runtime, panel⟩
  · cases hframe
  rw [frame?, Option.bind_some] at hframe
  split at hframe
  · rename_i found read hpending hnext
    obtain rfl := Option.some.inj hframe
    obtain ⟨rest, -, rfl⟩ := Link.next_eq_frame hnext
    refine ⟨controller, panel.setEndpoint .right (.live rest), rfl, hpending, rfl, rfl,
      ?_, ?_, ?_, ?_⟩
    · simp only [step?, hpending, hnext]
    · simp only [outgoing, hpending, hnext]
    · simp [takenIn, nextCompilation?, hnext]
    · simp [releasesIn, news?, hpending, hnext]
  · cases hframe

/-- A frame that is posted from the right end of the link gets to the left end. -/
def Reaches (panel : Link) (frame : Frame) : Prop :=
  panel.left.isLive ∧ frame.utf8ByteSize ≤ panel.maxBytes

/-- What may be sent for a frame of the panel. -/
def Answered (store : Store) (panel : Link) (frames : List Frame) :
    Except WireError PanelRequest → Prop
  | .ok .connect =>
    frames = framesOf [.registered, .attached] ∨
      ∃ message, frames = framesOf [.registered, .error none message]
  | .ok .disconnect =>
    frames = framesOf [.detached, .unregistered] ∨
      ∃ message, frames = framesOf [.error none message]
  | .ok (.selectCompilation id) =>
    (∃ snapshot, store.get id.slot = .ok snapshot ∧ GraphFrame.Clear id snapshot.scripts ∧
      Reaches panel (GraphFrame.around id snapshot.scripts snapshot.graph.text) ∧
      frames = [GraphFrame.around id snapshot.scripts snapshot.graph.text]) ∨
    ((∀ snapshot, store.get id.slot = .ok snapshot → GraphFrame.Clear id snapshot.scripts →
      ¬ Reaches panel (GraphFrame.around id snapshot.scripts snapshot.graph.text)) ∧
      ∃ message, frames = framesOf [.error (some id) message])
  | .ok (.removeCompilation id) =>
    (id.slot < store.size ∧ frames = []) ∨
      (store.size ≤ id.slot ∧ ∃ message, frames = framesOf [.error (some id) message])
  | .ok (.message _) => frames = []
  | .error _ => ∃ message, frames = framesOf [.error none message]

theorem post_of_not_reaches {panel : Link} {frame : Frame} (hreaches : ¬ Reaches panel frame) :
    ∃ error, panel.post .right frame = .error error := by
  cases hpost : panel.post .right frame with
  | error error => exact ⟨error, rfl⟩
  | ok next =>
      refine absurd ⟨Link.isLive_of_post hpost, ?_⟩ hreaches
      by_cases hlong : panel.maxBytes < frame.utf8ByteSize
      · rw [Link.post, if_pos hlong] at hpost
        cases hpost
      · exact Nat.not_lt.mp hlong

/-- A selection is answered by the graph if there is one that can be sent, and by an error about
the compilation otherwise. -/
theorem answered_select (store : Store) (panel : Link) (id : CompilationId) :
    Answered store panel [selectionFrame store panel id] (.ok (.selectCompilation id)) := by
  rw [Answered, selectionFrame]
  cases hget : store.get id.slot with
  | error error => exact .inr ⟨by simp, error.message, rfl⟩
  | ok snapshot =>
      dsimp only
      rw [GraphFrame.encode_eq]
      dsimp only
      by_cases hclear : GraphFrame.Clear id snapshot.scripts
      · rw [if_pos hclear]
        dsimp only
        by_cases hreaches :
            Reaches panel (GraphFrame.around id snapshot.scripts snapshot.graph.text)
        · rw [Link.post_of_fits hreaches.2 hreaches.1]
          exact .inl ⟨snapshot, rfl, hclear, hreaches, rfl⟩
        · obtain ⟨error, hpost⟩ := post_of_not_reaches hreaches
          rw [hpost]
          refine .inr ⟨?_, error.message, rfl⟩
          rintro other hother -
          obtain rfl := Except.ok.inj hother
          exact hreaches
      · rw [if_neg hclear]
        refine .inr ⟨?_, _, rfl⟩
        intro other hother hother'
        obtain rfl := Except.ok.inj hother
        exact absurd hother' hclear

theorem answered_remove (store : Store) (panel : Link) (id : CompilationId) :
    Answered store panel (removalFrames store id) (.ok (.removeCompilation id)) := by
  rw [Answered, removalFrames, Store.remove]
  cases hslot : store.slots[id.slot]? with
  | none => exact .inr ⟨List.getElem?_eq_none_iff.mp hslot, _, rfl⟩
  | some slot => exact .inl ⟨(List.getElem?_eq_some_iff.mp hslot).1, rfl⟩

/-- An error among the frames of some events is one of the events. -/
theorem error_mem_events {events : List PanelEvent}
    (hevents : ∀ event ∈ events, event.hasGraph = false) {id : Option CompilationId}
    {message : String}
    (hmem : Frame.encode (PanelEvent.error id message).toJson ∈ framesOf events) :
    PanelEvent.error id message ∈ events := by
  obtain ⟨event, hevent, hsame⟩ := List.mem_map.mp hmem
  have heq := congrArg Panel.eventOf hsame
  rw [eventOf_encode (hevents event hevent), eventOf_encode rfl] at heq
  rwa [← heq]

/-- The store and the session are as they were, and no disconnect was granted. -/
structure Untouched (controller after : Controller) (released : Bool) : Prop where
  store : after.store = controller.store
  attached : after.attached = controller.attached
  released : released = false

theorem Settled.hasGraph {controller after : Controller} {pending : Pending} {released : Bool}
    {events : List PanelEvent} (hsettled : Settled controller after pending released events) :
    ∀ event ∈ events, event.hasGraph = false := by
  cases hsettled <;> simp [PanelEvent.hasGraph]

/-- A connect or disconnect that ends with an error leaves no other trace. -/
theorem Settled.untouched {controller after : Controller} {pending : Pending} {released : Bool}
    {events : List PanelEvent} (hsettled : Settled controller after pending released events)
    {id : Option CompilationId} {message : String} (hmem : .error id message ∈ events) :
    Untouched controller after released := by
  cases hsettled with
  | attached | detached => simp at hmem
  | failed _ _ hstore hattached => exact ⟨hstore, hattached, rfl⟩

theorem Settled.answered_connect {controller after : Controller} {released : Bool}
    {events : List PanelEvent} (hsettled : Settled controller after .attach released events)
    (store : Store) (panel : Link) :
    Answered store panel (framesOf [.registered] ++ framesOf events) (.ok .connect) := by
  cases hsettled with
  | attached => exact .inl rfl
  | failed _ message => exact .inr ⟨message, rfl⟩

theorem Settled.answered_disconnect {controller after : Controller} {released : Bool}
    {events : List PanelEvent} (hsettled : Settled controller after .detach released events)
    (store : Store) (panel : Link) :
    Answered store panel (framesOf events) (.ok .disconnect) := by
  cases hsettled with
  | detached => exact .inl rfl
  | failed _ message => exact .inr ⟨message, rfl⟩

/-- The handling of a request ends with an answer, and an answer with an error in it leaves no
other trace. -/
def Ends (desk : ControlDesk) (controller : Controller) (handling : List DeskMove)
    (request : Except WireError PanelRequest) : Prop :=
  ∃ after, (desk.run handling).controller = some after ∧
    Answered controller.store desk.panel (desk.sentOver handling) request ∧
    ∀ id message,
      Frame.encode (PanelEvent.error id message).toJson ∈ desk.sentOver handling →
        Untouched controller after (desk.releasesOver handling)

section

variable {controller : Controller} {request : Except WireError PanelRequest}
  (hstep : desk.step? = some next) (hfinishes : (desk.move .step).finishes moves)
  (hreleases : desk.releasesIn .step = false)

include hstep hfinishes hreleases

/-- A request that needs no reply is answered in one step. -/
theorem ends_at_once {after : Controller} (hafter : next.controller = some after)
    (hpending : after.pending = none)
    (hanswered : Answered controller.store desk.panel desk.outgoing request)
    (huntouched : ∀ id message,
      Frame.encode (PanelEvent.error id message).toJson ∈ desk.outgoing →
        after.store = controller.store ∧ after.attached = controller.attached) :
    Ends desk controller (.step :: moves) request := by
  have hmove : desk.move .step = next := by
    rw [ControlDesk.move, hstep, Option.getD_some]
  have hdone : (desk.move .step).awaits = false := by
    rw [hmove, awaits, hafter, Option.any_some, hpending]
    rfl
  obtain rfl := eq_nil_of_finishes hdone hfinishes
  have hsent : desk.sentOver [.step] = desk.outgoing := by
    rw [sentOver, sentOver, List.append_nil, sentIn_step hstep]
  refine ⟨after, (congrArg ControlDesk.controller hmove).trans hafter, ?_, ?_⟩
  · rw [hsent]
    exact hanswered
  · intro id message hmem
    obtain ⟨hstore, hattached⟩ := huntouched id message (hsent ▸ hmem)
    exact ⟨hstore, hattached, by rw [releasesOver, releasesOver, hreleases, Bool.or_false]⟩

/-- A request that is passed on to the actor is answered when that is settled. -/
theorem ends_settled (opening : List PanelEvent) {runtime panel : Link} {pending : Pending}
    (hask : next = ask controller runtime panel pending)
    (hopening : ∀ event ∈ opening, event = .registered)
    (houtgoing : desk.outgoing = framesOf opening ++ framesOf (askEvents runtime pending))
    (hanswered : ∀ {after : Controller} {released : Bool} {events : List PanelEvent},
      Settled controller after pending released events →
        Answered controller.store desk.panel (framesOf opening ++ framesOf events) request) :
    Ends desk controller (.step :: moves) request := by
  have hmove : desk.move .step = ask controller runtime panel pending := by
    rw [ControlDesk.move, hstep, Option.getD_some, hask]
  rw [hmove] at hfinishes
  obtain ⟨after, events, hafter, hevents, hsettled⟩ :=
    settled_ask controller runtime panel pending hfinishes
  have hsent : desk.sentOver (.step :: moves) = framesOf opening ++ framesOf events := by
    rw [sentOver, sentIn_step hstep, houtgoing, hmove, List.append_assoc, hevents]
  have hreleasesOver : desk.releasesOver (.step :: moves) =
      (ask controller runtime panel pending).releasesOver moves := by
    rw [releasesOver, hreleases, Bool.false_or, hmove]
  refine ⟨after, ?_, ?_, ?_⟩
  · exact (congrArg (fun desk => (desk.run moves).controller) hmove).trans hafter
  · rw [hsent]
    exact hanswered hsettled
  · intro id message hmem
    rw [hsent] at hmem
    rw [hreleasesOver]
    rcases List.mem_append.mp hmem with hmem | hmem
    · -- what opens the answer is no error
      have hgraph : ∀ event ∈ opening, event.hasGraph = false := by
        intro event hevent
        rw [hopening event hevent]
        rfl
      exact absurd (hopening _ (error_mem_events hgraph hmem)) (by simp)
    · exact hsettled.untouched (error_mem_events hsettled.hasGraph hmem)

end

/-- **Every request is answered**, and what fails leaves no other trace. -/
theorem ends_handling {frame : Frame} (hframe : desk.frame? = some frame)
    (hfinishes : (desk.move .step).finishes moves) :
    ∃ controller, desk.controller = some controller ∧
      Ends desk controller (.step :: moves) (Frame.decode PanelRequest.ofJson? frame) := by
  obtain ⟨controller, panel, hcontroller, hidle, hleft, hmax, hstep, houtgoing, -, hreleases⟩ :=
    step_of_frame? hframe
  refine ⟨controller, hcontroller, ?_⟩
  rw [handledFrames] at houtgoing
  rw [handleFrame] at hstep
  cases hdecode : Frame.decode PanelRequest.ofJson? frame with
  | error error =>
      rw [hdecode] at hstep houtgoing
      refine ends_at_once hstep hfinishes hreleases rfl hidle ?_ fun _ _ _ => ⟨rfl, rfl⟩
      rw [houtgoing]
      exact ⟨error.message, rfl⟩
  | ok request =>
      rw [hdecode] at hstep houtgoing
      dsimp only at hstep houtgoing
      cases request with
      | connect =>
          exact ends_settled hstep hfinishes hreleases [.registered] rfl (by simp) houtgoing
            fun hsettled => hsettled.answered_connect _ _
      | disconnect =>
          exact ends_settled hstep hfinishes hreleases [] rfl (by simp) houtgoing
            fun hsettled => hsettled.answered_disconnect _ _
      | selectCompilation id =>
          refine ends_at_once hstep hfinishes hreleases rfl hidle ?_ fun _ _ _ => ⟨rfl, rfl⟩
          have hanswered := answered_select controller.store panel id
          simp only [Answered, Reaches, hleft, hmax] at hanswered
          rw [houtgoing]
          exact hanswered
      | message text =>
          refine ends_at_once hstep hfinishes hreleases rfl hidle ?_ fun _ _ _ => ⟨rfl, rfl⟩
          rw [houtgoing]
          rfl
      | removeCompilation id =>
          have hanswered : Answered controller.store desk.panel desk.outgoing
              (.ok (.removeCompilation id)) := by
            rw [houtgoing]
            exact answered_remove controller.store _ id
          rw [handle, Controller.remove] at hstep
          cases hremove : controller.store.remove id.slot with
          | error error =>
              rw [hremove] at hstep
              exact ends_at_once hstep hfinishes hreleases rfl hidle hanswered
                fun _ _ _ => ⟨rfl, rfl⟩
          | ok store =>
              rw [hremove] at hstep
              refine ends_at_once hstep hfinishes hreleases rfl hidle hanswered ?_
              intro about message hmem
              rw [houtgoing, requestFrames, removalFrames, hremove] at hmem
              cases hmem

/-- **Requests are answered in full or leave no trace.**  In every state that the controller can get
into, when it handles a frame of the panel and then waits for the actor as long as a reply is
outstanding, whatever happens at both links in the meantime: what it sends until it is done is one
of the answers that there are for the request, and all of it is posted if nothing is too long and
the panel stays.  If the answer includes an error, the store and the session are as they were, and
every compilation that has arrived is owed; as long as no disconnect is granted, all of it is taken
up in order, and nothing is left when the controller has had time enough in quiet. -/
theorem requests_answered (runtimeBytes panelBytes : Nat) (before moves : List DeskMove)
    (frame : Frame) :
    let desk := (fresh runtimeBytes panelBytes).run before
    let final := desk.run (.step :: moves)
    let sent := desk.sentOver (.step :: moves)
    desk.frame? = some frame → (desk.move .step).finishes moves →
    ∃ controller after, desk.controller = some controller ∧ final.controller = some after ∧
      Answered controller.store desk.panel sent (Frame.decode PanelRequest.ofJson? frame) ∧
      (desk.fitsOver (.step :: moves) → final.panel.left.isLive →
        desk.postedOver (.step :: moves) = sent) ∧
      ((∃ id message, Frame.encode (PanelEvent.error id message).toJson ∈ sent) →
        after.store = controller.store ∧ after.attached = controller.attached ∧
        final.owed = desk.owed ++ desk.arrivedOver (.step :: moves) ∧
        ∀ later, final.releasesOver later = false → (final.run later).controller.isSome →
          final.takenOver later ++ (final.run later).owed =
            final.owed ++ final.arrivedOver later ∧
          ((final.run later).Quiet →
            (final.run later).takenOver (List.replicate (final.run later).load .step) =
              (final.run later).owed)) := by
  intro desk final sent hframe hfinishes
  obtain ⟨controller, hcontroller, after, hafter, hanswered, huntouched⟩ :=
    ends_handling hframe hfinishes
  refine ⟨controller, after, hcontroller, hafter, hanswered,
    fun hfits hlive => postedOver_eq hlive hfits, ?_⟩
  rintro ⟨id, message, hmem⟩
  obtain ⟨hstore, hattached, hreleased⟩ := huntouched id message hmem
  refine ⟨hstore, hattached, ?_, ?_⟩
  · -- nothing is taken up before the request is done with
    obtain ⟨-, -, -, -, -, -, -, -, htaken, -⟩ := step_of_frame? hframe
    have hnone : desk.takenOver (.step :: moves) = [] := by
      rw [takenOver, htaken, takenOver_of_finishes hfinishes, List.append_nil]
    have hpresent : final.controller.isSome := by
      rw [hafter]
      rfl
    have howed := owed_run desk (.step :: moves) hpresent hreleased
    rwa [hnone, List.nil_append] at howed
  · intro later hreleases hpresent
    have hspent : Spent (final.run later) :=
      (((spent_fresh runtimeBytes panelBytes).run before).run (.step :: moves)).run later
    exact ⟨owed_run final later hpresent hreleases,
      fun hquiet => hquiet.takenOver hspent (Nat.le_refl _)⟩

/-- A session that the panel asks to end. -/
def leavingMoves : List DeskMove :=
  DeskMove.asking .connect ++ DeskMove.telling (.state .attached) ++
    [.panel (.post (Frame.encode PanelRequest.disconnect.toJson))]

/-- The actor reports a compilation, and then it refuses to end the session. -/
def refusingMoves : List DeskMove :=
  DeskMove.telling (.compilation [] "[]") ++ DeskMove.telling (.wrongState .attached .detached)

/-- A disconnect that the actor refuses is answered by one error, and the compilation that came in
before is taken up next. -/
theorem sample_requests_answered :
    let desk := (fresh 200 200).run leavingMoves
    let final := desk.run (.step :: refusingMoves)
    ∃ controller after, desk.controller = some controller ∧ final.controller = some after ∧
      after.store = controller.store ∧ after.attached = controller.attached ∧
      desk.postedOver (.step :: refusingMoves) =
        framesOf [.error none (FrontError.wrongState .attached .detached).message] ∧
      final.takenOver (List.replicate final.load .step) = [⟨[], "[]"⟩] := by
  have hstate :
      let desk := (fresh 200 200).run leavingMoves
      let final := desk.run (.step :: refusingMoves)
      desk.frame? = some (Frame.encode PanelRequest.disconnect.toJson) ∧
      (desk.move .step).finishes refusingMoves ∧ desk.fitsOver (.step :: refusingMoves) ∧
      final.panel.left.isLive ∧ final.panel.right = .live [] ∧
      desk.sentOver (.step :: refusingMoves) =
        framesOf [.error none (FrontError.wrongState .attached .detached).message] ∧
      final.controller.map Controller.pending = some none ∧ final.owed = [⟨[], "[]"⟩] := by
    decide +kernel
  dsimp only at hstate ⊢
  obtain ⟨hframe, hfinishes, hfits, hlive, hright, hsent, hidle, howed⟩ := hstate
  have herror : Frame.encode
      (PanelEvent.error none (FrontError.wrongState .attached .detached).message).toJson ∈
        ((fresh 200 200).run leavingMoves).sentOver (.step :: refusingMoves) := by
    rw [hsent, framesOf, List.map_singleton]
    exact List.mem_cons_self
  obtain ⟨controller, after, hcontroller, hafter, -, hposted, htraceless⟩ :=
    requests_answered 200 200 leavingMoves refusingMoves _ hframe hfinishes
  obtain ⟨hstore, hattached, -, hlater⟩ := htraceless ⟨none, _, herror⟩
  refine ⟨controller, after, hcontroller, hafter, hstore, hattached, ?_, ?_⟩
  · exact (hposted hfits hlive).trans hsent
  · have hnow := hlater []
    rw [run_nil] at hnow
    have hquiet : (((fresh 200 200).run leavingMoves).run (.step :: refusingMoves)).Quiet := by
      refine ⟨after, hafter, ?_, ?_⟩
      · rw [hafter] at hidle
        exact Option.some.inj hidle
      · simp [Link.next, Link.endpoint, hright, Link.isLive, Side.other, hlive]
    rw [hafter] at hnow
    exact ((hnow rfl rfl).2 hquiet).trans howed

end ControlDesk

end CompileWatch
