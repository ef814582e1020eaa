import CompileWatch.Proofs.Actor.Turn
import CompileWatch.Proofs.Controller.Owed
import CompileWatch.Proofs.Session.Standing
import CompileWatch.Proofs.Text.Assoc

/-!
# Where compilations come from

A compilation waits in a mailbox of the host, on the runtime link or in the backlog, and is kept in
the store at last.  No party makes one up or changes one: whatever is found in any of these places
was completed by the host.
-/

namespace CompileWatch

/-! ## Mailboxes -/

namespace Host

variable {host next : Host} {session : Nat} {compilation : Compilation}

/-- The compilations that wait in the mailboxes. -/
def held (host : Host) : List Compilation :=
  host.mailboxes.flatMap Prod.snd

theorem held_of_mailbox? {waiting : List Compilation}
    (hmailbox : host.mailbox? session = some waiting) : waiting ⊆ host.held :=
  fun _ hwaiting => List.mem_flatMap.mpr ⟨_, Assoc.mem_of_get? hmailbox, hwaiting⟩

/-- Another content of one mailbox. -/
theorem held_set (host : Host) (session : Nat) (waiting : List Compilation) :
    ({ host with mailboxes := host.mailboxes.set session waiting } : Host).held ⊆
      waiting ++ host.held := by
  intro compilation hheld
  obtain ⟨entry, hentry, hcompilation⟩ := List.mem_flatMap.mp hheld
  rcases Assoc.mem_set hentry with rfl | holder
  · exact List.mem_append_left _ hcompilation
  · exact List.mem_append_right _ (List.mem_flatMap.mpr ⟨entry, holder, hcompilation⟩)

theorem held_openSession (host : Host) : host.openSession.2.held ⊆ host.held :=
  held_set host host.opened []

theorem held_endSession (host : Host) (session : Nat) :
    (host.endSession session).held ⊆ host.held := by
  intro compilation hheld
  obtain ⟨entry, hentry, hcompilation⟩ := List.mem_flatMap.mp hheld
  exact List.mem_flatMap.mpr ⟨entry, List.mem_of_mem_filter hentry, hcompilation⟩

theorem held_compile? (hcompile : host.compile? compilation = some next) :
    next.held ⊆ compilation :: host.held := by
  rw [compile?] at hcompile
  split at hcompile
  · obtain ⟨session, -, hfire⟩ := Option.bind_eq_some_iff.mp hcompile
    obtain ⟨waiting, hmailbox, rfl⟩ := Option.map_eq_some_iff.mp hfire
    intro other hother
    have hmem := held_set host session (waiting ++ [compilation]) hother
    simp only [List.append_assoc, List.singleton_append, List.mem_append, List.mem_cons] at hmem ⊢
    rcases hmem with h | h
    · exact .inr (held_of_mailbox? hmailbox h)
    · exact h
  · cases hcompile

theorem held_take? (htake : host.take? session = some (compilation, next)) :
    compilation :: next.held ⊆ host.held := by
  rw [take?] at htake
  split at htake
  · rename_i first rest hmailbox
    obtain ⟨rfl, rfl⟩ := Prod.mk.inj (Option.some.inj htake)
    have hwaiting := held_of_mailbox? hmailbox
    refine List.cons_subset.mpr ⟨hwaiting List.mem_cons_self, ?_⟩
    refine List.Subset.trans (held_set host session rest)
      (List.append_subset.mpr ⟨?_, List.Subset.refl _⟩)
    exact List.Subset.trans (List.subset_cons_self first rest) hwaiting
  · cases htake

end Host

/-! ## The actor -/

namespace Actor

variable {actor : Actor} {host next : Host} {compilation : Compilation}

theorem held_take? (htake : actor.take? host = some (compilation, next)) :
    compilation :: next.held ⊆ host.held := by
  cases actor with
  | detached => cases htake
  | attached session => exact Host.held_take? htake

theorem held_release (actor : Actor) (host : Host) : (actor.release host).held ⊆ host.held := by
  cases actor with
  | detached => exact List.Subset.refl _
  | attached session => exact host.held_endSession session

end Actor

namespace ActorService

variable {actor : Actor} {host : Host} {link : Link}

/-- An answer reports no compilation, and no mailbox gains any. -/
theorem held_reply (actor : Actor) (host : Host) (frame : Frame) :
    (reply actor host frame).2.2.held ⊆ host.held ∧
      Front.compilationOf? (Frame.encode (reply actor host frame).1.toJson) = none := by
  rw [Front.compilationOf?, ActorPacket.decode_encode, reply]
  cases Frame.decode ActorRequest.ofJson? frame with
  | error error => exact ⟨List.Subset.refl _, rfl⟩
  | ok request =>
      cases request <;> cases actor
      case attach.detached => exact ⟨host.held_openSession, rfl⟩
      case detach.attached session => exact ⟨host.held_endSession session, rfl⟩
      all_goals exact ⟨List.Subset.refl _, rfl⟩

/-- The compilations that wait in the mailboxes or were reported. -/
def compilations (service : ActorService) : List Compilation :=
  service.host.held ++ (service.link.queue .left).filterMap Front.compilationOf?

theorem compilations_stop (service : ActorService) :
    service.stop.compilations ⊆ service.compilations := by
  refine List.append_subset.mpr ⟨?_, List.subset_append_right _ _⟩
  refine List.Subset.trans ?_ (List.subset_append_left _ _)
  rw [stop]
  cases service.actor with
  | none => exact List.Subset.refl _
  | some actor => exact actor.held_release service.host

theorem compilations_post (service : ActorService) (packet : ActorPacket) :
    (service.post packet).compilations ⊆
      (Front.compilationOf? (Frame.encode packet.toJson)).toList ++ service.compilations := by
  rw [post]
  split
  · rename_i next hpost
    obtain rfl := Link.eq_posted_of_post hpost
    have hqueue := Link.queue_posted (Link.isLive_of_post hpost) [Frame.encode packet.toJson]
    intro compilation hcompilation
    cases hreport : Front.compilationOf? (Frame.encode packet.toJson) <;>
      simp_all [compilations, List.filterMap_append, or_comm, or_left_comm]
  · exact List.subset_append_right _ _
  · exact List.Subset.trans service.compilations_stop (List.subset_append_right _ _)

/-- What the actor reports, it has taken out of a mailbox. -/
theorem compilations_turn {actor : Actor} {next : ActorService}
    (hturn : Turn actor host link next) :
    next.compilations ⊆ compilations { actor := some actor, host, link } := by
  cases hturn with
  | @answered frame rest hright =>
      obtain ⟨hheld, hreport⟩ := held_reply actor host frame
      refine List.Subset.trans (compilations_post _ _) ?_
      rw [hreport, Option.toList_none, List.nil_append]
      exact List.append_subset.mpr
        ⟨List.Subset.trans hheld (List.subset_append_left _ _), List.subset_append_right _ _⟩
  | @reported compilation next hright hlive htake =>
      have htaken := List.cons_subset.mp (actor.held_take? htake)
      have hreport := Front.compilationOf?_report compilation
      rw [Progress.frameOf] at hreport
      refine List.Subset.trans (compilations_post _ _) ?_
      rw [hreport, Option.toList_some, List.singleton_append]
      refine List.cons_subset.mpr ⟨List.mem_append_left _ htaken.1, List.append_subset.mpr ?_⟩
      exact
        ⟨List.Subset.trans htaken.2 (List.subset_append_left _ _), List.subset_append_right _ _⟩
  | stopped hgone => exact compilations_stop _

end ActorService

/-! ## The store -/

namespace Store

variable {store next : Store}

/-- The compilations that were recorded and not removed. -/
def compilations (store : Store) : List Compilation :=
  store.live.map fun snapshot => ⟨snapshot.scripts, snapshot.graph.text⟩

theorem compilations_reduce (hreduces : store.Reduces next) :
    next.compilations ⊆ store.compilations := by
  refine List.map_subset _ fun snapshot hsnapshot => ?_
  obtain ⟨slot, hslot⟩ := mem_live.mp hsnapshot
  exact mem_live.mpr ⟨slot, hreduces.2 slot snapshot hslot⟩

theorem compilations_append (store : Store) {compilation : Compilation} {graph : RawJson}
    (hgraph : RawJson.ofText? compilation.json = .ok graph) :
    (store.append compilation.scripts graph).compilations =
      store.compilations ++ [compilation] := by
  simp [compilations, live, append, RawJson.text_of_ofText? hgraph]

end Store

/-! ## The controller -/

namespace Controller

variable (controller : Controller) (panel : Link)

/-- The compilations that wait in the backlog or in the store. -/
def compilations (controller : Controller) : List Compilation :=
  controller.front.backlog ++ controller.store.compilations

theorem compilations_record (compilation : Compilation) :
    (controller.record panel compilation).1.compilations ⊆
      compilation :: controller.compilations := by
  rcases record_eq controller panel compilation with ⟨graph, -, hgraph, heq⟩ | ⟨-, heq⟩
  · rw [heq]
    intro other hother
    simp only [compilations, controller.store.compilations_append hgraph, List.mem_append,
      List.mem_cons, List.not_mem_nil, or_false] at hother ⊢
    tauto
  · rw [heq]
    exact List.subset_cons_self _ _

theorem compilations_conclude (pending : Pending) (outcome : Except FrontError ActorReply) :
    (controller.conclude panel pending outcome).1.compilations ⊆ controller.compilations := by
  rcases conclude_eq controller panel pending outcome with
    ⟨-, heq⟩ | ⟨-, heq⟩ | ⟨-, next, -, heq⟩
  · rw [heq]
    exact List.append_subset.mpr ⟨List.subset_append_left _ _, List.nil_subset _⟩
  · rw [heq]
    exact List.append_subset.mpr ⟨List.nil_subset _, List.subset_append_right _ _⟩
  · rw [heq]
    exact List.Subset.refl _

/-- A frame that comes before the reply that is awaited goes into the backlog if it reports a
compilation. -/
theorem compilations_receive {front : Front} {frame : Frame}
    (hreceive : controller.front.receive frame = (front, none)) :
    { controller with front }.compilations ⊆
      (Front.compilationOf? frame).toList ++ controller.compilations := by
  intro compilation hcompilation
  simp only [compilations, Front.backlog_of_receive_none hreceive, List.mem_append]
    at hcompilation ⊢
  tauto

end Controller

namespace ControlDesk

open Controller

variable {desk next : ControlDesk}

/-- The compilations that the controller has or can take from the runtime link. -/
def compilations (desk : ControlDesk) : List Compilation :=
  (desk.controller.map Controller.compilations).getD [] ++
    (desk.runtime.queue .left).filterMap Front.compilationOf?

/-- The controller gains no compilation that was not on the link. -/
theorem compilations_subset {controller after : Controller} {runtime panel : Link}
    (hcontroller : desk.controller = some after)
    (hqueue : desk.runtime.queue .left ⊆ runtime.queue .left)
    (hafter : after.compilations ⊆
      compilations { controller := some controller, runtime, panel }) :
    desk.compilations ⊆ compilations { controller := some controller, runtime, panel } := by
  rw [compilations, hcontroller, Option.map_some, Option.getD_some]
  refine List.append_subset.mpr ⟨hafter, ?_⟩
  exact List.Subset.trans (List.filterMap_subset _ hqueue) (List.subset_append_right _ _)

theorem compilations_stop (desk : ControlDesk) : desk.stop.compilations ⊆ desk.compilations :=
  List.nil_subset _

theorem compilations_turn {controller : Controller} {runtime panel : Link}
    (hturn : Turn controller runtime panel next) :
    next.compilations ⊆ compilations { controller := some controller, runtime, panel } := by
  have hkept : controller.compilations ⊆
      compilations { controller := some controller, runtime, panel } :=
    List.subset_append_left _ _
  -- a frame that is read leaves the others, and its compilation was on the link
  have hread : ∀ {frame rest}, runtime.left = .live (frame :: rest) →
      Link.queue { runtime with left := .live rest } .left ⊆ runtime.queue .left ∧
        (Front.compilationOf? frame).toList ++ controller.compilations ⊆
          compilations { controller := some controller, runtime, panel } := by
    intro frame rest hleft
    have hqueue : runtime.queue .left = frame :: rest := Link.queue_of_live hleft
    refine ⟨?_, List.append_subset.mpr ⟨?_, hkept⟩⟩
    · rw [hqueue]
      exact List.subset_cons_self frame rest
    · rw [compilations, hqueue]
      cases hcompilation : Front.compilationOf? frame <;> simp [hcompilation]
  cases hturn with
  | @handled frame rest hpending hright =>
      generalize hnext :
        handleFrame controller runtime { panel with right := .live rest } frame = next
      have hhandled :=
        handled_handleFrame hpending runtime { panel with right := .live rest } frame
      rw [hnext] at hhandled
      cases hhandled with
      | asked => exact compilations_subset rfl (List.Subset.refl _) hkept
      | @done store link hhushed hreduces =>
          refine compilations_subset rfl (List.Subset.refl _) (List.Subset.trans ?_ hkept)
          exact List.append_subset.mpr ⟨List.subset_append_left _ _,
            List.Subset.trans (Store.compilations_reduce hreduces) (List.subset_append_right _ _)⟩
  | stopped hpending hnext => exact compilations_stop _
  | @kept pending frame rest front hpending hleft hreceive =>
      obtain ⟨hqueue, hfrom⟩ := hread hleft
      exact compilations_subset rfl hqueue
        (List.Subset.trans (controller.compilations_receive hreceive) hfrom)
  | @concluded pending frame rest front outcome hpending hleft hreceive =>
      obtain ⟨rfl, -⟩ := Front.of_receive_some hreceive
      exact compilations_subset rfl (hread hleft).1
        (List.Subset.trans (controller.compilations_conclude panel pending outcome) hkept)
  | @failed pending hpending hgone =>
      exact compilations_subset rfl (List.Subset.refl _)
        (List.Subset.trans (controller.compilations_conclude panel pending _) hkept)
  | @caughtUp compilation rest hpending hbacklog hopen hnext =>
      have htaken : compilation :: { controller with front := { backlog := rest } }.compilations =
          controller.compilations := by
        rw [Controller.compilations, Controller.compilations, hbacklog, List.cons_append]
      refine compilations_subset rfl (List.Subset.refl _) (List.Subset.trans ?_ hkept)
      rw [← htaken]
      exact compilations_record _ panel compilation
  | @read frame rest next hpending hbacklog hopen hnext hleft heq =>
      obtain ⟨hqueue, hfrom⟩ := hread hleft
      refine compilations_subset rfl hqueue ?_
      rw [heq]
      cases hcompilation : Front.compilationOf? frame with
      | none => exact hkept
      | some compilation =>
          rw [hcompilation] at hfrom
          exact List.Subset.trans (compilations_record controller panel compilation) hfrom
  | ended hpending hbacklog hopen hnext hgone =>
      exact compilations_subset rfl (List.Subset.refl _) hkept

end ControlDesk

/-! ## Sessions -/

namespace Session

variable {Image : Type}

/-- The compilations anywhere between the host and the store. -/
def compilations (session : Session Image) : List Compilation :=
  session.host.held ++ session.controlDesk.compilations

/-- What happens at the panel does not matter. -/
theorem compilations_congr {session next : Session Image} (hhost : next.host = session.host)
    (hcontroller : next.controller = session.controller)
    (hruntime : next.runtime = session.runtime) : next.compilations = session.compilations := by
  rw [compilations, compilations, ControlDesk.compilations, ControlDesk.compilations, controlDesk,
    controlDesk, hhost, hcontroller, hruntime]

theorem compilations_onPanel (session : Session Image)
    (change : PanelDesk Image → PanelDesk Image) :
    (session.onPanel change).compilations = session.compilations := by
  rw [onPanel]
  cases session.panelDesk? with
  | none => rfl
  | some desk => exact compilations_congr rfl rfl rfl

theorem compilations_withService {session : Session Image} {service : ActorService}
    (hservice : service.compilations ⊆ session.service.compilations) :
    (session.withService service).compilations ⊆ session.compilations := by
  intro compilation hcompilation
  have hfrom := @hservice compilation
  simp only [compilations, ControlDesk.compilations, ActorService.compilations, withService,
    controlDesk, Session.service, List.mem_append] at hcompilation hfrom ⊢
  tauto

theorem compilations_withControlDesk {session : Session Image} {desk : ControlDesk}
    (hdesk : desk.compilations ⊆ session.controlDesk.compilations) :
    (session.withControlDesk desk).compilations ⊆ session.compilations :=
  List.append_subset.mpr
    ⟨List.subset_append_left _ _, List.Subset.trans hdesk (List.subset_append_right _ _)⟩

/-- No party makes up a compilation in a step. -/
theorem compilations_step? {session next : Session Image} {party : Party}
    (hstep : session.step? party = some next) : next.compilations ⊆ session.compilations := by
  cases party with
  | panel =>
      rw [step?, Option.map_eq_some_iff] at hstep
      obtain ⟨desk, -, rfl⟩ := hstep
      rw [@compilations_congr _ session _ rfl rfl rfl]
      exact List.Subset.refl _
  | controller =>
      rw [step?, Option.map_eq_some_iff] at hstep
      obtain ⟨desk, hstep, rfl⟩ := hstep
      refine compilations_withControlDesk ?_
      cases hcontroller : session.controller with
      | none => simp [ControlDesk.step?, controlDesk, hcontroller] at hstep
      | some controller =>
          rw [controlDesk, hcontroller] at hstep ⊢
          exact ControlDesk.compilations_turn (ControlDesk.turn_of_step? hstep)
  | actor =>
      rw [step?, Option.map_eq_some_iff] at hstep
      obtain ⟨service, hstep, rfl⟩ := hstep
      refine compilations_withService ?_
      cases hactor : session.actor with
      | none => simp [ActorService.step?, Session.service, hactor] at hstep
      | some actor =>
          rw [Session.service, hactor] at hstep ⊢
          exact ActorService.compilations_turn (ActorService.turn_of_step? hstep)

/-- A compilation in a session was there before the move, or the move has completed it. -/
theorem compilations_move (session : Session Image) (move : Move) {compilation : Compilation}
    (hcompilation : compilation ∈ (session.move move).compilations) :
    compilation ∈ session.compilations ∨ move = .compile compilation := by
  cases move with
  | compile completed =>
      rw [Session.move] at hcompilation
      cases hcompile : session.host.compile? completed with
      | none =>
          rw [hcompile] at hcompilation
          exact .inl hcompilation
      | some host =>
          rw [hcompile, Option.getD_some] at hcompilation
          rcases List.mem_append.mp hcompilation with hheld | hlater
          · rcases List.mem_cons.mp (Host.held_compile? hcompile hheld) with rfl | hheld
            · exact .inr rfl
            · exact .inl (List.mem_append_left _ hheld)
          · exact .inl (List.mem_append_right _ hlater)
  | call | clearCall | setMode | remove | message =>
      exact .inl (session.compilations_onPanel _ ▸ hcompilation)
  | stopActor =>
      rw [Session.move] at hcompilation
      split at hcompilation
      · exact .inl (compilations_withService session.service.compilations_stop hcompilation)
      · exact .inl hcompilation
  | stopController =>
      rw [Session.move] at hcompilation
      split at hcompilation
      · exact .inl (compilations_withControlDesk session.controlDesk.compilations_stop hcompilation)
      · exact .inl hcompilation
  | closePanel => exact .inl hcompilation
  | step party =>
      rw [Session.move] at hcompilation
      cases hstep : session.step? party with
      | none =>
          rw [hstep] at hcompilation
          exact .inl hcompilation
      | some next =>
          rw [hstep] at hcompilation
          exact .inl (compilations_step? hstep hcompilation)

/-- **Nothing is in a session but what was compiled.**  Whatever is found in a mailbox, on the
runtime link, in the backlog or in the store after some moves was there before, or one of the moves
has completed it. -/
theorem compilations_run (session : Session Image) (moves : List Move) {compilation : Compilation}
    (hcompilation : compilation ∈ (session.run moves).compilations) :
    compilation ∈ session.compilations ∨ .compile compilation ∈ moves := by
  induction moves generalizing session with
  | nil => exact .inl hcompilation
  | cons first rest ih =>
      rcases ih (session.move first) hcompilation with h | h
      · rcases session.compilations_move first h with h | rfl
        · exact .inl h
        · exact .inr List.mem_cons_self
      · exact .inr (List.mem_cons_of_mem _ h)

/-- Nothing is in a session in which nothing has happened yet. -/
theorem compilations_fresh (runtimeBytes panelBytes : Nat) (panel : Panel Image) :
    (fresh runtimeBytes panelBytes panel).compilations = [] :=
  rfl

/-- What the store holds after a run was compiled in the run. -/
theorem compile_of_live {start : Session Image} (hstart : start.compilations = [])
    {moves : List Move} {controller : Controller}
    (hcontroller : (start.run moves).controller = some controller) {snapshot : Snapshot}
    (hsnapshot : snapshot ∈ controller.store.live) :
    .compile ⟨snapshot.scripts, snapshot.graph.text⟩ ∈ moves := by
  have hstored : ⟨snapshot.scripts, snapshot.graph.text⟩ ∈ controller.store.compilations :=
    List.mem_map_of_mem hsnapshot
  have hpresent : ⟨snapshot.scripts, snapshot.graph.text⟩ ∈ (start.run moves).compilations := by
    rw [compilations, ControlDesk.compilations, controlDesk, hcontroller]
    exact List.mem_append_right _ (List.mem_append_left _ (List.mem_append_right _ hstored))
  rcases start.compilations_run moves hpresent with hmem | hcompiled
  · rw [hstart] at hmem
    cases hmem
  · exact hcompiled

end Session

end CompileWatch
