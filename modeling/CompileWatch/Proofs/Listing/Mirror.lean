import CompileWatch.Proofs.Controller.Register
import CompileWatch.Proofs.Listing.Preview

/-!
# The listing follows the store

The listing of the panel mirrors the store once everything that is under way has arrived: the
events that wait at the panel are taken in, and the removals that wait at the controller are
carried out.  This is kept up from both ends as long as nothing is removed while a connect is under
way.  A connect replaces the store by an empty one, in which the ids begin again; a removal that
was meant for the old store would then take a compilation out of the new one.
-/

namespace CompileWatch

/-- The listing mirrors the store, apart from what is under way between them. -/
structure Mirrored (entries : List ListEntry) (controller : Controller)
    (requests inbox : List Frame) : Prop where
  agrees : preview entries inbox =
    controller.store.listing.filter fun entry => entry.id ∉ removals requests
  tidy : controller.store.Tidy
  /-- What is going to be removed was recorded. -/
  recorded : ∀ id ∈ removals requests, id.slot < controller.store.size
  /-- No removal waits behind a request to connect. -/
  behind : requests.Pairwise fun first second =>
    first.request? = some .connect → removals [second] = []
  /-- While the reply to a connect is awaited, no removal waits. -/
  served : controller.pending = some .attach → removals requests = []
  /-- While the event waits that clears the listing, no removal waits. -/
  announced : (∃ frame ∈ inbox, (Panel.eventOf frame).isAttached) → removals requests = []

/-- A connect is under way: the request waits, its reply is awaited, or the event waits that tells
of its success. -/
def connectUnderWay (pending : Option Pending) (requests inbox : List Frame) : Bool :=
  requests.any (fun frame => frame.request? = some .connect) || pending = some .attach ||
    inbox.any fun frame => (Panel.eventOf frame).isAttached

namespace Mirrored

variable {entries : List ListEntry} {controller : Controller} {requests inbox : List Frame}

theorem initial : Mirrored [] {} [] [] where
  agrees := rfl
  tidy := Store.tidy_empty
  recorded := by simp [removals]
  behind := .nil
  served := nofun
  announced := by simp

/-! ## The panel -/

/-- The panel takes in the event that has waited longest. -/
theorem read {frame : Frame} (hmirrored : Mirrored entries controller requests (frame :: inbox)) :
    Mirrored ((Panel.eventOf frame).list entries) controller requests inbox where
  agrees := hmirrored.agrees
  tidy := hmirrored.tidy
  recorded := hmirrored.recorded
  behind := hmirrored.behind
  served := hmirrored.served
  announced := by
    rintro ⟨other, hother, hattached⟩
    exact hmirrored.announced ⟨other, List.mem_cons_of_mem _ hother, hattached⟩

/-- The panel posts a request that removes nothing. -/
theorem post (hmirrored : Mirrored entries controller requests inbox) {request : PanelRequest}
    (hkeeps : request.removed? = none) :
    Mirrored entries controller (requests ++ [Frame.encode request.toJson]) inbox := by
  have hframe : removals [Frame.encode request.toJson] = [] := by
    simp [removals, hkeeps]
  have hsame : removals (requests ++ [Frame.encode request.toJson]) = removals requests := by
    rw [removals_append, hframe, List.append_nil]
  constructor
  case agrees =>
    rw [hsame]
    exact hmirrored.agrees
  case tidy => exact hmirrored.tidy
  case recorded =>
    rw [hsame]
    exact hmirrored.recorded
  case behind =>
    rw [List.pairwise_append]
    refine ⟨hmirrored.behind, List.pairwise_singleton .., ?_⟩
    intro first hfirst second hsecond hconnects
    rw [List.mem_singleton.mp hsecond]
    exact hframe
  case served =>
    rw [hsame]
    exact hmirrored.served
  case announced =>
    rw [hsame]
    exact hmirrored.announced

/-- The panel removes a compilation that it lists, while no connect is under way. -/
theorem remove (hmirrored : Mirrored entries controller requests inbox) {id : CompilationId}
    (hlisted : ∃ entry ∈ entries, entry.id = id)
    (hsettled : connectUnderWay controller.pending requests inbox = false) :
    Mirrored (entries.filter fun entry => entry.id ≠ id) controller
      (requests ++ [Frame.encode (PanelRequest.removeCompilation id).toJson]) inbox := by
  simp only [connectUnderWay, Bool.or_eq_false_iff, List.any_eq_false, decide_eq_true_eq,
    decide_eq_false_iff_not, Bool.not_eq_true] at hsettled
  obtain ⟨⟨hconnects, hserved⟩, hinbox⟩ := hsettled
  obtain ⟨recorded, hrecorded⟩ := exists_recorded hinbox
  have hboth : removals (requests ++ [Frame.encode (PanelRequest.removeCompilation id).toJson]) =
      removals requests ++ [id] := by
    rw [removals_append]
    simp [removals, PanelRequest.removed?]
  have hagrees := hmirrored.agrees
  rw [hrecorded] at hagrees
  obtain ⟨entry, hentry, hid⟩ := hlisted
  -- the ids increase, so the id occurs in the listing and in none of the events that wait
  have hincrease : (entries ++ recorded).Pairwise fun first second =>
      first.id.slot < second.id.slot := by
    rw [hagrees]
    exact hmirrored.tidy.pairwise_listing.filter _
  have hother : recorded.filter (fun entry => entry.id ≠ id) = recorded := by
    rw [List.filter_eq_self]
    intro later hlater
    have horder := (List.pairwise_append.mp hincrease).2.2 entry hentry later hlater
    simp only [ne_eq, decide_eq_true_eq]
    rintro rfl
    rw [hid] at horder
    exact Nat.lt_irrefl _ horder
  have hheld : entry ∈ controller.store.listing := by
    have hmem : entry ∈ entries ++ recorded := List.mem_append_left _ hentry
    rw [hagrees] at hmem
    exact List.mem_of_mem_filter hmem
  constructor
  case agrees =>
    calc preview (entries.filter fun entry => entry.id ≠ id) inbox
        = (entries ++ recorded).filter fun entry => entry.id ≠ id := by
          rw [hrecorded, List.filter_append, hother]
      _ = controller.store.listing.filter fun entry => entry.id ∉ removals requests ++ [id] := by
          rw [hagrees, List.filter_filter]
          apply List.filter_congr
          intro entry _
          simp [Bool.and_comm]
      _ = _ := by rw [hboth]
  case tidy => exact hmirrored.tidy
  case recorded =>
    rw [hboth, List.forall_mem_append, List.forall_mem_singleton]
    refine ⟨hmirrored.recorded, ?_⟩
    rw [← hid]
    exact hmirrored.tidy.slot_lt hheld
  case behind =>
    rw [List.pairwise_append]
    refine ⟨hmirrored.behind, List.pairwise_singleton .., ?_⟩
    intro first hfirst second hsecond hconnect
    exact absurd hconnect (hconnects first hfirst)
  case served => exact fun hattach => absurd hattach hserved
  case announced =>
    rintro ⟨frame, hframe, hattached⟩
    rw [hinbox frame hframe] at hattached
    cases hattached

/-! ## The controller -/

/-- The controller leaves the store alone and posts nothing that changes the listing. -/
theorem unchanged (hmirrored : Mirrored entries controller requests inbox) {after : Controller}
    {frames : List Frame}
    (hframes : ∀ frame ∈ frames, (Panel.eventOf frame).changesListing = false)
    (hstore : after.store = controller.store)
    (hpending : after.pending = some .attach → controller.pending = some .attach) :
    Mirrored entries after requests (inbox ++ frames) where
  agrees := by
    rw [preview_append, preview_unchanged hframes, hstore]
    exact hmirrored.agrees
  tidy := hstore ▸ hmirrored.tidy
  recorded := hstore ▸ hmirrored.recorded
  behind := hmirrored.behind
  served := fun hattach => hmirrored.served (hpending hattach)
  announced := by
    rintro ⟨frame, hframe, hattached⟩
    rcases List.mem_append.mp hframe with hframe | hframe
    · exact hmirrored.announced ⟨frame, hframe, hattached⟩
    · rw [(PanelEvent.list_unchanged (hframes frame hframe) []).2] at hattached
      cases hattached

/-- A removal that is taken up succeeds. -/
theorem exists_removed {frame : Frame} {id : CompilationId}
    (hmirrored : Mirrored entries controller (frame :: requests) inbox)
    (hrequest : frame.request? = some (.removeCompilation id)) :
    ∃ store, controller.store.remove id.slot = .ok store := by
  have hid : id ∈ removals (frame :: requests) := by
    rw [removals_cons_of_removes hrequest]
    exact List.mem_cons_self
  have hslot : id.slot < controller.store.slots.length := hmirrored.recorded id hid
  refine ⟨⟨controller.store.slots.set id.slot .removed⟩, ?_⟩
  rw [Store.remove, List.getElem?_eq_getElem hslot]

/-- What waits to be removed before a request is taken up was removed or still waits afterwards. -/
theorem afterRequest {frame : Frame} {store : Store}
    (hmirrored : Mirrored entries controller (frame :: requests) inbox)
    (hstore : store = frame.request?.elim controller.store controller.store.afterRequest) :
    store.Tidy ∧ store.size = controller.store.size ∧
      (store.listing.filter fun entry => entry.id ∉ removals requests) =
        controller.store.listing.filter fun entry => entry.id ∉ removals (frame :: requests) := by
  by_cases hremoves : ∃ id, frame.request? = some (.removeCompilation id)
  · obtain ⟨id, hrequest⟩ := hremoves
    obtain ⟨next, hremove⟩ := hmirrored.exists_removed hrequest
    obtain ⟨htidy, hsize, hlisting⟩ := hmirrored.tidy.remove hremove
    have hnext : store = next := by
      rw [hstore, hrequest, Option.elim_some, Store.afterRequest, hremove]
      rfl
    rw [hnext]
    refine ⟨htidy, hsize, ?_⟩
    rw [hlisting, removals_cons_of_removes hrequest, List.filter_filter]
    apply List.filter_congr
    intro entry _
    simp [Bool.and_comm]
  · have hkeeps : ∀ id, frame.request? ≠ some (.removeCompilation id) :=
      fun id hrequest => hremoves ⟨id, hrequest⟩
    have hsame : store = controller.store := by
      rw [hstore]
      cases hrequest : frame.request? with
      | none => rfl
      | some request =>
          cases request with
          | removeCompilation id => exact absurd hrequest (hkeeps id)
          | connect | disconnect | selectCompilation | message => rfl
    rw [hsame, removals_cons_of_keeps hkeeps]
    exact ⟨hmirrored.tidy, rfl, rfl⟩

/-- The controller takes up a request. -/
theorem takeUp {frame : Frame} (hmirrored : Mirrored entries controller (frame :: requests) inbox)
    {awaited : Option Pending}
    (hawaited : awaited = some .attach → frame.request? = some .connect) :
    Mirrored entries
      { controller with
        store := frame.request?.elim controller.store controller.store.afterRequest
        pending := awaited } requests inbox := by
  obtain ⟨htidy, hsize, hlisting⟩ := hmirrored.afterRequest rfl
  have hfewer : ∀ id ∈ removals requests, id ∈ removals (frame :: requests) := by
    intro id hid
    rw [removals_cons]
    exact List.mem_append_right _ hid
  have hbehind := List.pairwise_cons.mp hmirrored.behind
  constructor
  case agrees => exact hmirrored.agrees.trans hlisting.symm
  case tidy => exact htidy
  case recorded =>
    intro id hid
    rw [hsize]
    exact hmirrored.recorded id (hfewer id hid)
  case behind => exact hbehind.2
  case served =>
    intro hattach
    exact removals_eq_nil.mpr fun later hlater => hbehind.1 later hlater (hawaited hattach)
  case announced =>
    intro hattached
    rw [List.eq_nil_iff_forall_not_mem]
    intro id hid
    have hnone := hfewer id hid
    rw [hmirrored.announced hattached] at hnone
    cases hnone

/-- A session begins, and both copies are emptied. -/
theorem begin (hmirrored : Mirrored entries controller requests inbox)
    (hpending : controller.pending = some .attach) :
    Mirrored entries { controller with pending := none, store := {}, attached := true } requests
      (inbox ++ [Frame.encode PanelEvent.attached.toJson]) := by
  have hnone := hmirrored.served hpending
  constructor
  case agrees =>
    rw [preview_append, preview_encode rfl]
    rfl
  case tidy => exact Store.tidy_empty
  case recorded => simp [hnone]
  case behind => exact hmirrored.behind
  case served => nofun
  case announced => exact fun _ => hnone

/-- A compilation is recorded and announced. -/
theorem record (hmirrored : Mirrored entries controller requests inbox) {compilation : Compilation}
    {graph : RawJson} (hgraph : RawJson.ofText? compilation.json = .ok graph)
    (hsize : (controller.store.append compilation.scripts graph).size ≤ UInt64.size) :
    Mirrored entries
      { controller with store := controller.store.append compilation.scripts graph } requests
      (inbox ++ [Frame.encode (PanelEvent.recordCompilation (.ofSlot controller.store.size)
        compilation.scripts).toJson]) := by
  have hgrown : (controller.store.append compilation.scripts graph).size =
      controller.store.size + 1 := by
    simp [Store.append, Store.size]
  have hslot : (CompilationId.ofSlot controller.store.size).slot = controller.store.size :=
    CompilationId.slot_ofSlot (by omega)
  -- nothing that waits to be removed has the new id
  have hnew : CompilationId.ofSlot controller.store.size ∉ removals requests := by
    intro hremoved
    have hbefore := hmirrored.recorded _ hremoved
    rw [hslot] at hbefore
    exact Nat.lt_irrefl _ hbefore
  constructor
  case agrees =>
    rw [preview_append, preview_encode rfl, hmirrored.agrees, Store.listing_append,
      List.filter_append]
    simp [PanelEvent.list, hnew]
  case tidy => exact hmirrored.tidy.append hgraph hsize
  case recorded =>
    intro id hid
    have hbefore := hmirrored.recorded id hid
    rw [hgrown]
    omega
  case behind => exact hmirrored.behind
  case served => exact hmirrored.served
  case announced =>
    rintro ⟨frame, hframe, hattached⟩
    rcases List.mem_append.mp hframe with hframe | hframe
    · exact hmirrored.announced ⟨frame, hframe, hattached⟩
    · rw [List.mem_singleton.mp hframe, eventOf_encode rfl] at hattached
      cases hattached

/-- When nothing is under way, the listing is what the store holds. -/
theorem entries_eq (hmirrored : Mirrored entries controller [] []) :
    entries = controller.store.listing := by
  have hagrees := hmirrored.agrees
  simpa [preview, removals] using hagrees

end Mirrored

end CompileWatch
