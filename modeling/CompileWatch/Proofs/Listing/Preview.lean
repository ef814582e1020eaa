import CompileWatch.Proofs.Controller.News

/-!
# The listing and the store

The controller keeps the compilations of a session in its store, and the panel keeps a listing of
them.  Nobody compares the two: the panel changes its listing when it reads an event and when the
user removes a compilation, and the controller changes the store when it posts the event and when
it takes up the request.  In between, the events that wait at the panel say what the listing is
going to be, and the requests that wait at the controller say what the store is going to lose.
-/

namespace CompileWatch

theorem CompilationId.slot_ofSlot {slot : Nat} (hslot : slot < UInt64.size) :
    (CompilationId.ofSlot slot).slot = slot :=
  UInt64.toNat_ofNat_of_lt' hslot

@[simp]
theorem CompilationId.ofSlot_slot (id : CompilationId) : CompilationId.ofSlot id.slot = id := by
  simp [ofSlot, slot]

/-! ## What a store lists -/

/-- The entry under which a panel lists a compilation of the store. -/
def ListEntry.ofSnapshot (snapshot : Snapshot) : ListEntry where
  id := .ofSlot snapshot.slot
  scripts := snapshot.scripts

namespace Store

/-- The listing that shows what the store holds. -/
def listing (store : Store) : List ListEntry :=
  store.live.map ListEntry.ofSnapshot

/-- From the given number on, the compilations are in the slots that they name. -/
def Placed (first : Nat) (slots : List Slot) : Prop :=
  ∀ (index : Nat) (snapshot : Snapshot), slots[index]? = some (.live snapshot) →
    snapshot.slot = first + index

theorem Placed.tail {first : Nat} {slot : Slot} {slots : List Slot}
    (hplaced : Placed first (slot :: slots)) : Placed (first + 1) slots := by
  intro index snapshot hindex
  rw [hplaced (index + 1) snapshot hindex]
  omega

theorem Placed.le_of_mem_live {first : Nat} {slots : List Slot} (hplaced : Placed first slots)
    {snapshot : Snapshot} (hlive : snapshot ∈ live ⟨slots⟩) :
    first ≤ snapshot.slot ∧ snapshot.slot < first + slots.length := by
  obtain ⟨index, hindex⟩ := mem_live.mp hlive
  have hnumber := hplaced index snapshot hindex
  have hbound : index < slots.length := (List.getElem?_eq_some_iff.mp hindex).1
  rw [hnumber]
  exact ⟨Nat.le_add_right first index, Nat.add_lt_add_left hbound first⟩

/-- Emptying a slot takes out the compilation that names it, and no other. -/
theorem Placed.live_set {first : Nat} {slots : List Slot} (hplaced : Placed first slots)
    (index : Nat) :
    live ⟨slots.set index .removed⟩ =
      (live ⟨slots⟩).filter fun snapshot => snapshot.slot ≠ first + index := by
  induction slots generalizing first index with
  | nil => rfl
  | cons slot rest ih =>
      cases index with
      | zero =>
          -- the compilations behind the slot name later ones
          have hlater : (live ⟨rest⟩).filter (fun snapshot => snapshot.slot ≠ first + 0) =
              live ⟨rest⟩ := by
            rw [List.filter_eq_self]
            intro snapshot hsnapshot
            have hbehind := (hplaced.tail.le_of_mem_live hsnapshot).1
            simp only [ne_eq, decide_eq_true_eq]
            omega
          cases slot with
          | removed => exact hlater.symm
          | live snapshot =>
              have hfirst : snapshot.slot = first + 0 := hplaced 0 snapshot rfl
              have hout := List.filter_cons_of_neg (a := snapshot) (l := live ⟨rest⟩)
                (p := fun snapshot => decide (snapshot.slot ≠ first + 0)) (by simp [hfirst])
              exact (hout.trans hlater).symm
      | succ index =>
          have hrest := ih hplaced.tail index
          have hnumber : first + 1 + index = first + (index + 1) := by omega
          rw [hnumber] at hrest
          cases slot with
          | removed => exact hrest
          | live snapshot =>
              have hfirst : snapshot.slot = first + 0 := hplaced 0 snapshot rfl
              have hkept := List.filter_cons_of_pos (a := snapshot) (l := live ⟨rest⟩)
                (p := fun snapshot => decide (snapshot.slot ≠ first + (index + 1)))
                (by simp [hfirst])
              exact (congrArg (snapshot :: ·) hrest).trans hkept.symm

theorem listing_append (store : Store) (scripts : List Script) (graph : RawJson) :
    (store.append scripts graph).listing =
      store.listing ++ [{ id := .ofSlot store.size, scripts }] := by
  simp [listing, live, append, ListEntry.ofSnapshot]

/-- The store holds what was appended to it, and different slots of it have different ids. -/
structure Tidy (store : Store) : Prop where
  holds : ∃ appended, store.Holds appended
  size_le : store.size ≤ UInt64.size

theorem tidy_empty : Tidy {} :=
  ⟨⟨[], holds_empty⟩, Nat.zero_le _⟩

namespace Tidy

variable {store next : Store}

theorem placed (htidy : store.Tidy) : Placed 0 store.slots := by
  obtain ⟨appended, hholds⟩ := htidy.holds
  intro index snapshot hindex
  rw [Nat.zero_add]
  exact (hholds.2 index snapshot hindex).1

theorem slot_ofSnapshot (htidy : store.Tidy) {snapshot : Snapshot}
    (hsnapshot : snapshot ∈ store.live) :
    snapshot.slot < store.size ∧ (ListEntry.ofSnapshot snapshot).id.slot = snapshot.slot := by
  have hslot := (htidy.placed.le_of_mem_live hsnapshot).2
  have hsize := htidy.size_le
  rw [Nat.zero_add] at hslot
  exact ⟨hslot, CompilationId.slot_ofSlot (Nat.lt_of_lt_of_le hslot hsize)⟩

theorem slot_lt (htidy : store.Tidy) {entry : ListEntry} (hentry : entry ∈ store.listing) :
    entry.id.slot < store.size := by
  obtain ⟨snapshot, hsnapshot, rfl⟩ := List.mem_map.mp hentry
  obtain ⟨hslot, hid⟩ := htidy.slot_ofSnapshot hsnapshot
  rw [hid]
  exact hslot

/-- What the store holds under an id is listed under it. -/
theorem mem_live_of_get (htidy : store.Tidy) {id : CompilationId} {snapshot : Snapshot}
    (hget : store.get id.slot = .ok snapshot) :
    snapshot ∈ store.live ∧ (ListEntry.ofSnapshot snapshot).id = id := by
  have hslot : store.slots[id.slot]? = some (.live snapshot) := by
    rw [Store.get] at hget
    cases hslot : store.slots[id.slot]? with
    | none => simp [hslot] at hget
    | some slot =>
        cases slot with
        | removed => simp [hslot] at hget
        | live other =>
            simp only [hslot, Except.ok.injEq] at hget
            rw [hget]
  refine ⟨mem_live.mpr ⟨_, hslot⟩, ?_⟩
  have hnumber := htidy.placed id.slot snapshot hslot
  rw [ListEntry.ofSnapshot, hnumber, Nat.zero_add, CompilationId.ofSlot_slot]

/-- The ids in the listing of a store increase. -/
theorem pairwise_listing (htidy : store.Tidy) :
    store.listing.Pairwise fun first second => first.id.slot < second.id.slot := by
  have hlive : store.live.Pairwise fun first second => first.slot < second.slot := by
    rw [live, List.pairwise_filterMap, List.pairwise_iff_getElem]
    intro earlier later hearlier hlater horder first hfirst second hsecond
    have hnumber := htidy.placed earlier first
    have hother := htidy.placed later second
    cases hslot : store.slots[earlier] with
    | removed => simp [hslot] at hfirst
    | live snapshot =>
        cases hbehind : store.slots[later] with
        | removed => simp [hbehind] at hsecond
        | live other =>
            simp only [hslot, Option.some.injEq] at hfirst
            simp only [hbehind, Option.some.injEq] at hsecond
            have := hnumber (by simp [List.getElem?_eq_getElem hearlier, hslot, hfirst])
            have := hother (by simp [List.getElem?_eq_getElem hlater, hbehind, hsecond])
            omega
  rw [listing, List.pairwise_map]
  refine hlive.imp_of_mem ?_
  intro first second hfirst hsecond horder
  rw [(htidy.slot_ofSnapshot hfirst).2, (htidy.slot_ofSnapshot hsecond).2]
  exact horder

theorem append (htidy : store.Tidy) {compilation : Compilation} {graph : RawJson}
    (hgraph : RawJson.ofText? compilation.json = .ok graph)
    (hsize : (store.append compilation.scripts graph).size ≤ UInt64.size) :
    (store.append compilation.scripts graph).Tidy where
  holds := by
    obtain ⟨appended, hholds⟩ := htidy.holds
    exact ⟨_, hholds.append hgraph⟩
  size_le := hsize

/-- A removal takes the entry with the id out of the listing. -/
theorem remove (htidy : store.Tidy) {id : CompilationId}
    (hremove : store.remove id.slot = .ok next) :
    next.Tidy ∧ next.size = store.size ∧
      next.listing = store.listing.filter fun entry => entry.id ≠ id := by
  have hreduces := reduces_of_remove hremove
  obtain ⟨appended, hholds⟩ := htidy.holds
  refine ⟨⟨⟨appended, hholds.reduce hreduces⟩, ?_⟩, hreduces.1, ?_⟩
  · rw [hreduces.1]
    exact htidy.size_le
  · rw [Store.remove] at hremove
    split at hremove
    · cases hremove
    · obtain rfl := Except.ok.inj hremove
      rw [listing, listing, htidy.placed.live_set, List.filter_map, Nat.zero_add]
      congr 1
      apply List.filter_congr
      intro snapshot hsnapshot
      have hid := (htidy.slot_ofSnapshot hsnapshot).2
      -- the ids differ if the slots do
      have hsame : (ListEntry.ofSnapshot snapshot).id = id ↔ snapshot.slot = id.slot := by
        constructor
        · rintro rfl
          exact hid.symm
        · intro hslot
          rw [ListEntry.ofSnapshot, hslot, CompilationId.ofSlot_slot]
      simp [hsame]

end Tidy

end Store

/-! ## Events that wait at the panel -/

/-- What becomes of a listing when the panel takes in an event. -/
def PanelEvent.list (entries : List ListEntry) : PanelEvent → List ListEntry
  | .recordCompilation id scripts => entries ++ [{ id, scripts }]
  | .attached => []
  | _ => entries

/-- Whether the event clears the listing. -/
def PanelEvent.isAttached : PanelEvent → Bool
  | .attached => true
  | _ => false

/-- Whether the event changes the listing at all. -/
def PanelEvent.changesListing : PanelEvent → Bool
  | .recordCompilation _ _ => true
  | .attached => true
  | _ => false

theorem PanelEvent.list_unchanged {event : PanelEvent} (hevent : event.changesListing = false)
    (entries : List ListEntry) : event.list entries = entries ∧ event.isAttached = false := by
  cases event <;> first | exact ⟨rfl, rfl⟩ | cases hevent

/-- The listing that the panel is going to have when it has taken in the frames. -/
def preview (entries : List ListEntry) (inbox : List Frame) : List ListEntry :=
  inbox.foldl (fun entries frame => (Panel.eventOf frame).list entries) entries

namespace Panel

variable {Image : Type}

theorem entries_redraw (panel : Panel Image) : panel.redraw.entries = panel.entries := by
  rw [redraw]
  cases panel.selection <;> rfl

theorem entries_observe (panel : Panel Image) (event : PanelEvent) :
    (panel.observe event).entries = event.list panel.entries := by
  cases event <;> rfl

/-- What an event means for the operation that waits does not touch the listing. -/
theorem entries_resolve (panel : Panel Image) (call : Call) (event : PanelEvent) :
    (panel.resolve call event).1.entries = panel.entries := by
  unfold resolve
  split
  case h_5 =>
    split
    · exact entries_redraw _
    · rfl
  case h_6 => split <;> rfl
  all_goals rfl

theorem entries_receive (panel : Panel Image) (call : Call) (frame : Frame) :
    (panel.receive call frame).1.entries = (eventOf frame).list panel.entries := by
  rw [receive, entries_resolve, entries_observe]

theorem entries_forget (panel : Panel Image) (id : CompilationId) :
    (panel.forget id).entries = panel.entries.filter fun entry => entry.id ≠ id := by
  rw [forget]
  split <;> rfl

theorem entries_setMode (panel : Panel Image) (mode : DisplayMode) :
    (panel.setMode mode).entries = panel.entries := by
  rw [setMode]
  split
  · rfl
  · exact entries_redraw _

end Panel

theorem preview_append (entries : List ListEntry) (inbox frames : List Frame) :
    preview entries (inbox ++ frames) = preview (preview entries inbox) frames :=
  List.foldl_append

theorem preview_encode {event : PanelEvent} (hgraph : event.hasGraph = false)
    (entries : List ListEntry) :
    preview entries [Frame.encode event.toJson] = event.list entries := by
  rw [preview, List.foldl_cons, List.foldl_nil, eventOf_encode hgraph]

theorem preview_unchanged {frames : List Frame}
    (hframes : ∀ frame ∈ frames, (Panel.eventOf frame).changesListing = false)
    (entries : List ListEntry) : preview entries frames = entries := by
  induction frames with
  | nil => rfl
  | cons frame rest ih =>
      rw [List.forall_mem_cons] at hframes
      rw [preview, List.foldl_cons, (PanelEvent.list_unchanged hframes.1 entries).1]
      exact ih hframes.2

/-- Events that do not clear the listing put the same entries behind any listing. -/
theorem exists_recorded {inbox : List Frame}
    (hinbox : ∀ frame ∈ inbox, (Panel.eventOf frame).isAttached = false) :
    ∃ recorded, ∀ entries, preview entries inbox = entries ++ recorded := by
  induction inbox with
  | nil => exact ⟨[], fun entries => (List.append_nil entries).symm⟩
  | cons frame rest ih =>
      rw [List.forall_mem_cons] at hinbox
      obtain ⟨recorded, hrecorded⟩ := ih hinbox.2
      have hfirst : ∃ added, ∀ entries, (Panel.eventOf frame).list entries = entries ++ added := by
        cases hevent : Panel.eventOf frame with
        | recordCompilation id scripts => exact ⟨[{ id, scripts }], fun _ => rfl⟩
        | attached => simp [hevent, PanelEvent.isAttached] at hinbox
        | compilationGraph | registered | unregistered | detached | error =>
            exact ⟨[], fun entries => (List.append_nil entries).symm⟩
      obtain ⟨added, hadded⟩ := hfirst
      refine ⟨added ++ recorded, fun entries => ?_⟩
      rw [preview, List.foldl_cons, hadded, ← List.append_assoc]
      exact hrecorded _

/-! ## Requests that wait at the controller -/

/-- The request in a frame, if it can be decoded. -/
def Frame.request? (frame : Frame) : Option PanelRequest :=
  (Frame.decode PanelRequest.ofJson? frame).toOption

/-- The compilation that a request removes. -/
def PanelRequest.removed? : PanelRequest → Option CompilationId
  | .removeCompilation id => some id
  | _ => none

/-- The compilations that are going to be removed when the requests were taken up. -/
def removals (requests : List Frame) : List CompilationId :=
  requests.filterMap fun frame => frame.request?.bind PanelRequest.removed?

@[simp]
theorem Frame.request?_encode (request : PanelRequest) :
    Frame.request? (Frame.encode request.toJson) = some request := by
  rw [request?, PanelRequest.decode_encode]
  rfl

theorem removals_append (requests further : List Frame) :
    removals (requests ++ further) = removals requests ++ removals further :=
  List.filterMap_append

theorem removals_cons (frame : Frame) (rest : List Frame) :
    removals (frame :: rest) = removals [frame] ++ removals rest :=
  removals_append [frame] rest

theorem removals_cons_of_removes {frame : Frame} {id : CompilationId}
    (hframe : frame.request? = some (.removeCompilation id)) (rest : List Frame) :
    removals (frame :: rest) = id :: removals rest := by
  simp [removals, hframe, PanelRequest.removed?]

theorem removals_cons_of_keeps {frame : Frame}
    (hframe : ∀ id, frame.request? ≠ some (.removeCompilation id)) (rest : List Frame) :
    removals (frame :: rest) = removals rest := by
  cases hrequest : frame.request? with
  | none => simp [removals, hrequest]
  | some request =>
      cases request with
      | removeCompilation id => exact absurd hrequest (hframe id)
      | connect | disconnect | selectCompilation | message =>
          simp [removals, hrequest, PanelRequest.removed?]

theorem removals_eq_nil {frames : List Frame} :
    removals frames = [] ↔ ∀ frame ∈ frames, removals [frame] = [] := by
  induction frames with
  | nil => simp [removals]
  | cons frame rest ih => rw [List.forall_mem_cons, ← ih, removals_cons, List.append_eq_nil_iff]

end CompileWatch
