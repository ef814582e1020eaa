import CompileWatch.Proofs.Link
import Mathlib.Logic.Function.Basic

/-!
# The history of a link

What the two parties at a link do is followed one act after the other, in any order.  For each
direction it is written down which frames were accepted at the one end, which were read at the
other, and which still waited there when that end was dropped.  A post, a read or a drop changes
one of the two directions and leaves the other alone.
-/

namespace CompileWatch

namespace Side

theorem other_ne (side : Side) : side.other ≠ side := by
  cases side <;> decide

end Side

namespace Link

@[simp]
theorem endpoint_setEndpoint (link : Link) (side : Side) (endpoint : Endpoint) :
    (link.setEndpoint side endpoint).endpoint side = endpoint := by
  cases side <;> rfl

theorem endpoint_setEndpoint_of_ne (link : Link) {side changed : Side} (hne : side ≠ changed)
    (endpoint : Endpoint) :
    (link.setEndpoint changed endpoint).endpoint side = link.endpoint side := by
  cases side <;> cases changed <;> first | rfl | exact absurd rfl hne

theorem name_setEndpoint (link : Link) (side : Side) (endpoint : Endpoint) :
    (link.setEndpoint side endpoint).name = link.name := by
  cases side <;> rfl

/-- What waits at an end does not matter for who is there. -/
theorem isLive_setEndpoint_live {link : Link} {changed : Side} {queue : List Frame}
    (hend : link.endpoint changed = .live queue) (frames : List Frame) (side : Side) :
    (link.setEndpoint changed (.live frames)).isLive side = link.isLive side := by
  rw [isLive, isLive]
  by_cases hside : side = changed
  · rw [hside, endpoint_setEndpoint, hend]
    rfl
  · rw [endpoint_setEndpoint_of_ne _ hside]

/-- **Every post**: the length counts first, then whether there is anybody at the other end. -/
theorem post_eq (link : Link) (side : Side) (frame : Frame) :
    link.post side frame =
      if link.maxBytes < frame.utf8ByteSize then
        .error (.frameTooLarge link.name frame.utf8ByteSize link.maxBytes)
      else if link.isLive side.other then
        .ok (link.setEndpoint side.other (.live (link.queue side.other ++ [frame])))
      else .error (.closed link.name) := by
  rw [post, isLive, queue]
  cases link.endpoint side.other <;> rfl

end Link

/-! ## What is written down -/

/-- What has become of the frames in one direction. -/
structure Passage where
  /-- The frames whose post was accepted, in order. -/
  accepted : List Frame := []
  /-- The frames that were read, in order. -/
  read : List Frame := []
  /-- The frames that waited when the end at which they could be read was dropped. -/
  stranded : List Frame := []

/-- A link with what has become of the frames towards each of its ends. -/
structure LoggedLink where
  link : Link
  passage : Side → Passage := fun _ => {}

namespace LoggedLink

def fresh (name : String) (maxBytes : Nat) : LoggedLink :=
  { link := { name, maxBytes } }

/-- Rewrites what is known of the frames towards one end. -/
def amend (log : LoggedLink) (link : Link) (side : Side) (change : Passage → Passage) :
    LoggedLink :=
  { link, passage := Function.update log.passage side (change (log.passage side)) }

/-- Notes what a party does.  A post that is refused and a read with nothing to read leave no trace,
and a party that has dropped its end does nothing any more. -/
def move (log : LoggedLink) (side : Side) (act : Link.Act) : LoggedLink :=
  match log.link.endpoint side, act with
  | .dropped, _ => log
  | .live _, .post frame =>
    match log.link.post side frame with
    | .error _ => log
    | .ok link =>
      log.amend link side.other fun passage =>
        { passage with accepted := passage.accepted ++ [frame] }
  | .live _, .read =>
    match log.link.next side with
    | .frame frame link =>
      log.amend link side fun passage => { passage with read := passage.read ++ [frame] }
    | .closed | .waiting => log
  | .live queue, .close =>
    log.amend (log.link.close side) side fun passage => { passage with stranded := queue }

def run (log : LoggedLink) (moves : List (Side × Link.Act)) : LoggedLink :=
  moves.foldl (fun log move => log.move move.1 move.2) log

/-- The frames towards an end that were not read: those that wait there, or those that waited there
when the end was dropped. -/
def unread (log : LoggedLink) (side : Side) : List Frame :=
  match log.link.endpoint side with
  | .live queue => queue
  | .dropped => (log.passage side).stranded

variable {log : LoggedLink}

/-! ## Changes in one direction -/

theorem passage_amend (log : LoggedLink) (link : Link) (side : Side) (change : Passage → Passage) :
    (log.amend link side change).passage side = change (log.passage side) :=
  Function.update_self ..

theorem passage_amend_of_ne (log : LoggedLink) (link : Link) {side changed : Side}
    (hne : side ≠ changed) (change : Passage → Passage) :
    (log.amend link changed change).passage side = log.passage side :=
  Function.update_of_ne hne ..

theorem unread_of_live {side : Side} {queue : List Frame}
    (hend : log.link.endpoint side = .live queue) : log.unread side = queue := by
  rw [unread, hend]

/-- The other direction stays as it was. -/
theorem unread_amend_of_ne (log : LoggedLink) {side changed : Side} (hne : side ≠ changed)
    (endpoint : Endpoint) (change : Passage → Passage) :
    (log.amend (log.link.setEndpoint changed endpoint) changed change).unread side =
      log.unread side := by
  rw [unread, unread, passage_amend_of_ne _ _ hne, amend,
    Link.endpoint_setEndpoint_of_ne _ hne]

/-- What is true of both directions stays true of both if it is true of the one that changes. -/
theorem holds_amend (Good : Passage → List Frame → Prop) {changed : Side} {endpoint : Endpoint}
    {change : Passage → Passage} (hlog : ∀ side, Good (log.passage side) (log.unread side))
    (hchanged : Good (change (log.passage changed))
      ((log.amend (log.link.setEndpoint changed endpoint) changed change).unread changed))
    (side : Side) :
    Good ((log.amend (log.link.setEndpoint changed endpoint) changed change).passage side)
      ((log.amend (log.link.setEndpoint changed endpoint) changed change).unread side) := by
  by_cases hside : side = changed
  · rw [hside, passage_amend]
    exact hchanged
  · rw [passage_amend_of_ne _ _ hside, unread_amend_of_ne _ hside]
    exact hlog side

/-- What an act can make of the log. -/
inductive Turn (log : LoggedLink) (side : Side) : Link.Act → LoggedLink → Prop
  | idle {act : Link.Act} : (act = .close → log.link.isLive side = false) → Turn log side act log
  | posted {frame : Frame} {queue : List Frame} :
      log.link.endpoint side.other = .live queue → frame.utf8ByteSize ≤ log.link.maxBytes →
      Turn log side (.post frame)
        (log.amend (log.link.setEndpoint side.other (.live (queue ++ [frame]))) side.other
          fun passage => { passage with accepted := passage.accepted ++ [frame] })
  | read {frame : Frame} {rest : List Frame} :
      log.link.endpoint side = .live (frame :: rest) →
      Turn log side .read
        (log.amend (log.link.setEndpoint side (.live rest)) side
          fun passage => { passage with read := passage.read ++ [frame] })
  | closed {queue : List Frame} :
      log.link.endpoint side = .live queue →
      Turn log side .close
        (log.amend (log.link.setEndpoint side .dropped) side
          fun passage => { passage with stranded := queue })

theorem turn_move (log : LoggedLink) (side : Side) (act : Link.Act) :
    log.Turn side act (log.move side act) := by
  cases hend : log.link.endpoint side with
  | dropped =>
      have hgone : log.link.isLive side = false := by rw [Link.isLive, hend]; rfl
      have hmove : log.move side act = log := by simp only [move, hend]
      rw [hmove]
      exact .idle fun _ => hgone
  | live queue =>
      cases act with
      | close =>
          simp only [move, hend]
          exact .closed hend
      | read =>
          simp only [move, hend]
          cases queue with
          | nil =>
              rw [Link.next, hend]
              cases log.link.isLive side.other <;> exact .idle (by rintro ⟨⟩)
          | cons frame rest =>
              rw [Link.next_of_frame hend]
              exact .read hend
      | post frame =>
          simp only [move, hend, Link.post_eq]
          by_cases hlong : log.link.maxBytes < frame.utf8ByteSize
          · rw [if_pos hlong]
            exact .idle (by rintro ⟨⟩)
          · rw [if_neg hlong]
            cases hother : log.link.endpoint side.other with
            | dropped =>
                rw [if_neg (by simp [Link.isLive, hother, Endpoint.isLive])]
                exact .idle (by rintro ⟨⟩)
            | live waiting =>
                rw [if_pos (by simp [Link.isLive, hother, Endpoint.isLive]),
                  Link.queue_of_live hother]
                exact .posted hother (Nat.not_lt.mp hlong)

/-- The log follows what happens at the link. -/
theorem link_move (log : LoggedLink) (side : Side) (act : Link.Act) :
    (log.move side act).link = log.link.act side act := by
  cases hend : log.link.endpoint side with
  | dropped => cases act <;> simp only [move, Link.act, hend]
  | live queue =>
      cases act with
      | close => simp only [move, Link.act, hend, amend]
      | read =>
          cases queue with
          | nil =>
              simp only [move, Link.act, Link.next, hend]
              cases log.link.isLive side.other <;> rfl
          | cons frame rest => simp only [move, Link.act, Link.next_of_frame hend, hend, amend]
      | post frame =>
          simp only [move, Link.act, hend]
          cases log.link.post side frame <;> rfl

theorem link_run (log : LoggedLink) (moves : List (Side × Link.Act)) :
    (log.run moves).link = moves.foldl (fun link move => link.act move.1 move.2) log.link := by
  induction moves generalizing log with
  | nil => rfl
  | cons move moves ih => exact (ih _).trans (by rw [link_move]; rfl)

/-! ## What holds after every run -/

/-- The log tells the truth about the frames and about who has dropped an end. -/
structure Faithful (log : LoggedLink) (name : String) (maxBytes : Nat)
    (moves : List (Side × Link.Act)) : Prop where
  name_eq : log.link.name = name
  maxBytes_eq : log.link.maxBytes = maxBytes
  conserved : ∀ side,
    (log.passage side).read ++ log.unread side = (log.passage side).accepted
  short : ∀ side, ∀ frame ∈ (log.passage side).accepted, frame.utf8ByteSize ≤ maxBytes
  isLive_iff : ∀ side, log.link.isLive side ↔ (side, .close) ∉ moves

variable {name : String} {maxBytes : Nat} {moves : List (Side × Link.Act)}

theorem faithful_fresh (name : String) (maxBytes : Nat) :
    (fresh name maxBytes).Faithful name maxBytes [] where
  name_eq := rfl
  maxBytes_eq := rfl
  conserved := by
    intro side
    cases side <;> rfl
  short := by
    intro side frame hframe
    cases hframe
  isLive_iff := by
    intro side
    cases side <;> simp [fresh, Link.isLive, Link.endpoint, Endpoint.isLive]

section

variable {side : Side} {act : Link.Act} {next : LoggedLink}

theorem Turn.link_eq (hturn : log.Turn side act next) :
    next.link.name = log.link.name ∧ next.link.maxBytes = log.link.maxBytes := by
  cases hturn with
  | idle => exact ⟨rfl, rfl⟩
  | posted | read | closed => exact ⟨Link.name_setEndpoint .., Link.maxBytes_setEndpoint ..⟩

/-- Nobody but the party at an end can drop it. -/
theorem Turn.isLive_iff (hturn : log.Turn side act next) (other : Side) :
    next.link.isLive other ↔ log.link.isLive other ∧ (other, Link.Act.close) ≠ (side, act) := by
  cases hturn with
  | idle hclose =>
      -- only an end that was dropped before can be dropped without effect
      refine ⟨fun hlive => ⟨hlive, ?_⟩, And.left⟩
      rintro ⟨rfl, rfl⟩
      rw [hclose rfl] at hlive
      cases hlive
  | @posted frame queue hend _ =>
      rw [amend, Link.isLive_setEndpoint_live hend]
      simp
  | read hend =>
      rw [amend, Link.isLive_setEndpoint_live hend]
      simp
  | closed hend =>
      rw [amend, Link.isLive]
      by_cases hother : other = side
      · rw [hother, Link.endpoint_setEndpoint]
        simp [Endpoint.isLive]
      · rw [Link.endpoint_setEndpoint_of_ne _ hother]
        simp [Link.isLive, hother]

/-- What was read and what was not are together what was accepted, in each direction. -/
theorem Turn.conserved (hturn : log.Turn side act next)
    (hlog : ∀ side, (log.passage side).read ++ log.unread side = (log.passage side).accepted)
    (other : Side) :
    (next.passage other).read ++ next.unread other = (next.passage other).accepted := by
  cases hturn with
  | idle => exact hlog other
  | posted hend _ =>
      refine holds_amend (fun passage unread => passage.read ++ unread = passage.accepted)
        hlog ?_ other
      have hbefore := hlog side.other
      rw [unread_of_live hend] at hbefore
      rw [unread_of_live (Link.endpoint_setEndpoint ..), ← List.append_assoc, hbefore]
  | read hend =>
      refine holds_amend (fun passage unread => passage.read ++ unread = passage.accepted)
        hlog ?_ other
      have hbefore := hlog side
      rw [unread_of_live hend] at hbefore
      rw [unread_of_live (Link.endpoint_setEndpoint ..), List.append_assoc, List.singleton_append,
        hbefore]
  | closed hend =>
      -- what waited in the queue is stranded, and counts as unread as before
      refine holds_amend (fun passage unread => passage.read ++ unread = passage.accepted)
        hlog ?_ other
      have hbefore := hlog side
      rw [unread_of_live hend] at hbefore
      rw [unread, passage_amend]
      simp only [amend, Link.endpoint_setEndpoint]
      exact hbefore

theorem Turn.short (hturn : log.Turn side act next)
    (hlog : ∀ side, ∀ frame ∈ (log.passage side).accepted,
      frame.utf8ByteSize ≤ log.link.maxBytes) (other : Side) :
    ∀ frame ∈ (next.passage other).accepted, frame.utf8ByteSize ≤ log.link.maxBytes := by
  cases hturn with
  | idle => exact hlog other
  | posted _ hshort =>
      refine holds_amend (fun passage _ =>
        ∀ frame ∈ passage.accepted, frame.utf8ByteSize ≤ log.link.maxBytes) hlog ?_ other
      rw [List.forall_mem_append]
      exact ⟨hlog side.other, by simpa using hshort⟩
  | read | closed =>
      exact holds_amend (fun passage _ =>
        ∀ frame ∈ passage.accepted, frame.utf8ByteSize ≤ log.link.maxBytes) hlog (hlog side) other

end

theorem Faithful.move (hlog : log.Faithful name maxBytes moves) (side : Side) (act : Link.Act) :
    (log.move side act).Faithful name maxBytes (moves ++ [(side, act)]) := by
  have hturn := log.turn_move side act
  have hshort := hlog.short
  rw [← hlog.maxBytes_eq] at hshort
  refine ⟨hturn.link_eq.1.trans hlog.name_eq, hturn.link_eq.2.trans hlog.maxBytes_eq,
    hturn.conserved hlog.conserved, ?_, fun other => ?_⟩
  · rw [← hlog.maxBytes_eq]
    exact hturn.short hshort
  · rw [hturn.isLive_iff, hlog.isLive_iff, List.mem_append, List.mem_singleton, not_or]

theorem Faithful.run (hlog : log.Faithful name maxBytes moves)
    (further : List (Side × Link.Act)) :
    (log.run further).Faithful name maxBytes (moves ++ further) := by
  induction further generalizing log moves with
  | nil => rwa [List.append_nil]
  | cons first rest ih =>
      have hrest := ih (hlog.move first.1 first.2)
      rwa [List.append_assoc, List.singleton_append] at hrest

/-- A post is answered by what the moves so far and the length of the frame say. -/
theorem Faithful.post_eq (hlog : log.Faithful name maxBytes moves) (side : Side) (frame : Frame) :
    log.link.post side frame =
      if maxBytes < frame.utf8ByteSize then
        .error (.frameTooLarge name frame.utf8ByteSize maxBytes)
      else if (side.other, .close) ∈ moves then .error (.closed name)
      else
        .ok (log.link.setEndpoint side.other (.live (log.link.queue side.other ++ [frame]))) := by
  have hother := hlog.isLive_iff side.other
  rw [Link.post_eq, hlog.name_eq, hlog.maxBytes_eq]
  by_cases hgone : (side.other, .close) ∈ moves
  · have hdropped : ¬ log.link.isLive side.other := fun hlive => hother.mp hlive hgone
    simp [hgone, hdropped]
  · simp [hgone, hother.mpr hgone]

/-- A refused post leaves no trace. -/
theorem move_of_post_error {side : Side} {frame : Frame} {error : TransportError}
    (hpost : log.link.post side frame = .error error) : log.move side (.post frame) = log := by
  cases hend : log.link.endpoint side with
  | dropped => simp only [move, hend]
  | live queue => simp only [move, hend, hpost]

/-- Whether a post is accepted or not, it does not reach the end that it was made from. -/
theorem own_end_of_post (log : LoggedLink) (side : Side) (frame : Frame) :
    (log.move side (.post frame)).passage side = log.passage side ∧
      (log.move side (.post frame)).unread side = log.unread side := by
  have hturn := log.turn_move side (.post frame)
  generalize log.move side (.post frame) = next at hturn
  cases hturn with
  | idle => exact ⟨rfl, rfl⟩
  | posted =>
      exact ⟨passage_amend_of_ne _ _ side.other_ne.symm _,
        unread_amend_of_ne _ side.other_ne.symm _ _⟩

/-- A party hears that nothing can come any more when everything was read and the other is gone. -/
theorem Faithful.next_eq_closed_iff (hlog : log.Faithful name maxBytes moves) {side : Side}
    (hlive : log.link.isLive side) :
    log.link.next side = .closed ↔
      (side.other, .close) ∈ moves ∧ (log.passage side).read = (log.passage side).accepted := by
  have hother := hlog.isLive_iff side.other
  have hconserved := hlog.conserved side
  cases hend : log.link.endpoint side with
  | dropped => simp [Link.isLive, hend, Endpoint.isLive] at hlive
  | live queue =>
      rw [unread_of_live hend] at hconserved
      rw [← hconserved, Link.next, hend]
      cases queue with
      | cons frame rest => simp
      | nil =>
          cases hpeer : log.link.isLive side.other with
          | true => simp [hother.mp hpeer]
          | false =>
              rw [hpeer] at hother
              simpa using hother

/-- **A link delivers what it accepts, in order and once.**  Whatever the two parties do, in
whatever order: the frames that were read at an end and those that were not are together the frames
that were accepted at the other end, each of them short enough.  An end that is still in use has
those that were not read in its queue.  A post is refused if the frame is too long, and otherwise if
the other end was dropped; a refused post leaves no trace, and no post reaches the end that it
comes from.  At an end in use it is only said that nothing can come when the other end was dropped
and everything was read. -/
theorem delivers_in_order (name : String) (maxBytes : Nat) (moves : List (Side × Link.Act))
    (side : Side) :
    let log := (fresh name maxBytes).run moves
    let link := moves.foldl (fun link move => link.act move.1 move.2) { name, maxBytes }
    let passage := log.passage side
    log.link = link ∧
    passage.read ++ log.unread side = passage.accepted ∧
    (∀ frame ∈ passage.accepted, frame.utf8ByteSize ≤ maxBytes) ∧
    (link.isLive side ↔ (side, .close) ∉ moves) ∧
    (link.isLive side → log.unread side = link.queue side) ∧
    (∀ frame, link.post side frame =
      if maxBytes < frame.utf8ByteSize then
        .error (.frameTooLarge name frame.utf8ByteSize maxBytes)
      else if (side.other, .close) ∈ moves then .error (.closed name)
      else .ok (link.setEndpoint side.other (.live (link.queue side.other ++ [frame])))) ∧
    (∀ frame error, link.post side frame = .error error → log.move side (.post frame) = log) ∧
    (∀ frame, (log.move side (.post frame)).passage side = passage ∧
      (log.move side (.post frame)).unread side = log.unread side) ∧
    (link.isLive side → (link.next side = .closed ↔
      (side.other, .close) ∈ moves ∧ passage.read = passage.accepted)) := by
  intro log link passage
  have hlog : log.Faithful name maxBytes moves := by
    have hrun := (faithful_fresh name maxBytes).run moves
    rwa [List.nil_append] at hrun
  have hlink : log.link = link := (fresh name maxBytes).link_run moves
  rw [← hlink]
  refine ⟨rfl, hlog.conserved side, hlog.short side, hlog.isLive_iff side, ?_,
    hlog.post_eq side, fun frame error => move_of_post_error, log.own_end_of_post side,
    hlog.next_eq_closed_iff⟩
  intro hlive
  cases hend : log.link.endpoint side with
  | dropped => simp [Link.isLive, hend, Endpoint.isLive] at hlive
  | live queue => rw [unread_of_live hend, Link.queue_of_live hend]

/-- Both ends post, one drops its end, and what it has posted before can still be read. -/
example :
    let log := (fresh "pair" 4).run [(.left, .post "a"), (.right, .post "b"),
      (.left, .post "long!"), (.left, .post "c"), (.right, .read), (.left, .close),
      (.right, .post "d")]
    (log.passage .right).accepted = ["a", "c"] ∧ (log.passage .right).read = ["a"] ∧
      log.unread .right = ["c"] ∧ (log.passage .left).accepted = ["b"] ∧
      log.unread .left = ["b"] := by
  decide +kernel

end LoggedLink

end CompileWatch
