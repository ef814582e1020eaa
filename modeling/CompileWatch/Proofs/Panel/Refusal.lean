import CompileWatch.Proofs.Link.History
import CompileWatch.Proofs.Panel.Display

/-!
# Requests that cannot be posted

Every operation of the panel posts one request.  If that is refused, the operation fails at once
with the error of the link, and the control side never hears of it.  What an operation changes at
the panel comes after its request, and it is left out when the request is refused.  Only a removal
changes the panel first, and it does not take that back.
-/

namespace CompileWatch

variable {Image : Type}

namespace Panel

/-- Something that the user asks of the panel, and the panel of the control side. -/
inductive Operation
  | connect
  | disconnect
  | select (id : CompilationId)
  | remove (id : CompilationId)
  | message (text : String)
  deriving DecidableEq, Repr

def Operation.request : Operation → PanelRequest
  | .connect => .connect
  | .disconnect => .disconnect
  | .select id => .selectCompilation id
  | .remove id => .removeCompilation id
  | .message text => .message text

/-- What an operation leaves of the panel if its request is refused. -/
def Operation.remnant : Operation → Panel Image → Panel Image
  | .remove id, panel => panel.forget id
  | .connect, panel | .disconnect, panel | .select _, panel | .message _, panel => panel

/-- A request is posted unless its frame is too long or the control side is gone. -/
theorem post_request_eq (link : Link) (request : PanelRequest) :
    post link request =
      let bytes := (Frame.encode request.toJson).utf8ByteSize
      if link.maxBytes < bytes then
        .error (.transport (.frameTooLarge link.name bytes link.maxBytes))
      else if link.isLive .right then
        .ok (link.setEndpoint .right (.live (link.queue .right ++ [Frame.encode request.toJson])))
      else .error (.transport (.closed link.name)) := by
  rw [post, Link.post_eq, Side.other]
  dsimp only
  split
  · rfl
  · split <;> rfl

/-- What is forgotten of a compilation, part by part. -/
theorem forget_eq (panel : Panel Image) (id : CompilationId) :
    panel.forget id =
      { panel with
        entries := panel.entries.filter fun entry => entry.id ≠ id
        selection := panel.selection.filter fun selection => selection.id ≠ id
        outcome := if panel.selection.any fun selection => selection.id = id then none
          else panel.outcome } := by
  rw [forget]
  cases hselection : panel.selection with
  | none => simp
  | some selection =>
      by_cases hid : selection.id = id
      · simp [Option.filter, hid]
      · simp [Option.filter, hid]

end Panel

/-- The error with which an operation has ended already, if it has. -/
def CallState.begun : CallState → Except PanelError Unit
  | .ended (.error error) => .error error
  | .ended (.ok _) | .waiting _ | .idle => .ok ()

namespace PanelDesk

open Panel

/-- An operation up to the point where it waits, and the error if it has failed by then. -/
def attempt (desk : PanelDesk Image) : Operation → PanelDesk Image × Except PanelError Unit
  | .connect => (desk.start .connect, (desk.start .connect).call.begun)
  | .disconnect => (desk.start .disconnect, (desk.start .disconnect).call.begun)
  | .select id => (desk.start (.select id), (desk.start (.select id)).call.begun)
  | .remove id => desk.remove id
  | .message text => desk.message text

section

variable {desk : PanelDesk Image} {request : PanelRequest} {error : PanelError} {link : Link}

theorem start_of_post_error {call : Call} (hrequest : call.request? = some request)
    (hpost : post desk.link request = .error error) :
    desk.start call = { desk with call := .ended (.error error) } := by
  simp only [start, hrequest, hpost]

theorem start_of_post_ok {call : Call} (hrequest : call.request? = some request)
    (hpost : post desk.link request = .ok link) :
    desk.start call = { desk with link, call := .waiting call } := by
  simp only [start, hrequest, hpost]

theorem attempt_of_post_error {operation : Operation}
    (hpost : post desk.link operation.request = .error error) :
    (desk.attempt operation).2 = .error error ∧ (desk.attempt operation).1.link = desk.link ∧
      (desk.attempt operation).1.panel = operation.remnant desk.panel := by
  cases operation with
  | connect | disconnect | select =>
      rw [attempt, start_of_post_error rfl hpost]
      exact ⟨rfl, rfl, rfl⟩
  | remove id =>
      rw [Operation.request] at hpost
      simp only [attempt, PanelDesk.remove, Operation.remnant, hpost, and_self]
  | message text =>
      rw [Operation.request] at hpost
      simp only [attempt, PanelDesk.message, Operation.remnant, hpost, and_self]

theorem attempt_of_post_ok {operation : Operation}
    (hpost : post desk.link operation.request = .ok link) :
    (desk.attempt operation).2 = .ok () := by
  cases operation with
  | connect | disconnect | select =>
      rw [attempt, start_of_post_ok rfl hpost]
      rfl
  | remove id =>
      rw [Operation.request] at hpost
      simp only [attempt, PanelDesk.remove, hpost]
  | message text =>
      rw [Operation.request] at hpost
      simp only [attempt, PanelDesk.message, hpost]

end

/-- An operation fails at once exactly if its request cannot be posted. -/
theorem result_attempt (desk : PanelDesk Image) (operation : Operation) :
    (desk.attempt operation).2 = (post desk.link operation.request).map fun _ => () := by
  cases hpost : post desk.link operation.request with
  | ok link => exact attempt_of_post_ok hpost
  | error error => exact (attempt_of_post_error hpost).1

/-- **An operation whose request is refused has no effect, unless it is a removal.**  An operation
fails at once exactly if its request is too long or the control side is gone, and with the error
that says which.  The link is then as it was, and so is the panel; but the compilation of a removal
is out of the listing, and no longer on display if it was. -/
theorem refused_without_effect (desk : PanelDesk Image) (operation : Operation) :
    let after := (desk.attempt operation).1
    let result := (desk.attempt operation).2
    let bytes := (Frame.encode operation.request.toJson).utf8ByteSize
    (result =
      if desk.link.maxBytes < bytes then
        .error (.transport (.frameTooLarge desk.link.name bytes desk.link.maxBytes))
      else if desk.link.isLive .right then .ok ()
      else .error (.transport (.closed desk.link.name))) ∧
    ∀ error, result = .error error → after.link = desk.link ∧
      ((∀ id, operation ≠ .remove id) → after.panel = desk.panel) ∧
      ∀ id, operation = .remove id → after.panel =
        { desk.panel with
          entries := desk.panel.entries.filter fun entry => entry.id ≠ id
          selection := desk.panel.selection.filter fun selection => selection.id ≠ id
          outcome := if desk.panel.selection.any fun selection => selection.id = id then none
            else desk.panel.outcome } := by
  intro after result bytes
  have hresult : result = (post desk.link operation.request).map fun _ => () :=
    desk.result_attempt operation
  constructor
  · rw [hresult, post_request_eq]
    dsimp only
    split
    · rfl
    · split <;> rfl
  · intro error herror
    cases hpost : post desk.link operation.request with
    | ok link =>
        rw [hresult, hpost] at herror
        cases herror
    | error refusal =>
        obtain ⟨-, hlink, hpanel⟩ := attempt_of_post_error hpost
        refine ⟨hlink, fun hother => hpanel.trans ?_, ?_⟩
        · cases operation with
          | remove id => exact absurd rfl (hother id)
          | connect | disconnect | select | message => rfl
        · rintro id rfl
          exact hpanel.trans (desk.panel.forget_eq id)

/-- A panel that lists one compilation and whose control side is gone. -/
def abandonedDesk : PanelDesk String :=
  run { panel := { renderer := .source }, link := { name := "panel", maxBytes := 100 } }
    [.control (.post (Frame.encode (PanelEvent.recordCompilation ⟨0⟩ []).toJson)), .call .event,
      .step, .clearCall, .control .close]

/-- A removal that fails because the control side is gone takes its compilation out of the listing
all the same. -/
theorem refused_removal_forgets :
    ¬ ∀ (desk : PanelDesk String) (operation : Operation),
      (post desk.link operation.request).isOk = false →
        (desk.attempt operation).1.panel.entries = desk.panel.entries := by
  intro hclaim
  have hstate : (post abandonedDesk.link (Operation.remove ⟨0⟩).request).isOk = false ∧
      abandonedDesk.panel.entries = [⟨⟨0⟩, []⟩] ∧
      (abandonedDesk.attempt (.remove ⟨0⟩)).1.panel.entries = [] := by
    decide +kernel
  obtain ⟨hrefused, hbefore, hafter⟩ := hstate
  have hkept := hclaim abandonedDesk (.remove ⟨0⟩) hrefused
  rw [hbefore, hafter] at hkept
  cases hkept

end PanelDesk

end CompileWatch
