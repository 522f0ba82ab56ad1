/-
  CmlCloudManager.ControlPlane.LifecycleAudit
  ───────────────────────────────────────────
  **THE STATE HISTORY OF A SESSION.**

  `state_history` is written by a dozen event handlers, each on its own.  What an
  auditor wants of it is independent of the handlers:

    • it is a chain from nothing to PENDING to the current status,
    • an entry that changes the status is a move of the transition table,
    • an entry that does not is a requeue,
    • a session that is TERMINATED stays so,
    • a call that raises leaves no trace.

  `AuditTrail` is the invariant of the first two; every call preserves it
  (`auditTrail_step`), by the case analysis of `perform_effect`.
-/
import CmlCloudManager.ControlPlane.LabletSession
import CmlCloudManager.Foundation.Replay
import CmlCloudManager.Foundation.Trail

namespace CmlCloudManager.ControlPlane

open CmlCloudManager.Foundation

/-! ## §1. The trail. -/

/-- The second entry starts where the first one leads. -/
def Follows (e f : StateTransition) : Prop := f.fromState = some e.toState

/-- An entry after the first: a move of the table, or a requeue. -/
def Recorded (e : StateTransition) : Prop :=
  ∃ status, e.fromState = some status
    ∧ (e.toState ∈ validTransitions status ∨ e.toState = status)

/-- **An audit trail**: a chain from nothing to PENDING to the current status. -/
structure AuditTrail (s : LabletSessionState) : Prop where
  first : ∃ entry rest, s.stateHistory = entry :: rest ∧ entry.fromState = none
    ∧ entry.toState = .pending ∧ ∀ e ∈ rest, Recorded e
  chain : s.stateHistory.IsChain Follows
  last : ∃ entry, s.stateHistory.getLast? = some entry ∧ entry.toState = s.status

/-- The table has no move from a status to itself. -/
theorem ne_of_mem_validTransitions {a b : LabletSessionStatus} (h : b ∈ validTransitions a) :
    b ≠ a := by
  rintro rfl
  revert h
  cases b <;> decide

theorem not_mem_validTransitions_terminated (dst : LabletSessionStatus) :
    dst ∉ validTransitions .terminated := List.not_mem_nil

/-- The history is the trail of the status. -/
theorem AuditTrail.trail {s : LabletSessionState} (h : AuditTrail s) :
    Trail StateTransition.fromState StateTransition.toState s.stateHistory s.status :=
  ⟨h.chain, h.last⟩

/-- Appending an entry that starts at the current status. -/
theorem AuditTrail.snoc {s s' : LabletSessionState} {entry : StateTransition}
    (h : AuditTrail s) (history : s'.stateHistory = s.stateHistory ++ [entry])
    (fromState : entry.fromState = some s.status) (toState : entry.toState = s'.status)
    (recorded : Recorded entry) : AuditTrail s' := by
  obtain ⟨first, rest, hfirst, hnone, hpending, hrest⟩ := h.first
  have htrail := h.trail.snoc fromState
  rw [← history, toState] at htrail
  refine ⟨⟨first, rest ++ [entry], ?_, hnone, hpending, ?_⟩, htrail.chain, htrail.last⟩
  · rw [history, hfirst]
    rfl
  · intro e he
    rcases List.mem_append.mp he with he | he
    · exact hrest e he
    · rw [List.mem_singleton.mp he]
      exact recorded

/-! ## §2. Every call keeps it. -/

/-- **The step lemma**, for every operation, refused or not. -/
theorem auditTrail_step (s : LabletSessionState) (call : Call) (h : AuditTrail s) :
    AuditTrail (callStep s call) := by
  have effect := perform_effect call s
  unfold callStep
  generalize outcome (perform call.clock call.operation) s = result at effect
  cases effect with
  | refused e why => exact h
  | moved target allowed status history fromState toState times =>
      exact h.snoc history fromState (toState.trans status.symm)
        ⟨s.status, fromState, .inl (toState ▸ allowed)⟩
  | requeued operation status history fromState toState times =>
      exact h.snoc history fromState (toState.trans status.symm)
        ⟨s.status, fromState, .inr toState⟩
  | kept target status history times =>
      refine ⟨?_, ?_, ?_⟩
      · rw [history]
        exact h.first
      · rw [history]
        exact h.chain
      · rw [history, status]
        exact h.last

/-- A created session has the trail of its creation. -/
theorem auditTrail_create {c : Clock} {newId : String} {args : CreateArgs}
    {s : LabletSessionState} (h : LabletSessionState.create c newId args = .ok s) :
    AuditTrail s := by
  obtain ⟨hstatus, -, -, -, entry, hhistory, hnone, hpending⟩ := create_ok h
  refine ⟨⟨entry, [], hhistory, hnone, hpending, ?_⟩, ?_, ⟨entry, ?_, ?_⟩⟩
  · intro e he
    cases he
  · rw [hhistory]
    exact List.isChain_singleton _
  · rw [hhistory]
    rfl
  · rw [hpending, hstatus]

/-- A call whose new entry does not change the status is a requeue. -/
theorem requeue_of_same_status {s : LabletSessionState} {call : Call} {entry : StateTransition}
    (history : (callStep s call).stateHistory = s.stateHistory ++ [entry])
    (same : entry.fromState = some entry.toState) :
    ∃ requeuedBy reason, call.operation = .requeue requeuedBy reason := by
  have effect := perform_effect call s
  unfold callStep at history
  generalize outcome (perform call.clock call.operation) s = result at effect history
  have hnil : ∀ {s' : LabletSessionState}, s'.stateHistory = s.stateHistory →
      s'.stateHistory ≠ s.stateHistory ++ [entry] := by
    intro s' hkept hnew
    rw [hkept] at hnew
    have := congrArg List.length hnew
    simp at this
  cases effect with
  | refused e why => exact absurd history (hnil rfl)
  | @moved s' dst added target allowed status hadded fromState toState times =>
      rw [hadded, List.append_cancel_left_eq, List.cons.injEq] at history
      obtain ⟨rfl, -⟩ := history
      -- a move of the table changes the status
      rw [fromState, Option.some.injEq] at same
      exact absurd (toState.symm.trans same.symm) (ne_of_mem_validTransitions allowed)
  | requeued operation status hadded fromState toState times => exact ⟨_, _, operation⟩
  | kept target status hkept times => exact absurd history (hnil hkept)

/-- A terminated session stays terminated. -/
theorem terminated_step (s : LabletSessionState) (call : Call) (h : s.status = .terminated) :
    (callStep s call).status = .terminated := by
  have effect := perform_effect call s
  unfold callStep
  generalize outcome (perform call.clock call.operation) s = result at effect
  cases effect with
  | refused e why => exact h
  | moved target allowed status history fromState toState times =>
      rw [h] at allowed
      exact absurd allowed (not_mem_validTransitions_terminated _)
  | requeued operation status history fromState toState times => exact status.trans h
  | kept target status history times => exact status.trans h

/-- A call that raises changes nothing. -/
theorem refused_unchanged {s : LabletSessionState} {call : Call} {e : OperationError}
    (h : (outcome (perform call.clock call.operation) s).1 = .error e) : callStep s call = s := by
  have effect := perform_effect call s
  unfold callStep
  generalize outcome (perform call.clock call.operation) s = result at effect h
  cases effect with
  | refused e' why => rfl
  | moved target allowed status history fromState toState times => cases h
  | requeued operation status history fromState toState times => cases h
  | kept target status history times => cases h

/-! ## §3. Runs of calls. -/

/-- **The lifecycle audit** of a run of calls on a session. -/
structure LifecycleAudit (s : LabletSessionState) (calls : List Call) : Prop where
  /-- After every prefix the history is a trail to the current status. -/
  trail : ∀ before after, calls = before ++ after → AuditTrail (replay callStep s before)
  /-- An entry that does not change the status comes from a requeue. -/
  requeued : ∀ before call after entry, calls = before ++ call :: after →
    (callStep (replay callStep s before) call).stateHistory
      = (replay callStep s before).stateHistory ++ [entry] →
    entry.fromState = some entry.toState →
    ∃ requeuedBy reason, call.operation = .requeue requeuedBy reason
  terminated : ∀ before after, calls = before ++ after →
    (replay callStep s before).status = .terminated →
    (replay callStep s calls).status = .terminated
  refused : ∀ before call after e, calls = before ++ call :: after →
    (outcome (perform call.clock call.operation) (replay callStep s before)).1 = .error e →
    callStep (replay callStep s before) call = replay callStep s before

/-- **Every session keeps its audit trail**, whatever operations are called on it. -/
theorem lifecycle_audit (c : Clock) (newId : String) (args : CreateArgs) (s : LabletSessionState)
    (created : LabletSessionState.create c newId args = .ok s) (calls : List Call) :
    LifecycleAudit s calls where
  trail before after hsplit :=
    replay_invariant auditTrail_step before (auditTrail_create created)
  requeued before call after entry hsplit history same := requeue_of_same_status history same
  terminated before after hsplit hterm := by
    rw [hsplit, replay_append]
    exact replay_invariant terminated_step after hterm
  refused before call after e hsplit herr := refused_unchanged herr

theorem lifecycle_audit_reserved :
    LifecycleAudit reservedSession
      [{ clock := { now := 5 }, operation := .schedule "w1" Dict.empty "lab1" "scheduler" },
       { clock := { now := 6 }, operation := .requeue "admin" none },
       { clock := { now := 7 }, operation := .markRunning },
       { clock := { now := 8 }, operation := .terminate "admin" none }] :=
  lifecycle_audit _ _ _ _ reservedSession_created _

end CmlCloudManager.ControlPlane
