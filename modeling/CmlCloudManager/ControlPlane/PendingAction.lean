/-
  CmlCloudManager.ControlPlane.PendingAction
  ──────────────────────────────────────────
  **THE PENDING ACTION OF A LAB.**

  A request to start, stop, wipe or delete a lab only writes the record's pending
  action; the lablet controller carries it out and reports.  While an action is
  pending every other request is refused, so that the action leaves the record by

    • a report (a completion or a failure),
    • the sweep that fails what has been pending for too long,
    • an explicit clear.

  A report names no request.  A completion may name its action, and is only
  LOGGED where that is not the pending one; a failure names none at all.  So a
  report that comes late ends whatever is pending then: `keeps_pending_run_iff` says
  that an action is lost in this way exactly by reports about other actions.
-/
import CmlCloudManager.ControlPlane.LabRecordLifecycle
import CmlCloudManager.Foundation.Replay

namespace CmlCloudManager.ControlPlane

open CmlCloudManager.Foundation CmlCloudManager.Pipeline

/-! ## §1. Requests. -/

/-- The answer of a request that is accepted. -/
structure LabActionQueued where
  labRecordId : String
  labId : String
  workerId : String
  action : String
  /-- The key of a stop request, with what the request gives. -/
  stopReason : Option (Option String) := none
  status : String := "pending"
  message : String

/-- The four requests by record id: refused while an action is pending, and in a terminal state. -/
def queueLabAction (action terminalMessage message : String)
    (stopReason : Option (Option String)) (now : Int) (db : LabRecords)
    (labRecordId : String) : OperationResult LabActionQueued × LabRecords :=
  match db.store.find labRecordId with
  | none => (.notFound labRecordId, db)
  | some lab =>
      match givenText lab.pendingAction with
      | some pending =>
          (.conflict ("Lab already has pending action: " ++ pending
            ++ ". Wait for it to complete or clear it first."), db)
      | none =>
          if lab.isTerminal then (.badRequest (terminalMessage ++ lab.status.value), db)
          else
            -- the lab itself is left to the controller
            (.ok
              { labRecordId := labRecordId
                labId := lab.labId
                workerId := lab.workerId
                action := action
                stopReason := stopReason
                message := message },
              db.save (lab.requestAction now action) false)

/-- `StartLabRecordCommandHandler`. -/
def startLabRecord : Int → LabRecords → String → OperationResult LabActionQueued × LabRecords :=
  queueLabAction "start" "Cannot start lab in terminal state: " "Start queued for reconciliation"
    none

/-- `StopLabRecordCommandHandler`. -/
def stopLabRecord (stopReason : Option String) :
    Int → LabRecords → String → OperationResult LabActionQueued × LabRecords :=
  queueLabAction "stop" "Cannot stop lab in terminal state: " "Stop queued for reconciliation"
    (some stopReason)

/-- `WipeLabRecordCommandHandler`, on the whole record. -/
def wipeWholeLabRecord : Int → LabRecords → String →
    OperationResult LabActionQueued × LabRecords :=
  queueLabAction "wipe" "Cannot wipe lab in terminal state: " "Wipe queued for reconciliation"
    none

/-- `DeleteLabRecordCommandHandler`. -/
def deleteLabRecord : Int → LabRecords → String → OperationResult LabActionQueued × LabRecords :=
  queueLabAction "delete" "Lab is already in terminal state: "
    "Delete queued for stop-wipe-delete reconciliation" none

/-- `get_by_lab_id_async`. -/
def LabRecords.byLabId (db : LabRecords) (workerId labId : String) : Option LabRecord :=
  db.store.all.find? fun lab => lab.workerId == workerId && lab.labId == labId

/-- The answer of a request by worker and lab. -/
structure LabControlQueued where
  labId : String
  workerId : String
  action : Option String := none
  status : String
  message : String

/-- The two requests by worker and lab: no terminal state is refused. -/
def queueByLabId (action : String) (queued : LabControlQueued) (workerKnown : Bool) (now : Int)
    (db : LabRecords) (workerId labId : String) : OperationResult LabControlQueued × LabRecords :=
  if ¬ workerKnown then (.notFound ("Worker " ++ workerId ++ " not found"), db)
  else
    match db.byLabId workerId labId with
    | none => (.notFound ("Lab " ++ labId ++ " not found on worker " ++ workerId), db)
    | some lab =>
        match givenText lab.pendingAction with
        | some pending =>
            (.conflict ("Lab " ++ labId ++ " already has pending action: " ++ pending
              ++ ". Wait for it to complete or clear it first."), db)
        | none => (.ok queued, db.save (lab.requestAction now action) false)

/-- `LabAction`. -/
inductive LabAction where
  | start
  | stop
  | wipe
  deriving DecidableEq, Repr

/-- The value of an action. -/
def LabAction.value : LabAction → String
  | .start => "start"
  | .stop => "stop"
  | .wipe => "wipe"

/-- `ControlLabCommandHandler`. -/
def controlLab (action : LabAction) (workerKnown : Bool) (now : Int) (db : LabRecords)
    (workerId labId : String) : OperationResult LabControlQueued × LabRecords :=
  queueByLabId action.value
    { labId := labId
      workerId := workerId
      action := some action.value
      status := "pending"
      message := "Action '" ++ action.value ++ "' queued for reconciliation" }
    workerKnown now db workerId labId

/-- `DeleteLabCommandHandler`. -/
def deleteLab (workerKnown : Bool) (now : Int) (db : LabRecords) (workerId labId : String) :
    OperationResult LabControlQueued × LabRecords :=
  queueByLabId "delete"
    { labId := labId
      workerId := workerId
      status := "pending_delete"
      message := "Delete queued for reconciliation" }
    workerKnown now db workerId labId

/-! ## §2. Failure reports, the sweep and the clear. -/

/-- `FailLabActionCommand`: it does not say which action failed. -/
structure FailLabActionCommand where
  labRecordId : String
  errorMessage : String
  transitionToError : Bool := false

/-- The answer of `FailLabAction`. -/
structure LabActionFailure where
  labRecordId : String
  action : String
  errorMessage : String
  status : LabRecordStatus
  message : String

/-- `FailLabActionCommandHandler`. -/
def failLabAction (now : Int) (db : LabRecords) (request : FailLabActionCommand) :
    OperationResult LabActionFailure × LabRecords :=
  match db.store.find request.labRecordId with
  | none => (.notFound request.labRecordId, db)
  | some lab =>
      -- whatever is pending is what has failed
      match givenText lab.pendingAction with
      | none =>
          (.badRequest ("LabRecord " ++ request.labRecordId
            ++ " has no pending action to fail"), db)
      | some failedAction =>
          let failed := lab.failPendingAction request.errorMessage
          let message := "Action '" ++ failedAction ++ "' failed: " ++ request.errorMessage
          let failed :=
            if request.transitionToError then
              match failed.markError now message with
              | .ok moved => moved
              -- a transition that is refused is logged
              | .error _ => failed
            else failed
          (.ok ⟨request.labRecordId, failedAction, request.errorMessage, failed.status,
            "Action '" ++ failedAction ++ "' marked as failed"⟩, db.save failed false)

/-- `TimeoutStalePendingActionsCommand`. -/
structure TimeoutStalePendingActionsCommand where
  thresholdMinutes : Int := 30
  workerId : Option String := none

/-- `TimeoutStalePendingActionsResult`. -/
structure TimeoutStalePendingActionsResult where
  scanned : Nat
  timedOut : Nat := 0
  skipped : Nat := 0
  errors : List String := []

/-- The time before which a pending action is stale (seconds). -/
def TimeoutStalePendingActionsCommand.cutoff (request : TimeoutStalePendingActionsCommand)
    (now : Int) : Int := now - request.thresholdMinutes * 60

/-- One record of the sweep; a write that raises is noted. -/
def timeoutRecord (now : Int) (updateRaises : String → Option String)
    (request : TimeoutStalePendingActionsCommand)
    (acc : TimeoutStalePendingActionsResult × LabRecords) (record : LabRecord) :
    TimeoutStalePendingActionsResult × LabRecords :=
  let (result, db) := acc
  match record.pendingActionAt with
  | none => ({ result with skipped := result.skipped + 1 }, db)
  | some at' =>
      -- it may still be carried out
      if request.cutoff now < at' then ({ result with skipped := result.skipped + 1 }, db)
      else
        match updateRaises record.id with
        | some e =>
            ({ result with
                errors := result.errors ++
                  ["Failed to timeout stale action for lab " ++ record.labId ++ ": " ++ e] }, db)
        | none =>
            let failed := record.failPendingAction
              ("Timed out after " ++ toString ((now - at').tdiv 60) ++ " minutes (threshold: "
                ++ toString request.thresholdMinutes ++ " min)")
            ({ result with timedOut := result.timedOut + 1 }, db.save failed false)

/-- `get_with_pending_actions_async` and its variant for one worker. -/
def LabRecords.withPendingActions (db : LabRecords) (workerId : Option String) : List LabRecord :=
  db.store.all.filter fun lab =>
    lab.pendingAction.isSome && (givenText workerId).all fun workerId => lab.workerId == workerId

/-- `TimeoutStalePendingActionsCommandHandler`. -/
def timeoutStalePendingActions (now : Int) (updateRaises : String → Option String)
    (db : LabRecords) (request : TimeoutStalePendingActionsCommand) :
    TimeoutStalePendingActionsResult × LabRecords :=
  let records := db.withPendingActions request.workerId
  records.foldl (timeoutRecord now updateRaises request) ({ scanned := records.length }, db)

/-- `LabRecord.clear_pending_action`, loaded and saved. -/
def clearLabAction (db : LabRecords) (labRecordId : String) : LabRecords :=
  match db.store.find labRecordId with
  | none => db
  | some lab => db.save lab.clearPendingAction false

/-! ## §3. Runs. -/

/-- What may happen to the pending action of a lab. -/
inductive PendingCommand where
  | start (labRecordId : String)
  | stop (labRecordId : String) (stopReason : Option String := none)
  | wipe (labRecordId : String)
  | delete (labRecordId : String)
  | control (action : LabAction) (workerKnown : Bool) (workerId labId : String)
  | deleteLab (workerKnown : Bool) (workerId labId : String)
  | complete (newRunId : NewId) (request : CompleteLabActionCommand)
  | fail (request : FailLabActionCommand)
  | timeoutStale (updateRaises : String → Option String)
      (request : TimeoutStalePendingActionsCommand)
  | clear (labRecordId : String)

/-- A command at its time.  A report is about one action: `about` is what its sender carried out,
which a completion that names an action repeats. -/
structure PendingEvent where
  now : Int
  command : PendingCommand
  about : String := ""

/-- The records after the event. -/
def pendingStep (db : LabRecords) (event : PendingEvent) : LabRecords :=
  match event.command with
  | .start labRecordId => (startLabRecord event.now db labRecordId).2
  | .stop labRecordId stopReason => (stopLabRecord stopReason event.now db labRecordId).2
  | .wipe labRecordId => (wipeWholeLabRecord event.now db labRecordId).2
  | .delete labRecordId => (deleteLabRecord event.now db labRecordId).2
  | .control action workerKnown workerId labId =>
      (controlLab action workerKnown event.now db workerId labId).2
  | .deleteLab workerKnown workerId labId =>
      (ControlPlane.deleteLab workerKnown event.now db workerId labId).2
  | .complete newRunId request => (completeLabAction event.now newRunId db request).2
  | .fail request => (failLabAction event.now db request).2
  | .timeoutStale updateRaises request =>
      (timeoutStalePendingActions event.now updateRaises db request).2
  | .clear labRecordId => clearLabAction db labRecordId

/-! ## §4. What becomes of a pending action. -/

/-- The record a report is about, and the action. -/
def PendingEvent.reports (event : PendingEvent) : Option (String × String) :=
  match event.command with
  | .complete _ request => some (request.labRecordId, (givenText request.action).getD event.about)
  | .fail request => some (request.labRecordId, event.about)
  | _ => none

/-- A sweep to which the action is stale. -/
def PendingEvent.TimesOut (event : PendingEvent) (lab : LabRecord) : Prop :=
  ∃ updateRaises request at', event.command = .timeoutStale updateRaises request
    ∧ lab.pendingActionAt = some at' ∧ at' ≤ request.cutoff event.now

/-- What an event makes of a record with a pending action. -/
inductive PendingFate (event : PendingEvent) (id : String) (lab : LabRecord) :
    LabRecord → Prop where
  | kept (silent : ∀ a, event.reports ≠ some (id, a)) : PendingFate event id lab lab
  | reported (a : String) (report : event.reports = some (id, a)) {lab' : LabRecord}
      (dropped : lab'.pendingAction = none) : PendingFate event id lab lab'
  | timedOut (silent : ∀ a, event.reports ≠ some (id, a)) (stale : event.TimesOut lab)
      {lab' : LabRecord} : PendingFate event id lab lab'
  | cleared (silent : ∀ a, event.reports ≠ some (id, a)) (clear : event.command = .clear id)
      {lab' : LabRecord} : PendingFate event id lab lab'

section Records

variable {db : LabRecords} {id p : String} {lab lab' : LabRecord} {now : Int}

theorem LabRecords.find_save_id (sync : Bool) (h : lab'.id = id) :
    (db.save lab' sync).store.find id = some lab' := by
  rw [← h]
  exact db.find_save_self lab' sync

/-- A pending action is dropped. -/
theorem LabRecord.dropPendingAction_eq (error : Option String)
    (hp : givenText lab.pendingAction = some p) :
    (lab.dropPendingAction error).pendingAction = none := by
  unfold LabRecord.dropPendingAction
  rw [hp]

theorem LabRecord.dropPendingAction_id (lab : LabRecord) (error : Option String) :
    (lab.dropPendingAction error).id = lab.id := by
  unfold LabRecord.dropPendingAction
  split <;> rfl

/-- The id and the pending action are left alone. -/
def LabRecord.SamePending (lab lab' : LabRecord) : Prop :=
  lab'.id = lab.id ∧ lab'.pendingAction = lab.pendingAction

theorem LabRecord.SamePending.trans {lab'' : LabRecord} (h : lab.SamePending lab')
    (h' : lab'.SamePending lab'') : lab.SamePending lab'' :=
  ⟨h'.1.trans h.1, h'.2.trans h.2⟩

theorem LabRecord.guarded_samePending {target : LabRecordStatus} {moved : LabRecord}
    (h : lab.guarded target (.ok moved) = .ok lab') (hmoved : lab.SamePending moved) :
    lab.SamePending lab' := by
  obtain ⟨-, hlab⟩ := LabRecord.guarded_ok h
  obtain rfl := Except.ok.inj hlab
  exact hmoved

theorem applyActionTransition_samePending {target : Option LabRecordStatus}
    (h : applyActionTransition now lab target = .ok lab') : lab.SamePending lab' := by
  unfold applyActionTransition at h
  split at h
  iterate 4 exact LabRecord.guarded_samePending h ⟨rfl, rfl⟩
  · obtain rfl := Except.ok.inj h
    exact ⟨rfl, rfl⟩

theorem LabRecord.recordActionRun_samePending (lab : LabRecord) (now : Int) (newRunId : NewId)
    (action : String) (target : Option LabRecordStatus) :
    lab.SamePending (lab.recordActionRun now newRunId action target).1 := by
  unfold LabRecord.recordActionRun LabRecord.closeActiveRun
  split
  · split <;> exact ⟨rfl, rfl⟩
  · split
    · split <;> exact ⟨rfl, rfl⟩
    · exact ⟨rfl, rfl⟩

theorem LabRecord.withCmlState_samePending (lab : LabRecord) (cmlState : Option String) :
    lab.SamePending (lab.withCmlState cmlState) := by
  unfold LabRecord.withCmlState
  split <;> exact ⟨rfl, rfl⟩

/-! ### Requests. -/

/-- A record without a pending action is another one. -/
theorem ne_of_pending {other : LabRecord} (hlab : db.store.find id = some lab)
    (hp : givenText lab.pendingAction = some p) (hother : db.store.find other.id = some other)
    (hnone : givenText other.pendingAction = none) : id ≠ other.id := by
  rintro rfl
  obtain rfl := Option.some.inj (hlab.symm.trans hother)
  rw [hp] at hnone
  cases hnone

/-- A request is refused while an action is pending. -/
theorem queueLabAction_find {action terminalMessage message labRecordId : String}
    {stopReason : Option (Option String)}
    (hlab : db.store.find id = some lab) (hp : givenText lab.pendingAction = some p) :
    (queueLabAction action terminalMessage message stopReason now db labRecordId).2.store.find id
      = some lab := by
  unfold queueLabAction
  cases hfind : db.store.find labRecordId with
  | none => exact hlab
  | some other =>
      dsimp only
      cases hpending : givenText other.pendingAction with
      | some pending => exact hlab
      | none =>
          dsimp only
          split
          next => exact hlab
          next =>
            have hother : db.store.find other.id = some other := by
              rwa [db.id_of_find hfind]
            have hne := ne_of_pending hlab hp hother hpending
            exact (db.find_save_ne (other.requestAction now action) false hne).trans hlab

theorem queueByLabId_find {action workerId labId : String} {queued : LabControlQueued}
    {workerKnown : Bool} (hlab : db.store.find id = some lab)
    (hp : givenText lab.pendingAction = some p) :
    (queueByLabId action queued workerKnown now db workerId labId).2.store.find id = some lab := by
  unfold queueByLabId
  split
  next => exact hlab
  next =>
    cases hfind : db.byLabId workerId labId with
    | none => exact hlab
    | some other =>
        dsimp only
        cases hpending : givenText other.pendingAction with
        | some pending => exact hlab
        | none =>
            have hother := Repository.mem_all_iff.mp (List.mem_of_find?_eq_some hfind)
            have hne := ne_of_pending hlab hp hother hpending
            exact (db.find_save_ne (other.requestAction now action) false hne).trans hlab

/-! ### Reports. -/

/-- What a report about a record does: it is refused where the record has no pending action, or
writes the record without it. -/
def Reports (db db' : LabRecords) (labRecordId : String) : Prop :=
  (db' = db ∧ ∀ lab, db.store.find labRecordId = some lab → givenText lab.pendingAction = none)
    ∨ ∃ lab written, db.store.find labRecordId = some lab ∧ db' = db.save written false
      ∧ written.id = labRecordId
      ∧ ∀ p, givenText lab.pendingAction = some p → written.pendingAction = none

theorem completeLabAction_reports (now : Int) (newRunId : NewId) (db : LabRecords)
    (request : CompleteLabActionCommand) :
    Reports db (completeLabAction now newRunId db request).2 request.labRecordId := by
  unfold completeLabAction
  cases hfind : db.store.find request.labRecordId with
  | none =>
      refine .inl ⟨rfl, fun lab h => ?_⟩
      rw [hfind] at h
      cases h
  | some lab =>
      dsimp only
      cases haction : (givenText request.action).or (givenText lab.pendingAction) with
      | none =>
          refine .inl ⟨rfl, fun lab' h => ?_⟩
          obtain rfl := Option.some.inj (hfind.symm.trans h)
          exact (Option.or_eq_none_iff.mp haction).2
      | some action =>
          -- what follows the drop of the action leaves it dropped
          have hmoved : lab.completePendingAction.SamePending
              (match applyActionTransition now lab.completePendingAction
                  (actionToStatus.get? action) with
                | .ok moved => moved
                | .error _ => lab.completePendingAction) := by
            cases h : applyActionTransition now lab.completePendingAction
                (actionToStatus.get? action) with
            | error e => exact ⟨rfl, rfl⟩
            | ok moved => exact applyActionTransition_samePending h
          have hwritten := (hmoved.trans (LabRecord.recordActionRun_samePending _ now newRunId
            action (actionToStatus.get? action))).trans
            (LabRecord.withCmlState_samePending _ request.cmlState)
          refine .inr ⟨lab, _, hfind, rfl, ?_, ?_⟩
          · exact (hwritten.1.trans (lab.dropPendingAction_id none)).trans (db.id_of_find hfind)
          · intro p hp
            exact hwritten.2.trans (LabRecord.dropPendingAction_eq none hp)

theorem failLabAction_reports (now : Int) (db : LabRecords) (request : FailLabActionCommand) :
    Reports db (failLabAction now db request).2 request.labRecordId := by
  unfold failLabAction
  cases hfind : db.store.find request.labRecordId with
  | none =>
      refine .inl ⟨rfl, fun lab h => ?_⟩
      rw [hfind] at h
      cases h
  | some lab =>
      dsimp only
      cases hpending : givenText lab.pendingAction with
      | none =>
          refine .inl ⟨rfl, fun lab' h => ?_⟩
          obtain rfl := Option.some.inj (hfind.symm.trans h)
          exact hpending
      | some pending =>
          -- so does the move to ERROR, made or refused
          have hfailed : ∀ message, (lab.failPendingAction request.errorMessage).SamePending
              (if request.transitionToError then
                match (lab.failPendingAction request.errorMessage).markError now message with
                | .ok moved => moved
                | .error _ => lab.failPendingAction request.errorMessage
              else lab.failPendingAction request.errorMessage) := by
            intro message
            split
            next =>
              cases h : (lab.failPendingAction request.errorMessage).markError now message with
              | error e => exact ⟨rfl, rfl⟩
              | ok moved => exact LabRecord.guarded_samePending h ⟨rfl, rfl⟩
            next => exact ⟨rfl, rfl⟩
          refine .inr ⟨lab, _, hfind, rfl, ?_, ?_⟩
          · exact ((hfailed _).1.trans (lab.dropPendingAction_id _)).trans (db.id_of_find hfind)
          · intro p hp
            exact (hfailed _).2.trans (LabRecord.dropPendingAction_eq _ hp)

/-- What a report leaves of a record with a pending action. -/
theorem Reports.find {db' : LabRecords} {labRecordId : String}
    (h : Reports db db' labRecordId) (hlab : db.store.find id = some lab)
    (hp : givenText lab.pendingAction = some p) :
    labRecordId = id ∧ (∃ lab', db'.store.find id = some lab' ∧ lab'.pendingAction = none)
      ∨ labRecordId ≠ id ∧ db'.store.find id = some lab := by
  rcases h with ⟨rfl, hnone⟩ | ⟨other, written, hfind, rfl, hid, hdropped⟩
  · refine .inr ⟨?_, hlab⟩
    rintro rfl
    rw [hnone lab hlab] at hp
    cases hp
  · by_cases heq : labRecordId = id
    · subst heq
      obtain rfl := Option.some.inj (hlab.symm.trans hfind)
      exact .inl ⟨rfl, written, LabRecords.find_save_id false hid, hdropped p hp⟩
    · refine .inr ⟨heq, (db.find_save_ne written false ?_).trans hlab⟩
      rw [hid]
      exact Ne.symm heq

/-! ### The sweep and the clear. -/

/-- A sweep changes a record only if its pending action is stale. -/
def SweptFrom (db db' : LabRecords) (cutoff : Int) : Prop :=
  ∀ id lab, db.store.find id = some lab → ∃ lab', db'.store.find id = some lab'
    ∧ (lab' = lab ∨ ∃ at', lab.pendingActionAt = some at' ∧ at' ≤ cutoff)

theorem timeoutRecord_swept {updateRaises : String → Option String}
    {request : TimeoutStalePendingActionsCommand} {record : LabRecord}
    {acc : TimeoutStalePendingActionsResult × LabRecords}
    (hrecord : db.store.find record.id = some record)
    (h : SweptFrom db acc.2 (request.cutoff now)) :
    SweptFrom db (timeoutRecord now updateRaises request acc record).2 (request.cutoff now) := by
  unfold timeoutRecord
  dsimp only
  cases hat : record.pendingActionAt with
  | none => exact h
  | some at' =>
      dsimp only
      split
      next => exact h
      next hstale =>
        cases updateRaises record.id with
        | some e => exact h
        | none =>
            intro id lab hlab
            by_cases hid : id = record.id
            · -- the record as the sweep has read it
              subst hid
              obtain rfl := Option.some.inj (hlab.symm.trans hrecord)
              refine ⟨_, LabRecords.find_save_id false (lab.dropPendingAction_id _), .inr ?_⟩
              exact ⟨at', hat, by omega⟩
            · obtain ⟨lab', hfind, hlab'⟩ := h id lab hlab
              refine ⟨lab', (acc.2.find_save_ne _ false ?_).trans hfind, hlab'⟩
              exact fun heq => hid (heq.trans (record.dropPendingAction_id _))

theorem sweep_swept (updateRaises : String → Option String)
    (request : TimeoutStalePendingActionsCommand) :
    ∀ (records : List LabRecord) (acc : TimeoutStalePendingActionsResult × LabRecords),
      (∀ record ∈ records, db.store.find record.id = some record) →
      SweptFrom db acc.2 (request.cutoff now) →
      SweptFrom db (records.foldl (timeoutRecord now updateRaises request) acc).2
        (request.cutoff now)
  | [], _, _, h => h
  | record :: rest, _, hrecords, h =>
      sweep_swept updateRaises request rest _
        (fun r hr => hrecords r (List.mem_cons_of_mem record hr))
        (timeoutRecord_swept (hrecords record List.mem_cons_self) h)

theorem timeoutStalePendingActions_swept (now : Int) (updateRaises : String → Option String)
    (request : TimeoutStalePendingActionsCommand) :
    SweptFrom db (timeoutStalePendingActions now updateRaises db request).2
      (request.cutoff now) := by
  refine sweep_swept updateRaises request _ _ ?_ fun id lab hlab => ⟨lab, hlab, .inl rfl⟩
  intro record hrecord
  exact Repository.mem_all_iff.mp (List.mem_filter.mp hrecord).1

theorem clearLabAction_find {labRecordId : String} (hid : labRecordId ≠ id)
    (hlab : db.store.find id = some lab) :
    (clearLabAction db labRecordId).store.find id = some lab := by
  unfold clearLabAction
  cases hfind : db.store.find labRecordId with
  | none => exact hlab
  | some other =>
      refine (db.find_save_ne _ false ?_).trans hlab
      show id ≠ (other.dropPendingAction none).id
      rw [other.dropPendingAction_id, db.id_of_find hfind]
      exact Ne.symm hid

theorem clearLabAction_find_self (hlab : db.store.find id = some lab) :
    ∃ lab', (clearLabAction db id).store.find id = some lab' := by
  unfold clearLabAction
  rw [hlab]
  exact ⟨_, LabRecords.find_save_id false
    ((lab.dropPendingAction_id none).trans (db.id_of_find hlab))⟩

/-! ### All of them. -/

theorem silent_of_none {event : PendingEvent} (h : event.reports = none) (a : String) :
    event.reports ≠ some (id, a) := by
  rw [h]
  exact nofun

theorem fate_of_unchanged {db' : LabRecords} {event : PendingEvent}
    (silent : ∀ a, event.reports ≠ some (id, a)) (h : db'.store.find id = some lab) :
    ∃ lab', db'.store.find id = some lab' ∧ PendingFate event id lab lab' :=
  ⟨lab, h, .kept silent⟩

theorem fate_of_reports {db' : LabRecords} {event : PendingEvent} {labRecordId a : String}
    (hreport : event.reports = some (labRecordId, a)) (h : Reports db db' labRecordId)
    (hlab : db.store.find id = some lab) (hp : givenText lab.pendingAction = some p) :
    ∃ lab', db'.store.find id = some lab' ∧ PendingFate event id lab lab' := by
  rcases h.find hlab hp with ⟨rfl, lab', hlab', hdropped⟩ | ⟨hne, hsame⟩
  · exact ⟨lab', hlab', .reported a hreport hdropped⟩
  · refine fate_of_unchanged (fun a' heq => ?_) hsame
    rw [hreport] at heq
    exact hne (Prod.mk.inj (Option.some.inj heq)).1

/-- **The fate of a pending action**, whatever happens. -/
theorem pending_fate (event : PendingEvent) (hlab : db.store.find id = some lab)
    (hp : givenText lab.pendingAction = some p) :
    ∃ lab', (pendingStep db event).store.find id = some lab' ∧ PendingFate event id lab lab' := by
  obtain ⟨now, command, about⟩ := event
  cases command with
  -- the requests are refused
  | start labRecordId | stop labRecordId stopReason | wipe labRecordId | delete labRecordId =>
      exact fate_of_unchanged (silent_of_none rfl) (queueLabAction_find hlab hp)
  | control action workerKnown workerId labId | deleteLab workerKnown workerId labId =>
      exact fate_of_unchanged (silent_of_none rfl) (queueByLabId_find hlab hp)
  | complete newRunId request =>
      exact fate_of_reports rfl (completeLabAction_reports now newRunId db request) hlab hp
  | fail request => exact fate_of_reports rfl (failLabAction_reports now db request) hlab hp
  | timeoutStale updateRaises request =>
      obtain ⟨lab', hlab', rfl | ⟨at', hat, hstale⟩⟩ :=
        timeoutStalePendingActions_swept now updateRaises request id lab hlab
      · exact ⟨lab', hlab', .kept (silent_of_none rfl)⟩
      · exact ⟨lab', hlab', .timedOut (silent_of_none rfl)
          ⟨updateRaises, request, at', rfl, hat, hstale⟩⟩
  | clear labRecordId =>
      by_cases hid : labRecordId = id
      · subst hid
        obtain ⟨lab', hlab'⟩ := clearLabAction_find_self hlab
        exact ⟨lab', hlab', .cleared (silent_of_none rfl) rfl⟩
      · exact fate_of_unchanged (silent_of_none rfl) (clearLabAction_find hid hlab)

end Records

/-! ## §5. Runs. -/

/-- **A pending action is not lost** by an event: it is still there, or the event is a report
about it, a sweep it is stale for, or its clear; and a report about another action changes neither
the pending action nor the status. -/
def KeepsPending (db : LabRecords) (event : PendingEvent) : Prop :=
  ∀ id lab p, db.store.find id = some lab → givenText lab.pendingAction = some p →
    ∃ lab', (pendingStep db event).store.find id = some lab'
      ∧ (lab'.pendingAction = some p ∨ event.reports = some (id, p) ∨ event.TimesOut lab
        ∨ event.command = .clear id)
      ∧ ∀ a, event.reports = some (id, a) → a ≠ p →
          lab'.pendingAction = some p ∧ lab'.status = lab.status

/-- A report that arrives while an action is pending is about that action. -/
def ReportsPending (db : LabRecords) (event : PendingEvent) : Prop :=
  ∀ id a, event.reports = some (id, a) →
    ∀ lab p, db.store.find id = some lab → givenText lab.pendingAction = some p → a = p

/-- **One event** keeps the pending actions iff it is no report about another one. -/
theorem keepsPending_iff (db : LabRecords) (event : PendingEvent) :
    KeepsPending db event ↔ ReportsPending db event := by
  constructor
  · intro h id a hreport lab p hlab hp
    -- a report always drops the action, so that this one was its own
    by_contra hne
    obtain ⟨lab', hlab', -, hother⟩ := h id lab p hlab hp
    obtain ⟨hkept, -⟩ := hother a hreport hne
    obtain ⟨lab'', hlab'', hfate⟩ := pending_fate event hlab hp
    obtain rfl := Option.some.inj (hlab'.symm.trans hlab'')
    cases hfate with
    | kept silent | timedOut silent | cleared silent => exact silent a hreport
    | reported a' report dropped =>
        rw [dropped] at hkept
        cases hkept
  · intro h id lab p hlab hp
    obtain ⟨lab', hlab', hfate⟩ := pending_fate event hlab hp
    refine ⟨lab', hlab', ?_, ?_⟩
    · cases hfate with
      | kept silent => exact .inl (givenText_eq_some hp)
      | reported a report dropped =>
          rw [← h id a report lab p hlab hp]
          exact .inr (.inl report)
      | timedOut silent stale => exact .inr (.inr (.inl stale))
      | cleared silent clear => exact .inr (.inr (.inr clear))
    · intro a hreport hne
      exact absurd (h id a hreport lab p hlab hp) hne

/-- **Runs of events**: no pending action is lost iff every report that arrives while an action is
pending is about that action. -/
theorem keeps_pending_run_iff (db : LabRecords) (events : List PendingEvent) :
    (∀ before event after, events = before ++ event :: after →
        KeepsPending (replay pendingStep db before) event)
      ↔ Meets pendingStep ReportsPending db events := by
  rw [meets_iff]
  simp only [keepsPending_iff]

/-- A stopped lab. -/
def stoppedLab : LabRecord where
  id := "lab-record-1"
  id_given := labRecord1_given
  labId := "lab-1"
  workerId := "worker-1"
  status := .stopped

/-- A start that times out, and the stop requested after it. -/
def stopAfterTimeout : List PendingEvent :=
  [⟨0, .start stoppedLab.id, ""⟩, ⟨1860, .timeoutStale (fun _ => none) {}, ""⟩,
    ⟨1900, .stop stoppedLab.id, ""⟩]

/-- The completion of the start, when it arrives at last. -/
def lateCompletion : PendingEvent where
  now := 1910
  command := .complete ⟨"run-1", by decide⟩ ⟨stoppedLab.id, some "start", none⟩
  about := "start"

/-- **The late completion of the start consumes the stop.** -/
theorem late_completion_consumes_stop :
    ¬ ∀ (db : LabRecords) (events before : List PendingEvent) (event : PendingEvent)
        (after : List PendingEvent), events = before ++ event :: after →
        KeepsPending (replay pendingStep db before) event := by
  intro h
  have keeps := h (LabRecords.empty.save stoppedLab false) _ stopAfterTimeout lateCompletion [] rfl
  have hpending : ((replay pendingStep (LabRecords.empty.save stoppedLab false)
      stopAfterTimeout).store.find stoppedLab.id).map (·.pendingAction) = some (some "stop") := by
    decide +kernel
  have hgone : ((pendingStep (replay pendingStep (LabRecords.empty.save stoppedLab false)
      stopAfterTimeout) lateCompletion).store.find stoppedLab.id).map (·.pendingAction)
        = some none := by
    decide +kernel
  obtain ⟨lab, hlab, hstop⟩ := Option.map_eq_some_iff.mp hpending
  have hp : givenText lab.pendingAction = some "stop" := by
    rw [hstop]
    rfl
  obtain ⟨lab', hlab', -, hother⟩ := keeps stoppedLab.id lab "stop" hlab hp
  obtain ⟨hkept, -⟩ := hother "start" rfl (by decide)
  rw [hlab', Option.map_some, hkept] at hgone
  cases hgone

end CmlCloudManager.ControlPlane
