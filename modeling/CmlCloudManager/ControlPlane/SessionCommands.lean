/-
  CmlCloudManager.ControlPlane.SessionCommands
  ────────────────────────────────────────────
  **THE COMMANDS THAT PLACE AND RELEASE SESSIONS.**

  A command loads what it needs, changes one session, saves it, and then does its
  side effects on the worker and on the lab record:

    • `scheduleLabletSession`   — place a pending session and allocate its capacity,
    • `transitionLabletSession` — move on; STOPPING releases the capacity,
    • `expireLabletSession`, `terminateLabletSession`
                                — leave, release the capacity and unbind the lab,
    • `recalculateWorkerCapacity` — count a worker's capacity anew.

  What is released is what the definition asks for AT THE TIME OF THE RELEASE.
-/
import CmlCloudManager.ControlPlane.WorkerCapacity
import CmlCloudManager.ControlPlane.LabletDefinition

namespace CmlCloudManager.ControlPlane

open CmlCloudManager.Foundation
open CmlCloudManager.Pipeline

/-! ## §1. Lab records. -/

/-- `LabRecordStatus`. -/
inductive LabRecordStatus where
  | discovered
  | importing
  | defined
  | starting
  | queued
  | booted
  | paused
  | stopping
  | stopped
  | wiping
  | wiped
  | deleting
  | deleted
  | archived
  | error
  | orphaned
  deriving DecidableEq, Repr

/-- The value of the status, as it is stored. -/
def LabRecordStatus.value : LabRecordStatus → String
  | .discovered => "discovered"
  | .importing => "importing"
  | .defined => "defined"
  | .starting => "starting"
  | .queued => "queued"
  | .booted => "booted"
  | .paused => "paused"
  | .stopping => "stopping"
  | .stopped => "stopped"
  | .wiping => "wiping"
  | .wiped => "wiped"
  | .deleting => "deleting"
  | .deleted => "deleted"
  | .archived => "archived"
  | .error => "error"
  | .orphaned => "orphaned"

/-- Without a session there need be no binding. -/
theorem unbound_binding : (none : Option String).isSome → (none : Option String).isSome := id

/-- The binding and the pending action of `LabRecordState`.  Binding sets the session and
the binding id together, unbinding clears them together. -/
structure LabRecordState where
  id : String
  id_given : id ≠ ""
  labId : String := ""
  workerId : String := ""
  status : LabRecordStatus := .defined
  activeLabletSessionId : Option String := none
  activeBindingId : Option String := none
  binding : activeLabletSessionId.isSome → activeBindingId.isSome := by exact unbound_binding
  pendingAction : Option String := none

/-- The lab record repository. -/
abbrev LabRecordRepository : Type := Repository LabRecordState LabRecordState.id

namespace LabRecordState

/-- `LabRecord.is_terminal`. -/
def isTerminal (lab : LabRecordState) : Bool :=
  lab.status == .deleted || lab.status == .archived

/-- `LabRecord.bind_to_lablet`. -/
def bindToLablet (lab : LabRecordState) (labletSessionId bindingId : String) : LabRecordState :=
  { lab with
    activeLabletSessionId := some labletSessionId
    activeBindingId := some bindingId
    binding := fun _ => rfl }

/-- `LabRecord.unbind_from_lablet`: only if the binding id matches. -/
def unbindFromLablet (lab : LabRecordState) (bindingId : String) : LabRecordState :=
  if lab.activeBindingId = some bindingId then
    { lab with
      activeLabletSessionId := none
      activeBindingId := none
      binding := unbound_binding }
  else lab

/-- `LabRecord.request_wipe`. -/
def requestWipe (lab : LabRecordState) : LabRecordState :=
  { lab with pendingAction := some "wipe" }

end LabRecordState

/-- The answer of `WipeLabRecord`. -/
structure WipeLabRecordResult where
  labRecordId : String
  labId : String
  workerId : String
  action : String := "wipe"
  status : String := "pending"
  message : String := "Wipe queued for reconciliation"

/-- `WipeLabRecordCommandHandler.handle_async`. -/
def wipeLabRecord (labRecords : LabRecordRepository) (labRecordId : String) :
    OperationResult WipeLabRecordResult × LabRecordRepository :=
  match labRecords.find labRecordId with
  | none => (.notFound labRecordId, labRecords)
  | some lab =>
      match givenText lab.pendingAction with
      | some action =>
          (.conflict ("Lab already has pending action: " ++ action
            ++ ". Wait for it to complete or clear it first."), labRecords)
      | none =>
          if lab.isTerminal then
            (.badRequest ("Cannot wipe lab in terminal state: " ++ lab.status.value), labRecords)
          else
            (.ok { labRecordId := labRecordId, labId := lab.labId, workerId := lab.workerId },
              labRecords.save lab.requestWipe)

/-- `Unbind LabRecord (if bound)`, and whether it was. -/
def unbindLabRecord (labRecords : LabRecordRepository) (labRecordId sessionId : String) :
    Bool × LabRecordRepository :=
  match labRecords.find labRecordId with
  | none => (false, labRecords)
  | some lab =>
      if lab.activeLabletSessionId = some sessionId then
        (true, labRecords.save (lab.unbindFromLablet (lab.activeBindingId.getD "")))
      else (false, labRecords)

/-- `Queue wipe for the lab`, and whether it is queued. -/
def queueWipe (labRecords : LabRecordRepository) (labRecordId : String) :
    Bool × LabRecordRepository :=
  match labRecords.find labRecordId with
  | none => (false, labRecords)
  | some lab =>
      if lab.isTerminal = false ∧ givenText lab.pendingAction = none then
        let (result, labRecords) := wipeLabRecord labRecords labRecordId
        (result.isSuccess, labRecords)
      else (false, labRecords)

/-! ## §2. The database. -/

/-- The session repository. -/
abbrev LabletSessionRepository : Type := Repository LabletSessionState LabletSessionState.id

/-- The repositories of the control plane. -/
structure Store where
  sessions : LabletSessionRepository := Repository.empty
  workers : WorkerRepository := Repository.empty
  definitions : DefinitionRepository := Repository.empty
  labRecords : LabRecordRepository := Repository.empty

/-- The statuses, in the order of their definition. -/
def labletSessionStatuses : List LabletSessionStatus :=
  [.pending, .scheduled, .instantiating, .ready, .running, .collecting, .grading, .stopping,
    .stopped, .archived, .terminated, .expired]

/-- `LabletSessionStatus(value)`, in any case. -/
def LabletSessionStatus.parse (value : String) : Option LabletSessionStatus :=
  labletSessionStatuses.find? fun s => s.value == value.toLower

/-- What a release gives back for a session: the requirements of its definition, or zeros
when there is none. -/
def releaseCommand (definition : Option LabletDefinitionState) (workerId sessionId : String) :
    ReleaseCapacityCommand :=
  match definition with
  | some d =>
      { workerId := workerId
        sessionId := sessionId
        cpuCores := d.resourceRequirements.cpuCores
        memoryGb := d.resourceRequirements.memoryGb
        storageGb := d.resourceRequirements.storageGb }
  | none => { workerId := workerId, sessionId := sessionId }

/-- The definition, looked up when there is an id. -/
def givenDefinition (definitions : DefinitionRepository) (definitionId : String) :
    Option LabletDefinitionState :=
  if definitionId = "" then none else definitions.find definitionId

/-! ## §3. Schedule. -/

/-- `ScheduleLabletSessionCommand`. -/
structure ScheduleLabletSessionCommand where
  sessionId : String
  workerId : String
  allocatedPorts : Ports := Dict.empty
  labRecordId : String := ""
  scheduledBy : String := "resource-scheduler"

/-- The answer of `ScheduleLabletSession`. -/
structure ScheduleLabletSessionResult where
  sessionId : String
  workerId : String
  labRecordId : String
  status : LabletSessionStatus
  scheduledAt : Option Int
  capacityAllocated : Bool

/-- The requirements of a definition as a capacity, without a node count. -/
def ResourceRequirements.capacity (r : ResourceRequirements) : WorkerCapacity where
  cpuCores := r.cpuCores
  memoryGb := r.memoryGb
  storageGb := r.storageGb

/-- The allocation nested in the scheduling of a session. -/
def allocateCommand (r : ResourceRequirements) (workerId sessionId : String) :
    AllocateCapacityCommand where
  workerId := workerId
  sessionId := sessionId
  cpuCores := r.cpuCores
  memoryGb := r.memoryGb
  storageGb := r.storageGb

/-- `Validate session is PENDING`: the message of the conflict. -/
def notPending (session : LabletSessionState) : Option String :=
  if session.status ≠ .pending then
    some ("Cannot schedule session in " ++ session.status.value ++ " status (expected PENDING)")
  else none

/-- The capacity check on the worker that was read, and the scheduled session; or the answer. -/
def placeOn (c : Clock) (request : ScheduleLabletSessionCommand) (session : LabletSessionState)
    (worker : CMLWorkerState) (requirements : ResourceRequirements) :
    Except (OperationResult ScheduleLabletSessionResult) LabletSessionState :=
  match insufficientCapacity request.workerId worker requirements.capacity with
  | some message => .error (.conflict message)
  | none =>
      match outcome (schedule c request.workerId request.allocatedPorts request.labRecordId
          request.scheduledBy) session with
      -- not reached: a pending session can be scheduled
      | (.error e, _) => .error (.conflict e.message)
      | (.ok _, session) => .ok session

/-- The answer for a scheduled session. -/
def scheduledAnswer (request : ScheduleLabletSessionCommand) (session : LabletSessionState)
    (capacityAllocated : Bool) : OperationResult ScheduleLabletSessionResult :=
  .ok
    { sessionId := request.sessionId
      workerId := request.workerId
      labRecordId := request.labRecordId
      status := session.status
      scheduledAt := session.scheduledAt
      capacityAllocated := capacityAllocated }

/-- `ScheduleLabletSessionCommandHandler.handle_async`. -/
def scheduleLabletSession (c : Clock) (store : Store) (request : ScheduleLabletSessionCommand) :
    OperationResult ScheduleLabletSessionResult × Store :=
  match store.sessions.find request.sessionId with
  | none => (.notFound request.sessionId, store)
  | some session =>
      match notPending session with
      | some message => (.conflict message, store)
      | none =>
          match store.workers.find request.workerId with
          | none => (.notFound request.workerId, store)
          | some worker =>
              match notRunning request.workerId worker with
              | some message => (.conflict message, store)
              | none =>
                  match store.definitions.find session.definitionId with
                  | none => (.notFound session.definitionId, store)
                  | some definition =>
                      match placeOn c request session worker definition.resourceRequirements with
                      | .error answer => (answer, store)
                      | .ok session =>
                          let sessions := store.sessions.save session
                          -- best effort: the answer is ok whether this is granted or not
                          let (allocation, workers) := allocateCapacity c.now store.workers
                            (allocateCommand definition.resourceRequirements request.workerId
                              request.sessionId)
                          (scheduledAnswer request session allocation.isSuccess,
                            { store with sessions := sessions, workers := workers })

/-! ## §4. Transition, expire, terminate. -/

/-- `TransitionLabletSessionCommand`. -/
structure TransitionLabletSessionCommand where
  sessionId : String
  targetStatus : String
  reason : Option String := none

/-- The answer of `TransitionLabletSession`. -/
structure TransitionLabletSessionResult where
  sessionId : String
  previousStatus : LabletSessionStatus
  currentStatus : LabletSessionStatus
  reason : Option String
  capacityReleased : Option Bool

/-- The operation a target status stands for, or why there is none. -/
def transitionOperation (c : Clock) (reason : Option String) :
    LabletSessionStatus → Except String (SessionOp Unit)
  | .instantiating =>
      .error "Use POST /internal/lablet-sessions/{id}/start-instantiation instead."
  | .ready =>
      .error ("Transition to READY requires user_session_id and cml_lab_id. "
        ++ "Use POST /internal/lablet-sessions/{id}/mark-ready instead.")
  | .running => .ok (markRunning c)
  | .collecting => .ok (startCollection c)
  | .grading =>
      .error ("Transition to GRADING requires grading_session_id. "
        ++ "Use POST /internal/lablet-sessions/{id}/start-grading instead.")
  | .stopping => .ok (startStopping c reason)
  | .stopped => .ok (markStopped c)
  | .archived => .ok (archive c "lablet-controller")
  | .terminated => .error "Use POST /internal/lablet-sessions/{id}/terminate instead."
  | targetStatus =>
      .error ("Transition to " ++ targetStatus.value ++ " not supported via this endpoint")

/-- `TransitionLabletSessionCommandHandler.handle_async`. -/
def transitionLabletSession (c : Clock) (store : Store)
    (request : TransitionLabletSessionCommand) :
    OperationResult TransitionLabletSessionResult × Store :=
  match store.sessions.find request.sessionId with
  | none => (.notFound request.sessionId, store)
  | some session =>
      match LabletSessionStatus.parse request.targetStatus with
      | none =>
          (.badRequest ("Invalid target status: " ++ request.targetStatus ++ ". Valid values: ["
            ++ ", ".intercalate (labletSessionStatuses.map fun s => "'" ++ s.value ++ "'")
            ++ "]"), store)
      | some targetStatus =>
          let currentStatus := session.status
          match transitionOperation c request.reason targetStatus with
          | .error message => (.badRequest message, store)
          | .ok operation =>
              match outcome operation session with
              | (.error e, _) =>
                  (.conflict ("Cannot transition from " ++ currentStatus.value ++ " to "
                    ++ targetStatus.value ++ ": " ++ e.message), store)
              | (.ok _, session) =>
                  let store := { store with sessions := store.sessions.save session }
                  let answer := fun capacityReleased =>
                    OperationResult.ok
                      { sessionId := request.sessionId
                        previousStatus := currentStatus
                        currentStatus := session.status
                        reason := request.reason
                        capacityReleased := capacityReleased }
                  -- only the move to STOPPING releases; a failure of it leaves the answer ok
                  if targetStatus ≠ .stopping then (answer none, store)
                  else
                    match givenText session.workerId with
                    | none => (answer none, store)
                    | some workerId =>
                        let definition := givenDefinition store.definitions session.definitionId
                        let (released, workers) := releaseCapacity c.now store.workers
                          (releaseCommand definition workerId request.sessionId)
                        (answer (some released.isSuccess), { store with workers := workers })

/-- `ExpireLabletSessionCommand`. -/
structure ExpireLabletSessionCommand where
  sessionId : String
  reason : String := "timeslot_expired"

/-- The answer of `ExpireLabletSession`. -/
inductive ExpireLabletSessionResult where
  | alreadyExpired (sessionId : String)
  | expired (sessionId reason : String) (labRecordUnbound labWipeQueued capacityReleased : Bool)

/-- Unbind the lab record of a session and queue its wipe. -/
def cleanUpLabRecord (labRecords : LabRecordRepository) (labRecordId : Option String)
    (sessionId : String) : Bool × Bool × LabRecordRepository :=
  match givenText labRecordId with
  | none => (false, false, labRecords)
  | some labRecordId =>
      let (unbound, labRecords) := unbindLabRecord labRecords labRecordId sessionId
      let (wipeQueued, labRecords) := queueWipe labRecords labRecordId
      (unbound, wipeQueued, labRecords)

/-- `ExpireLabletSessionCommandHandler.handle_async`. -/
def expireLabletSession (c : Clock) (store : Store) (request : ExpireLabletSessionCommand) :
    OperationResult ExpireLabletSessionResult × Store :=
  match store.sessions.find request.sessionId with
  | none => (.notFound request.sessionId, store)
  | some session =>
      -- idempotent: a second expiry does not release again
      if session.status = .expired then (.ok (.alreadyExpired request.sessionId), store)
      else
        match outcome (expire c request.reason) session with
        | (.error e, _) => (.conflict ("Cannot expire session: " ++ e.message), store)
        | (.ok _, session) =>
            let sessions := store.sessions.save session
            let (unbound, wipeQueued, labRecords) :=
              cleanUpLabRecord store.labRecords session.labRecordId request.sessionId
            let (capacityReleased, workers) :=
              match givenText session.workerId with
              | none => (false, store.workers)
              | some workerId =>
                  let definition := givenDefinition store.definitions session.definitionId
                  let (released, workers) := releaseCapacity c.now store.workers
                    (releaseCommand definition workerId request.sessionId)
                  (released.isSuccess, workers)
            (.ok (.expired request.sessionId request.reason unbound wipeQueued capacityReleased),
              { store with sessions := sessions, workers := workers, labRecords := labRecords })

/-- `TerminateLabletSessionCommand`. -/
structure TerminateLabletSessionCommand where
  sessionId : String
  terminatedBy : String
  reason : Option String := none

/-- `TerminateLabletSessionDto`. -/
structure TerminateLabletSessionDto where
  id : String
  status : LabletSessionStatus
  terminatedAt : Option Int
  terminatedBy : String
  reason : Option String

/-- `LabletSession.can_be_terminated`. -/
def LabletSessionState.canBeTerminated (s : LabletSessionState) : Bool :=
  .terminated ∈ validTransitions s.status

/-- `Release ports if allocated`. -/
def releaseAllocatedPorts (c : Clock) : SessionOp Unit := do
  if ((← get).allocatedPorts.bind givenPorts).isSome then
    releasePorts c

/-- Release the ports and terminate. -/
def terminateOperation (c : Clock) (terminatedBy : String) (reason : Option String) :
    SessionOp Unit := do
  releaseAllocatedPorts c
  terminate c terminatedBy reason

/-- `TerminateLabletSessionCommandHandler.handle_async`. -/
def terminateLabletSession (c : Clock) (store : Store) (request : TerminateLabletSessionCommand) :
    OperationResult TerminateLabletSessionDto × Store :=
  if strip request.sessionId = "" then (.badRequest "Session ID is required", store)
  else if strip request.terminatedBy = "" then (.badRequest "Terminated by is required", store)
  else
    match store.sessions.find (strip request.sessionId) with
    | none => (.notFound request.sessionId, store)
    | some session =>
        if session.status = .terminated then
          (.conflict ("LabletSession '" ++ request.sessionId ++ "' is already terminated"), store)
        else if ¬ session.canBeTerminated then
          (.conflict ("LabletSession '" ++ request.sessionId
            ++ "' cannot be terminated from current status '" ++ session.status.value ++ "'"),
            store)
        else
          match outcome (terminateOperation c (strip request.terminatedBy) request.reason)
              session with
          | (.error e, _) => (.conflict e.message, store)
          | (.ok _, session) =>
              let sessions := store.sessions.save session
              let workers :=
                match givenText session.workerId with
                | none => store.workers
                | some workerId =>
                    let definition := store.definitions.find session.definitionId
                    (releaseCapacity c.now store.workers
                      (releaseCommand definition workerId session.id)).2
              let (_, _, labRecords) :=
                cleanUpLabRecord store.labRecords session.labRecordId session.id
              (.ok
                { id := session.id
                  status := session.status
                  terminatedAt := session.terminatedAt
                  terminatedBy := strip request.terminatedBy
                  reason := request.reason },
                { store with sessions := sessions, workers := workers, labRecords := labRecords })

/-! ## §5. The commands that only move a session. -/

/-- The answer of a command that only moves a session. -/
structure SessionMoveResult where
  sessionId : String
  status : LabletSessionStatus

/-- Load, apply the operation, save. -/
def moveSession (store : Store) (sessionId : String) (operation : SessionOp Unit) :
    OperationResult SessionMoveResult × Store :=
  match store.sessions.find sessionId with
  | none => (.notFound sessionId, store)
  | some session =>
      match outcome operation session with
      | (.error e, _) => (.conflict ("Invalid state transition: " ++ e.message), store)
      | (.ok _, session) =>
          (.ok { sessionId := sessionId, status := session.status },
            { store with sessions := store.sessions.save session })

/-- `StartInstantiationCommandHandler.handle_async`. -/
def startInstantiationCommand (c : Clock) (store : Store) (sessionId : String) :
    OperationResult SessionMoveResult × Store :=
  moveSession store sessionId (startInstantiation c)

/-- `MarkSessionReadyCommandHandler.handle_async`. -/
def markSessionReady (c : Clock) (store : Store) (sessionId userSessionId cmlLabId : String) :
    OperationResult SessionMoveResult × Store :=
  moveSession store sessionId (markReady c userSessionId cmlLabId)

/-- `AssessmentCollectionCompletedHandler`: a collecting session is graded. -/
def assessmentCollectionCompleted (c : Clock) (store : Store)
    (sessionId gradingSessionId : String) : Store :=
  match store.sessions.find sessionId with
  | none => store
  | some session =>
      if session.status ≠ .collecting then store
      else (moveSession store sessionId (startGrading c gradingSessionId)).2

/-! ## §6. Recalculate. -/

/-- `CAPACITY_HOLDING_STATUSES`. -/
def capacityHoldingStatuses : List LabletSessionStatus :=
  [.pending, .scheduled, .instantiating, .ready, .running, .collecting, .grading, .stopping]

/-- The session is there, in a status that holds capacity. -/
def Store.holdsCapacity (store : Store) (sessionId : String) : Bool :=
  match store.sessions.find sessionId with
  | some session => session.status ∈ capacityHoldingStatuses
  | none => false

/-- The lists and totals of a recalculation. -/
structure Recalculation where
  activeSessionIds : List String := []
  staleSessionIds : List String := []
  staleReasons : Dict String String := Dict.empty
  totalCpu : Nat := 0
  totalMemory : Nat := 0
  totalStorage : Nat := 0
  totalNodes : Option Nat := none

/-- The id counts as active. -/
def Recalculation.addActive (acc : Recalculation) (sessionId : String)
    (definition : Option LabletDefinitionState) : Recalculation :=
  match definition with
  | none => { acc with activeSessionIds := acc.activeSessionIds ++ [sessionId] }
  | some d =>
      { acc with
        activeSessionIds := acc.activeSessionIds ++ [sessionId]
        totalCpu := acc.totalCpu + d.resourceRequirements.cpuCores
        totalMemory := acc.totalMemory + d.resourceRequirements.memoryGb
        totalStorage := acc.totalStorage + d.resourceRequirements.storageGb
        totalNodes :=
          match d.nodeCount with
          | some nodes => some (acc.totalNodes.getD 0 + nodes)
          | none => acc.totalNodes }

/-- The id counts as stale. -/
def Recalculation.addStale (acc : Recalculation) (sessionId reason : String) : Recalculation :=
  { acc with
    staleSessionIds := acc.staleSessionIds ++ [sessionId]
    staleReasons := acc.staleReasons.set sessionId reason }

/-- One tracked id is looked up and classified. -/
def Recalculation.visit (store : Store) (acc : Recalculation) (sessionId : String) :
    Recalculation :=
  match store.sessions.find sessionId with
  | none => acc.addStale sessionId "session_not_found"
  | some session =>
      if session.status ∉ capacityHoldingStatuses then
        acc.addStale sessionId ("terminal_status:" ++ session.status.value)
      else acc.addActive sessionId (givenDefinition store.definitions session.definitionId)

/-- All tracked ids, one after the other. -/
def recalculation (store : Store) (sessionIds : List String) : Recalculation :=
  sessionIds.foldl (Recalculation.visit store) {}

/-- The totals as a capacity. -/
def Recalculation.capacity (r : Recalculation) : WorkerCapacity where
  cpuCores := r.totalCpu
  memoryGb := r.totalMemory
  storageGb := r.totalStorage
  maxNodes := r.totalNodes

@[simp] theorem addActive_activeSessionIds (acc : Recalculation) (sessionId : String)
    (definition : Option LabletDefinitionState) :
    (acc.addActive sessionId definition).activeSessionIds
      = acc.activeSessionIds ++ [sessionId] := by
  cases definition <;> rfl

theorem foldl_visit_activeSessionIds (store : Store) (sessionIds : List String)
    (acc : Recalculation) :
    (sessionIds.foldl (Recalculation.visit store) acc).activeSessionIds
      = acc.activeSessionIds ++ sessionIds.filter store.holdsCapacity := by
  induction sessionIds generalizing acc with
  | nil => simp
  | cons sessionId rest ih =>
      rw [List.foldl_cons, ih]
      unfold Recalculation.visit
      cases hfind : store.sessions.find sessionId with
      | none =>
          have hholds : store.holdsCapacity sessionId = false := by
            unfold Store.holdsCapacity
            rw [hfind]
          rw [List.filter_cons_of_neg (by simp [hholds])]
          rfl
      | some session =>
          have hholds : store.holdsCapacity sessionId
              = decide (session.status ∈ capacityHoldingStatuses) := by
            unfold Store.holdsCapacity
            rw [hfind]
          by_cases hstatus : session.status ∈ capacityHoldingStatuses
          · rw [List.filter_cons_of_pos (by simp [hholds, hstatus])]
            simp [hstatus]
          · rw [List.filter_cons_of_neg (by simp [hholds, hstatus])]
            simp only [if_pos hstatus]
            rfl

/-- The active ids are the tracked ones that hold capacity, in their order. -/
theorem recalculation_activeSessionIds (store : Store) (sessionIds : List String) :
    (recalculation store sessionIds).activeSessionIds = sessionIds.filter store.holdsCapacity :=
  foldl_visit_activeSessionIds store sessionIds {}

/-- The answer of `RecalculateWorkerCapacity`. -/
structure RecalculateWorkerCapacityResult where
  workerId : String
  oldAllocatedCapacity : WorkerCapacity
  newAllocatedCapacity : WorkerCapacity
  availableCapacity : Option WorkerCapacity
  activeSessionIds : List String
  staleSessionsRemoved : List String
  staleReasons : Dict String String
  requestedBy : String

/-- The worker with its sessions counted anew. -/
def CMLWorkerState.recounted (worker : CMLWorkerState) (store : Store) (now : Int) :
    CMLWorkerState :=
  let r := recalculation store worker.sessionIds
  worker.recalculated r.capacity r.activeSessionIds
    (by
      rw [recalculation_activeSessionIds]
      exact List.filter_sublist) now

/-- `RecalculateWorkerCapacityCommandHandler.handle_async`. -/
def recalculateWorkerCapacity (now : Int) (store : Store) (workerId : String)
    (requestedBy : String := "system") :
    OperationResult RecalculateWorkerCapacityResult × Store :=
  match store.workers.find workerId with
  | none => (.notFound workerId, store)
  | some worker =>
      let r := recalculation store worker.sessionIds
      let recounted := worker.recounted store now
      (.ok
        { workerId := workerId
          oldAllocatedCapacity := worker.allocatedCapacity
          newAllocatedCapacity := recounted.allocatedCapacity
          availableCapacity := recounted.availableCapacity
          activeSessionIds := r.activeSessionIds
          staleSessionsRemoved := r.staleSessionIds
          staleReasons := r.staleReasons
          requestedBy := requestedBy },
        { store with workers := store.workers.save recounted })

end CmlCloudManager.ControlPlane
