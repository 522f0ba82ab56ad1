/-
  CmlCloudManager.ControlPlane.LabletSession
  ──────────────────────────────────────────
  **THE LABLET SESSION AGGREGATE.**

  One session goes from its reservation to its termination through the statuses
  of `LabletSessionStatus`; `validTransitions` is the table of the moves that are
  allowed.  The aggregate's operations share one shape:

    1. check the arguments or the transition, and raise if they are refused,
    2. build a domain event and hand it to `LabletSessionState.on`,
    3. `on` assigns the fields and, when the status changes, records the
       transition in `state_history`.

  An operation that raises keeps what it has assigned so far, as in Python:
  `SessionOp` is a state monad UNDER an exception, so that "a refused operation
  changes nothing" is a theorem about the order of these steps.

  Clock readings are arguments: `now` stamps the event, `recorded` is the later
  reading that `_record_transition` takes.
-/
import CmlCloudManager.Pipeline.Progress

namespace CmlCloudManager.ControlPlane

open CmlCloudManager.Foundation
open CmlCloudManager.Pipeline

/-! ## §1. Statuses and transitions. -/

/-- `LabletSessionStatus`. -/
inductive LabletSessionStatus where
  | pending
  | scheduled
  | instantiating
  | ready
  | running
  | collecting
  | grading
  | stopping
  | stopped
  | archived
  | terminated
  | expired
  deriving DecidableEq, Repr

/-- The value of the status, as it is stored. -/
def LabletSessionStatus.value : LabletSessionStatus → String
  | .pending => "pending"
  | .scheduled => "scheduled"
  | .instantiating => "instantiating"
  | .ready => "ready"
  | .running => "running"
  | .collecting => "collecting"
  | .grading => "grading"
  | .stopping => "stopping"
  | .stopped => "stopped"
  | .archived => "archived"
  | .terminated => "terminated"
  | .expired => "expired"

/-- `LABLET_SESSION_VALID_TRANSITIONS`. -/
def validTransitions : LabletSessionStatus → List LabletSessionStatus
  | .pending => [.scheduled, .terminated]
  | .scheduled => [.instantiating, .terminated]
  | .instantiating => [.ready, .expired, .terminated]
  | .ready => [.running, .expired, .terminated]
  | .running => [.collecting, .stopping, .expired, .terminated]
  | .collecting => [.grading, .stopping, .expired, .terminated]
  | .grading => [.stopping, .expired, .terminated]
  -- the teardown pipeline goes from STOPPING to ARCHIVED and skips STOPPED
  | .stopping => [.stopped, .archived, .terminated]
  | .stopped => [.archived, .terminated]
  | .archived => [.terminated]
  | .terminated => []
  | .expired => [.stopping, .terminated]

/-! ## §2. Value objects. -/

/-- What an operation raises. -/
inductive OperationError where
  | invalidStateTransition (fromState toState : LabletSessionStatus) (message : String)
  | valueError (message : String)

/-- The message of an exception. -/
def OperationError.message : OperationError → String
  | .invalidStateTransition _ _ message => message
  | .valueError message => message

/-- `Timeslot`: the execution window with its margins, in seconds. -/
structure Timeslot where
  start : Int
  stop : Int
  leadTime : Int := 900
  teardownBuffer : Int := 600
  start_lt_stop : start < stop
  leadTime_nonneg : 0 ≤ leadTime
  teardownBuffer_nonneg : 0 ≤ teardownBuffer

/-- The constructor with its `__post_init__`. -/
def Timeslot.make (start stop leadTime teardownBuffer : Int) : Except OperationError Timeslot :=
  if h : start < stop then
    if hl : 0 ≤ leadTime then
      if ht : 0 ≤ teardownBuffer then
        .ok ⟨start, stop, leadTime, teardownBuffer, h, hl, ht⟩
      else
        .error (.valueError
          ("teardown_buffer must be non-negative, got " ++ toString teardownBuffer))
    else .error (.valueError ("lead_time must be non-negative, got " ++ toString leadTime))
  else
    .error (.valueError
      ("end (" ++ toString stop ++ ") must be after start (" ++ toString start ++ ")"))

/-- `Timeslot.extend`. -/
def Timeslot.extend (ts : Timeslot) (newEnd : Int) : Except OperationError Timeslot :=
  if newEnd ≤ ts.stop then
    .error (.valueError ("new_end (" ++ toString newEnd ++ ") must be after current end ("
      ++ toString ts.stop ++ ")"))
  else Timeslot.make ts.start newEnd ts.leadTime ts.teardownBuffer

/-- `StateTransition`, an entry of `state_history`. -/
structure StateTransition where
  fromState : Option LabletSessionStatus
  toState : LabletSessionStatus
  transitionedAt : Int
  triggeredBy : String
  reason : Option String := none
  metadata : Option Payload := none

/-- Allocated or observed ports: port name to port number. -/
abbrev Ports : Type := Dict String Int

/-- The ports as a JSON value. -/
def Ports.toValue (ports : Ports) : Value :=
  .dict (ports.entries.map fun e => (e.1, .int e.2))

/-- The two clock readings of an operation. -/
structure Clock where
  now : Int
  recorded : Int := now

/-! ## §3. The state and its event handlers. -/

/-- `LabletSessionState`. -/
structure LabletSessionState where
  id : String := ""
  definitionId : String := ""
  definitionName : String := ""
  definitionVersion : String := ""
  ownerId : String := ""
  reservationId : Option String := none
  status : LabletSessionStatus := .pending
  desiredStatus : LabletSessionStatus := .running
  stateHistory : List StateTransition := []
  workerId : Option String := none
  labRecordId : Option String := none
  cmlLabId : Option String := none
  cmlLabTitle : Option String := none
  allocatedPorts : Option Ports := none
  userSessionId : Option String := none
  gradingSessionId : Option String := none
  scoreReportId : Option String := none
  gradeResult : Option String := none
  timeslot : Option Timeslot := none
  createdAt : Int
  updatedAt : Int
  scheduledAt : Option Int := none
  startedAt : Option Int := none
  endedAt : Option Int := none
  durationSeconds : Option Int := none
  terminatedAt : Option Int := none
  observedResources : Option Payload := none
  observedPorts : Option Ports := none
  portDriftDetected : Bool := false
  observationCount : Nat := 0
  observedAt : Option Int := none
  pipelineProgress : Option (Dict String Progress) := none

/-- `timeslot_end`: the end of the timeslot, or the creation time without one. -/
def LabletSessionState.timeslotEnd (s : LabletSessionState) : Int :=
  match s.timeslot with
  | some ts => ts.stop
  | none => s.createdAt

/-- The domain events of the aggregate, with what their handlers read. -/
inductive SessionEvent where
  | created (aggregateId definitionId definitionName definitionVersion ownerId : String)
      (timeslotStart timeslotEnd : Int) (reservationId : Option String) (createdAt : Int)
  | scheduled (workerId : String) (allocatedPorts : Ports) (labRecordId : String)
      (scheduledAt : Int) (scheduledBy : String)
  | instantiating
  | ready (userSessionId cmlLabId : String)
  | running (startedAt : Int)
  | collecting
  | grading (gradingSessionId : String)
  | scoreRecorded (scoreReportId gradeResult : String)
  | stopping (reason : Option String)
  | stopped (stoppedAt : Int)
  | archived (archivedBy : String)
  | terminated (terminatedAt : Int) (terminatedBy : String) (reason : Option String)
  | portsReleased
  | timeslotExtended (newTimeslotEnd : Int)
  | requeued (requeuedBy : String) (reason : Option String)
  | resourcesObserved (observedResources : Payload) (observedPorts : Ports)
      (portDriftDetected : Bool) (observedAt : Int)
  | portDriftDetected
  | observeResourcesRequested (requestedAt : Int)
  | pipelineProgressUpdated (pipelineName : String) (progressData : Progress)
  | desiredStatusUpdated (newDesiredStatus : LabletSessionStatus)
  | expired (expiredAt : Int) (reason : String)
  | labBound (labRecordId : String) (allocatedPorts : Ports) (cmlLabId cmlLabTitle : Option String)

/-- An operation: it may raise, and keeps the assignments made before that. -/
abbrev SessionOp : Type → Type := ExceptT OperationError (StateM LabletSessionState)

/-- `_record_transition`. -/
def recordTransition (c : Clock) (fromState : Option LabletSessionStatus)
    (toState : LabletSessionStatus) (triggeredBy : String) (reason : Option String)
    (metadata : Option Payload) : SessionOp Unit :=
  modify fun s =>
    { s with
      stateHistory := s.stateHistory ++
        [{ fromState := fromState
           toState := toState
           transitionedAt := c.recorded
           triggeredBy := triggeredBy
           reason := reason
           metadata := metadata }]
      updatedAt := c.recorded }

/-- The handlers that change the status: assign the event's fields and the status, then
record the transition from the old one. -/
def applyTransition (c : Clock) (assign : LabletSessionState → LabletSessionState)
    (toState : LabletSessionStatus) (triggeredBy : String) (reason : Option String)
    (metadata : Option Payload := none) : SessionOp Unit := do
  let oldStatus := (← get).status
  modify assign
  modify fun s => { s with status := toState }
  recordTransition c (some oldStatus) toState triggeredBy reason metadata

/-- `_compute_duration`. -/
def LabletSessionState.computeDuration (s : LabletSessionState) : LabletSessionState :=
  match s.startedAt, s.endedAt with
  | some start, some stop => { s with durationSeconds := some (stop - start) }
  | _, _ => s

/-- A string that is given and not empty (`if value:`). -/
def givenText : Option String → Option String
  | some t => if t = "" then none else some t
  | none => none

theorem givenText_some {text : String} (h : text ≠ "") : givenText (some text) = some text := by
  unfold givenText
  simp [h]

theorem givenText_eq_some {value : Option String} {t : String} (h : givenText value = some t) :
    value = some t := by
  unfold givenText at h
  split at h
  next t' =>
    split at h
    next => cases h
    next => exact h
  next => cases h

/-- `dict(ports) if ports else None`. -/
def givenPorts (ports : Ports) : Option Ports := if ports.isEmpty then none else some ports

/-- `LabletSessionState.on`. -/
def LabletSessionState.on (c : Clock) : SessionEvent → SessionOp Unit
  | .created aggregateId definitionId definitionName definitionVersion ownerId
      timeslotStart timeslotEnd reservationId createdAt => do
      modify fun s =>
        { s with
          id := aggregateId
          definitionId := definitionId
          definitionName := definitionName
          definitionVersion := definitionVersion
          ownerId := ownerId
          reservationId := reservationId
          createdAt := createdAt
          updatedAt := createdAt
          status := .pending
          desiredStatus := .running }
      -- the margins are the defaults of `Timeslot`; this can raise after the assignments above
      let ts ← liftExcept (Timeslot.make timeslotStart timeslotEnd 900 600)
      modify fun s => { s with timeslot := some ts, updatedAt := c.recorded }
      recordTransition c none .pending "system" (some "Session created") none
  | .scheduled workerId allocatedPorts labRecordId scheduledAt scheduledBy =>
      applyTransition c
        (fun s =>
          { s with
            workerId := some workerId
            allocatedPorts := some allocatedPorts
            labRecordId := some labRecordId
            scheduledAt := some scheduledAt })
        .scheduled scheduledBy (some ("Scheduled on worker " ++ workerId))
        (some (Dict.ofList
          [("allocated_ports", allocatedPorts.toValue), ("lab_record_id", .str labRecordId)]))
  | .instantiating =>
      applyTransition c (fun s => s) .instantiating "lablet-controller"
        (some "Lab import/startup initiated")
  | .ready userSessionId cmlLabId =>
      applyTransition c
        (fun s => { s with userSessionId := some userSessionId, cmlLabId := some cmlLabId })
        .ready "lablet-controller" (some "Infrastructure ready, UserSession provisioned")
        (some (Dict.ofList
          [("user_session_id", .str userSessionId), ("cml_lab_id", .str cmlLabId)]))
  | .running startedAt =>
      applyTransition c (fun s => { s with startedAt := some startedAt })
        .running "lds-event" (some "User logged in, session active")
  | .collecting =>
      applyTransition c (fun s => s) .collecting "lablet-controller"
        (some "Assessment data collection started")
  | .grading gradingSessionId =>
      applyTransition c (fun s => { s with gradingSessionId := some gradingSessionId })
        .grading "lablet-controller" (some "Grading started")
        (some (Dict.ofList [("grading_session_id", .str gradingSessionId)]))
  | .scoreRecorded scoreReportId gradeResult =>
      modify fun s =>
        { s with scoreReportId := some scoreReportId, gradeResult := some gradeResult }
  | .stopping reason =>
      applyTransition c (fun s => s) .stopping "lablet-controller"
        (some ((givenText reason).getD "Session shutdown initiated"))
  | .stopped stoppedAt =>
      applyTransition c
        (fun s => LabletSessionState.computeDuration { s with endedAt := some stoppedAt })
        .stopped "lablet-controller" (some "Session stopped")
  | .archived archivedBy =>
      applyTransition c (fun s => s) .archived archivedBy (some "Session archived")
  | .terminated terminatedAt terminatedBy reason =>
      applyTransition c
        (fun s =>
          -- ended_at and the duration are kept when they are there already
          let s :=
            { s with
              terminatedAt := some terminatedAt
              desiredStatus := .terminated
              endedAt := s.endedAt.or (some terminatedAt) }
          if s.durationSeconds.isNone then s.computeDuration else s)
        .terminated terminatedBy (some ((givenText reason).getD "Session terminated"))
  | .portsReleased => modify fun s => { s with allocatedPorts := none }
  | .timeslotExtended newTimeslotEnd => do
      match (← get).timeslot with
      | none => pure ()
      | some current =>
          -- `extend` raises before anything is assigned
          let ts ← liftExcept (current.extend newTimeslotEnd)
          modify fun s => { s with timeslot := some ts, updatedAt := c.recorded }
  | .requeued requeuedBy reason => do
      -- the one entry of the history that does not change the status
      let status := (← get).status
      recordTransition c (some status) status requeuedBy
        (some ((givenText reason).getD "Manual requeue for reconciliation"))
        (some (Dict.ofList [("requeue", .bool true)]))
  | .resourcesObserved observedResources observedPorts portDriftDetected observedAt =>
      modify fun s =>
        { s with
          observedResources := some observedResources
          observedPorts := some observedPorts
          portDriftDetected := portDriftDetected
          observationCount := s.observationCount + 1
          observedAt := some observedAt }
  | .portDriftDetected => pure ()
  | .observeResourcesRequested requestedAt => modify fun s => { s with updatedAt := requestedAt }
  | .pipelineProgressUpdated pipelineName progressData =>
      modify fun s =>
        { s with
          pipelineProgress :=
            some ((s.pipelineProgress.getD Dict.empty).set pipelineName progressData) }
  | .desiredStatusUpdated newDesiredStatus =>
      modify fun s => { s with desiredStatus := newDesiredStatus }
  | .expired expiredAt reason =>
      applyTransition c
        (fun s => LabletSessionState.computeDuration { s with endedAt := some expiredAt })
        .expired "system" (some ((givenText (some reason)).getD "Timeslot expired"))
  | .labBound labRecordId allocatedPorts cmlLabId cmlLabTitle =>
      modify fun s =>
        { s with
          labRecordId := some labRecordId
          allocatedPorts := givenPorts allocatedPorts
          cmlLabId := (givenText cmlLabId).or s.cmlLabId
          cmlLabTitle := (givenText cmlLabTitle).or s.cmlLabTitle }

/-! ## §4. The operations. -/

/-- `_validate_transition`. -/
def validateTransition (toState : LabletSessionStatus) : SessionOp Unit := do
  let status := (← get).status
  if toState ∈ validTransitions status then pure ()
  else
    throw (.invalidStateTransition status toState
      ("Invalid transition from " ++ status.value ++ " to " ++ toState.value))

/-- The operations that change the status: validate, then apply the event. -/
def transitionBy (c : Clock) (toState : LabletSessionStatus) (event : SessionEvent) :
    SessionOp Unit := do
  validateTransition toState
  LabletSessionState.on c event

/-- `LabletSession.schedule`. -/
def schedule (c : Clock) (workerId : String) (allocatedPorts : Ports) (labRecordId : String)
    (scheduledBy : String) : SessionOp Unit :=
  transitionBy c .scheduled (.scheduled workerId allocatedPorts labRecordId c.now scheduledBy)

/-- `LabletSession.start_instantiation`. -/
def startInstantiation (c : Clock) : SessionOp Unit :=
  transitionBy c .instantiating .instantiating

/-- `LabletSession.mark_ready`. -/
def markReady (c : Clock) (userSessionId cmlLabId : String) : SessionOp Unit :=
  transitionBy c .ready (.ready userSessionId cmlLabId)

/-- `LabletSession.mark_running`. -/
def markRunning (c : Clock) : SessionOp Unit :=
  transitionBy c .running (.running c.now)

/-- `LabletSession.start_collection`. -/
def startCollection (c : Clock) : SessionOp Unit :=
  transitionBy c .collecting .collecting

/-- `LabletSession.start_grading`. -/
def startGrading (c : Clock) (gradingSessionId : String) : SessionOp Unit :=
  transitionBy c .grading (.grading gradingSessionId)

/-- `LabletSession.record_score`. -/
def recordScore (c : Clock) (scoreReportId gradeResult : String) : SessionOp Unit :=
  LabletSessionState.on c (.scoreRecorded scoreReportId gradeResult)

/-- `LabletSession.start_stopping`. -/
def startStopping (c : Clock) (reason : Option String) : SessionOp Unit :=
  transitionBy c .stopping (.stopping reason)

/-- `LabletSession.mark_stopped`. -/
def markStopped (c : Clock) : SessionOp Unit :=
  transitionBy c .stopped (.stopped c.now)

/-- `LabletSession.archive`. -/
def archive (c : Clock) (archivedBy : String) : SessionOp Unit :=
  transitionBy c .archived (.archived archivedBy)

/-- `LabletSession.terminate`. -/
def terminate (c : Clock) (terminatedBy : String) (reason : Option String) : SessionOp Unit :=
  transitionBy c .terminated (.terminated c.now terminatedBy reason)

/-- `LabletSession.expire`. -/
def expire (c : Clock) (reason : String) : SessionOp Unit :=
  transitionBy c .expired (.expired c.now reason)

/-- `LabletSession.release_ports`. -/
def releasePorts (c : Clock) : SessionOp Unit := do
  let s ← get
  if (givenText s.workerId).isSome ∧ (s.allocatedPorts.bind givenPorts).isSome then
    LabletSessionState.on c .portsReleased

/-- `LabletSession.extend_timeslot`. -/
def extendTimeslot (c : Clock) (newEnd : Int) : SessionOp Unit := do
  if newEnd ≤ (← get).timeslotEnd then
    throw (.valueError "new_end must be after current timeslot_end")
  LabletSessionState.on c (.timeslotExtended newEnd)

/-- `LabletSession.requeue`. -/
def requeue (c : Clock) (requeuedBy : String) (reason : Option String) : SessionOp Unit := do
  let status := (← get).status
  if status = .terminated ∨ status = .archived then
    throw (.invalidStateTransition status status
      ("Cannot requeue a session in " ++ status.value ++ " state"))
  LabletSessionState.on c (.requeued requeuedBy reason)

/-- The ports differ, when both sides have any. -/
def portDrift (allocated observed : Ports) : Bool :=
  !allocated.isEmpty && !observed.isEmpty &&
    (observed.entries.any (fun e => allocated.get? e.1 != some e.2)
      || allocated.entries.any (fun e => !observed.contains e.1))

/-- `LabletSession.record_resource_observation`. -/
def recordResourceObservation (c : Clock) (observedResources : Payload) (observedPorts : Ports) :
    SessionOp Unit := do
  let allocated := (← get).allocatedPorts.getD Dict.empty
  let drift := portDrift allocated observedPorts
  LabletSessionState.on c (.resourcesObserved observedResources observedPorts drift c.now)
  if drift then
    LabletSessionState.on c .portDriftDetected

/-- `LabletSession.request_resource_observation`. -/
def requestResourceObservation (c : Clock) : SessionOp Unit :=
  LabletSessionState.on c (.observeResourcesRequested c.now)

/-- `LabletSession.update_pipeline_progress`. -/
def updatePipelineProgress (c : Clock) (pipelineName : String) (progressData : Progress) :
    SessionOp Unit :=
  LabletSessionState.on c (.pipelineProgressUpdated pipelineName progressData)

/-- `LabletSession.update_desired_status`: whether the desired status changed. -/
def updateDesiredStatus (c : Clock) (newDesiredStatus : LabletSessionStatus) :
    SessionOp Bool := do
  if (← get).desiredStatus = newDesiredStatus then return false
  LabletSessionState.on c (.desiredStatusUpdated newDesiredStatus)
  return true

/-- `LabletSession.bind_lab`. -/
def bindLab (c : Clock) (labRecordId : String) (allocatedPorts : Option Ports)
    (cmlLabId cmlLabTitle : Option String) : SessionOp Unit :=
  LabletSessionState.on c
    (.labBound labRecordId (allocatedPorts.getD Dict.empty) cmlLabId cmlLabTitle)

/-- The arguments of `LabletSession.create`. -/
structure CreateArgs where
  definitionId : String
  definitionName : String := ""
  definitionVersion : String := ""
  ownerId : String := ""
  timeslotStart : Int
  timeslotEnd : Int
  reservationId : Option String := none

/-- `LabletSession.create`; the start may lie five minutes back. -/
def LabletSessionState.create (c : Clock) (newId : String) (args : CreateArgs) :
    Except OperationError LabletSessionState :=
  if args.timeslotEnd ≤ args.timeslotStart then
    .error (.valueError "timeslot_end must be after timeslot_start")
  else if args.timeslotStart < c.now - 300 then
    .error (.valueError "timeslot_start cannot be in the past")
  else
    match (LabletSessionState.on c (.created newId args.definitionId args.definitionName
        args.definitionVersion args.ownerId args.timeslotStart args.timeslotEnd
        args.reservationId c.now)).run.run { createdAt := c.now, updatedAt := c.now } with
    | (.ok _, s) => .ok s
    | (.error e, _) => .error e

/-- The public operations of a session. -/
inductive SessionOperation where
  | schedule (workerId : String) (allocatedPorts : Ports) (labRecordId scheduledBy : String)
  | startInstantiation
  | markReady (userSessionId cmlLabId : String)
  | markRunning
  | startCollection
  | startGrading (gradingSessionId : String)
  | recordScore (scoreReportId gradeResult : String)
  | startStopping (reason : Option String)
  | markStopped
  | archive (archivedBy : String)
  | terminate (terminatedBy : String) (reason : Option String)
  | expire (reason : String)
  | releasePorts
  | extendTimeslot (newEnd : Int)
  | requeue (requeuedBy : String) (reason : Option String)
  | recordResourceObservation (observedResources : Payload) (observedPorts : Ports)
  | requestResourceObservation
  | updatePipelineProgress (pipelineName : String) (progressData : Progress)
  | updateDesiredStatus (newDesiredStatus : LabletSessionStatus)
  | bindLab (labRecordId : String) (allocatedPorts : Option Ports)
      (cmlLabId cmlLabTitle : Option String)

/-- Call an operation. -/
def perform (c : Clock) : SessionOperation → SessionOp Unit
  | .schedule workerId allocatedPorts labRecordId scheduledBy =>
      ControlPlane.schedule c workerId allocatedPorts labRecordId scheduledBy
  | .startInstantiation => ControlPlane.startInstantiation c
  | .markReady userSessionId cmlLabId => ControlPlane.markReady c userSessionId cmlLabId
  | .markRunning => ControlPlane.markRunning c
  | .startCollection => ControlPlane.startCollection c
  | .startGrading gradingSessionId => ControlPlane.startGrading c gradingSessionId
  | .recordScore scoreReportId gradeResult => ControlPlane.recordScore c scoreReportId gradeResult
  | .startStopping reason => ControlPlane.startStopping c reason
  | .markStopped => ControlPlane.markStopped c
  | .archive archivedBy => ControlPlane.archive c archivedBy
  | .terminate terminatedBy reason => ControlPlane.terminate c terminatedBy reason
  | .expire reason => ControlPlane.expire c reason
  | .releasePorts => ControlPlane.releasePorts c
  | .extendTimeslot newEnd => ControlPlane.extendTimeslot c newEnd
  | .requeue requeuedBy reason => ControlPlane.requeue c requeuedBy reason
  | .recordResourceObservation observedResources observedPorts =>
      ControlPlane.recordResourceObservation c observedResources observedPorts
  | .requestResourceObservation => ControlPlane.requestResourceObservation c
  | .updatePipelineProgress pipelineName progressData =>
      ControlPlane.updatePipelineProgress c pipelineName progressData
  | .updateDesiredStatus newDesiredStatus => do
      let _ ← ControlPlane.updateDesiredStatus c newDesiredStatus
  | .bindLab labRecordId allocatedPorts cmlLabId cmlLabTitle =>
      ControlPlane.bindLab c labRecordId allocatedPorts cmlLabId cmlLabTitle

/-- What an operation answers, and the state it leaves. -/
def outcome (op : SessionOp Unit) (s : LabletSessionState) :
    Except OperationError Unit × LabletSessionState :=
  op.run.run s

/-- One call on a session: the clock readings and the operation. -/
structure Call where
  clock : Clock
  operation : SessionOperation

/-- The state a call leaves, whether it raises or not. -/
def callStep (s : LabletSessionState) (call : Call) : LabletSessionState :=
  (outcome (perform call.clock call.operation) s).2

/-! ## §5. What a call can do. -/

/-- The status an operation moves to, for those that move. -/
def SessionOperation.target : SessionOperation → Option LabletSessionStatus
  | .schedule .. => some .scheduled
  | .startInstantiation => some .instantiating
  | .markReady .. => some .ready
  | .markRunning => some .running
  | .startCollection => some .collecting
  | .startGrading _ => some .grading
  | .startStopping _ => some .stopping
  | .markStopped => some .stopped
  | .archive _ => some .archived
  | .terminate .. => some .terminated
  | .expire _ => some .expired
  | _ => none

/-- The running times of a session. -/
structure Times where
  startedAt : Option Int
  endedAt : Option Int
  durationSeconds : Option Int

/-- The running times stored in the state. -/
def LabletSessionState.times (s : LabletSessionState) : Times :=
  ⟨s.startedAt, s.endedAt, s.durationSeconds⟩

/-- `_compute_duration` on the running times. -/
def Times.computeDuration (t : Times) : Times :=
  match t.startedAt, t.endedAt with
  | some start, some stop => { t with durationSeconds := some (stop - start) }
  | _, _ => t

/-- The running times after a move. -/
def Times.moveTo (now : Int) (t : Times) : LabletSessionStatus → Times
  | .running => { t with startedAt := some now }
  -- these two overwrite an end that is there already
  | .stopped => Times.computeDuration { t with endedAt := some now }
  | .expired => Times.computeDuration { t with endedAt := some now }
  | .terminated =>
      let t := { t with endedAt := t.endedAt.or (some now) }
      if t.durationSeconds.isNone then t.computeDuration else t
  | _ => t

/-- **What a call can do**: be refused, move the session along the table and record it,
record a requeue, or leave status, history and times as they are. -/
inductive CallEffect (call : Call) (s : LabletSessionState) :
    Except OperationError Unit × LabletSessionState → Prop where
  | refused (e : OperationError)
      (why : ∀ dst, call.operation.target = some dst → dst ∉ validTransitions s.status) :
      CallEffect call s (.error e, s)
  | moved {s' : LabletSessionState} {dst : LabletSessionStatus} {entry : StateTransition}
      (target : call.operation.target = some dst)
      (allowed : dst ∈ validTransitions s.status) (status : s'.status = dst)
      (history : s'.stateHistory = s.stateHistory ++ [entry])
      (fromState : entry.fromState = some s.status) (toState : entry.toState = dst)
      (times : s'.times = s.times.moveTo call.clock.now dst) : CallEffect call s (.ok (), s')
  | requeued {s' : LabletSessionState} {entry : StateTransition} {requeuedBy : String}
      {reason : Option String} (operation : call.operation = .requeue requeuedBy reason)
      (status : s'.status = s.status) (history : s'.stateHistory = s.stateHistory ++ [entry])
      (fromState : entry.fromState = some s.status) (toState : entry.toState = s.status)
      (times : s'.times = s.times) : CallEffect call s (.ok (), s')
  | kept {s' : LabletSessionState} (target : call.operation.target = none)
      (status : s'.status = s.status) (history : s'.stateHistory = s.stateHistory)
      (times : s'.times = s.times) : CallEffect call s (.ok (), s')

section Effect

variable {c : Clock} {s : LabletSessionState}

theorem times_computeDuration (s : LabletSessionState) :
    s.computeDuration.times = s.times.computeDuration := by
  unfold LabletSessionState.computeDuration Times.computeDuration LabletSessionState.times
  rcases hs : s.startedAt with _ | start
  · simp [hs]
  · rcases he : s.endedAt with _ | stop
    · simp [hs, he]
    · simp

/-- Computing the duration only when there is none. -/
theorem times_keepDuration (s : LabletSessionState) :
    (if s.durationSeconds.isNone then s.computeDuration else s).times
      = if s.times.durationSeconds.isNone then s.times.computeDuration else s.times := by
  show _ = if s.durationSeconds.isNone then _ else _
  split
  · exact times_computeDuration s
  · rfl

theorem computeDuration_stateHistory (s : LabletSessionState) :
    s.computeDuration.stateHistory = s.stateHistory := by
  unfold LabletSessionState.computeDuration
  split <;> rfl

/-- One step after the other; the second is not reached when the first raises. -/
theorem run_bind {α β : Type} (p : SessionOp α) (q : α → SessionOp β) :
    (p >>= q).run.run s
      = match p.run.run s with
        | (.ok a, s') => (q a).run.run s'
        | (.error e, s') => (.error e, s') := by
  rcases h : p.run.run s with ⟨r, s'⟩
  rw [ExceptT.run_bind, StateT.run_bind, h]
  cases r <;> rfl

/-- A guarded transition is refused, or its event is applied. -/
theorem outcome_transitionBy (dst : LabletSessionStatus) (event : SessionEvent) :
    outcome (transitionBy c dst event) s
      = if dst ∈ validTransitions s.status then outcome (LabletSessionState.on c event) s
        else (.error (.invalidStateTransition s.status dst
          ("Invalid transition from " ++ s.status.value ++ " to " ++ dst.value)), s) := by
  have hvalid : (validateTransition dst).run.run s
      = if dst ∈ validTransitions s.status then (.ok (), s)
        else (.error (.invalidStateTransition s.status dst
          ("Invalid transition from " ++ s.status.value ++ " to " ++ dst.value)), s) := by
    unfold validateTransition
    rw [run_bind]
    show (if _ then _ else _ : SessionOp Unit).run.run s = _
    split <;> rfl
  unfold outcome transitionBy
  rw [run_bind, hvalid]
  by_cases h : dst ∈ validTransitions s.status
  · rw [if_pos h, if_pos h]
  · rw [if_neg h, if_neg h]

theorem outcome_applyTransition (assign : LabletSessionState → LabletSessionState)
    (dst : LabletSessionStatus) (by' : String) (reason : Option String) (m : Option Payload) :
    outcome (applyTransition c assign dst by' reason m) s
      = (.ok (),
        { assign s with
          status := dst
          stateHistory := (assign s).stateHistory ++
            [{ fromState := some s.status
               toState := dst
               transitionedAt := c.recorded
               triggeredBy := by'
               reason := reason
               metadata := m }]
          updatedAt := c.recorded }) := rfl

/-- A guarded transition whose handler records it. -/
theorem effect_transition {call : Call} {dst : LabletSessionStatus} {event : SessionEvent}
    {assign : LabletSessionState → LabletSessionState} {triggeredBy : String}
    {reason : Option String} {metadata : Option Payload}
    (target : call.operation.target = some dst)
    (handler : LabletSessionState.on call.clock event
      = applyTransition call.clock assign dst triggeredBy reason metadata)
    (history : (assign s).stateHistory = s.stateHistory)
    (times : (assign s).times = s.times.moveTo call.clock.now dst) :
    CallEffect call s (outcome (transitionBy call.clock dst event) s) := by
  rw [outcome_transitionBy]
  split
  next allowed =>
    rw [handler, outcome_applyTransition, history]
    exact .moved target allowed rfl rfl rfl rfl times
  next hnot =>
    refine .refused _ fun dst' h => ?_
    rw [target, Option.some.injEq] at h
    exact h ▸ hnot

/-- Extending the timeslot raises before it assigns. -/
theorem effect_timeslotExtended {call : Call} {newEnd : Int}
    (target : call.operation.target = none) :
    CallEffect call s
      (outcome (LabletSessionState.on call.clock (.timeslotExtended newEnd)) s) := by
  show CallEffect call s ((match s.timeslot with
    | none => pure ()
    | some current => do
        let ts ← liftExcept (current.extend newEnd)
        modify fun s => { s with timeslot := some ts, updatedAt := call.clock.recorded }
      : SessionOp Unit).run.run s)
  cases s.timeslot with
  | none => exact .kept target rfl rfl rfl
  | some current =>
      show CallEffect call s (((liftExcept (current.extend newEnd) : SessionOp Timeslot)
        >>= _).run.run s)
      rw [run_bind]
      cases current.extend newEnd with
      | error e => exact .refused e fun dst h => absurd (target.symm.trans h) nofun
      | ok ts => exact .kept target rfl rfl rfl

theorem run_updateDesiredStatus (newDesiredStatus : LabletSessionStatus) :
    (updateDesiredStatus c newDesiredStatus).run.run s
      = if s.desiredStatus = newDesiredStatus then (.ok false, s)
        else (.ok true, { s with desiredStatus := newDesiredStatus }) := by
  unfold updateDesiredStatus
  rw [run_bind]
  show (if s.desiredStatus = newDesiredStatus then _ else _ : SessionOp Bool).run.run s = _
  split <;> rfl

/-- **The effect of every operation.** -/
theorem perform_effect (call : Call) (s : LabletSessionState) :
    CallEffect call s (outcome (perform call.clock call.operation) s) := by
  obtain ⟨c, op⟩ := call
  cases op with
  | schedule workerId ports labRecordId scheduledBy => exact effect_transition rfl rfl rfl rfl
  | startInstantiation => exact effect_transition rfl rfl rfl rfl
  | markReady userSessionId cmlLabId => exact effect_transition rfl rfl rfl rfl
  | markRunning => exact effect_transition rfl rfl rfl rfl
  | startCollection => exact effect_transition rfl rfl rfl rfl
  | startGrading gradingSessionId => exact effect_transition rfl rfl rfl rfl
  | startStopping reason => exact effect_transition rfl rfl rfl rfl
  | archive archivedBy => exact effect_transition rfl rfl rfl rfl
  | markStopped =>
      -- the duration is computed once the transition is made
      refine effect_transition rfl rfl ?_ (times_computeDuration _)
      exact computeDuration_stateHistory _
  | expire reason =>
      refine effect_transition rfl rfl ?_ (times_computeDuration _)
      exact computeDuration_stateHistory _
  | terminate terminatedBy reason =>
      refine effect_transition rfl rfl ?_ ?_
      · show (if _ then _ else _ : LabletSessionState).stateHistory = _
        split
        · exact computeDuration_stateHistory _
        · rfl
      · exact times_keepDuration _
  | recordScore scoreReportId gradeResult => exact .kept rfl rfl rfl rfl
  | releasePorts =>
      -- neither branch changes what the effect is about
      show CallEffect _ s ((do
        let s ← get
        if (givenText s.workerId).isSome ∧ (s.allocatedPorts.bind givenPorts).isSome then
          LabletSessionState.on c .portsReleased : SessionOp Unit).run.run s)
      rw [run_bind]
      show CallEffect _ s ((if _ then _ else _ : SessionOp Unit).run.run s)
      split <;> exact .kept rfl rfl rfl rfl
  | extendTimeslot newEnd =>
      show CallEffect _ s ((ControlPlane.extendTimeslot c newEnd).run.run s)
      unfold ControlPlane.extendTimeslot
      rw [run_bind]
      show CallEffect _ s ((if newEnd ≤ s.timeslotEnd then _ else _ : SessionOp Unit).run.run s)
      split
      next => exact .refused _ nofun
      next => exact effect_timeslotExtended rfl
  | requeue requeuedBy reason =>
      show CallEffect _ s ((ControlPlane.requeue c requeuedBy reason).run.run s)
      unfold ControlPlane.requeue
      rw [run_bind]
      show CallEffect _ s ((if s.status = .terminated ∨ s.status = .archived then _ else _
        : SessionOp Unit).run.run s)
      split
      next => exact .refused _ nofun
      next => exact .requeued rfl rfl rfl rfl rfl rfl
  | recordResourceObservation resources ports =>
      show CallEffect _ s ((if _ then _ else _ : SessionOp Unit).run.run _)
      split <;> exact .kept rfl rfl rfl rfl
  | requestResourceObservation => exact .kept rfl rfl rfl rfl
  | updatePipelineProgress pipelineName progressData => exact .kept rfl rfl rfl rfl
  | updateDesiredStatus newDesiredStatus =>
      show CallEffect _ s ((ControlPlane.updateDesiredStatus c newDesiredStatus >>= _).run.run s)
      rw [run_bind, run_updateDesiredStatus]
      by_cases h : s.desiredStatus = newDesiredStatus
      · rw [if_pos h]
        exact .kept rfl rfl rfl rfl
      · rw [if_neg h]
        exact .kept rfl rfl rfl rfl
  | bindLab labRecordId ports cmlLabId cmlLabTitle => exact .kept rfl rfl rfl rfl

end Effect

/-! ## §6. Creation. -/

theorem Timeslot.make_eq {start stop : Int} (h : start < stop) :
    Timeslot.make start stop 900 600
      = .ok ⟨start, stop, 900, 600, h, by decide, by decide⟩ := by
  unfold Timeslot.make
  rw [dif_pos h, dif_pos (by decide), dif_pos (by decide)]

/-- **A created session** is pending, with the window that was asked for. -/
theorem create_ok {c : Clock} {newId : String} {args : CreateArgs} {s : LabletSessionState}
    (h : LabletSessionState.create c newId args = .ok s) :
    s.status = .pending ∧ s.times = ⟨none, none, none⟩ ∧ s.workerId = none
      ∧ (∃ ts, s.timeslot = some ts ∧ ts.start = args.timeslotStart ∧ ts.stop = args.timeslotEnd)
      ∧ ∃ entry, s.stateHistory = [entry] ∧ entry.fromState = none
        ∧ entry.toState = .pending := by
  unfold LabletSessionState.create at h
  split at h
  next => cases h
  next hwindow =>
    split at h
    next => cases h
    next =>
      have hlt : args.timeslotStart < args.timeslotEnd := by omega
      simp only [LabletSessionState.on, Timeslot.make_eq hlt] at h
      injection h with h
      subst h
      exact ⟨rfl, rfl, rfl, ⟨_, rfl, rfl, rfl⟩, _, rfl, rfl, rfl⟩

/-- A session reserved at time 0 for the first hour. -/
def reservedSession : LabletSessionState :=
  match LabletSessionState.create { now := 0 } "s1"
      { definitionId := "d1", timeslotStart := 0, timeslotEnd := 3600 } with
  | .ok s => s
  | .error _ => { createdAt := 0, updatedAt := 0 }

theorem reservedSession_created :
    LabletSessionState.create { now := 0 } "s1"
      { definitionId := "d1", timeslotStart := 0, timeslotEnd := 3600 } = .ok reservedSession := rfl

end CmlCloudManager.ControlPlane
