/-
  CmlCloudManager.Worker.CMLWorker
  ────────────────────────────────
  **THE CML WORKER AGGREGATE.**

  A worker is an EC2 instance that runs CML.  Its record says what is wanted
  (`desired_status`, the spec) and what was last seen (`status`); who moves the one
  towards the other is the worker-controller.  Every operation builds domain events
  and hands them to `CMLWorkerState.on`; the events stay with the aggregate, because
  what the other services are told is made from them.

  The table of transitions is only consulted for a warning: `update_status` goes
  through whatever it says.

    • `updateStatus_status`, `terminate_status`, … — what each operation does to the
      statuses,
    • `Chained`, `chained_on` — the history is one chain from the creation of the
      worker to its status, whatever events are applied.
-/
import CmlCloudManager.ControlPlane.WorkerCapacity

namespace CmlCloudManager.Worker

open CmlCloudManager.Foundation
open CmlCloudManager.ControlPlane (CMLWorkerStatus CMLWorkerStatus.value givenText)

/-! ## §1. Value objects. -/

/-- `CML_WORKER_VALID_TRANSITIONS`. -/
def validTransitions : CMLWorkerStatus → List CMLWorkerStatus
  | .pending => [.provisioning, .failed, .terminated]
  | .provisioning => [.starting, .running, .failed, .terminated]
  | .starting => [.running, .failed, .stopping, .terminated]
  | .running => [.draining, .stopping, .terminating, .shuttingDown, .terminated, .failed]
  | .draining => [.stopping, .terminating, .shuttingDown, .terminated, .failed]
  | .stopping => [.stopped, .terminated, .failed]
  | .stopped => [.starting, .terminating, .shuttingDown, .terminated]
  | .terminating => [.terminated]
  | .shuttingDown => [.terminated]
  | .terminated => []
  | .failed => [.pending, .terminated]
  -- `list(CMLWorkerStatus)`
  | .unknown =>
      [.pending, .provisioning, .starting, .running, .draining, .stopping, .stopped,
        .terminating, .shuttingDown, .terminated, .failed, .unknown]

/-- `CMLServiceStatus`. -/
inductive CMLServiceStatus where
  | unavailable
  | starting
  | available
  | error
  deriving DecidableEq, Repr

/-- `LicenseStatus`. -/
inductive LicenseStatus where
  | unregistered
  | registered
  | evaluation
  | expired
  | invalid
  deriving DecidableEq, Repr

/-- `PendingLicenseOperation`, when there is one. -/
inductive PendingLicenseOperation where
  | register
  | deregister
  deriving DecidableEq, Repr

/-- The licence info of CML: its registration status, flat or nested, in upper case. -/
structure LicenseInfo where
  registrationStatus : Option String := none
  deriving DecidableEq

/-- `CMLLicense`. -/
structure CMLLicense where
  status : LicenseStatus := .unregistered
  token : Option String := none
  pendingToken : Option String := none
  pendingOperation : Option PendingLicenseOperation := none
  operationInProgress : Bool := false
  rawInfo : Option LicenseInfo := none
  deriving DecidableEq

/-- `StateTransition` of a worker. -/
structure WorkerTransition where
  fromState : Option CMLWorkerStatus
  toState : CMLWorkerStatus
  transitionedAt : Int
  triggeredBy : String := "system"
  reason : Option String := none

/-- An activity event of the telemetry of CML: its time, if it has one that can be read, its
category and the user behind it. -/
structure ActivityEvent where
  timestamp : Option Int
  category : String
  userId : String := ""
  deriving DecidableEq

/-- What EC2 says of an instance, as the events of the aggregate have it. -/
structure Ec2Details where
  publicIp : Option String := none
  privateIp : Option String := none
  instanceType : Option String := none
  amiId : Option String := none
  amiName : Option String := none
  amiDescription : Option String := none
  amiCreationDate : Option String := none
  deriving DecidableEq

/-! ## §2. The state and its events. -/

/-- `CMLWorkerState`, as far as the life cycle, the instance, the licence and the activity are
concerned; capacity is modelled with the lablet sessions. -/
structure CMLWorkerState where
  id : String := ""
  name : String := ""
  awsRegion : String := ""
  awsInstanceId : Option String := none
  instanceType : Option String := some ""
  amiId : Option String := none
  amiName : Option String := none
  amiDescription : Option String := none
  amiCreationDate : Option String := none
  status : CMLWorkerStatus := .pending
  desiredStatus : CMLWorkerStatus := .running
  serviceStatus : CMLServiceStatus := .unavailable
  license : CMLLicense := {}
  httpsEndpoint : Option String := none
  publicIp : Option String := none
  privateIp : Option String := none
  templateName : Option String := none
  createdAt : Int
  updatedAt : Int
  startedAt : Option Int := none
  endedAt : Option Int := none
  durationSeconds : Option Int := none
  terminatedAt : Option Int := none
  startInitiatedAt : Option Int := none
  stopInitiatedAt : Option Int := none
  lastActivityAt : Option Int := none
  lastActivityCheckAt : Option Int := none
  recentActivityEvents : List ActivityEvent := []
  nextIdleCheckAt : Option Int := none
  targetPauseAt : Option Int := none
  isIdleDetectionEnabled : Bool := true
  autoPauseCount : Nat := 0
  manualPauseCount : Nat := 0
  autoResumeCount : Nat := 0
  manualResumeCount : Nat := 0
  lastPausedAt : Option Int := none
  lastResumedAt : Option Int := none
  pausedBy : Option String := none
  pauseReason : Option String := none
  refreshRequestedAt : Option Int := none
  createdBy : Option String := none
  terminatedBy : Option String := none
  stateHistory : List WorkerTransition := []

/-- The domain events of the aggregate, with what their handlers read. -/
inductive WorkerEvent where
  | created (aggregateId name awsRegion : String) (awsInstanceId instanceType : Option String)
      (status desiredStatus : CMLWorkerStatus) (createdAt : Int) (createdBy : Option String)
  | imported (aggregateId name awsRegion : String) (awsInstanceId : String)
      (details : Ec2Details) (instanceState : String) (createdAt : Int)
      (createdBy : Option String)
  | statusUpdated (oldStatus newStatus : CMLWorkerStatus) (updatedAt : Int)
      (transitionInitiatedAt : Option Int)
  | desiredStatusUpdated (oldDesiredStatus newDesiredStatus : CMLWorkerStatus) (updatedAt : Int)
      (requestedBy reason : Option String)
  | serviceStatusUpdated (newServiceStatus : CMLServiceStatus) (httpsEndpoint : Option String)
      (updatedAt : Int)
  | instanceAssigned (awsInstanceId : String) (publicIp privateIp : Option String)
      (assignedAt : Int)
  | ec2InstanceDetailsUpdated (details : Ec2Details) (updatedAt : Int)
  | licenseUpdated (licenseStatus : LicenseStatus) (licenseToken : Option String)
      (updatedAt : Int)
  | cmlMetricsUpdated (licenseInfo : Option LicenseInfo) (updatedAt : Int)
  | terminated (terminatedAt : Int) (terminatedBy : Option String)
  | licenseRegistrationRequested (licenseToken : String) (reregister : Bool) (requestedAt : Int)
  | licenseRegistrationStarted (startedAt : Int)
  | licenseRegistrationCompleted (completedAt : Int)
  | licenseRegistrationFailed (errorMessage : String) (failedAt : Int)
  | licenseDeregistrationRequested (requestedAt : Int)
  | licenseDeregistrationStarted (startedAt : Int)
  | licenseDeregistrationCompleted (completedAt : Int)
  | licenseDeregistrationFailed (errorMessage : String) (failedAt : Int)
  | labDiscoveryTriggered (labIds : List String) (source : String) (triggeredAt : Int)
  | syncRequested (scope : String) (includeLabs : Bool) (reason : String) (requestedAt : Int)
  | activityUpdated (lastActivityAt : Option Int) (lastActivityCheckAt : Int)
      (recentActivityEvents : List ActivityEvent) (nextIdleCheckAt targetPauseAt : Option Int)
      (updatedAt : Int)
  | paused (pauseReason : String) (pausedBy : Option String) (pausedAt : Int)
      (autoPauseCount manualPauseCount : Nat)
  | resumed (resumedAt : Int) (autoResumeCount manualResumeCount : Nat) (wasAutoPaused : Bool)
  | idleDetectionToggled (isEnabled : Bool) (toggledAt : Int)

namespace CMLWorkerState

/-- `_record_transition`; the reading of the clock is the event's. -/
def recordTransition (s : CMLWorkerState) (fromState : Option CMLWorkerStatus)
    (toState : CMLWorkerStatus) (now : Int) (triggeredBy : String := "system")
    (reason : Option String := none) : CMLWorkerState :=
  { s with
    stateHistory := s.stateHistory ++
      [{ fromState := fromState
         toState := toState
         transitionedAt := now
         triggeredBy := triggeredBy
         reason := reason }]
    updatedAt := now }

/-- `_compute_duration`. -/
def computeDuration (s : CMLWorkerState) : CMLWorkerState :=
  match s.startedAt, s.endedAt with
  | some start, some stop => { s with durationSeconds := some (stop - start) }
  | _, _ => s

/-- The statuses of an import, by the state EC2 gives. -/
def importedStatuses (instanceState : String) : CMLWorkerStatus × CMLWorkerStatus :=
  if instanceState = "running" then (.running, .running)
  else if instanceState = "stopped" then (.stopped, .stopped)
  else if instanceState = "stopping" then (.stopping, .stopped)
  else if instanceState = "pending" then (.pending, .running)
  else (.unknown, .running)

/-- The part of `on(CMLWorkerStatusUpdated)` after the transition is recorded. -/
def afterStatus (s : CMLWorkerState) (newStatus : CMLWorkerStatus) (updatedAt : Int)
    (transitionInitiatedAt : Option Int) : CMLWorkerState :=
  match newStatus with
  | .pending => { s with startInitiatedAt := some (transitionInitiatedAt.getD updatedAt) }
  | .running => { s with startInitiatedAt := none }
  | .stopping =>
      { s with
        stopInitiatedAt := some (transitionInitiatedAt.getD updatedAt)
        serviceStatus := .unavailable }
  -- EC2 releases the public IP of a stopped instance
  | .stopped =>
      { s with
        stopInitiatedAt := none
        publicIp := none
        privateIp := none
        httpsEndpoint := none
        serviceStatus := .unavailable }
  | _ => s

/-- What the licence info of a metrics report makes of the licence. -/
def reportedLicense (license : CMLLicense) : Option LicenseInfo → CMLLicense
  | none => license
  | some info =>
      match givenText info.registrationStatus with
      | none => { license with rawInfo := some info }
      | some regStatus =>
          if regStatus = "COMPLETED" ∨ regStatus = "REGISTERED" then
            { license with status := .registered, rawInfo := some info }
          else if regStatus = "EVALUATION" then
            { license with status := .evaluation, rawInfo := some info }
          else { license with rawInfo := some info }

/-- `CMLWorkerState.on`. -/
def on (s : CMLWorkerState) : WorkerEvent → CMLWorkerState
  | .created aggregateId name awsRegion awsInstanceId instanceType status desiredStatus createdAt
      createdBy =>
      recordTransition
        { s with
          id := aggregateId
          name := name
          awsRegion := awsRegion
          awsInstanceId := awsInstanceId
          instanceType := instanceType
          status := status
          desiredStatus := desiredStatus
          createdAt := createdAt
          createdBy := createdBy
          startedAt := some createdAt }
        none status createdAt ((givenText createdBy).getD "system") (some "Worker created")
  | .imported aggregateId name awsRegion awsInstanceId details instanceState createdAt
      createdBy =>
      recordTransition
        { s with
          id := aggregateId
          name := name
          awsRegion := awsRegion
          awsInstanceId := some awsInstanceId
          instanceType := details.instanceType
          amiId := details.amiId
          amiName := details.amiName
          amiDescription := details.amiDescription
          amiCreationDate := details.amiCreationDate
          publicIp := details.publicIp
          privateIp := details.privateIp
          status := (importedStatuses instanceState).1
          desiredStatus := (importedStatuses instanceState).2
          createdAt := createdAt
          createdBy := createdBy
          startedAt := some createdAt }
        none (importedStatuses instanceState).1 createdAt
        ((givenText createdBy).getD "system")
        (some "Worker imported from existing EC2 instance")
  | .statusUpdated oldStatus newStatus updatedAt transitionInitiatedAt =>
      afterStatus
        (recordTransition { s with status := newStatus } (some oldStatus) newStatus updatedAt)
        newStatus updatedAt transitionInitiatedAt
  | .desiredStatusUpdated _ newDesiredStatus updatedAt _ _ =>
      { s with desiredStatus := newDesiredStatus, updatedAt := updatedAt }
  | .serviceStatusUpdated newServiceStatus httpsEndpoint updatedAt =>
      { s with
        serviceStatus := newServiceStatus
        httpsEndpoint := (givenText httpsEndpoint).or s.httpsEndpoint
        updatedAt := updatedAt }
  | .instanceAssigned awsInstanceId publicIp privateIp assignedAt =>
      { s with
        awsInstanceId := some awsInstanceId
        publicIp := publicIp
        privateIp := privateIp
        updatedAt := assignedAt }
  -- every detail is assigned, also one that is not given
  | .ec2InstanceDetailsUpdated details updatedAt =>
      { s with
        publicIp := details.publicIp
        privateIp := details.privateIp
        instanceType := details.instanceType
        amiId := details.amiId
        amiName := details.amiName
        amiDescription := details.amiDescription
        amiCreationDate := details.amiCreationDate
        updatedAt := updatedAt }
  | .licenseUpdated licenseStatus licenseToken updatedAt =>
      { s with
        license := { s.license with status := licenseStatus, token := licenseToken }
        updatedAt := updatedAt }
  | .cmlMetricsUpdated licenseInfo updatedAt =>
      { s with license := reportedLicense s.license licenseInfo, updatedAt := updatedAt }
  | .terminated terminatedAt terminatedBy =>
      recordTransition
        (computeDuration
          { s with
            status := .terminated
            serviceStatus := .unavailable
            terminatedAt := some terminatedAt
            terminatedBy := terminatedBy
            endedAt := some terminatedAt })
        (some s.status) .terminated terminatedAt ((givenText terminatedBy).getD "system")
        (some "Worker terminated")
  | .licenseRegistrationRequested licenseToken _ requestedAt =>
      { s with
        license :=
          { s.license with pendingToken := some licenseToken, pendingOperation := some .register }
        updatedAt := requestedAt }
  | .licenseRegistrationStarted startedAt =>
      { s with license := { s.license with operationInProgress := true }, updatedAt := startedAt }
  | .licenseRegistrationCompleted completedAt =>
      { s with
        license :=
          { s.license with
            status := .registered
            token := s.license.pendingToken
            pendingToken := none
            pendingOperation := none
            operationInProgress := false }
        updatedAt := completedAt }
  | .licenseRegistrationFailed _ failedAt =>
      { s with
        license :=
          { s.license with
            pendingToken := none, pendingOperation := none, operationInProgress := false }
        updatedAt := failedAt }
  | .licenseDeregistrationRequested requestedAt =>
      { s with
        license := { s.license with pendingOperation := some .deregister }
        updatedAt := requestedAt }
  | .licenseDeregistrationStarted startedAt =>
      { s with license := { s.license with operationInProgress := true }, updatedAt := startedAt }
  | .licenseDeregistrationCompleted completedAt =>
      { s with
        license :=
          { s.license with
            status := .unregistered
            token := none
            pendingToken := none
            pendingOperation := none
            operationInProgress := false }
        updatedAt := completedAt }
  -- the pending token stays
  | .licenseDeregistrationFailed _ failedAt =>
      { s with
        license := { s.license with pendingOperation := none, operationInProgress := false }
        updatedAt := failedAt }
  | .labDiscoveryTriggered .. => s
  | .syncRequested .. => s
  | .activityUpdated lastActivityAt lastActivityCheckAt recentActivityEvents nextIdleCheckAt
      targetPauseAt updatedAt =>
      { s with
        lastActivityAt := lastActivityAt.or s.lastActivityAt
        lastActivityCheckAt := some lastActivityCheckAt
        recentActivityEvents := recentActivityEvents
        nextIdleCheckAt := nextIdleCheckAt
        targetPauseAt := targetPauseAt
        updatedAt := updatedAt }
  | .paused pauseReason pausedBy pausedAt autoPauseCount manualPauseCount =>
      { s with
        pauseReason := some pauseReason
        pausedBy := pausedBy
        lastPausedAt := some pausedAt
        autoPauseCount := autoPauseCount
        manualPauseCount := manualPauseCount
        targetPauseAt := none
        updatedAt := pausedAt }
  | .resumed resumedAt autoResumeCount manualResumeCount wasAutoPaused =>
      { s with
        lastResumedAt := some resumedAt
        autoResumeCount := autoResumeCount
        manualResumeCount := manualResumeCount
        targetPauseAt := none
        pauseReason := if wasAutoPaused then none else s.pauseReason
        pausedBy := if wasAutoPaused then none else s.pausedBy
        updatedAt := resumedAt }
  | .idleDetectionToggled isEnabled toggledAt =>
      { s with isIdleDetectionEnabled := isEnabled, updatedAt := toggledAt }

end CMLWorkerState

/-! ## §3. The aggregate. -/

/-- `CMLWorker`: the state, and the events raised since it was loaded. -/
structure CMLWorker where
  state : CMLWorkerState
  events : List WorkerEvent := []

namespace CMLWorker

/-- `self.state.on(self.register_event(event))`. -/
def raise (w : CMLWorker) (event : WorkerEvent) : CMLWorker where
  state := w.state.on event
  events := w.events ++ [event]

/-- `CMLWorker.__init__`. -/
def create (workerId name awsRegion : String) (instanceType createdBy : Option String)
    (now : Int) : CMLWorker :=
  raise ⟨{ createdAt := now, updatedAt := now }, []⟩
    (.created workerId name awsRegion none instanceType .pending .running now createdBy)

/-- `import_from_existing_instance`. -/
def importFromExistingInstance (workerId name awsRegion awsInstanceId : String)
    (details : Ec2Details) (instanceState : String) (createdBy : Option String) (now : Int) :
    CMLWorker :=
  raise ⟨{ createdAt := now, updatedAt := now }, []⟩
    (.imported workerId name awsRegion awsInstanceId details instanceState now createdBy)

/-- `update_status`; an unexpected transition is logged and made. -/
def updateStatus (w : CMLWorker) (newStatus : CMLWorkerStatus) (now : Int) : CMLWorker :=
  if w.state.status = newStatus then w
  else
    w.raise (.statusUpdated w.state.status newStatus now
      (if newStatus = .pending ∨ newStatus = .stopping then some now else none))

/-- `update_desired_status`. -/
def updateDesiredStatus (w : CMLWorker) (newDesiredStatus : CMLWorkerStatus)
    (requestedBy reason : Option String) (now : Int) : CMLWorker :=
  if w.state.desiredStatus = newDesiredStatus then w
  else
    w.raise (.desiredStatusUpdated w.state.desiredStatus newDesiredStatus now requestedBy reason)

/-- `update_service_status`. -/
def updateServiceStatus (w : CMLWorker) (newServiceStatus : CMLServiceStatus)
    (httpsEndpoint : Option String) (now : Int) : CMLWorker :=
  if w.state.serviceStatus = newServiceStatus ∧ w.state.httpsEndpoint = httpsEndpoint then w
  else w.raise (.serviceStatusUpdated newServiceStatus httpsEndpoint now)

/-- `assign_instance`, as the status command calls it. -/
def assignInstance (w : CMLWorker) (awsInstanceId : String) (now : Int) : CMLWorker :=
  w.raise (.instanceAssigned awsInstanceId none none now)

/-- `update_ec2_instance_details`. -/
def updateEc2InstanceDetails (w : CMLWorker) (details : Ec2Details) (now : Int) : CMLWorker :=
  w.raise (.ec2InstanceDetailsUpdated details now)

/-- `terminate`. -/
def terminate (w : CMLWorker) (terminatedBy : Option String) (now : Int) : CMLWorker :=
  w.raise (.terminated now terminatedBy)

/-- `pause`. -/
def pause (w : CMLWorker) (reason : String) (pausedBy : Option String) (now : Int) : CMLWorker :=
  let auto := reason = "idle_timeout"
  w.raise (.paused reason pausedBy now
    (if auto then w.state.autoPauseCount + 1 else w.state.autoPauseCount)
    (if auto then w.state.manualPauseCount else w.state.manualPauseCount + 1))

/-- `resume`. -/
def resume (w : CMLWorker) (reason : String) (now : Int) : CMLWorker :=
  w.raise (.resumed now
    (if reason = "auto" then w.state.autoResumeCount + 1 else w.state.autoResumeCount)
    (if reason = "manual" then w.state.manualResumeCount + 1 else w.state.manualResumeCount)
    (w.state.pauseReason = some "idle_timeout"))

/-- `update_activity`: at most the last ten of the events are stored. -/
def updateActivity (w : CMLWorker) (recentEvents : List ActivityEvent)
    (lastActivityAt : Option Int) (lastCheckAt : Int) (nextCheckAt targetPauseAt : Option Int)
    (now : Int) (maxEvents : Nat := 10) : CMLWorker :=
  w.raise (.activityUpdated lastActivityAt lastCheckAt
    (recentEvents.drop (recentEvents.length - maxEvents)) nextCheckAt targetPauseAt now)

/-- `enable_idle_detection`, `disable_idle_detection`. -/
def toggleIdleDetection (w : CMLWorker) (enabled : Bool) (now : Int) : CMLWorker :=
  if w.state.isIdleDetectionEnabled = enabled then w
  else w.raise (.idleDetectionToggled enabled now)

/-! ### What the operations do to the statuses. -/

@[simp] theorem raise_state (w : CMLWorker) (event : WorkerEvent) :
    (w.raise event).state = w.state.on event := rfl

@[simp] theorem raise_events (w : CMLWorker) (event : WorkerEvent) :
    (w.raise event).events = w.events ++ [event] := rfl

end CMLWorker

namespace CMLWorkerState

@[simp] theorem recordTransition_status (s : CMLWorkerState) (f : Option CMLWorkerStatus)
    (t : CMLWorkerStatus) (now : Int) (by' : String) (r : Option String) :
    (s.recordTransition f t now by' r).status = s.status := rfl

@[simp] theorem recordTransition_history (s : CMLWorkerState) (f : Option CMLWorkerStatus)
    (t : CMLWorkerStatus) (now : Int) (by' : String) (r : Option String) :
    (s.recordTransition f t now by' r).stateHistory = s.stateHistory ++ [⟨f, t, now, by', r⟩] :=
  rfl

/-- The fields that the status handlers leave alone. -/
structure SameSpec (s t : CMLWorkerState) : Prop where
  id : t.id = s.id
  awsInstanceId : t.awsInstanceId = s.awsInstanceId
  desiredStatus : t.desiredStatus = s.desiredStatus
  license : t.license = s.license
  templateName : t.templateName = s.templateName
  isIdleDetectionEnabled : t.isIdleDetectionEnabled = s.isIdleDetectionEnabled

@[simp] theorem computeDuration_status (s : CMLWorkerState) :
    s.computeDuration.status = s.status := by
  unfold computeDuration
  split <;> rfl

@[simp] theorem computeDuration_history (s : CMLWorkerState) :
    s.computeDuration.stateHistory = s.stateHistory := by
  unfold computeDuration
  split <;> rfl

theorem computeDuration_sameSpec (s : CMLWorkerState) : SameSpec s s.computeDuration := by
  unfold computeDuration
  split <;> exact ⟨rfl, rfl, rfl, rfl, rfl, rfl⟩

@[simp] theorem afterStatus_status (s : CMLWorkerState) (new : CMLWorkerStatus) (at' : Int)
    (init : Option Int) : (s.afterStatus new at' init).status = s.status := by
  cases new <;> rfl

@[simp] theorem afterStatus_history (s : CMLWorkerState) (new : CMLWorkerStatus) (at' : Int)
    (init : Option Int) : (s.afterStatus new at' init).stateHistory = s.stateHistory := by
  cases new <;> rfl

theorem afterStatus_sameSpec (s : CMLWorkerState) (new : CMLWorkerStatus) (at' : Int)
    (init : Option Int) : SameSpec s (s.afterStatus new at' init) := by
  cases new <;> exact ⟨rfl, rfl, rfl, rfl, rfl, rfl⟩

end CMLWorkerState

namespace CMLWorker

variable (w : CMLWorker)

@[simp] theorem updateStatus_status (new : CMLWorkerStatus) (now : Int) :
    (w.updateStatus new now).state.status = new := by
  unfold updateStatus
  split
  next h => exact h
  next h => simp [CMLWorkerState.on]

theorem updateStatus_sameSpec (new : CMLWorkerStatus) (now : Int) :
    CMLWorkerState.SameSpec w.state (w.updateStatus new now).state := by
  unfold updateStatus
  split
  next => exact ⟨rfl, rfl, rfl, rfl, rfl, rfl⟩
  next =>
    have h := CMLWorkerState.afterStatus_sameSpec
      (CMLWorkerState.recordTransition { w.state with status := new } (some w.state.status) new
        now) new now (if new = .pending ∨ new = .stopping then some now else none)
    exact ⟨h.1, h.2, h.3, h.4, h.5, h.6⟩

@[simp] theorem updateDesiredStatus_desired (new : CMLWorkerStatus) (by' reason : Option String)
    (now : Int) : (w.updateDesiredStatus new by' reason now).state.desiredStatus = new := by
  unfold updateDesiredStatus
  split
  next h => exact h
  next => rfl

/-- A change of the desired status is one of that field and of `updated_at`. -/
theorem updateDesiredStatus_state (new : CMLWorkerStatus) (by' reason : Option String)
    (now : Int) :
    (w.updateDesiredStatus new by' reason now).state = w.state
      ∨ (w.updateDesiredStatus new by' reason now).state
        = { w.state with desiredStatus := new, updatedAt := now } := by
  unfold updateDesiredStatus
  split
  next => exact .inl rfl
  next => exact .inr rfl

@[simp] theorem updateDesiredStatus_status (new : CMLWorkerStatus) (by' reason : Option String)
    (now : Int) : (w.updateDesiredStatus new by' reason now).state.status = w.state.status := by
  rcases w.updateDesiredStatus_state new by' reason now with h | h <;> rw [h]

@[simp] theorem updateDesiredStatus_instance (new : CMLWorkerStatus) (by' reason : Option String)
    (now : Int) :
    (w.updateDesiredStatus new by' reason now).state.awsInstanceId = w.state.awsInstanceId := by
  rcases w.updateDesiredStatus_state new by' reason now with h | h <;> rw [h]

@[simp] theorem terminate_status (by' : Option String) (now : Int) :
    (w.terminate by' now).state.status = .terminated := by
  simp [terminate, CMLWorkerState.on]

theorem terminate_sameSpec (by' : Option String) (now : Int) :
    CMLWorkerState.SameSpec w.state (w.terminate by' now).state := by
  have h := CMLWorkerState.computeDuration_sameSpec
    { w.state with
      status := .terminated
      serviceStatus := .unavailable
      terminatedAt := some now
      terminatedBy := by'
      endedAt := some now }
  exact ⟨h.1, h.2, h.3, h.4, h.5, h.6⟩

@[simp] theorem pause_status (reason : String) (by' : Option String) (now : Int) :
    (w.pause reason by' now).state.status = w.state.status := rfl

@[simp] theorem resume_status (reason : String) (now : Int) :
    (w.resume reason now).state.status = w.state.status := rfl

end CMLWorker

/-! ## §4. The history. -/

/-- The entries lead from one status to the next, the last one to `status`; the first comes
from nothing. -/
inductive Chained : List WorkerTransition → CMLWorkerStatus → Prop where
  | first {t : WorkerTransition} (h : t.fromState = none) : Chained [t] t.toState
  | next {ts : List WorkerTransition} {status : CMLWorkerStatus} {t : WorkerTransition}
      (before : Chained ts status) (h : t.fromState = some status) :
      Chained (ts ++ [t]) t.toState

/-- An event of a worker that is there: not its creation, and a change of status from the
status it has. -/
def WorkerEvent.Follows (s : CMLWorkerState) : WorkerEvent → Prop
  | .created .. => False
  | .imported .. => False
  | .statusUpdated oldStatus .. => oldStatus = s.status
  | _ => True

/-- **The history stays one chain.** -/
theorem chained_on {s : CMLWorkerState} (h : Chained s.stateHistory s.status)
    {event : WorkerEvent} (hevent : event.Follows s) :
    Chained (s.on event).stateHistory (s.on event).status := by
  cases event with
  | created => exact hevent.elim
  | imported => exact hevent.elim
  | statusUpdated old new now init =>
      obtain rfl : old = s.status := hevent
      simp only [CMLWorkerState.on, CMLWorkerState.afterStatus_history,
        CMLWorkerState.afterStatus_status, CMLWorkerState.recordTransition_history,
        CMLWorkerState.recordTransition_status]
      exact .next (t := ⟨some s.status, new, now, "system", none⟩) h rfl
  | terminated now by' =>
      simp only [CMLWorkerState.on, CMLWorkerState.recordTransition_history,
        CMLWorkerState.recordTransition_status, CMLWorkerState.computeDuration_history,
        CMLWorkerState.computeDuration_status]
      exact .next (t := ⟨some s.status, .terminated, now, _, _⟩) h rfl
  | _ => exact h

end CmlCloudManager.Worker
