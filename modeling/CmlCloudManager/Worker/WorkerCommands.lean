/-
  CmlCloudManager.Worker.WorkerCommands
  ─────────────────────────────────────
  **THE COMMANDS ON A WORKER.**

  Every handler loads the worker, changes the aggregate and saves it; none of them
  talks to AWS or to CML.  What it answers and what it saves are kept apart: a handler
  that refuses saves nothing, one that saves twice can be cut in between.

    • `handle`               — the handlers, one definition each,
    • `requested_raises`     — a licence request on a worker that exists always raises,
    • `RaiseInvariant.saves` — what the events of a command keep, each of its saves keeps.
-/
import CmlCloudManager.Worker.CMLWorker

namespace CmlCloudManager.Worker

open CmlCloudManager.Foundation
open CmlCloudManager.ControlPlane (CMLWorkerStatus CMLWorkerStatus.value givenText)

/-! ## §1. Results. -/

/-- `OperationResult`, and what a handler raises. -/
inductive CommandResult where
  | ok (message : String)
  | accepted (message : String)
  | noContent
  | badRequest (message : String)
  | conflict (message : String)
  | internalServerError (message : String)
  /-- `AttributeError`, for the name that was looked up. -/
  | attributeError (name : String)
  deriving DecidableEq

/-- `is_success`. -/
def CommandResult.isSuccess : CommandResult → Bool
  | .ok _ => true
  | .accepted _ => true
  | .noContent => true
  | _ => false

/-- `error_message`; what is raised is no result. -/
def CommandResult.errorMessage : CommandResult → Option String
  | .badRequest message => some message
  | .conflict message => some message
  | .internalServerError message => some message
  | _ => none

/-- What a handler does with a worker it has found: its answer, and the states it saves, one
after the other. -/
structure Handled where
  result : CommandResult
  saves : List CMLWorkerState := []
  /-- `delete_async` -/
  deletes : Bool := false

/-- The worker after the handler. -/
def Handled.after (h : Handled) (s : CMLWorkerState) : CMLWorkerState := h.saves.getLast?.getD s

/-- What every save has, the worker after the handler has. -/
theorem after_of_saves {P : CMLWorkerState → Prop} {h : Handled} {s : CMLWorkerState} (hs : P s)
    (hsaves : ∀ t ∈ h.saves, P t) : P (h.after s) := by
  unfold Handled.after
  cases hlast : h.saves.getLast? with
  | none => exact hs
  | some t => exact hsaves t (List.mem_of_getLast? hlast)

/-- The aggregate that is loaded. -/
def load (s : CMLWorkerState) : CMLWorker := ⟨s, []⟩

/-- The attributes of `CMLWorkerStatus`. -/
def statusAttribute : String → Option CMLWorkerStatus
  | "PENDING" => some .pending
  | "PROVISIONING" => some .provisioning
  | "STARTING" => some .starting
  | "RUNNING" => some .running
  | "DRAINING" => some .draining
  | "STOPPING" => some .stopping
  | "STOPPED" => some .stopped
  | "TERMINATING" => some .terminating
  | "SHUTTING_DOWN" => some .shuttingDown
  | "TERMINATED" => some .terminated
  | "FAILED" => some .failed
  | "UNKNOWN" => some .unknown
  | _ => none

/-! ## §2. Start, stop, terminate, delete, drain. -/

/-- `StartCMLWorkerCommandHandler`. -/
def startCMLWorker (startedBy : Option String) (isAutoResume : Bool) (reason : Option String)
    (now : Int) (s : CMLWorkerState) : Handled :=
  if s.status = .terminated then
    { result := .badRequest ("Cannot start terminated CML Worker " ++ s.id) }
  else if s.desiredStatus = .running then
    { result := .ok "Already has desired_status=RUNNING" }
  else
    let resumeReason := (givenText reason).getD (if isAutoResume then "auto" else "manual")
    let requestedBy := if isAutoResume then none else startedBy
    { result := .ok "Start requested - worker-controller will reconcile"
      saves :=
        [(((load s).updateDesiredStatus .running requestedBy (some resumeReason) now).resume
          resumeReason now).state] }

/-- `StopCMLWorkerCommandHandler`. -/
def stopCMLWorker (stoppedBy : Option String) (isAutoPause : Bool) (reason : Option String)
    (now : Int) (s : CMLWorkerState) : Handled :=
  if s.status = .terminated then
    { result := .badRequest ("Cannot stop terminated CML Worker " ++ s.id) }
  else if s.desiredStatus = .stopped then
    { result := .ok "Already has desired_status=STOPPED" }
  else
    let pauseReason :=
      (givenText reason).getD (if isAutoPause then "idle_timeout" else "manual")
    let requestedBy := if isAutoPause then none else stoppedBy
    { result := .ok "Stop requested - worker-controller will reconcile"
      saves :=
        [(((load s).updateDesiredStatus .stopped requestedBy (some pauseReason) now).pause
          pauseReason requestedBy now).state] }

/-- `PauseWorkerCommandHandler`: the stop command, under another name. -/
def pauseWorker (isAutoPause : Bool) (reason : Option String) (now : Int)
    (s : CMLWorkerState) : Handled :=
  let stopped :=
    stopCMLWorker (if isAutoPause then some "system" else none) isAutoPause reason now s
  { stopped with
    result :=
      if stopped.result.isSuccess then .noContent
      else .badRequest ((givenText stopped.result.errorMessage).getD "Failed to pause worker") }

/-- `TerminateCMLWorkerCommandHandler`. -/
def terminateCMLWorker (terminatedBy reason : Option String) (now : Int)
    (s : CMLWorkerState) : Handled :=
  if s.status = .terminated then { result := .ok "Worker is already terminated" }
  else if s.desiredStatus = .terminated then
    { result := .ok "Already has desired_status=TERMINATED" }
  else
    let terminateReason := (givenText reason).getD "manual"
    { result := .ok "Terminate requested - worker-controller will reconcile"
      saves :=
        [(((load s).updateDesiredStatus .terminated terminatedBy (some terminateReason)
          now).terminate terminatedBy now).state] }

/-- `DeleteCMLWorkerCommandHandler`. -/
def deleteCMLWorker (forceHardDelete : Bool) (deletedBy : Option String) (now : Int)
    (s : CMLWorkerState) : Handled :=
  if s.status = .terminated then { result := .ok "Worker already terminated" }
  else if forceHardDelete then
    { result := .ok "Worker permanently deleted (hard delete)", deletes := true }
  else
    let wanted := (load s).updateDesiredStatus .terminated none none now
    { result := .accepted "Worker termination initiated (soft delete)"
      saves :=
        match givenText s.awsInstanceId with
        | some _ => [(wanted.updateStatus .shuttingDown now).state]
        | none => [(wanted.terminate deletedBy now).state] }

/-- `DrainWorkerCommandHandler`. -/
def drainWorker (reason requestedBy : String) (now : Int) (s : CMLWorkerState) : Handled :=
  if s.status ≠ .running then
    { result := .conflict ("Cannot drain worker in status '" ++ s.status.value
        ++ "'. Only RUNNING workers can be drained.") }
  else
    { result := .ok "draining"
      saves :=
        [(((load s).updateStatus .draining now).updateDesiredStatus .stopped (some requestedBy)
          (some reason) now).state] }

/-! ## §3. Reports of the worker-controller. -/

/-- `MarkWorkerTerminatedCommandHandler`. -/
def markWorkerTerminated (terminatedBy : Option String) (now : Int) (s : CMLWorkerState) :
    Handled :=
  if s.status = .terminated then { result := .ok "TERMINATED" }
  else { result := .ok "TERMINATED", saves := [((load s).terminate terminatedBy now).state] }

/-- `UpdateCMLWorkerStatusCommandHandler`; the status is a value of the enumeration.  The status
and the instance are saved one after the other. -/
def updateCMLWorkerStatus (status : CMLWorkerStatus) (ec2InstanceId : Option String) (now : Int)
    (s : CMLWorkerState) : Handled :=
  let updated := (load s).updateStatus status now
  let first := if s.status = status then [] else [updated.state]
  match givenText ec2InstanceId with
  | none => { result := .ok status.value, saves := first }
  | some instanceId =>
      { result := .ok status.value
        saves := first ++ [(updated.assignInstance instanceId now).state] }

/-- `update_worker_status` of the client: TERMINATED goes to the endpoint of its own. -/
def updateWorkerStatus (status : CMLWorkerStatus) (ec2InstanceId : Option String) (now : Int)
    (s : CMLWorkerState) : Handled :=
  if status = .terminated then markWorkerTerminated (some "worker-controller") now s
  else updateCMLWorkerStatus status ec2InstanceId now s

/-- `UpdateWorkerEc2DetailsCommandHandler`. -/
def updateWorkerEc2Details (details : Ec2Details) (now : Int) (s : CMLWorkerState) : Handled :=
  { result := .ok "ec2_details_updated"
    saves := [((load s).updateEc2InstanceDetails details now).state] }

/-- `UpdateWorkerCmlDataCommandHandler`, without the capacity it derives: the metrics, the service
status, and a refresh request that is fulfilled. -/
def updateWorkerCmlData (licenseInfo : Option LicenseInfo) (ready : Bool) (now : Int)
    (s : CMLWorkerState) : Handled :=
  let w := (load s).raise (.cmlMetricsUpdated licenseInfo now)
  let w := w.updateServiceStatus (if ready then .available else .starting) none now
  { result := .ok "cml_data_updated"
    saves := [{ w.state with refreshRequestedAt := none }] }

/-! ## §4. What a discovery finds. -/

/-- What a discovery says of an instance. -/
structure DiscoveredInstance where
  instanceId : Option String
  state : String := "unknown"
  publicIp : Option String := none
  privateIp : Option String := none
  instanceType : Option String := none
  imageId : Option String := none
  name : Option String := none

/-- The name of the instance replaces one that was made up. -/
def backfillName (found : DiscoveredInstance) (s : CMLWorkerState) : CMLWorkerState :=
  match givenText found.name with
  | none => s
  | some name =>
      if "worker-".toList.isPrefixOf s.name.toList then { s with name := name } else s

/-- An address of the worker: where it is another one, it is written, and with it nothing else. -/
def syncAddress (ip : Option String) (held : CMLWorkerState → Option String)
    (details : String → Ec2Details) (now : Int) (w : CMLWorker × Bool) : CMLWorker × Bool :=
  match givenText ip with
  | none => w
  | some ip =>
      if held w.1.state = some ip then w
      else (w.1.updateEc2InstanceDetails (details ip) now, true)

/-- Both addresses of the worker, and whether one has changed. -/
def syncAddresses (found : DiscoveredInstance) (now : Int) (w : CMLWorker) : CMLWorker × Bool :=
  syncAddress found.privateIp CMLWorkerState.privateIp (fun ip => { privateIp := some ip }) now
    (syncAddress found.publicIp CMLWorkerState.publicIp (fun ip => { publicIp := some ip }) now
      (w, false))

/-- The status of the worker, and whether it has changed. -/
def syncStatus (state : String) (now : Int) (w : CMLWorker) : CMLWorker × Bool :=
  if state = "running" ∧ w.state.status ≠ .running then (w.updateStatus .running now, true)
  else if state = "stopped" ∧ w.state.status ≠ .stopped then
    ((w.updateStatus .stopped now).updateDesiredStatus .stopped (some "system-sync")
      (some "Aligned with actual EC2 stopped state detected during discovery") now, true)
  else if state = "stopping" ∧ w.state.status ≠ .stopping then
    (w.updateStatus .stopping now, true)
  else if state = "shutting-down" ∧ w.state.status ≠ .shuttingDown then
    (w.updateStatus .shuttingDown now, true)
  else if state = "terminated" ∧ w.state.status ≠ .terminated then
    (w.terminate (some "system-sync") now, true)
  else (w, false)

/-- What an import makes of a worker that is registered, and whether it saves it. -/
def syncDiscovered (found : DiscoveredInstance) (now : Int) (s : CMLWorkerState) :
    CMLWorkerState × Bool :=
  let (w, ipChanged) := syncAddresses found now (load (backfillName found s))
  let (w, updated) := syncStatus found.state now w
  (w.state, updated || ipChanged)

/-- The status that the state of an instance asks for. -/
def reportedStatus (state : String) : Option CMLWorkerStatus :=
  if state = "running" then some .running
  else if state = "stopped" then some .stopped
  else if state = "stopping" then some .stopping
  else if state = "shutting-down" then some .shuttingDown
  else if state = "terminated" then some .terminated
  else none

/-- The turn of a registered worker in `InternalBulkImportWorkersCommandHandler`. -/
def syncRegistered (found : DiscoveredInstance) (now : Int) (s : CMLWorkerState) : Handled :=
  let synced := syncDiscovered found now s
  { result := .ok "Already registered", saves := if synced.2 then [synced.1] else [] }

/-! ## §5. Requests that the worker-controller is to carry out. -/

/-- `RequestWorkerSyncCommandHandler`. -/
def requestWorkerSync (scope : String) (includeLabs : Bool) (reason : String) (now : Int)
    (s : CMLWorkerState) : Handled :=
  if s.status = .terminated then
    { result := .badRequest "Cannot sync a terminated worker — no resources to reconcile" }
  else
    { result := .accepted
        "Synchronization requested. Worker state will be reconciled immediately."
      saves := [((load s).raise (.syncRequested scope includeLabs reason now)).state] }

/-- `RequestWorkerRefreshCommandHandler`. -/
def requestWorkerRefresh (now : Int) (s : CMLWorkerState) : Handled :=
  if s.status ≠ .running then
    { result := .badRequest ("Cannot refresh worker in " ++ s.status.value
        ++ " state. Worker must be RUNNING.") }
  else
    { result := .accepted
        "Refresh requested. Data will be updated on next reconciliation cycle."
      saves := [{ s with refreshRequestedAt := some now, updatedAt := now }] }

/-- `worker.state.status not in [CMLWorkerStatus.RUNNING, CMLWorkerStatus.READY]`, by the names
that are looked up. -/
def statusNotIn (names : List String) (s : CMLWorkerState) : Except String Bool := do
  let statuses ← names.mapM fun name =>
    match statusAttribute name with
    | some status => .ok status
    | none => .error name
  return !statuses.contains s.status

/-- `RegisterCMLWorkerLicenseCommandHandler`. -/
def registerCMLWorkerLicense (licenseToken : String) (reregister : Bool) (now : Int)
    (s : CMLWorkerState) : Handled :=
  match statusNotIn ["RUNNING", "READY"] s with
  | .error name => { result := .attributeError name }
  | .ok true =>
      { result := .badRequest ("Worker must be running to register license (current: "
          ++ s.status.value ++ ")") }
  | .ok false =>
      if s.license.operationInProgress then
        { result := .conflict "License operation already in progress" }
      else if s.license.pendingOperation = some .register then
        { result := .conflict "License registration already pending" }
      else
        { result := .accepted "License registration queued"
          saves :=
            [((load s).raise (.licenseRegistrationRequested licenseToken reregister now)).state] }

/-- `DeregisterCMLWorkerLicenseCommandHandler`. -/
def deregisterCMLWorkerLicense (now : Int) (s : CMLWorkerState) : Handled :=
  match statusNotIn ["RUNNING", "READY"] s with
  | .error name => { result := .attributeError name }
  | .ok true =>
      { result := .badRequest ("Worker must be running to deregister license (current: "
          ++ s.status.value ++ ")") }
  | .ok false =>
      if s.license.status ≠ .registered then
        { result := .badRequest "Worker does not have a registered license" }
      else if s.license.operationInProgress then
        { result := .conflict "License operation already in progress" }
      else if s.license.pendingOperation = some .deregister then
        { result := .conflict "License deregistration already pending" }
      else
        { result := .accepted "License deregistration queued"
          saves := [((load s).raise (.licenseDeregistrationRequested now)).state] }

/-- The reports on a licence operation, under way or ended. -/
inductive LicenseReport where
  | registrationStarted
  | registrationCompleted
  | registrationFailed (errorMessage : String)
  | deregistrationStarted
  | deregistrationCompleted
  | deregistrationFailed (errorMessage : String)
  deriving DecidableEq

/-- The event of a report. -/
def LicenseReport.event (now : Int) : LicenseReport → WorkerEvent
  | .registrationStarted => .licenseRegistrationStarted now
  | .registrationCompleted => .licenseRegistrationCompleted now
  | .registrationFailed errorMessage => .licenseRegistrationFailed errorMessage now
  | .deregistrationStarted => .licenseDeregistrationStarted now
  | .deregistrationCompleted => .licenseDeregistrationCompleted now
  | .deregistrationFailed errorMessage => .licenseDeregistrationFailed errorMessage now

/-- The handlers of `license_status_commands`; none of them looks at the licence first. -/
def reportLicense (report : LicenseReport) (now : Int) (s : CMLWorkerState) : Handled :=
  { result := .ok s.id, saves := [((load s).raise (report.event now)).state] }

/-! ## §6. All of them. -/

/-- A command on one worker. -/
inductive WorkerCommand where
  | start (startedBy : Option String) (isAutoResume : Bool) (reason : Option String)
  | stop (stoppedBy : Option String) (isAutoPause : Bool) (reason : Option String)
  | pause (isAutoPause : Bool) (reason : Option String)
  | terminate (terminatedBy reason : Option String)
  | delete (forceHardDelete : Bool) (deletedBy : Option String)
  | drain (reason requestedBy : String)
  | markTerminated (terminatedBy : Option String)
  | updateStatus (status : CMLWorkerStatus) (ec2InstanceId : Option String)
  | updateEc2Details (details : Ec2Details)
  | updateCmlData (licenseInfo : Option LicenseInfo) (ready : Bool)
  | requestSync (scope : String) (includeLabs : Bool) (reason : String)
  | requestRefresh
  | registerLicense (licenseToken : String) (reregister : Bool)
  | deregisterLicense
  | reportLicense (report : LicenseReport)
  | syncRegistered (found : DiscoveredInstance)

/-- The handler of a command. -/
def handle (command : WorkerCommand) (now : Int) (s : CMLWorkerState) : Handled :=
  match command with
  | .start startedBy isAutoResume reason => startCMLWorker startedBy isAutoResume reason now s
  | .stop stoppedBy isAutoPause reason => stopCMLWorker stoppedBy isAutoPause reason now s
  | .pause isAutoPause reason => pauseWorker isAutoPause reason now s
  | .terminate terminatedBy reason => terminateCMLWorker terminatedBy reason now s
  | .delete forceHardDelete deletedBy => deleteCMLWorker forceHardDelete deletedBy now s
  | .drain reason requestedBy => drainWorker reason requestedBy now s
  | .markTerminated terminatedBy => markWorkerTerminated terminatedBy now s
  | .updateStatus status ec2InstanceId => updateWorkerStatus status ec2InstanceId now s
  | .updateEc2Details details => updateWorkerEc2Details details now s
  | .updateCmlData licenseInfo ready => updateWorkerCmlData licenseInfo ready now s
  | .requestSync scope includeLabs reason => requestWorkerSync scope includeLabs reason now s
  | .requestRefresh => requestWorkerRefresh now s
  | .registerLicense licenseToken reregister =>
      registerCMLWorkerLicense licenseToken reregister now s
  | .deregisterLicense => deregisterCMLWorkerLicense now s
  | .reportLicense report => Worker.reportLicense report now s
  | .syncRegistered found => Worker.syncRegistered found now s

/-- `CMLWorkerStatus` has no READY. -/
theorem statusNotIn_ready (s : CMLWorkerState) :
    statusNotIn ["RUNNING", "READY"] s = .error "READY" := rfl

/-- **A licence request on a worker that exists raises**, whatever the worker. -/
theorem requested_raises (licenseToken : String) (reregister : Bool) (now : Int)
    (s : CMLWorkerState) :
    registerCMLWorkerLicense licenseToken reregister now s = { result := .attributeError "READY" }
      ∧ deregisterCMLWorkerLicense now s = { result := .attributeError "READY" } := by
  constructor
  · unfold registerCMLWorkerLicense
    rw [statusNotIn_ready]
  · unfold deregisterCMLWorkerLicense
    rw [statusNotIn_ready]

/-! ## §7. What a command raises. -/

/-- The command may set such a status. -/
def WorkerCommand.Sets (s : CMLWorkerState) (newStatus : CMLWorkerStatus) : WorkerCommand → Prop
  | .delete .. => newStatus = .shuttingDown
  | .drain .. => s.status = .running ∧ newStatus = .draining
  | .updateStatus status _ => newStatus = status
  | .syncRegistered found => reportedStatus found.state = some newStatus
  | _ => False

/-- The command may pause a worker. -/
def WorkerCommand.Pauses : WorkerCommand → Prop
  | .stop .. => True
  | .pause .. => True
  | _ => False

/-- The command may resume a worker. -/
def WorkerCommand.Resumes : WorkerCommand → Prop
  | .start .. => True
  | _ => False

/-- The event may be raised by the command: the worker is there already, a change of status
starts from the status it has, no licence operation is requested, and only the commands that are
for it pause or resume. -/
def WorkerEvent.By (command : WorkerCommand) (s : CMLWorkerState) : WorkerEvent → Prop
  | .created .. => False
  | .imported .. => False
  | .statusUpdated oldStatus newStatus .. => oldStatus = s.status ∧ command.Sets s newStatus
  | .licenseRegistrationRequested .. => False
  | .licenseDeregistrationRequested _ => False
  | .paused .. => command.Pauses
  | .resumed .. => command.Resumes
  | _ => True

/-- A condition on records that the events of a command keep. -/
structure RaiseInvariant (command : WorkerCommand) (P : CMLWorkerState → Prop) : Prop where
  raised : ∀ s event, event.By command s → P s → P (s.on event)
  refresh : ∀ s requested now, P s →
    P { s with refreshRequestedAt := requested, updatedAt := now }
  named : ∀ s name, P s → P { s with name := name }

namespace RaiseInvariant

variable {command : WorkerCommand} {P : CMLWorkerState → Prop} {w : CMLWorker}

theorem raise (hP : RaiseInvariant command P) (h : P w.state) {event : WorkerEvent}
    (hevent : event.By command w.state) : P (w.raise event).state :=
  hP.raised w.state event hevent h

theorem updateStatus (hP : RaiseInvariant command P) (h : P w.state) {status : CMLWorkerStatus}
    (hsets : command.Sets w.state status) (now : Int) : P (w.updateStatus status now).state := by
  unfold CMLWorker.updateStatus
  split
  next => exact h
  next => exact hP.raise h ⟨rfl, hsets⟩

theorem updateDesiredStatus (hP : RaiseInvariant command P) (h : P w.state)
    (status : CMLWorkerStatus) (requestedBy reason : Option String) (now : Int) :
    P (w.updateDesiredStatus status requestedBy reason now).state := by
  unfold CMLWorker.updateDesiredStatus
  split
  next => exact h
  next => exact hP.raise h trivial

theorem updateServiceStatus (hP : RaiseInvariant command P) (h : P w.state)
    (status : CMLServiceStatus) (httpsEndpoint : Option String) (now : Int) :
    P (w.updateServiceStatus status httpsEndpoint now).state := by
  unfold CMLWorker.updateServiceStatus
  split
  next => exact h
  next => exact hP.raise h trivial

theorem stop (hP : RaiseInvariant command P) (hpauses : command.Pauses) {s : CMLWorkerState}
    (h : P s) (stoppedBy : Option String) (isAutoPause : Bool) (reason : Option String)
    (now : Int) : ∀ t ∈ (stopCMLWorker stoppedBy isAutoPause reason now s).saves, P t := by
  intro t ht
  simp only [stopCMLWorker] at ht
  split at ht
  · cases ht
  split at ht
  · cases ht
  obtain rfl := List.mem_singleton.mp ht
  exact hP.raise (hP.updateDesiredStatus (w := load s) h ..) hpauses

theorem markTerminated (hP : RaiseInvariant command P) {s : CMLWorkerState} (h : P s)
    (terminatedBy : Option String) (now : Int) :
    ∀ t ∈ (markWorkerTerminated terminatedBy now s).saves, P t := by
  intro t ht
  simp only [markWorkerTerminated] at ht
  split at ht
  · cases ht
  obtain rfl := List.mem_singleton.mp ht
  exact hP.raise (w := load s) h trivial

theorem updateWorkerStatus {s : CMLWorkerState} {status : CMLWorkerStatus}
    {ec2InstanceId : Option String}
    (hP : RaiseInvariant (.updateStatus status ec2InstanceId) P) (h : P s) (now : Int) :
    ∀ t ∈ (updateWorkerStatus status ec2InstanceId now s).saves, P t := by
  intro t ht
  simp only [Worker.updateWorkerStatus] at ht
  split at ht
  next => exact hP.markTerminated h _ now t ht
  next =>
    have hupdated : P ((load s).updateStatus status now).state := hP.updateStatus h rfl now
    -- the status is saved first, if it is another one, and then the instance
    have hfirst : ∀ t ∈ (if s.status = status then []
        else [((load s).updateStatus status now).state]), P t := by
      intro t ht
      split at ht
      · cases ht
      · obtain rfl := List.mem_singleton.mp ht
        exact hupdated
    simp only [updateCMLWorkerStatus] at ht
    cases hid : givenText ec2InstanceId with
    | none =>
        rw [hid] at ht
        exact hfirst t ht
    | some instanceId =>
        rw [hid] at ht
        rcases List.mem_append.mp ht with ht | ht
        · exact hfirst t ht
        · obtain rfl := List.mem_singleton.mp ht
          exact hP.raise hupdated trivial

theorem backfillName (hP : RaiseInvariant command P) {s : CMLWorkerState} (h : P s)
    (found : DiscoveredInstance) : P (backfillName found s) := by
  unfold Worker.backfillName
  cases givenText found.name with
  | none => exact h
  | some name =>
      dsimp only
      split
      next => exact hP.named s name h
      next => exact h

theorem syncAddress (hP : RaiseInvariant command P) {w : CMLWorker × Bool} (h : P w.1.state)
    (ip : Option String) (held : CMLWorkerState → Option String)
    (details : String → Ec2Details) (now : Int) :
    P (syncAddress ip held details now w).1.state := by
  unfold Worker.syncAddress
  cases givenText ip with
  | none => exact h
  | some ip =>
      dsimp only
      split
      next => exact h
      next => exact hP.raise h trivial

theorem syncStatus {found : DiscoveredInstance} (hP : RaiseInvariant (.syncRegistered found) P)
    (h : P w.state) (now : Int) : P (syncStatus found.state now w).1.state := by
  have hupdated (status : CMLWorkerStatus) (hreported : reportedStatus found.state = some status) :
      P (w.updateStatus status now).state := hP.updateStatus h hreported now
  unfold Worker.syncStatus
  split
  next hstate => exact hupdated .running (by rw [hstate.1]; rfl)
  split
  next hstate => exact hP.updateDesiredStatus (hupdated .stopped (by rw [hstate.1]; rfl)) ..
  split
  next hstate => exact hupdated .stopping (by rw [hstate.1]; rfl)
  split
  next hstate => exact hupdated .shuttingDown (by rw [hstate.1]; rfl)
  split
  next => exact hP.raise h trivial
  next => exact h

theorem syncRegistered {found : DiscoveredInstance}
    (hP : RaiseInvariant (.syncRegistered found) P) {s : CMLWorkerState} (h : P s) (now : Int) :
    ∀ t ∈ (syncRegistered found now s).saves, P t := by
  intro t ht
  simp only [Worker.syncRegistered] at ht
  split at ht
  · obtain rfl := List.mem_singleton.mp ht
    have hnamed : P (load (Worker.backfillName found s)).state := hP.backfillName h found
    have hpublic := hP.syncAddress (w := (_, false)) hnamed found.publicIp
      CMLWorkerState.publicIp (fun ip => { publicIp := some ip }) now
    exact hP.syncStatus (hP.syncAddress hpublic found.privateIp CMLWorkerState.privateIp
      (fun ip => { privateIp := some ip }) now) now
  · cases ht

/-- **Every save of the command keeps it.** -/
theorem saves (hP : RaiseInvariant command P) {s : CMLWorkerState} (h : P s) (now : Int) :
    ∀ t ∈ (handle command now s).saves, P t := by
  intro t ht
  have hload : P (load s).state := h
  cases command with
  | start startedBy isAutoResume reason =>
      simp only [handle, startCMLWorker] at ht
      split at ht
      · cases ht
      split at ht
      · cases ht
      obtain rfl := List.mem_singleton.mp ht
      exact hP.raise (hP.updateDesiredStatus hload ..) trivial
  | stop stoppedBy isAutoPause reason =>
      exact hP.stop trivial h stoppedBy isAutoPause reason now t ht
  | pause isAutoPause reason => exact hP.stop trivial h _ isAutoPause reason now t ht
  | terminate terminatedBy reason =>
      simp only [handle, terminateCMLWorker] at ht
      split at ht
      · cases ht
      split at ht
      · cases ht
      obtain rfl := List.mem_singleton.mp ht
      exact hP.raise (hP.updateDesiredStatus hload ..) trivial
  | delete forceHardDelete deletedBy =>
      have hwanted := hP.updateDesiredStatus hload .terminated none none now
      simp only [handle, deleteCMLWorker] at ht
      split at ht
      · cases ht
      split at ht
      · cases ht
      split at ht
      · obtain rfl := List.mem_singleton.mp ht
        exact hP.updateStatus hwanted rfl now
      · obtain rfl := List.mem_singleton.mp ht
        exact hP.raise hwanted trivial
  | drain reason requestedBy =>
      simp only [handle, drainWorker] at ht
      split at ht
      next => cases ht
      next hrunning =>
        have hdrained : P ((load s).updateStatus .draining now).state :=
          hP.updateStatus hload ⟨Decidable.not_not.mp hrunning, rfl⟩ now
        obtain rfl := List.mem_singleton.mp ht
        exact hP.updateDesiredStatus hdrained ..
  | markTerminated terminatedBy => exact hP.markTerminated h terminatedBy now t ht
  | updateStatus status ec2InstanceId => exact hP.updateWorkerStatus h now t ht
  | updateEc2Details details =>
      simp only [handle, updateWorkerEc2Details] at ht
      obtain rfl := List.mem_singleton.mp ht
      exact hP.raise hload trivial
  | updateCmlData licenseInfo ready =>
      have hreported : P ((load s).raise (.cmlMetricsUpdated licenseInfo now)).state :=
        hP.raise hload trivial
      simp only [handle, updateWorkerCmlData] at ht
      obtain rfl := List.mem_singleton.mp ht
      exact hP.refresh _ none _ (hP.updateServiceStatus hreported ..)
  | requestSync scope includeLabs reason =>
      -- the event leaves the state as it is
      simp only [handle, requestWorkerSync] at ht
      split at ht
      · cases ht
      obtain rfl := List.mem_singleton.mp ht
      exact h
  | requestRefresh =>
      simp only [handle, requestWorkerRefresh] at ht
      split at ht
      · cases ht
      obtain rfl := List.mem_singleton.mp ht
      exact hP.refresh s (some now) now h
  | registerLicense licenseToken reregister =>
      simp only [handle, (requested_raises licenseToken reregister now s).1] at ht
      cases ht
  | deregisterLicense =>
      simp only [handle, (requested_raises "" false now s).2] at ht
      cases ht
  | reportLicense report =>
      simp only [handle, Worker.reportLicense] at ht
      obtain rfl := List.mem_singleton.mp ht
      refine hP.raise hload ?_
      cases report <;> trivial
  | syncRegistered found => exact hP.syncRegistered h now t ht

/-- And so does the worker that the command leaves. -/
theorem after (hP : RaiseInvariant command P) {s : CMLWorkerState} (h : P s) (now : Int) :
    P ((handle command now s).after s) :=
  after_of_saves h (hP.saves h now)

end RaiseInvariant

end CmlCloudManager.Worker
