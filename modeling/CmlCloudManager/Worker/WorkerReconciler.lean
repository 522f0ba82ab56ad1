/-
  CmlCloudManager.Worker.WorkerReconciler
  ───────────────────────────────────────
  **THE WORKER RECONCILER.**

  One pass over a worker is a program that asks EC2, CML and the control plane and
  goes on from their answers: `reconcile` routes by the status it was given, and each
  status has a handler.  Nothing is said about the answers here; every call that can
  raise answers with what it raised, and the pass turns it into a failed result.

    • `reconcile`       — one pass,
    • `dead_reconcile`  — for a worker in a status without a handler the pass asks for a
                          sync request and is over.
-/
import CmlCloudManager.Foundation.Resumption
import CmlCloudManager.Scheduler.SchedulerService
import CmlCloudManager.Worker.IdleDetection
import CmlCloudManager.Worker.WorkerReadModel

namespace CmlCloudManager.Worker

open CmlCloudManager.Foundation
open CmlCloudManager.ControlPlane (CMLWorkerStatus CMLWorkerStatus.value givenText)
open CmlCloudManager.Scheduler (ReconciliationResult)

/-! ## §1. The parties. -/

/-- The state of an EC2 instance. -/
inductive Ec2State where
  | pending
  | running
  | stopping
  | stopped
  | shuttingDown
  | terminated
  /-- a description without a state -/
  | unknown
  deriving DecidableEq, Repr

/-- The name of the state. -/
def Ec2State.name : Ec2State → String
  | .pending => "pending"
  | .running => "running"
  | .stopping => "stopping"
  | .stopped => "stopped"
  | .shuttingDown => "shutting-down"
  | .terminated => "terminated"
  | .unknown => "unknown"

/-- `Ec2InstanceState`. -/
structure Ec2InstanceState where
  state : Ec2State
  publicIp : Option String := none
  privateIp : Option String := none
  instanceType : Option String := none
  imageId : Option String := none
  deriving DecidableEq

/-- The description of an AMI. -/
structure AmiInfo where
  name : Option String := none
  description : Option String := none
  creationDate : Option String := none
  deriving DecidableEq

/-- `AwsRegionConfig`. -/
structure AwsRegionConfig where
  securityGroupIds : List String := []
  subnetId : String := ""
  keyName : Option String := none
  defaultTags : Dict String String := Dict.empty

/-- The settings of the worker-controller that a pass reads. -/
structure ControllerSettings where
  awsRegion : String
  awsRegionConfigs : Dict String AwsRegionConfig
  wsRegistry : Bool := true
  cmlWebsocketEnabled : Bool := true
  scaleDownEnabled : Bool := false
  minWorkers : Int := 0
  scaleDownCooldownSeconds : Int := 600

/-- The worker template, as far as a launch reads it. -/
structure TemplateData where
  instanceType : Option String := none
  amiNamePattern : Option String := none

/-- The arguments of `run_instance`. -/
structure RunInstanceRequest where
  amiId : String
  instanceType : String
  subnetId : String
  securityGroupIds : List String
  keyName : Option String
  tags : Dict String String

/-- The payload of a sync request, with its defaults. -/
structure SyncRequest where
  scope : String := "full"
  includeLabs : Bool := true
  reason : String := "manual"

/-- What the passes share of the scale-down, and the clock. -/
structure ScaleDownState where
  runningWorkerCount : Int := 0
  lastScaleDownAt : Option Int := none
  now : Int := 0

/-- The calls of a pass over one worker. -/
inductive WorkerCall where
  | getPendingSync
  | getWorkerTemplate (templateName : String)
  | getAmiIdsByName (amiName : String)
  | runInstance (request : RunInstanceRequest)
  | getInstanceState (instanceId : String)
  | startInstance (instanceId : String)
  | stopInstance (instanceId : String)
  | terminateInstance (instanceId : String)
  | describeImage (imageId : String)
  | updateWorkerStatus (status : CMLWorkerStatus) (ec2InstanceId : Option String)
  | updateWorkerEc2Details (details : Ec2Details)
  | stopMonitoring
  | ensureMonitoring (host : String) (fallbackHost username password : Option String)
  | checkHealth (host : String)
  | collectAndReportCmlData (host : String)
  | triggerLabDiscovery (labIds : List String) (source : String)
  | completeWorkerSync
  | reportLicense (report : LicenseReport)
  | registerLicense (host token : String) (username password : Option String)
  | deregisterLicense (host : String) (username password : Option String)
  | gatherTelemetry (host : Option String)
  | detectWorkerIdle (rawTelemetryEvents : List ActivityEvent)
  | scaleDownState
  | drainWorker (reason requestedBy : String)
  | noteScaleDown

/-- What they answer; what raises is an error. -/
abbrev WorkerCall.Reply : WorkerCall → Type
  -- failures to read the key are caught, and so are those of the three reports
  | .getPendingSync => Option SyncRequest
  | .collectAndReportCmlData _ => Unit
  | .gatherTelemetry _ => List ActivityEvent
  | .scaleDownState => ScaleDownState
  | .noteScaleDown => Unit
  | .getWorkerTemplate _ => Except String (Option TemplateData)
  | .getAmiIdsByName _ => Except String (List String)
  | .runInstance _ => Except String String
  | .getInstanceState _ => Except String (Option Ec2InstanceState)
  | .describeImage _ => Except String (Option AmiInfo)
  | .checkHealth _ => Except String Bool
  | .registerLicense .. => Except String (Bool × String)
  | .deregisterLicense .. => Except String (Bool × String)
  | .detectWorkerIdle _ => Except String IdleResult
  | .startInstance _ => Except String Unit
  | .stopInstance _ => Except String Unit
  | .terminateInstance _ => Except String Unit
  | .updateWorkerStatus .. => Except String Unit
  | .updateWorkerEc2Details _ => Except String Unit
  | .stopMonitoring => Except String Unit
  | .ensureMonitoring .. => Except String Unit
  | .triggerLabDiscovery .. => Except String Unit
  | .completeWorkerSync => Except String Unit
  | .reportLicense _ => Except String Unit
  | .drainWorker .. => Except String Unit

/-- A program over these calls. -/
abbrev WorkerProgram (α : Type) : Type := Resumption WorkerCall WorkerCall.Reply α

/-- One that may raise. -/
abbrev Raising (α : Type) : Type := WorkerProgram (Except String α)

/-- A call with its answer. -/
abbrev WorkerTrace : Type := List (Resumption.Event WorkerCall WorkerCall.Reply)

/-- `return`. -/
def give {α : Type} (a : α) : Raising α := .done (.ok a)

/-- `try: … except Exception as e: handler(e)`. -/
def tryExcept {α : Type} (p : Raising α) (handler : String → Raising α) : Raising α :=
  p.bind fun
    | .error raised => handler raised
    | .ok a => give a

/-- A call whose exceptions are logged and dropped. -/
def logged {α : Type} (p : Raising α) : Raising Unit :=
  p.bind fun _ => give ()

/-- `update_worker_status`. -/
def putStatus (status : CMLWorkerStatus) (ec2InstanceId : Option String := none) : Raising Unit :=
  Resumption.call (WorkerCall.updateWorkerStatus status ec2InstanceId)

/-- `get_instance_state`. -/
def instanceState (instanceId : String) : Raising (Option Ec2InstanceState) :=
  Resumption.call (WorkerCall.getInstanceState instanceId)

/-! ## §2. The parts that do not raise. -/

/-- `_map_ec2_state_to_worker_status`. -/
def mapEc2State : Ec2State → CMLWorkerStatus
  | .pending => .provisioning
  | .running => .running
  | .stopping => .stopping
  | .stopped => .stopped
  | .shuttingDown => .terminating
  | .terminated => .terminated
  | .unknown => .unknown

/-- The details of an instance, with what is known of its AMI. -/
def Ec2InstanceState.details (state : Ec2InstanceState) (ami : AmiInfo) : Ec2Details where
  publicIp := state.publicIp
  privateIp := state.privateIp
  instanceType := state.instanceType
  amiId := state.imageId
  amiName := ami.name
  amiDescription := ami.description
  amiCreationDate := ami.creationDate

/-- `_report_ec2_details`. -/
def reportEc2Details (state : Ec2InstanceState) : WorkerProgram Unit :=
  let report (ami : AmiInfo) : WorkerProgram Unit :=
    (Resumption.call (WorkerCall.updateWorkerEc2Details (state.details ami))).bind fun _ => .done ()
  match givenText state.imageId with
  | none => report {}
  | some imageId =>
      (Resumption.call (WorkerCall.describeImage imageId)).bind fun
        | .ok (some ami) => report ami
        | _ => report {}

/-- `_handle_on_demand_refresh`. -/
def handleOnDemandRefresh (worker : CMLWorkerReadModel) : WorkerProgram Unit :=
  match givenText worker.ec2InstanceId with
  | none => .done ()
  | some instanceId =>
      (instanceState instanceId).bind fun
        | .ok (some state) => reportEc2Details state
        | _ => .done ()

/-- `_detect_activity`. -/
def detectActivity (worker : CMLWorkerReadModel) : WorkerProgram (Option IdleResult) :=
  (Resumption.call (WorkerCall.gatherTelemetry (givenText worker.ipAddress))).bind fun events =>
    (Resumption.call (WorkerCall.detectWorkerIdle events)).bind fun
      | .error _ => .done none
      | .ok result => .done (if (givenText result.error).isSome then none else some result)

/-- The cooldown is still running. -/
def coolingDown (settings : ControllerSettings) (state : ScaleDownState) : Bool :=
  match state.lastScaleDownAt with
  | none => false
  | some lastScaleDownAt =>
      decide (state.now - lastScaleDownAt < settings.scaleDownCooldownSeconds)

/-- `_evaluate_scale_down`. -/
def evaluateScaleDown (settings : ControllerSettings) (idleResult : IdleResult) :
    WorkerProgram Bool :=
  if idleResult.autoPauseTriggered then .done false
  else if !idleResult.isIdle then .done false
  else if !idleResult.eligibleForPause then .done false
  else
    (Resumption.call WorkerCall.scaleDownState).bind fun state =>
      if state.runningWorkerCount ≤ settings.minWorkers then .done false
      else if coolingDown settings state then .done false
      else
        (Resumption.call (WorkerCall.drainWorker "scale_down" "worker-controller")).bind fun
          | .error _ => .done false
          | .ok _ => (Resumption.call WorkerCall.noteScaleDown).bind fun _ => .done true

/-! ## §3. The licence. -/

/-- The report on a licence operation. -/
def putLicense (report : LicenseReport) : Raising Unit :=
  Resumption.call (WorkerCall.reportLicense report)

/-- A licence operation: it is reported as started, carried out, and reported as ended. -/
def executeLicense (started completed : LicenseReport) (failed : String → LicenseReport)
    (operation : Raising (Bool × String)) : Raising Unit :=
  tryExcept
    ((putLicense started).andThen fun _ =>
      operation.andThen fun answer =>
        if answer.1 then putLicense completed else putLicense (failed answer.2))
    fun raised => putLicense (failed raised)

/-- `_execute_license_registration`. -/
def executeLicenseRegistration (worker : CMLWorkerReadModel) (host : String) : Raising Unit :=
  match givenText worker.license.pendingToken with
  | none => putLicense (.registrationFailed "No license token provided")
  | some token =>
      executeLicense .registrationStarted .registrationCompleted .registrationFailed
        (Resumption.call
          (WorkerCall.registerLicense host token worker.cmlUsername worker.cmlPassword))

/-- `_execute_license_deregistration`. -/
def executeLicenseDeregistration (worker : CMLWorkerReadModel) (host : String) : Raising Unit :=
  executeLicense .deregistrationStarted .deregistrationCompleted .deregistrationFailed
    (Resumption.call (WorkerCall.deregisterLicense host worker.cmlUsername worker.cmlPassword))

/-- `_reconcile_license`. -/
def reconcileLicense (worker : CMLWorkerReadModel) : Raising Unit :=
  match givenText worker.license.pendingOperation with
  | none => give ()
  | some operation =>
      match givenText worker.ipAddress with
      | none => give ()
      | some host =>
          if operation = "register" then executeLicenseRegistration worker host
          else if operation = "deregister" then executeLicenseDeregistration worker host
          else give ()

/-! ## §4. The handlers. -/

/-- The launch that `_handle_pending` asks for, or what it fails with. -/
def runInstanceRequest (worker : CMLWorkerReadModel) (templateName amiId instanceType : String)
    (config : AwsRegionConfig) : RunInstanceRequest :=
  let tags : Dict String String :=
    Dict.ofList
      [("Name", "cml-worker-" ++ worker.name), ("lcm:worker_id", worker.id),
       ("lcm:template_name", templateName), ("lcm:managed_by", "lablet-cloud-manager")]
  { amiId := amiId
    instanceType := instanceType
    subnetId := config.subnetId
    securityGroupIds := config.securityGroupIds
    keyName := config.keyName
    tags := if config.defaultTags.isEmpty then tags else config.defaultTags.update tags }

/-- The `try` block of `_handle_pending`. -/
def provision (settings : ControllerSettings) (worker : CMLWorkerReadModel) :
    Raising ReconciliationResult :=
  match givenText worker.templateName with
  | none =>
      give (.failed
        "Worker has no template_name - cannot provision without template configuration")
  | some templateName =>
      (Resumption.call (WorkerCall.getWorkerTemplate templateName)).andThen fun
        | none =>
            give (.failed ("Worker template '" ++ templateName
              ++ "' not found in control-plane-api"))
        | some template =>
            match (givenText template.instanceType).or (givenText worker.instanceType) with
            | none => give (.failed "No instance_type in template or worker")
            | some instanceType =>
                let awsRegion := (givenText worker.awsRegion).getD settings.awsRegion
                match settings.awsRegionConfigs.get? awsRegion with
                | none =>
                    give (.failed ("No infrastructure config for region '" ++ awsRegion
                      ++ "'. Add region to config/aws_regions.yaml"))
                | some config =>
                    if config.subnetId = "" then
                      give (.failed ("No subnet_id configured for region '" ++ awsRegion ++ "'"))
                    else if config.securityGroupIds.isEmpty then
                      give (.failed ("No security_group_ids configured for region '"
                        ++ awsRegion ++ "'"))
                    else
                      match (givenText template.amiNamePattern).or (givenText worker.amiName) with
                      | none =>
                          give (.failed
                            "No AMI name pattern in template or worker - cannot resolve AMI ID")
                      | some amiName =>
                          (Resumption.call (WorkerCall.getAmiIdsByName amiName)).andThen fun
                            | [] =>
                                give (.failed ("No AMI found matching name pattern '" ++ amiName
                                  ++ "' in region '" ++ awsRegion ++ "'"))
                            | amiId :: _ =>
                                (Resumption.call (WorkerCall.runInstance
                                    (runInstanceRequest worker templateName amiId instanceType
                                      config))).andThen fun instanceId =>
                                  (putStatus .provisioning (some instanceId)).andThen fun _ =>
                                    give (.requeue
                                      "EC2 instance launched, waiting for running state" none)

/-- `_handle_pending`: a failure of the launch, or of the report on it, ends in FAILED. -/
def handlePending (settings : ControllerSettings) (worker : CMLWorkerReadModel) :
    Raising ReconciliationResult :=
  tryExcept (provision settings worker) fun raised =>
    (putStatus .failed).bind fun _ => give (.failed raised)

/-- `_handle_provisioning`. -/
def handleProvisioning (worker : CMLWorkerReadModel) : Raising ReconciliationResult :=
  match givenText worker.ec2InstanceId with
  | none => give (.failed "Worker in PROVISIONING but no EC2 instance ID")
  | some instanceId =>
      (instanceState instanceId).andThen fun
        | none => give (.failed ("EC2 instance " ++ instanceId ++ " not found"))
        | some state =>
            match state.state with
            | .running =>
                (putStatus .running).andThen fun _ =>
                  (reportEc2Details state).bind fun _ => give (.success "")
            | .pending => give (.requeue "EC2 instance still pending" none)
            | other => give (.failed ("EC2 instance in unexpected state: " ++ other.name))

/-- `_handle_starting`. -/
def handleStarting (worker : CMLWorkerReadModel) : Raising ReconciliationResult :=
  match givenText worker.ec2InstanceId with
  | none => give (.failed "Worker in STARTING but no EC2 instance ID")
  | some instanceId =>
      (instanceState instanceId).andThen fun
        | none => give (.failed ("EC2 instance " ++ instanceId ++ " not found"))
        | some state =>
            match state.state with
            | .running =>
                (putStatus .running).andThen fun _ =>
                  (reportEc2Details state).bind fun _ => give (.success "")
            | .stopped =>
                (Resumption.call (WorkerCall.startInstance instanceId)).andThen fun _ =>
                  give (.requeue "EC2 start initiated, waiting for running state" none)
            | .pending => give (.requeue "EC2 instance starting" none)
            | other => give (.failed ("Cannot start EC2 instance in state: " ++ other.name))

/-- The monitoring of a worker that runs. -/
def ensureMonitoring (settings : ControllerSettings) (worker : CMLWorkerReadModel)
    (cmlReady : Bool) : WorkerProgram Unit :=
  match givenText worker.ipAddress with
  | none => .done ()
  | some host =>
      if cmlReady && settings.wsRegistry && settings.cmlWebsocketEnabled then
        (Resumption.call (WorkerCall.ensureMonitoring host worker.fallbackHost worker.cmlUsername
          worker.cmlPassword)).bind fun _ => .done ()
      else .done ()

/-- The refresh that was asked for. -/
def refreshIfRequested (worker : CMLWorkerReadModel) : WorkerProgram Unit :=
  match givenText worker.refreshRequestedAt with
  | none => .done ()
  | some _ => handleOnDemandRefresh worker

/-- The readiness gate: CML answers, or there is no address to ask. -/
def cmlReadiness (worker : CMLWorkerReadModel) : Raising Bool :=
  match givenText worker.ipAddress with
  | none => give true
  | some host => Resumption.call (WorkerCall.checkHealth host)

/-- The last part of `_handle_running`: idle detection and scale-down. -/
def tendIdle (settings : ControllerSettings) (worker : CMLWorkerReadModel) :
    WorkerProgram ReconciliationResult :=
  if worker.isIdleDetectionEnabled then
    (detectActivity worker).bind fun
      | none => .done (.success "")
      | some idleResult =>
          if settings.scaleDownEnabled then
            (evaluateScaleDown settings idleResult).bind fun drained =>
              .done (if drained then .requeue "Worker drained for scale-down" none
                else .success "")
          else .done (.success "")
  else .done (.success "")

/-- The part of `_handle_running` after the instance was looked at. -/
def tendRunning (settings : ControllerSettings) (worker : CMLWorkerReadModel) :
    Raising ReconciliationResult :=
  (refreshIfRequested worker).bind fun _ =>
    (cmlReadiness worker).andThen fun cmlReady =>
      (ensureMonitoring settings worker cmlReady).bind fun _ =>
        (reconcileLicense worker).andThen fun _ =>
          (tendIdle settings worker).bind give

/-- `_handle_running`. -/
def handleRunning (settings : ControllerSettings) (worker : CMLWorkerReadModel) :
    Raising ReconciliationResult :=
  if worker.desiredStatus = CMLWorkerStatus.stopped.value then
    (putStatus .stopping).andThen fun _ => give (.requeue "Transitioning to STOPPING" none)
  else if worker.desiredStatus = CMLWorkerStatus.terminated.value then
    (putStatus .terminating).andThen fun _ => give (.requeue "Transitioning to TERMINATING" none)
  else
    match givenText worker.ec2InstanceId with
    | none => tendRunning settings worker
    | some instanceId =>
        (instanceState instanceId).andThen fun
          | none => tendRunning settings worker
          | some state =>
              if state.state ≠ .running then
                (putStatus (mapEc2State state.state)).andThen fun _ =>
                  give (.requeue "EC2 state changed" none)
              else
                -- the rest of the pass goes by the address that EC2 gave
                let ec2Ip := (givenText state.publicIp).or state.privateIp
                if (givenText ec2Ip).isSome && ec2Ip != worker.ipAddress then
                  (reportEc2Details state).bind fun _ =>
                    tendRunning settings
                      { worker with
                        ipAddress := ec2Ip
                        publicIp := state.publicIp
                        privateIp := state.privateIp }
                else tendRunning settings worker

/-- The monitor of a worker that does not run is stopped. -/
def stopMonitoring (settings : ControllerSettings) : Raising Unit :=
  if settings.wsRegistry && settings.cmlWebsocketEnabled then
    Resumption.call WorkerCall.stopMonitoring
  else give ()

/-- `_handle_stopping`. -/
def handleStopping (settings : ControllerSettings) (worker : CMLWorkerReadModel) :
    Raising ReconciliationResult :=
  (stopMonitoring settings).andThen fun _ =>
    match givenText worker.ec2InstanceId with
    | none => (putStatus .stopped).andThen fun _ => give (.success "")
    | some instanceId =>
        (instanceState instanceId).andThen fun
          | none => (putStatus .stopped).andThen fun _ => give (.success "")
          | some state =>
              match state.state with
              | .stopped => (putStatus .stopped).andThen fun _ => give (.success "")
              | .running =>
                  (Resumption.call (WorkerCall.stopInstance instanceId)).andThen fun _ =>
                    give (.requeue "EC2 stop initiated, waiting for stopped state" none)
              | .stopping => give (.requeue "EC2 instance stopping" none)
              | other => give (.failed ("Cannot stop EC2 instance in state: " ++ other.name))

/-- The end of `_handle_stopped`: the desired status decides. -/
def alignStopped (worker : CMLWorkerReadModel) : Raising ReconciliationResult :=
  if worker.desiredStatus = CMLWorkerStatus.running.value then
    (putStatus .starting).andThen fun _ =>
      give (.requeue "Transitioning STOPPED → STARTING" none)
  else if worker.desiredStatus = CMLWorkerStatus.terminated.value then
    (putStatus .terminating).andThen fun _ =>
      give (.requeue "Transitioning STOPPED → TERMINATING" none)
  else give (.success "")

/-- `_handle_stopped`. -/
def handleStopped (settings : ControllerSettings) (worker : CMLWorkerReadModel) :
    Raising ReconciliationResult :=
  (stopMonitoring settings).andThen fun _ =>
    match givenText worker.ec2InstanceId with
    | none => alignStopped worker
    | some instanceId =>
        (instanceState instanceId).andThen fun
          | none => (putStatus .terminated).andThen fun _ => give (.success "")
          | some state =>
              match state.state with
              | .terminated => (putStatus .terminated).andThen fun _ => give (.success "")
              | .running =>
                  (reportEc2Details state).bind fun _ =>
                    (putStatus .running).andThen fun _ =>
                      give (.requeue "EC2 running detected, corrected STOPPED → RUNNING" none)
              | _ => alignStopped worker

/-- `_handle_terminating`. -/
def handleTerminating (worker : CMLWorkerReadModel) : Raising ReconciliationResult :=
  match givenText worker.ec2InstanceId with
  | none => (putStatus .terminated).andThen fun _ => give (.success "")
  | some instanceId =>
      (instanceState instanceId).andThen fun
        | none => (putStatus .terminated).andThen fun _ => give (.success "")
        | some state =>
            match state.state with
            | .terminated => (putStatus .terminated).andThen fun _ => give (.success "")
            | .shuttingDown => give (.requeue "EC2 instance shutting down" none)
            | _ =>
                (Resumption.call (WorkerCall.terminateInstance instanceId)).andThen fun _ =>
                  give (.requeue "EC2 terminate initiated" none)

/-- Step 1 of a sync: the state of the instance, and the status that it should give. -/
def syncInstance (worker : CMLWorkerReadModel) (sync : SyncRequest) : Raising Unit :=
  match givenText worker.ec2InstanceId with
  | none => give ()
  | some instanceId =>
      if sync.scope = "full" ∨ sync.scope = "ec2_only" then
        logged ((instanceState instanceId).andThen fun
          | none => give ()
          | some state =>
              (reportEc2Details state).bind fun _ =>
                if (mapEc2State state.state).value ≠ worker.status then
                  putStatus (mapEc2State state.state)
                else give ())
      else give ()

/-- Step 2 of a sync: the data of CML. -/
def syncCml (worker : CMLWorkerReadModel) (sync : SyncRequest) : Raising Unit :=
  match givenText worker.ipAddress with
  | none => give ()
  | some host =>
      if sync.scope = "full" ∨ sync.scope = "cml_only" then
        (Resumption.call (WorkerCall.checkHealth host)).bind fun
          | .ok true =>
              (Resumption.call (WorkerCall.collectAndReportCmlData host)).bind fun _ => give ()
          | _ => give ()
      else give ()

/-- Step 3 of a sync: the discovery of labs. -/
def syncLabs (sync : SyncRequest) : Raising Unit :=
  if sync.includeLabs then
    logged (Resumption.call (WorkerCall.triggerLabDiscovery [] "sync"))
  else give ()

/-- `_handle_sync_request`. -/
def handleSyncRequest (worker : CMLWorkerReadModel) (sync : SyncRequest) :
    Raising ReconciliationResult :=
  (syncInstance worker sync).andThen fun _ =>
    (syncCml worker sync).andThen fun _ =>
      (syncLabs sync).andThen fun _ =>
        (logged (Resumption.call WorkerCall.completeWorkerSync)).andThen fun _ =>
          give (.requeue "Sync completed — re-reconcile with fresh state" none)

/-- The routing by status. -/
def routeByStatus (settings : ControllerSettings) (worker : CMLWorkerReadModel) :
    Raising ReconciliationResult :=
  if worker.status = CMLWorkerStatus.pending.value then handlePending settings worker
  else if worker.status = CMLWorkerStatus.provisioning.value then handleProvisioning worker
  else if worker.status = CMLWorkerStatus.starting.value then handleStarting worker
  else if worker.status = CMLWorkerStatus.running.value then handleRunning settings worker
  else if worker.status = CMLWorkerStatus.stopping.value
      ∨ worker.status = CMLWorkerStatus.draining.value then handleStopping settings worker
  else if worker.status = CMLWorkerStatus.stopped.value then handleStopped settings worker
  else if worker.status = CMLWorkerStatus.terminating.value then handleTerminating worker
  else give (.success "")

/-- `reconcile`. -/
def reconcile (settings : ControllerSettings) (worker : CMLWorkerReadModel) :
    WorkerProgram ReconciliationResult :=
  ((Resumption.call WorkerCall.getPendingSync).bind fun
    | some sync => handleSyncRequest worker sync
    | none => routeByStatus settings worker).bind fun
      | .error raised => .done (.failed raised)
      | .ok result => .done result

/-- The statuses without a handler. -/
def Untended (status : CMLWorkerStatus) : Prop :=
  status = .shuttingDown ∨ status = .terminated ∨ status = .failed ∨ status = .unknown

/-- **Nobody tends a worker in such a status**: unless a sync request is pending, the pass is
over after the question for one. -/
theorem dead_reconcile (settings : ControllerSettings) {worker : CMLWorkerReadModel}
    {status : CMLWorkerStatus} (hstatus : worker.status = status.value) (h : Untended status) :
    ∃ k : Option SyncRequest → WorkerProgram ReconciliationResult,
      reconcile settings worker = .await .getPendingSync k ∧ k none = .done (.success "") := by
  refine ⟨_, rfl, ?_⟩
  have hroute : routeByStatus settings worker = give (.success "") := by
    unfold routeByStatus
    rw [hstatus]
    rcases h with rfl | rfl | rfl | rfl <;> rfl
  show (routeByStatus settings worker).bind _ = _
  rw [hroute]
  rfl

end CmlCloudManager.Worker
