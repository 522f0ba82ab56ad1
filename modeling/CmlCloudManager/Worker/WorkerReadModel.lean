/-
  CmlCloudManager.Worker.WorkerReadModel
  ──────────────────────────────────────
  **WHAT THE WORKER-CONTROLLER SEES OF A WORKER.**

  The control plane answers a query with the dictionary of a DTO
  (`map_worker_to_dto`, `worker_dto_to_dict`); the worker-controller reads that
  dictionary into its read model (`CMLWorkerReadModel.from_dict`).  The two were
  written apart: the DTO spreads the licence over three keys of its own, and the read
  model looks for one key `license`.

    • `view_eq` — the composition in closed form, for every worker: what of the record
      arrives, and what is lost on the way.
-/
import CmlCloudManager.Pipeline.Value
import CmlCloudManager.Worker.CMLWorker

namespace CmlCloudManager.Worker

open CmlCloudManager.Foundation
open CmlCloudManager.Pipeline
open CmlCloudManager.ControlPlane (CMLWorkerStatus CMLWorkerStatus.value givenText)

/-! ## §1. The DTO. -/

/-- A string that may be missing. -/
def optText : Option String → Value
  | some text => .str text
  | none => .none

/-- The value of the status, as it is stored. -/
def LicenseStatus.value : LicenseStatus → String
  | .unregistered => "unregistered"
  | .registered => "registered"
  | .evaluation => "evaluation"
  | .expired => "expired"
  | .invalid => "invalid"

/-- The value of the status, as it is stored. -/
def CMLServiceStatus.value : CMLServiceStatus → String
  | .unavailable => "unavailable"
  | .starting => "starting"
  | .available => "available"
  | .error => "error"

/-- `get_port_usage_stats`, as far as a view has it. -/
structure PortUsage where
  allocated : Int := 0
  available : Int := 0

/-- The dictionary of the licence info. -/
def LicenseInfo.toValue (info : LicenseInfo) : Value :=
  .dict (match info.registrationStatus with
    | some status => [("registration_status", .str status)]
    | none => [])

/-- The fields of `map_worker_to_dto(worker)`, without those that hold metrics and capacities;
`iso` is `isoformat`. -/
def dtoFields (iso : Int → String) (s : CMLWorkerState) (ports : PortUsage) :
    List (String × Value) :=
    [("id", .str s.id), ("name", .str s.name), ("aws_region", .str s.awsRegion),
     ("aws_instance_id", optText s.awsInstanceId), ("instance_type", optText s.instanceType),
     ("status", .str s.status.value), ("desired_status", .str s.desiredStatus.value),
     ("service_status", .str s.serviceStatus.value),
     ("ami_id", optText s.amiId), ("ami_name", optText s.amiName),
     ("ami_description", optText s.amiDescription),
     ("ami_creation_date", optText s.amiCreationDate),
     ("template_name", optText s.templateName),
     ("https_endpoint", optText s.httpsEndpoint),
     ("public_ip", optText s.publicIp), ("private_ip", optText s.privateIp),
     ("license_status", .str s.license.status.value),
     ("license_token", optText s.license.token),
     ("cml_license_info", (s.license.rawInfo.map LicenseInfo.toValue).getD .none),
     ("created_at", .str (iso s.createdAt)), ("updated_at", .str (iso s.updatedAt)),
     ("start_initiated_at", optText (s.startInitiatedAt.map iso)),
     ("stop_initiated_at", optText (s.stopInitiatedAt.map iso)),
     ("terminated_at", optText (s.terminatedAt.map iso)),
     ("created_by", optText s.createdBy),
     ("last_activity_at", optText (s.lastActivityAt.map iso)),
     ("last_activity_check_at", optText (s.lastActivityCheckAt.map iso)),
     ("next_idle_check_at", optText (s.nextIdleCheckAt.map iso)),
     ("target_pause_at", optText (s.targetPauseAt.map iso)),
     ("is_idle_detection_enabled", .bool s.isIdleDetectionEnabled),
     ("auto_pause_count", .int s.autoPauseCount),
     ("manual_pause_count", .int s.manualPauseCount),
     ("auto_resume_count", .int s.autoResumeCount),
     ("manual_resume_count", .int s.manualResumeCount),
     ("last_paused_at", optText (s.lastPausedAt.map iso)),
     ("last_resumed_at", optText (s.lastResumedAt.map iso)),
     ("paused_by", optText s.pausedBy), ("pause_reason", optText s.pauseReason),
     ("allocated_port_count", .int ports.allocated),
     ("available_port_count", .int ports.available)]

/-- `worker_dto_to_dict(map_worker_to_dto(worker))`. -/
def workerDtoToDict (iso : Int → String) (s : CMLWorkerState) (ports : PortUsage) : Payload :=
  Dict.ofList (dtoFields iso s ports)

/-! ## §2. The read model. -/

/-- `data.get(key)`, where a string is expected. -/
def getText (data : Payload) (key : String) : Option String :=
  match data.get? key with
  | some (.str text) => some text
  | _ => none

/-- `data.get(key, default)` for a flag. -/
def getFlag (data : Payload) (key : String) (default : Bool) : Bool :=
  match data.get? key with
  | some value => value.truthy
  | none => default

/-- `CMLLicenseReadModel`. -/
structure CMLLicenseReadModel where
  status : String := "unregistered"
  token : Option String := none
  pendingToken : Option String := none
  pendingOperation : Option String := none
  operationInProgress : Bool := false
  deriving DecidableEq

/-- `CMLLicenseReadModel.from_dict`. -/
def CMLLicenseReadModel.fromDict : Option Payload → CMLLicenseReadModel
  | none => {}
  | some data =>
      if data.isEmpty then {}
      else
        { status := (getText data "status").getD "unregistered"
          token := getText data "token"
          pendingToken := getText data "pending_token"
          pendingOperation := getText data "pending_operation"
          operationInProgress := getFlag data "operation_in_progress" false }

/-- `CMLWorkerReadModel`, with what the reconciler reads. -/
structure CMLWorkerReadModel where
  id : String := ""
  name : String := ""
  status : String := ""
  desiredStatus : String := "running"
  ec2InstanceId : Option String := none
  ipAddress : Option String := none
  publicIp : Option String := none
  privateIp : Option String := none
  templateName : Option String := none
  instanceType : Option String := none
  amiName : Option String := none
  awsRegion : Option String := none
  cmlUsername : Option String := none
  cmlPassword : Option String := none
  isIdleDetectionEnabled : Bool := true
  refreshRequestedAt : Option String := none
  license : CMLLicenseReadModel := {}
  deriving DecidableEq

/-- A nested dictionary. -/
def getDict (data : Payload) (key : String) : Option Payload :=
  match data.get? key with
  | some (.dict entries) => some (Dict.ofList entries)
  | _ => none

/-- `CMLWorkerReadModel.from_dict`. -/
def CMLWorkerReadModel.fromDict (data : Payload) : CMLWorkerReadModel where
  id := (getText data "id").getD ""
  name := (getText data "name").getD ""
  status := (getText data "status").getD ""
  desiredStatus := (getText data "desired_status").getD "running"
  ec2InstanceId :=
    (givenText (getText data "ec2_instance_id")).or (getText data "aws_instance_id")
  ipAddress :=
    ((givenText (getText data "ip_address")).or (givenText (getText data "public_ip"))).or
      (getText data "private_ip")
  publicIp := getText data "public_ip"
  privateIp := getText data "private_ip"
  templateName := getText data "template_name"
  instanceType := getText data "instance_type"
  amiName := getText data "ami_name"
  awsRegion := getText data "aws_region"
  cmlUsername := getText data "cml_username"
  cmlPassword := getText data "cml_password"
  isIdleDetectionEnabled := getFlag data "is_idle_detection_enabled" true
  refreshRequestedAt := getText data "refresh_requested_at"
  license := CMLLicenseReadModel.fromDict (getDict data "license")

/-- What the worker-controller gets for a worker. -/
def view (iso : Int → String) (ports : PortUsage) (s : CMLWorkerState) : CMLWorkerReadModel :=
  CMLWorkerReadModel.fromDict (workerDtoToDict iso s ports)

/-- The host a fallback is made from: the public address, if the address in use is the
private one. -/
def CMLWorkerReadModel.fallbackHost (w : CMLWorkerReadModel) : Option String :=
  if w.ipAddress = w.privateIp then w.publicIp else none

/-! ## §3. What arrives. -/

section View

variable (iso : Int → String) (ports : PortUsage) (s : CMLWorkerState)

/-- The fields of the DTO are distinct. -/
theorem dtoFields_nodup : ((dtoFields iso s ports).map Prod.fst).Nodup := by
  simp only [dtoFields, List.map_cons, List.map_nil]
  decide

theorem get?_workerDtoToDict (key : String) :
    (workerDtoToDict iso s ports).get? key = Dict.lookup key (dtoFields iso s ports) := by
  unfold Dict.get? workerDtoToDict
  rw [Dict.entries_ofList (dtoFields_nodup iso ports s)]

/-- A key of the DTO. -/
theorem getText_dto {key : String} {text : Option String}
    (h : Dict.lookup key (dtoFields iso s ports) = some (optText text)) :
    getText (workerDtoToDict iso s ports) key = text := by
  unfold getText
  rw [get?_workerDtoToDict, h]
  cases text <;> rfl

/-- A key that the DTO does not have. -/
theorem getText_none {key : String} (h : Dict.lookup key (dtoFields iso s ports) = none) :
    getText (workerDtoToDict iso s ports) key = none := by
  unfold getText
  rw [get?_workerDtoToDict, h]

/-- **The view in closed form.**  The pending licence operation, a refresh request and the
CML credentials do not arrive. -/
theorem view_eq :
    view iso ports s =
      { id := s.id
        name := s.name
        status := s.status.value
        desiredStatus := s.desiredStatus.value
        ec2InstanceId := s.awsInstanceId
        ipAddress := (givenText s.publicIp).or s.privateIp
        publicIp := s.publicIp
        privateIp := s.privateIp
        templateName := s.templateName
        instanceType := s.instanceType
        amiName := s.amiName
        awsRegion := some s.awsRegion
        cmlUsername := none
        cmlPassword := none
        isIdleDetectionEnabled := s.isIdleDetectionEnabled
        refreshRequestedAt := none
        license := {} } := by
  have htext : ∀ key text, Dict.lookup key (dtoFields iso s ports) = some (optText text) →
      getText (workerDtoToDict iso s ports) key = text := fun _ _ h =>
      getText_dto iso ports s h
  have hlost : ∀ key, Dict.lookup key (dtoFields iso s ports) = none →
      getText (workerDtoToDict iso s ports) key = none := fun _ h =>
      getText_none iso ports s h
  unfold view CMLWorkerReadModel.fromDict
  rw [htext "id" (some s.id) rfl, htext "name" (some s.name) rfl,
    htext "status" (some s.status.value) rfl,
    htext "desired_status" (some s.desiredStatus.value) rfl,
    htext "aws_region" (some s.awsRegion) rfl,
    hlost "ec2_instance_id" rfl, hlost "ip_address" rfl,
    hlost "cml_username" rfl, hlost "cml_password" rfl,
    hlost "refresh_requested_at" rfl,
    htext "aws_instance_id" s.awsInstanceId rfl,
    htext "public_ip" s.publicIp rfl,
    htext "private_ip" s.privateIp rfl,
    htext "template_name" s.templateName rfl,
    htext "instance_type" s.instanceType rfl,
    htext "ami_name" s.amiName rfl]
  have hflag : getFlag (workerDtoToDict iso s ports) "is_idle_detection_enabled" true
      = s.isIdleDetectionEnabled := by
    unfold getFlag
    rw [get?_workerDtoToDict]
    rfl
  have hlicense : getDict (workerDtoToDict iso s ports) "license" = none := by
    unfold getDict
    rw [get?_workerDtoToDict]
    rfl
  rw [hflag, hlicense]
  rfl

theorem view_license : (view iso ports s).license = {} := by
  rw [view_eq]

end View

end CmlCloudManager.Worker
