/-
  CmlCloudManager.Scheduler.PlacementEngine
  ─────────────────────────────────────────
  **THE PLACEMENT ENGINE.**

  A pending session goes to the fullest worker that passes every check, in this
  order:

    • status, license, capacity, AMI, ports.

  A worker that fails one is counted under the FIRST check it fails.  When none is
  left the engine asks for a new worker; it never waits.

  What is known of a worker is a dictionary of the control plane, and beside it,
  if there is one, an entry that the control plane has published to etcd.
-/
import CmlCloudManager.ControlPlane.WorkerCapacity
import CmlCloudManager.ControlPlane.LabletDefinition

namespace CmlCloudManager.Scheduler

open CmlCloudManager.Foundation
open CmlCloudManager.ControlPlane

/-! ## §1. What the engine reads. -/

/-- A capacity as a dictionary; a key that is missing is `none`. -/
structure CapacityDict where
  cpuCores : Option Int := none
  memoryGb : Option Int := none
  storageGb : Option Int := none
  maxNodes : Option (Option Int) := none
  maxPorts : Option Int := none
  deriving DecidableEq, Repr

namespace CapacityDict

/-- `get` with the key of a resource. -/
def get (d : CapacityDict) : Resource → Option Int
  | .cpuCores => d.cpuCores
  | .memoryGb => d.memoryGb
  | .storageGb => d.storageGb

/-- The dictionary has no key, and counts as false. -/
def isEmpty (d : CapacityDict) : Bool :=
  d.cpuCores.isNone && d.memoryGb.isNone && d.storageGb.isNone && d.maxNodes.isNone
    && d.maxPorts.isNone

/-- A dictionary that counts as true. -/
def given : Option CapacityDict → Option CapacityDict
  | some d => if d.isEmpty then none else some d
  | none => none

end CapacityDict

/-- The fields of `cml_license_info` that tell the edition; texts where the code asks for
texts. -/
structure LicenseInfo where
  product : Option String := none
  productLicenseActive : Option String := none
  isEnterprise : Option Bool := none
  deriving DecidableEq, Repr

/-- A worker as the control plane serializes it; its id is a generated one.  The last three
fields are read by the engine although the control plane does not send them. -/
structure WorkerDict where
  id : String
  id_given : id ≠ ""
  name : Option String := none
  status : String := ""
  cmlLicenseInfo : LicenseInfo := {}
  declaredCapacity : Option CapacityDict := none
  allocatedCapacity : Option CapacityDict := none
  cmlSystemInfo : Option CMLSystemInfo := none
  sessionIds : List String := []
  metricsVersion : Option String := none
  nodeDefinitions : List String := []
  portAllocations : List Ports := []

/-- An entry of `/workers/{worker_id}/capacity`. -/
structure CapacityEntry where
  declaredCapacity : Option CapacityDict := none
  allocatedCapacity : Option CapacityDict := none
  availableCapacity : Option CapacityDict := none
  assignedInstanceCount : Option Int := none
  assignedSessionCount : Option Int := none

/-- The entries by worker id; no data and empty data are one. -/
abbrev EtcdCapacities : Type := Dict String CapacityEntry

/-- An entry of `ami_requirements`. -/
structure AmiRequirementDict where
  cmlVersionMin : Option String := none
  cmlVersionMax : Option String := none
  nodeDefinitionsRequired : List String := []

/-- `resource_requirements` of a definition. -/
structure RequirementsDict where
  cpuCores : Int := 0
  memoryGb : Int := 0
  storageGb : Int := 0
  amiRequirements : List AmiRequirementDict := []

/-- The requirement for a resource. -/
def RequirementsDict.required (d : RequirementsDict) : Resource → Int
  | .cpuCores => d.cpuCores
  | .memoryGb => d.memoryGb
  | .storageGb => d.storageGb

/-- A definition as the control plane serializes it. -/
structure DefinitionDict where
  name : String := "unknown"
  licenseAffinity : List String := []
  resourceRequirements : RequirementsDict := {}
  portEntries : List String := []
  labRecordId : String := ""

/-! ## §2. Licenses. -/

/-- `str.lower`, as far as the result is compared with an ASCII text. -/
def pyLower (value : String) : String :=
  -- the Kelvin sign is the only character beyond ASCII whose lower case is one ASCII letter
  String.ofList (value.toList.map fun c => if c.toNat = 0x212a then 'k' else c.toLower)

/-- `replace("cml_", "")`. -/
def removeCml : List Char → List Char
  | 'c' :: 'm' :: 'l' :: '_' :: rest => removeCml rest
  | c :: rest => c :: removeCml rest
  | [] => []

/-- A product name as a license type. -/
def licenseOfProduct (product : String) : String :=
  String.ofList (removeCml (pyLower product).toList)

/-- `_get_worker_license_type`. -/
def workerLicenseType (worker : WorkerDict) : String :=
  match givenText worker.cmlLicenseInfo.product with
  | some product => licenseOfProduct product
  | none =>
      match givenText worker.cmlLicenseInfo.productLicenseActive with
      | some active => licenseOfProduct active
      | none =>
          match worker.cmlLicenseInfo.isEnterprise with
          | some true => "enterprise"
          | some false => "personal"
          | none => ""

/-- `LICENSE_SATISFIES`. -/
def licenseSatisfies : Dict String (List String) :=
  Dict.ofList
    [("enterprise", ["enterprise", "personal"]),
     ("personal", ["personal"]),
     ("evaluation", ["evaluation"])]

/-- `_worker_license_satisfies`. -/
def workerLicenseSatisfies (workerLicenseType requiredType : String) : Bool :=
  ((licenseSatisfies.get? workerLicenseType).getD []).contains (pyLower requiredType)

/-- `_check_license_affinity`. -/
def checkLicenseAffinity (worker : WorkerDict) (definition : DefinitionDict) : Bool :=
  if definition.licenseAffinity.isEmpty then true
  else
    definition.licenseAffinity.any fun requiredType =>
      workerLicenseSatisfies (workerLicenseType worker) requiredType

/-! ## §3. Capacity. -/

/-- `_get_effective_declared_capacity`. -/
def effectiveDeclaredCapacity (worker : WorkerDict) : CapacityDict :=
  match CapacityDict.given worker.declaredCapacity with
  | some declared => declared
  | none =>
      let systemInfo := worker.cmlSystemInfo.getD {}
      let cpuCount := systemInfo.cpuCount.getD 0
      let memoryTotal := systemInfo.memoryTotal.getD 0
      let diskTotal := systemInfo.diskTotal.getD 0
      if cpuCount ≠ 0 ∧ memoryTotal ≠ 0 ∧ diskTotal ≠ 0 then
        { cpuCores := some cpuCount
          memoryGb := some (memoryTotal / 1024 ^ 3 : Nat)
          storageGb := some (diskTotal / 1024 ^ 3 : Nat)
          maxNodes := some none }
      else {}

/-- What is available of a resource: as published, or else what is declared less what is
allocated, which may be negative. -/
def available (worker : WorkerDict) (etcdData : Option CapacityEntry) (r : Resource) : Int :=
  match etcdData.bind fun entry => CapacityDict.given entry.availableCapacity with
  | some published => (published.get r).getD 0
  | none =>
      ((effectiveDeclaredCapacity worker).get r).getD 0
        - ((worker.allocatedCapacity.getD {}).get r).getD 0

/-- The sessions counted for a worker: by etcd if the entry has a count, or else the listed
ones. -/
def sessionCount (worker : WorkerDict) (etcdData : Option CapacityEntry) : Int :=
  match etcdData.bind CapacityEntry.assignedSessionCount with
  | some count => count
  | none => worker.sessionIds.length

/-- Every requirement is within what is available. -/
def requirementsFit (definition : DefinitionDict) (worker : WorkerDict)
    (etcdData : Option CapacityEntry) : Bool :=
  let required := definition.resourceRequirements.required
  if required .cpuCores > available worker etcdData .cpuCores then false
  else if required .memoryGb > available worker etcdData .memoryGb then false
  else if required .storageGb > available worker etcdData .storageGb then false
  else true

/-- `_check_resource_capacity`. -/
def checkResourceCapacity (worker : WorkerDict) (definition : DefinitionDict)
    (etcdCapacities : EtcdCapacities) : Bool :=
  let etcdData := etcdCapacities.get? worker.id
  -- personal licenses are limited to one session
  if workerLicenseType worker = "personal" ∧ sessionCount worker etcdData ≥ 1 then false
  else requirementsFit definition worker etcdData

/-! ## §4. AMI and ports. -/

/-- One entry of `ami_requirements` is met. -/
def amiRequirementMet (worker : WorkerDict) (amiReq : AmiRequirementDict) : Bool :=
  let tooLow :=
    match givenText amiReq.cmlVersionMin, givenText worker.metricsVersion with
    | some minVersion, some version => decide (version < minVersion)
    | _, _ => false
  let tooHigh :=
    match givenText amiReq.cmlVersionMax, givenText worker.metricsVersion with
    | some maxVersion, some version => decide (maxVersion < version)
    | _, _ => false
  !tooLow && !tooHigh
    && amiReq.nodeDefinitionsRequired.all fun node => worker.nodeDefinitions.contains node

/-- `_check_ami_requirements`. -/
def checkAmiRequirements (worker : WorkerDict) (definition : DefinitionDict) : Bool :=
  definition.resourceRequirements.amiRequirements.all (amiRequirementMet worker)

/-- `_check_port_availability`. -/
def checkPortAvailability (worker : WorkerDict) (definition : DefinitionDict) : Bool :=
  let requiredPorts := definition.portEntries.length
  if requiredPorts = 0 then true
  else
    let declared := (effectiveDeclaredCapacity worker).maxPorts.getD 0
    let maxPorts := if declared ≠ 0 then declared else 1000
    let usedPorts := (worker.portAllocations.map Dict.size).sum
    decide ((requiredPorts : Int) ≤ maxPorts - usedPorts)

/-! ## §5. The filter. -/

/-- The statuses, in the order of their definition. -/
def cmlWorkerStatuses : List CMLWorkerStatus :=
  [.pending, .provisioning, .starting, .running, .draining, .stopping, .stopped, .terminating,
    .shuttingDown, .terminated, .failed, .unknown]

/-- `CMLWorkerStatus(value)`, in any case. -/
def parseWorkerStatus (value : String) : Option CMLWorkerStatus :=
  cmlWorkerStatuses.find? fun s => s.value == pyLower value

/-- `EXCLUDED_STATUSES`. -/
def excludedStatuses : List CMLWorkerStatus :=
  [.draining, .stopping, .stopped, .shuttingDown, .terminating, .terminated, .failed]

/-- The categories of a rejection. -/
inductive RejectionCategory where
  | status
  | license
  | capacity
  | ami
  | ports
  deriving DecidableEq, Repr

/-- The key of a category. -/
def RejectionCategory.key : RejectionCategory → String
  | .status => "status"
  | .license => "license"
  | .capacity => "capacity"
  | .ami => "ami"
  | .ports => "ports"

/-- The categories, sorted by their keys. -/
def RejectionCategory.sorted : List RejectionCategory :=
  [.ami, .capacity, .license, .ports, .status]

/-- The worker is in the one status that can be placed on. -/
def checkStatus (worker : WorkerDict) : Bool :=
  match parseWorkerStatus (strip worker.status) with
  | none => false
  | some status =>
      if status ∈ excludedStatuses then false
      else status == .running

/-- The first check that a worker fails. -/
def rejection (definition : DefinitionDict) (etcdCapacities : EtcdCapacities)
    (worker : WorkerDict) : Option RejectionCategory :=
  if !checkStatus worker then some .status
  else if !checkLicenseAffinity worker definition then some .license
  else if !checkResourceCapacity worker definition etcdCapacities then some .capacity
  else if !checkAmiRequirements worker definition then some .ami
  else if !checkPortAvailability worker definition then some .ports
  else none

/-- How many workers each check has rejected. -/
abbrev RejectionSummary : Type := Dict RejectionCategory Nat

/-- The count of a category. -/
def countOf (rejections : RejectionSummary) (category : RejectionCategory) : Nat :=
  (rejections.get? category).getD 0

/-- One turn of the loop of `_filter_eligible_workers`. -/
def filterStep (definition : DefinitionDict) (etcdCapacities : EtcdCapacities)
    (acc : List WorkerDict × RejectionSummary) (worker : WorkerDict) :
    List WorkerDict × RejectionSummary :=
  match rejection definition etcdCapacities worker with
  | some category => (acc.1, acc.2.set category (countOf acc.2 category + 1))
  | none => (acc.1 ++ [worker], acc.2)

/-- `_filter_eligible_workers`. -/
def filterEligibleWorkers (workers : List WorkerDict) (definition : DefinitionDict)
    (etcdCapacities : EtcdCapacities) : List WorkerDict × RejectionSummary :=
  workers.foldl (filterStep definition etcdCapacities) ([], Dict.empty)

/-! ## §6. The score. -/

/-- The operations on floating point numbers that the score uses. -/
structure FloatOps (ρ : Type) where
  zero : ρ
  /-- `a / b`, for two integers. -/
  ratio : Int → Int → ρ
  add : ρ → ρ → ρ
  /-- `x / 2`. -/
  half : ρ → ρ
  /-- `n * 0.01`. -/
  hundredths : Int → ρ
  /-- `0.05`. -/
  maxBonus : ρ
  lt : ρ → ρ → Bool
  /-- `f"{x:.2f}"`. -/
  text : ρ → String

/-- The operations with exact numbers. -/
def exactFloats : FloatOps Rat where
  zero := 0
  ratio a b := a / b
  add x y := x + y
  half x := x / 2
  hundredths n := n / 100
  maxBonus := 1 / 20
  lt x y := decide (x < y)
  text x :=
    let n := (x * 100 + 1 / 2).floor
    toString (n / 100) ++ "." ++ (if n % 100 < 10 then "0" else "") ++ toString (n % 100)

/-- An amount of which a value that counts as false is replaced. -/
def amountOr (amount : Option Int) (otherwise : Int) : Int :=
  if amount.getD 0 ≠ 0 then amount.getD 0 else otherwise

section Score

variable {ρ : Type} (ops : FloatOps ρ)

/-- The used part of a resource. -/
def utilization (declared allocated : CapacityDict) (r : Resource) : ρ :=
  let declaredAmount := amountOr (declared.get r) 1
  let allocatedAmount := amountOr (allocated.get r) 0
  if declaredAmount > 0 then ops.ratio allocatedAmount declaredAmount else ops.zero

/-- The score that `_score_candidates` gives to a worker. -/
def score (etcdCapacities : EtcdCapacities) (worker : WorkerDict) : ρ :=
  let etcdData := etcdCapacities.get? worker.id
  let declared :=
    ((etcdData.bind fun entry => CapacityDict.given entry.declaredCapacity).getD
      (effectiveDeclaredCapacity worker))
  let allocated :=
    match etcdData with
    | some entry => entry.allocatedCapacity.getD {}
    | none => worker.allocatedCapacity.getD {}
  let combined :=
    ops.half (ops.add (utilization ops declared allocated .cpuCores)
      (utilization ops declared allocated .memoryGb))
  let bonus := ops.hundredths (sessionCount worker etcdData)
  ops.add combined (if ops.lt bonus ops.maxBonus then bonus else ops.maxBonus)

/-- `_score_candidates`. -/
def scoreCandidates (candidates : List WorkerDict) (etcdCapacities : EtcdCapacities) :
    List (WorkerDict × ρ) :=
  candidates.map fun worker => (worker, score ops etcdCapacities worker)

/-- `max` by the score: the first of the greatest. -/
def best (first : WorkerDict × ρ) (rest : List (WorkerDict × ρ)) : WorkerDict × ρ :=
  rest.foldl (fun greatest x => if ops.lt greatest.2 x.2 then x else greatest) first

end Score

/-! ## §7. The decision. -/

/-- The recommended action. -/
inductive SchedulingAction where
  | assign
  | scaleUp
  | wait
  deriving DecidableEq, Repr

/-- `SchedulingDecision`. -/
structure SchedulingDecision where
  action : SchedulingAction
  workerId : Option String := none
  workerTemplate : Option String := none
  reason : String := ""
  rejectionSummary : Option RejectionSummary := none

/-- `_select_template`. -/
def selectTemplate (definition : DefinitionDict) : String :=
  match definition.licenseAffinity with
  | [only] => if pyLower only = "personal" then "single-session" else "multi-sessions"
  | _ => "multi-sessions"

/-- Why no worker is left. -/
def rejectionReason (rejections : RejectionSummary) : String :=
  let capacity := countOf rejections .capacity
  if capacity > 0 ∧ (capacity : Int) = (rejections.values.sum : Int) - countOf rejections .status
  then "All running workers at capacity (" ++ toString capacity ++ " rejected for capacity)"
  else
    let parts := RejectionCategory.sorted.filterMap fun k =>
      (rejections.get? k).map fun v => k.key ++ "=" ++ toString v
    "No worker meets requirements (rejections: " ++ ", ".intercalate parts ++ ")"

/-- The request for a new worker. -/
def scaleUpDecision (definition : DefinitionDict) (reason : String)
    (rejections : Option RejectionSummary) : SchedulingDecision where
  action := .scaleUp
  workerTemplate := some (selectTemplate definition)
  reason := reason
  rejectionSummary := rejections

/-- The placement on the best worker. -/
def assignDecision {ρ : Type} (ops : FloatOps ρ) (chosen : WorkerDict × ρ) :
    SchedulingDecision where
  action := .assign
  workerId := some chosen.1.id
  reason := "Best fit: " ++ chosen.1.name.getD chosen.1.id ++ " (utilization score: "
    ++ ops.text chosen.2 ++ ")"

/-- `PlacementEngine.schedule`. -/
def PlacementEngine.schedule {ρ : Type} (ops : FloatOps ρ) (definition : DefinitionDict)
    (workers : List WorkerDict) (etcdCapacities : EtcdCapacities) : SchedulingDecision :=
  if workers.isEmpty then scaleUpDecision definition "No active workers available" none
  else
    let filtered := filterEligibleWorkers workers definition etcdCapacities
    match scoreCandidates ops filtered.1 etcdCapacities with
    | [] => scaleUpDecision definition (rejectionReason filtered.2) (some filtered.2)
    | first :: rest => assignDecision ops (best ops first rest)

/-! ## §8. Who is left, who is chosen. -/

theorem filterStep_foldl (definition : DefinitionDict) (etcdCapacities : EtcdCapacities)
    (workers : List WorkerDict) :
    ∀ acc : List WorkerDict × RejectionSummary,
      (workers.foldl (filterStep definition etcdCapacities) acc).1
        = acc.1 ++ workers.filter fun w => rejection definition etcdCapacities w = none := by
  induction workers with
  | nil => intro acc; simp
  | cons worker rest ih =>
      intro acc
      rw [List.foldl_cons, ih]
      unfold filterStep
      rw [List.filter_cons]
      cases rejection definition etcdCapacities worker with
      | none =>
          rw [if_pos (decide_eq_true rfl)]
          exact List.append_assoc ..
      | some category => rw [if_neg (by simp)]

/-- **Eligible are the workers that no check rejects, in their order.** -/
theorem filterEligibleWorkers_fst (workers : List WorkerDict) (definition : DefinitionDict)
    (etcdCapacities : EtcdCapacities) :
    (filterEligibleWorkers workers definition etcdCapacities).1
      = workers.filter fun w => rejection definition etcdCapacities w = none :=
  filterStep_foldl definition etcdCapacities workers ([], Dict.empty)

theorem best_mem {ρ : Type} (ops : FloatOps ρ) (rest : List (WorkerDict × ρ)) :
    ∀ first : WorkerDict × ρ, best ops first rest ∈ first :: rest := by
  induction rest with
  | nil => intro first; exact List.mem_singleton.mpr rfl
  | cons x rest ih =>
      intro first
      have hbest := ih (if ops.lt first.2 x.2 then x else first)
      rcases List.mem_cons.mp hbest with heq | hmem
      · rw [best, List.foldl_cons, ← best, heq]
        split
        next => exact List.mem_cons_of_mem _ List.mem_cons_self
        next => exact List.mem_cons_self
      · exact List.mem_cons_of_mem _ (List.mem_cons_of_mem _ hmem)

/-- **The decision is a placement on a worker that no check rejects, or a request for a new
worker when there is none.** -/
theorem PlacementEngine.schedule_cases {ρ : Type} (ops : FloatOps ρ) (definition : DefinitionDict)
    (workers : List WorkerDict) (etcdCapacities : EtcdCapacities) :
    (∃ worker ∈ workers, rejection definition etcdCapacities worker = none ∧
      (schedule ops definition workers etcdCapacities).action = .assign ∧
      (schedule ops definition workers etcdCapacities).workerId = some worker.id) ∨
    ((∀ worker ∈ workers, rejection definition etcdCapacities worker ≠ none) ∧
      (schedule ops definition workers etcdCapacities).action = .scaleUp ∧
      (schedule ops definition workers etcdCapacities).workerTemplate
        = some (selectTemplate definition)) := by
  have heligible := filterEligibleWorkers_fst workers definition etcdCapacities
  unfold schedule
  cases workers with
  | nil => exact .inr ⟨fun _ h => absurd h List.not_mem_nil, rfl, rfl⟩
  | cons w ws =>
      rw [if_neg (by simp)]
      dsimp only
      rw [heligible]
      cases hscored : scoreCandidates ops
          ((w :: ws).filter fun w => rejection definition etcdCapacities w = none)
          etcdCapacities with
      | nil =>
          refine .inr ⟨fun worker hworker hnone => ?_, rfl, rfl⟩
          have hnil := List.map_eq_nil_iff.mp hscored
          exact List.filter_eq_nil_iff.mp hnil worker hworker (by simpa using hnone)
      | cons first rest =>
          have hbest := best_mem ops rest first
          rw [← hscored] at hbest
          obtain ⟨worker, hworker, heq⟩ := List.mem_map.mp hbest
          obtain ⟨hmem, hnone⟩ := List.mem_filter.mp hworker
          refine .inl ⟨worker, hmem, by simpa using hnone, rfl, ?_⟩
          show some (best ops first rest).1.id = some worker.id
          rw [← heq]

/-- A worker that is not rejected is running, with room for the definition. -/
theorem checks_of_not_rejected {definition : DefinitionDict} {etcdCapacities : EtcdCapacities}
    {worker : WorkerDict} (h : rejection definition etcdCapacities worker = none) :
    checkStatus worker = true ∧ checkLicenseAffinity worker definition = true ∧
      checkResourceCapacity worker definition etcdCapacities = true := by
  unfold rejection at h
  cases hstatus : checkStatus worker with
  | false => simp [hstatus] at h
  | true =>
      cases hlicense : checkLicenseAffinity worker definition with
      | false => simp [hstatus, hlicense] at h
      | true =>
          cases hcapacity : checkResourceCapacity worker definition etcdCapacities with
          | false => simp [hstatus, hlicense, hcapacity] at h
          | true => exact ⟨rfl, rfl, rfl⟩

end CmlCloudManager.Scheduler
