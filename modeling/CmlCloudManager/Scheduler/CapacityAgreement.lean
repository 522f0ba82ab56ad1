/-
  CmlCloudManager.Scheduler.CapacityAgreement
  ───────────────────────────────────────────
  **SCHEDULER AND CONTROL PLANE AGREE ON CAPACITY.**

  The control plane subtracts and clamps at zero; the engine subtracts the numbers
  of the serialized worker, or takes what was published.  A requirement is at least
  one, so that nothing required fits into an amount that is zero or negative: the
  clamp makes no difference (`fits_clamped_iff`).
-/
import CmlCloudManager.Scheduler.PlacementEngine
import CmlCloudManager.ControlPlane.SessionCommands

namespace CmlCloudManager.Scheduler

open CmlCloudManager.Foundation
open CmlCloudManager.ControlPlane

/-! ## §1. What the control plane sends. -/

/-- `WorkerCapacity.to_dict`. -/
def toDict (c : WorkerCapacity) : CapacityDict where
  cpuCores := some c.cpuCores
  memoryGb := some c.memoryGb
  storageGb := some c.storageGb
  maxNodes := some (c.maxNodes.map fun nodes => (nodes : Int))

/-- The declared capacity that `map_worker_to_dto` fills in: the stored one, or else derived
from the hardware figures. -/
def mappedDeclared (s : CMLWorkerState) : Option WorkerCapacity :=
  match s.declaredCapacity with
  | some declared => some declared
  | none =>
      match s.systemInfo with
      | none => none
      | some info =>
          let cpuCount := info.cpuCount.getD 0
          let memoryTotal := info.memoryTotal.getD 0
          let diskTotal := info.diskTotal.getD 0
          if cpuCount ≠ 0 ∧ memoryTotal ≠ 0 ∧ diskTotal ≠ 0 then
            some
              { cpuCores := cpuCount
                memoryGb := memoryTotal / 1024 ^ 3
                storageGb := diskTotal / 1024 ^ 3
                maxNodes := none }
          else none

/-- What `map_worker_to_dto` takes from the parts of a worker that have nothing to do with
capacity. -/
structure WorkerProfile where
  name : String
  licenseInfo : LicenseInfo := {}

/-- `map_worker_to_dto`, as the scheduler receives it. -/
def mapWorkerToDto (profile : WorkerProfile) (s : CMLWorkerState) : WorkerDict where
  id := s.id
  id_given := s.id_given
  name := some profile.name
  status := s.status.value
  cmlLicenseInfo := profile.licenseInfo
  declaredCapacity := (mappedDeclared s).map toDict
  allocatedCapacity := some (toDict s.allocatedCapacity)
  cmlSystemInfo := s.systemInfo
  sessionIds := s.sessionIds

/-- The entry that `publish_capacity` writes for a worker. -/
def publishCapacity (s : CMLWorkerState) : CapacityEntry where
  declaredCapacity := s.declaredCapacity.map toDict
  allocatedCapacity := some (toDict s.allocatedCapacity)
  availableCapacity := s.availableCapacity.map toDict
  assignedInstanceCount := some s.sessionIds.length

/-- The requirements of a definition as they are serialized. -/
def requirementsDict (r : ResourceRequirements) (amiRequirements : List AmiRequirementDict) :
    RequirementsDict where
  cpuCores := r.cpuCores
  memoryGb := r.memoryGb
  storageGb := r.storageGb
  amiRequirements := amiRequirements

/-! ## §2. Amounts. -/

@[simp] theorem get_toDict (c : WorkerCapacity) (r : Resource) :
    (toDict c).get r = some (c.amount r : Int) := by
  cases r <;> rfl

@[simp] theorem given_toDict (c : WorkerCapacity) :
    CapacityDict.given (some (toDict c)) = some (toDict c) := rfl

theorem mappedDeclared_eq (s : CMLWorkerState) : mappedDeclared s = s.effectiveDeclared := rfl

@[simp] theorem required_requirementsDict (r : ResourceRequirements)
    (amiRequirements : List AmiRequirementDict) (resource : Resource) :
    (requirementsDict r amiRequirements).required resource
      = (r.capacity.amount resource : Int) := by
  cases resource <;> rfl

/-- Every requirement is at least one. -/
theorem capacity_amount_pos (r : ResourceRequirements) (resource : Resource) :
    1 ≤ r.capacity.amount resource := by
  cases resource with
  | cpuCores => exact r.cpuCores_pos
  | memoryGb => exact r.memoryGb_pos
  | storageGb => exact r.storageGb_pos

/-- A capacity without a node count fits exactly when each amount does. -/
theorem canFit_iff {c d : WorkerCapacity} (hnodes : d.maxNodes = none) :
    c.canFit d = true ↔ ∀ r, d.amount r ≤ c.amount r := by
  constructor
  · exact WorkerCapacity.amount_le_of_canFit
  · intro h
    have hcpu : d.cpuCores ≤ c.cpuCores := h .cpuCores
    have hmemory : d.memoryGb ≤ c.memoryGb := h .memoryGb
    have hstorage : d.storageGb ≤ c.storageGb := h .storageGb
    unfold WorkerCapacity.canFit
    rw [if_neg (Nat.not_lt.mpr hcpu), if_neg (Nat.not_lt.mpr hmemory),
      if_neg (Nat.not_lt.mpr hstorage), hnodes]
    cases c.maxNodes <;> rfl

theorem requirementsFit_iff (definition : DefinitionDict) (worker : WorkerDict)
    (etcdData : Option CapacityEntry) :
    requirementsFit definition worker etcdData = true
      ↔ ∀ r, definition.resourceRequirements.required r ≤ available worker etcdData r := by
  unfold requirementsFit
  dsimp only
  constructor
  · intro h r
    split at h
    next => cases h
    next hcpu =>
      split at h
      next => cases h
      next hmemory =>
        split at h
        next => cases h
        next hstorage =>
          cases r with
          | cpuCores => exact Int.not_lt.mp hcpu
          | memoryGb => exact Int.not_lt.mp hmemory
          | storageGb => exact Int.not_lt.mp hstorage
  · intro h
    rw [if_neg (Int.not_lt.mpr (h .cpuCores)), if_neg (Int.not_lt.mpr (h .memoryGb)),
      if_neg (Int.not_lt.mpr (h .storageGb))]

/-- **For an amount of at least one it makes no difference whether the rest is clamped.** -/
theorem fits_clamped_iff {required : Nat} (hpos : 1 ≤ required) (declared allocated : Nat) :
    (required : Int) ≤ declared - allocated ↔ required ≤ declared - allocated := by
  omega

/-! ## §3. The three ways to a capacity. -/

section Sources

variable (profile : WorkerProfile) (s : CMLWorkerState)

/-- The engine derives nothing that the control plane does not derive. -/
theorem effectiveDeclaredCapacity_unknown (hunknown : s.effectiveDeclared = none) :
    effectiveDeclaredCapacity (mapWorkerToDto profile s) = {} := by
  have hmapped : (mapWorkerToDto profile s).declaredCapacity = none := by
    show (mappedDeclared s).map toDict = none
    rw [mappedDeclared_eq, hunknown]
    rfl
  have hderived : s.deriveCapacityFromMetrics = none := by
    unfold CMLWorkerState.effectiveDeclared at hunknown
    split at hunknown
    next => cases hunknown
    next => exact hunknown
  have hsent : (mapWorkerToDto profile s).cmlSystemInfo = s.systemInfo := rfl
  unfold CMLWorkerState.deriveCapacityFromMetrics at hderived
  unfold effectiveDeclaredCapacity
  rw [hmapped, hsent]
  cases hinfo : s.systemInfo with
  | none => rfl
  | some info =>
      rw [hinfo] at hderived
      dsimp only at hderived
      split at hderived
      next => cases hderived
      next hzero =>
        dsimp only [CapacityDict.given, Option.getD_some]
        rw [if_neg hzero]

/-- A worker without a known capacity has none in the engine either. -/
theorem available_unknown (etcdData : Option CapacityEntry) (r : Resource)
    (hunknown : s.effectiveDeclared = none)
    (hsource : etcdData = none ∨ etcdData = some (publishCapacity s)) :
    available (mapWorkerToDto profile s) etcdData r = -(s.allocatedCapacity.amount r : Int) := by
  have hpublished : etcdData.bind (fun entry => CapacityDict.given entry.availableCapacity)
      = none := by
    rcases hsource with rfl | rfl
    · rfl
    · simp [publishCapacity, CMLWorkerState.availableCapacity, hunknown, CapacityDict.given]
  unfold available
  rw [hpublished, effectiveDeclaredCapacity_unknown profile s hunknown]
  have hallocated : (mapWorkerToDto profile s).allocatedCapacity
      = some (toDict s.allocatedCapacity) := rfl
  rw [hallocated]
  have hempty : CapacityDict.get {} r = none := by cases r <;> rfl
  simp [hempty]

/-- From the serialized worker: the difference. -/
theorem available_of_dict {declared : WorkerCapacity} (r : Resource)
    (hdeclared : s.effectiveDeclared = some declared) :
    available (mapWorkerToDto profile s) none r
      = (declared.amount r : Int) - s.allocatedCapacity.amount r := by
  have hmapped : (mapWorkerToDto profile s).declaredCapacity = some (toDict declared) := by
    show (mappedDeclared s).map toDict = _
    rw [mappedDeclared_eq, hdeclared]
    rfl
  have heffective : effectiveDeclaredCapacity (mapWorkerToDto profile s) = toDict declared := by
    unfold effectiveDeclaredCapacity
    rw [hmapped, given_toDict]
  unfold available
  rw [heffective]
  have hallocated : (mapWorkerToDto profile s).allocatedCapacity
      = some (toDict s.allocatedCapacity) := rfl
  rw [hallocated]
  simp

/-- From the published entry: the clamped difference. -/
theorem available_of_entry {declared : WorkerCapacity} (r : Resource)
    (hdeclared : s.effectiveDeclared = some declared) :
    available (mapWorkerToDto profile s) (some (publishCapacity s)) r
      = ((declared.amount r - s.allocatedCapacity.amount r : Nat) : Int) := by
  have hpublished : (publishCapacity s).availableCapacity
      = some (toDict (declared.subtract s.allocatedCapacity)) := by
    show s.availableCapacity.map toDict = _
    unfold CMLWorkerState.availableCapacity
    rw [hdeclared]
    rfl
  unfold available
  rw [Option.bind_some, hpublished, given_toDict]
  dsimp only
  rw [get_toDict, Option.getD_some, WorkerCapacity.amount_subtract]

/-- **The requirements fit in the engine exactly when they fit in the control plane, from
either source.** -/
theorem requirementsFit_eq_canAccommodate (requirements : ResourceRequirements)
    (definition : DefinitionDict) (amiRequirements : List AmiRequirementDict)
    (hdefinition :
      definition.resourceRequirements = requirementsDict requirements amiRequirements)
    (etcdData : Option CapacityEntry)
    (hsource : etcdData = none ∨ etcdData = some (publishCapacity s)) :
    requirementsFit definition (mapWorkerToDto profile s) etcdData
      = s.canAccommodate requirements.capacity := by
  rw [Bool.eq_iff_iff, requirementsFit_iff, hdefinition]
  unfold CMLWorkerState.canAccommodate CMLWorkerState.availableCapacity
  cases hdeclared : s.effectiveDeclared with
  | none =>
      refine iff_of_false (fun h => ?_) (by simp)
      have hcpu := h .cpuCores
      rw [available_unknown profile s etcdData .cpuCores hdeclared hsource,
        required_requirementsDict] at hcpu
      have hpos := capacity_amount_pos requirements .cpuCores
      omega
  | some declared =>
      dsimp only
      rw [canFit_iff rfl]
      refine forall_congr' fun r => ?_
      rw [WorkerCapacity.amount_subtract, required_requirementsDict]
      have hpos := capacity_amount_pos requirements r
      rcases hsource with rfl | rfl
      · rw [available_of_dict profile s r hdeclared]
        exact fits_clamped_iff hpos _ _
      · rw [available_of_entry profile s r hdeclared]
        exact Int.ofNat_le

end Sources

/-! ## §4. Agreement. -/

/-- **On a worker whose license is not personal the engine's capacity check and
`can_accommodate` agree**, whether the worker has an entry published from the same state or
none. -/
theorem capacity_agreement (profile : WorkerProfile) (s : CMLWorkerState)
    (requirements : ResourceRequirements) (amiRequirements : List AmiRequirementDict)
    (definition : DefinitionDict)
    (hdefinition :
      definition.resourceRequirements = requirementsDict requirements amiRequirements)
    (etcdCapacities : EtcdCapacities)
    (hsource : etcdCapacities.get? s.id = none ∨
      etcdCapacities.get? s.id = some (publishCapacity s))
    (hlicense : workerLicenseType (mapWorkerToDto profile s) ≠ "personal") :
    checkResourceCapacity (mapWorkerToDto profile s) definition etcdCapacities
      = s.canAccommodate requirements.capacity := by
  unfold checkResourceCapacity
  dsimp only
  rw [if_neg fun h => hlicense h.1]
  exact requirementsFit_eq_canAccommodate profile s requirements definition amiRequirements
    hdefinition _ hsource

/-- Agreement on an over-allocated worker without hardware figures, with a published entry. -/
theorem capacity_agreement_overAllocated :
    checkResourceCapacity
        (mapWorkerToDto { name := "cml-1" }
          { id := "w1", id_given := by decide,
            declaredCapacity := some ⟨4, 8, 100, none⟩,
            allocatedCapacity := ⟨6, 8, 100, none⟩ })
        { resourceRequirements := requirementsDict
            { cpuCores := 1, memoryGb := 1, storageGb := 1, cpuCores_pos := by decide,
              memoryGb_pos := by decide, storageGb_pos := by decide } [] }
        (Dict.ofList [("w1", publishCapacity
          { id := "w1", id_given := by decide,
            declaredCapacity := some ⟨4, 8, 100, none⟩,
            allocatedCapacity := ⟨6, 8, 100, none⟩ })])
      = CMLWorkerState.canAccommodate
          { id := "w1", id_given := by decide,
            declaredCapacity := some ⟨4, 8, 100, none⟩,
            allocatedCapacity := ⟨6, 8, 100, none⟩ }
          ⟨1, 1, 1, none⟩ :=
  capacity_agreement _ _
    { cpuCores := 1, memoryGb := 1, storageGb := 1, cpuCores_pos := by decide,
      memoryGb_pos := by decide, storageGb_pos := by decide } [] _ rfl _ (.inr rfl) (by decide)

end CmlCloudManager.Scheduler
