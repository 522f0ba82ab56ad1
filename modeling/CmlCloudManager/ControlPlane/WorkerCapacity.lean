/-
  CmlCloudManager.ControlPlane.WorkerCapacity
  ───────────────────────────────────────────
  **CAPACITY TRACKING OF A WORKER.**

  A worker keeps the ids of the sessions placed on it and, beside them, one total
  of what they were given.  Three events change the two together:

    • `LabletSessionAssigned`        — one more id, its amounts added,
    • `LabletSessionRemoved`         — one id less, the given amounts subtracted
                                       and clamped at zero,
    • `AllocatedCapacityRecalculated` — both replaced.

  The amounts of a removal come from the command, not from the worker: nothing
  on the worker remembers what a session was given.
-/
import CmlCloudManager.Foundation.Ledger
import CmlCloudManager.Foundation.Repository
import CmlCloudManager.ControlPlane.LabletSession
import CmlCloudManager.ControlPlane.PipelineProgress

namespace CmlCloudManager.ControlPlane

open CmlCloudManager.Foundation

/-! ## §1. Capacity. -/

/-- `WorkerCapacity`; the amounts are not negative by type. -/
structure WorkerCapacity where
  cpuCores : Nat
  memoryGb : Nat
  storageGb : Nat
  maxNodes : Option Nat := none
  deriving DecidableEq, Repr

/-- The three resources that are always counted. -/
inductive Resource where
  | cpuCores
  | memoryGb
  | storageGb
  deriving DecidableEq, Repr

namespace WorkerCapacity

/-- The amount of one resource. -/
def amount (c : WorkerCapacity) : Resource → Nat
  | .cpuCores => c.cpuCores
  | .memoryGb => c.memoryGb
  | .storageGb => c.storageGb

/-- `WorkerCapacity.zero`. -/
def zero : WorkerCapacity := { cpuCores := 0, memoryGb := 0, storageGb := 0, maxNodes := some 0 }

/-- `WorkerCapacity.can_fit`. -/
def canFit (self required : WorkerCapacity) : Bool :=
  if required.cpuCores > self.cpuCores then false
  else if required.memoryGb > self.memoryGb then false
  else if required.storageGb > self.storageGb then false
  else
    match self.maxNodes, required.maxNodes with
    | some available, some nodes => if nodes > available then false else true
    | _, _ => true

/-- `WorkerCapacity.subtract`: what is left, at least zero. -/
def subtract (self other : WorkerCapacity) : WorkerCapacity where
  cpuCores := self.cpuCores - other.cpuCores
  memoryGb := self.memoryGb - other.memoryGb
  storageGb := self.storageGb - other.storageGb
  maxNodes := self.maxNodes.map fun nodes => nodes - other.maxNodes.getD 0

/-- `WorkerCapacity.add`. -/
def add (self other : WorkerCapacity) : WorkerCapacity where
  cpuCores := self.cpuCores + other.cpuCores
  memoryGb := self.memoryGb + other.memoryGb
  storageGb := self.storageGb + other.storageGb
  maxNodes :=
    if self.maxNodes.isSome ∨ other.maxNodes.isSome then
      some (self.maxNodes.getD 0 + other.maxNodes.getD 0)
    else none

/-- `WorkerCapacity.__str__`. -/
def text (c : WorkerCapacity) : String :=
  let nodes :=
    match c.maxNodes with
    | some n => ", max_nodes=" ++ toString n
    | none => ""
  "WorkerCapacity(cpu=" ++ toString c.cpuCores ++ ", mem=" ++ toString c.memoryGb
    ++ "GB, storage=" ++ toString c.storageGb ++ "GB" ++ nodes ++ ")"

@[simp] theorem amount_zero (r : Resource) : zero.amount r = 0 := by
  cases r <;> rfl

@[simp] theorem amount_add (c d : WorkerCapacity) (r : Resource) :
    (c.add d).amount r = c.amount r + d.amount r := by
  cases r <;> rfl

@[simp] theorem amount_subtract (c d : WorkerCapacity) (r : Resource) :
    (c.subtract d).amount r = c.amount r - d.amount r := by
  cases r <;> rfl

/-- What fits is no more than what is there. -/
theorem amount_le_of_canFit {c d : WorkerCapacity} (h : c.canFit d = true) (r : Resource) :
    d.amount r ≤ c.amount r := by
  unfold canFit at h
  split at h
  next => cases h
  next hcpu =>
    split at h
    next => cases h
    next hmemory =>
      split at h
      next => cases h
      next hstorage =>
        cases r with
        | cpuCores => exact Nat.le_of_not_gt hcpu
        | memoryGb => exact Nat.le_of_not_gt hmemory
        | storageGb => exact Nat.le_of_not_gt hstorage

end WorkerCapacity

/-! ## §2. The worker. -/

/-- `CMLWorkerStatus`. -/
inductive CMLWorkerStatus where
  | pending
  | provisioning
  | starting
  | running
  | draining
  | stopping
  | stopped
  | terminating
  | shuttingDown
  | terminated
  | failed
  | unknown
  deriving DecidableEq, Repr

/-- The value of the status, as it is stored. -/
def CMLWorkerStatus.value : CMLWorkerStatus → String
  | .pending => "pending"
  | .provisioning => "provisioning"
  | .starting => "starting"
  | .running => "running"
  | .draining => "draining"
  | .stopping => "stopping"
  | .stopped => "stopped"
  | .terminating => "terminating"
  | .shuttingDown => "shutting-down"
  | .terminated => "terminated"
  | .failed => "failed"
  | .unknown => "unknown"

/-- The hardware figures of `CMLSystemInfo`; memory and disk in bytes. -/
structure CMLSystemInfo where
  cpuCount : Option Nat := none
  memoryTotal : Option Nat := none
  diskTotal : Option Nat := none

/-- `PortAllocation`, the ports of one session. -/
structure PortAllocation where
  sessionId : String
  ports : Ports
  allocatedAt : Int

/-- `CMLWorkerState`, as far as capacity is concerned.  The id is generated; an id is
assigned only when it is absent, so the list of ids has no repetition. -/
structure CMLWorkerState where
  id : String
  id_given : id ≠ ""
  status : CMLWorkerStatus := .pending
  systemInfo : Option CMLSystemInfo := none
  declaredCapacity : Option WorkerCapacity := none
  allocatedCapacity : WorkerCapacity := WorkerCapacity.zero
  portAllocations : List PortAllocation := []
  sessionIds : List String := []
  sessionIds_nodup : sessionIds.Nodup := by exact List.nodup_nil
  updatedAt : Int := 0

namespace CMLWorkerState

/-- `on(LabletSessionAssignedDomainEvent)`. -/
def assigned (s : CMLWorkerState) (sessionId : String) (allocated : WorkerCapacity)
    (assignedAt : Int) : CMLWorkerState :=
  if h : sessionId ∉ s.sessionIds then
    { s with
      sessionIds := s.sessionIds ++ [sessionId]
      sessionIds_nodup := by
        rw [List.nodup_append]
        refine ⟨s.sessionIds_nodup, List.nodup_singleton _, ?_⟩
        rintro a ha b hb rfl
        exact h (List.mem_singleton.mp hb ▸ ha)
      allocatedCapacity := s.allocatedCapacity.add allocated
      updatedAt := assignedAt }
  else
    -- the handler adds the amounts whether or not it adds the id
    { s with
      allocatedCapacity := s.allocatedCapacity.add allocated
      updatedAt := assignedAt }

/-- `on(LabletSessionRemovedDomainEvent)`. -/
def removed (s : CMLWorkerState) (sessionId : String) (released : WorkerCapacity)
    (removedAt : Int) : CMLWorkerState :=
  { s with
    sessionIds := s.sessionIds.filter (· ≠ sessionId)
    sessionIds_nodup := s.sessionIds_nodup.filter _
    allocatedCapacity :=
      { cpuCores := s.allocatedCapacity.cpuCores - released.cpuCores
        memoryGb := s.allocatedCapacity.memoryGb - released.memoryGb
        storageGb := s.allocatedCapacity.storageGb - released.storageGb
        maxNodes :=
          match s.allocatedCapacity.maxNodes with
          -- `max(0, ...)`, as for the three others
          | some nodes => some (nodes - released.maxNodes.getD 0)
          | none => none }
    updatedAt := removedAt }

/-- `on(AllocatedCapacityRecalculatedDomainEvent)`; the ids are among the tracked ones. -/
def recalculated (s : CMLWorkerState) (capacity : WorkerCapacity) (active : List String)
    (hactive : active.Sublist s.sessionIds) (recalculatedAt : Int) : CMLWorkerState :=
  { s with
    sessionIds := active
    sessionIds_nodup := hactive.nodup s.sessionIds_nodup
    allocatedCapacity := capacity
    updatedAt := recalculatedAt }

/-- `on(CMLWorkerPortsAllocatedDomainEvent)`; `PortAllocation` wants a session id. -/
def portsAllocated (s : CMLWorkerState) (sessionId : String) (ports : Ports) (allocatedAt : Int) :
    Except OperationError CMLWorkerState :=
  if sessionId = "" then .error (.valueError "session_id cannot be empty")
  else
    .ok { s with
      portAllocations := s.portAllocations ++ [⟨sessionId, ports, allocatedAt⟩]
      updatedAt := allocatedAt }

/-- `CMLWorker.release_ports`, when the session has an allocation. -/
def releasePorts (s : CMLWorkerState) (sessionId : String) (releasedAt : Int) : CMLWorkerState :=
  if s.portAllocations.any (fun a => a.sessionId == sessionId) then
    { s with
      portAllocations := s.portAllocations.filter fun a => a.sessionId ≠ sessionId
      updatedAt := releasedAt }
  else s

/-- `CMLWorker.has_session`. -/
def hasSession (s : CMLWorkerState) (sessionId : String) : Bool := s.sessionIds.contains sessionId

/-- `CMLWorker._derive_capacity_from_metrics`: from the hardware, when all three are known. -/
def deriveCapacityFromMetrics (s : CMLWorkerState) : Option WorkerCapacity :=
  match s.systemInfo with
  | none => none
  | some info =>
      let cpuCount := info.cpuCount.getD 0
      let memoryTotal := info.memoryTotal.getD 0
      let diskTotal := info.diskTotal.getD 0
      -- the figures are bytes; a figure that is unknown or zero gives no capacity
      if cpuCount ≠ 0 ∧ memoryTotal ≠ 0 ∧ diskTotal ≠ 0 then
        some
          { cpuCores := cpuCount
            memoryGb := memoryTotal / 1024 ^ 3
            storageGb := diskTotal / 1024 ^ 3
            maxNodes := none }
      else none

/-- The declared capacity, or else the one derived from the hardware. -/
def effectiveDeclared (s : CMLWorkerState) : Option WorkerCapacity :=
  match s.declaredCapacity with
  | some declared => some declared
  | none => s.deriveCapacityFromMetrics

/-- `CMLWorker.available_capacity`. -/
def availableCapacity (s : CMLWorkerState) : Option WorkerCapacity :=
  match s.effectiveDeclared with
  | some declared => some (declared.subtract s.allocatedCapacity)
  | none => none

/-- `CMLWorker.can_accommodate`. -/
def canAccommodate (s : CMLWorkerState) (required : WorkerCapacity) : Bool :=
  match s.availableCapacity with
  | some available => available.canFit required
  -- nothing fits on a worker whose capacity is not known
  | none => false

/-- `CMLWorker.available_ports`, sorted. -/
def availablePorts (s : CMLWorkerState) : List Int :=
  let allocated := s.portAllocations.flatMap fun a => a.ports.values
  ((List.range 8000).map fun n => (2000 + n : Int)).filter fun p => p ∉ allocated

/-- `CMLWorker.get_next_available_ports`. -/
def getNextAvailablePorts (s : CMLWorkerState) (count : Nat) : Except OperationError (List Int) :=
  let available := s.availablePorts
  if available.length < count then
    .error (.valueError ("Not enough available ports: need " ++ toString count ++ ", have "
      ++ toString available.length))
  else .ok (available.take count)

end CMLWorkerState

/-- The worker repository. -/
abbrev WorkerRepository : Type := Repository CMLWorkerState CMLWorkerState.id

/-! ## §3. What the events do to the list and the total. -/

namespace CMLWorkerState

variable {s : CMLWorkerState} {sessionId : String}

theorem hasSession_iff : s.hasSession sessionId = true ↔ sessionId ∈ s.sessionIds :=
  List.contains_iff_mem

@[simp] theorem assigned_id (c : WorkerCapacity) (t : Int) :
    (s.assigned sessionId c t).id = s.id := by
  unfold assigned
  split <;> rfl

@[simp] theorem assigned_effectiveDeclared (c : WorkerCapacity) (t : Int) :
    (s.assigned sessionId c t).effectiveDeclared = s.effectiveDeclared := by
  unfold assigned
  split <;> rfl

@[simp] theorem assigned_allocatedCapacity (c : WorkerCapacity) (t : Int) :
    (s.assigned sessionId c t).allocatedCapacity = s.allocatedCapacity.add c := by
  unfold assigned
  split <;> rfl

theorem assigned_sessionIds (h : sessionId ∉ s.sessionIds) (c : WorkerCapacity) (t : Int) :
    (s.assigned sessionId c t).sessionIds = s.sessionIds ++ [sessionId] := by
  unfold assigned
  rw [dif_pos h]

@[simp] theorem removed_amount (c : WorkerCapacity) (t : Int) (r : Resource) :
    (s.removed sessionId c t).allocatedCapacity.amount r
      = s.allocatedCapacity.amount r - c.amount r := by
  cases r <;> rfl

@[simp] theorem releasePorts_id (t : Int) : (s.releasePorts sessionId t).id = s.id := by
  unfold releasePorts
  split <;> rfl

@[simp] theorem releasePorts_sessionIds (t : Int) :
    (s.releasePorts sessionId t).sessionIds = s.sessionIds := by
  unfold releasePorts
  split <;> rfl

@[simp] theorem releasePorts_allocatedCapacity (t : Int) :
    (s.releasePorts sessionId t).allocatedCapacity = s.allocatedCapacity := by
  unfold releasePorts
  split <;> rfl

/-- The capacity that is accommodated stays within the declared one. -/
theorem amount_le_declared {declared required : WorkerCapacity}
    (hdeclared : s.effectiveDeclared = some declared)
    (hfits : s.canAccommodate required = true) (r : Resource)
    (hpos : 0 < required.amount r) :
    s.allocatedCapacity.amount r + required.amount r ≤ declared.amount r := by
  unfold canAccommodate availableCapacity at hfits
  rw [hdeclared] at hfits
  -- what fits is positive, so the subtraction was not clamped
  have hle : required.amount r ≤ (declared.subtract s.allocatedCapacity).amount r :=
    WorkerCapacity.amount_le_of_canFit hfits r
  rw [WorkerCapacity.amount_subtract] at hle
  omega

end CMLWorkerState

/-! ## §4. Allocate and release. -/

/-- `OperationResult.is_success`. -/
def OperationResult.isSuccess {α : Type} : OperationResult α → Bool
  | .ok _ => true
  | _ => false

/-- `AllocateCapacityCommand`; its callers pass amounts that are not negative. -/
structure AllocateCapacityCommand where
  workerId : String
  sessionId : String
  cpuCores : Nat
  memoryGb : Nat
  storageGb : Nat
  nodeCount : Option Nat := none
  portRequirements : Option Ports := none

/-- The answer of `AllocateCapacity`. -/
structure AllocateCapacityResult where
  workerId : String
  sessionId : String
  allocatedCapacity : WorkerCapacity
  availableCapacity : Option WorkerCapacity
  allocatedPorts : Ports
  assignedSessionCount : Nat

/-- An f-string of an optional capacity. -/
def capacityText : Option WorkerCapacity → String
  | some c => c.text
  | none => "None"

/-- `Allocate ports if requested`. -/
def allocateRequestedPorts (now : Int) (worker : CMLWorkerState) (sessionId : String)
    (portRequirements : Option Ports) : Except OperationError (CMLWorkerState × Ports) :=
  match portRequirements.bind givenPorts with
  | none => .ok (worker, Dict.empty)
  | some requirements => do
      let availablePorts ← worker.getNextAvailablePorts requirements.size
      let allocatedPorts := Dict.ofList (requirements.keys.zip availablePorts)
      let worker ← worker.portsAllocated sessionId allocatedPorts now
      return (worker, allocatedPorts)

/-- `Validate worker is RUNNING`: the message of the conflict. -/
def notRunning (workerId : String) (worker : CMLWorkerState) : Option String :=
  if worker.status ≠ .running then
    some ("Worker " ++ workerId ++ " is " ++ worker.status.value ++ ", must be RUNNING")
  else none

/-- `Check capacity`: the message of the conflict. -/
def insufficientCapacity (workerId : String) (worker : CMLWorkerState)
    (requirements : WorkerCapacity) : Option String :=
  if ¬ worker.canAccommodate requirements then
    some ("Insufficient capacity on worker " ++ workerId ++ ". Required: " ++ requirements.text
      ++ ", Available: " ++ capacityText worker.availableCapacity)
  else none

/-- The amounts of an allocation. -/
def AllocateCapacityCommand.requirements (command : AllocateCapacityCommand) : WorkerCapacity where
  cpuCores := command.cpuCores
  memoryGb := command.memoryGb
  storageGb := command.storageGb
  maxNodes := command.nodeCount

/-- The checks and changes of an allocation on the worker that was read: the worker to save and
the ports, or the answer. -/
def allocateOn (now : Int) (command : AllocateCapacityCommand) (worker : CMLWorkerState) :
    Except (OperationResult AllocateCapacityResult) (CMLWorkerState × Ports) :=
  match notRunning command.workerId worker with
  | some message => .error (.conflict message)
  | none =>
      -- a second allocation for one session is a conflict, not a no-op
      if worker.hasSession command.sessionId then
        .error (.conflict ("Session " ++ command.sessionId ++ " is already assigned to worker "
          ++ command.workerId))
      else
        match insufficientCapacity command.workerId worker command.requirements with
        | some message => .error (.conflict message)
        | none =>
            match allocateRequestedPorts now
                (worker.assigned command.sessionId command.requirements now) command.sessionId
                command.portRequirements with
            | .error e => .error (.badRequest e.message)
            | .ok granted => .ok granted

/-- `AllocateCapacityCommandHandler.handle_async`. -/
def allocateCapacity (now : Int) (workers : WorkerRepository) (command : AllocateCapacityCommand) :
    OperationResult AllocateCapacityResult × WorkerRepository :=
  match workers.find command.workerId with
  | none => (.notFound command.workerId, workers)
  | some worker =>
      match allocateOn now command worker with
      | .error answer => (answer, workers)
      | .ok (worker, allocatedPorts) =>
          (.ok
            { workerId := command.workerId
              sessionId := command.sessionId
              allocatedCapacity := worker.allocatedCapacity
              availableCapacity := worker.availableCapacity
              allocatedPorts := allocatedPorts
              assignedSessionCount := worker.sessionIds.length },
            workers.save worker)

/-- `ReleaseCapacityCommand`. -/
structure ReleaseCapacityCommand where
  workerId : String
  sessionId : String
  cpuCores : Nat := 0
  memoryGb : Nat := 0
  storageGb : Nat := 0
  nodeCount : Option Nat := none

/-- The answer of `ReleaseCapacity`. -/
structure ReleaseCapacityResult where
  workerId : String
  sessionId : String
  alreadyReleased : Bool
  allocatedCapacity : WorkerCapacity
  availableCapacity : Option WorkerCapacity
  assignedSessionCount : Option Nat := none

/-- The amounts of a release. -/
def ReleaseCapacityCommand.capacity (command : ReleaseCapacityCommand) : WorkerCapacity where
  cpuCores := command.cpuCores
  memoryGb := command.memoryGb
  storageGb := command.storageGb
  maxNodes := command.nodeCount

/-- `ReleaseCapacityCommandHandler.handle_async`. -/
def releaseCapacity (now : Int) (workers : WorkerRepository) (command : ReleaseCapacityCommand) :
    OperationResult ReleaseCapacityResult × WorkerRepository :=
  match workers.find command.workerId with
  | none => (.notFound command.workerId, workers)
  | some worker =>
      -- `already_released`: nothing is given back a second time
      if ¬ worker.hasSession command.sessionId then
        (.ok
          { workerId := command.workerId
            sessionId := command.sessionId
            alreadyReleased := true
            allocatedCapacity := worker.allocatedCapacity
            availableCapacity := worker.availableCapacity }, workers)
      else
        let worker := worker.releasePorts command.sessionId now
        let worker := worker.removed command.sessionId command.capacity now
        (.ok
          { workerId := command.workerId
            sessionId := command.sessionId
            alreadyReleased := false
            allocatedCapacity := worker.allocatedCapacity
            availableCapacity := worker.availableCapacity
            assignedSessionCount := some worker.sessionIds.length },
          workers.save worker)

/-- What a release makes of the worker it is for. -/
def CMLWorkerState.released (s : CMLWorkerState) (now : Int) (command : ReleaseCapacityCommand) :
    CMLWorkerState :=
  if command.sessionId ∈ s.sessionIds then
    (s.releasePorts command.sessionId now).removed command.sessionId command.capacity now
  else s

/-- **The effect of a release** on every worker. -/
theorem find_releaseCapacity (now : Int) (workers : WorkerRepository)
    (command : ReleaseCapacityCommand) (k : String) :
    (releaseCapacity now workers command).2.find k
      = if k = command.workerId then (workers.find k).map fun w => w.released now command
        else workers.find k := by
  unfold releaseCapacity
  cases hfind : workers.find command.workerId with
  | none =>
      show workers.find k = _
      split
      next hk => rw [hk, hfind]; rfl
      next => rfl
  | some worker =>
      by_cases hsession : worker.hasSession command.sessionId = true
      · -- ports and capacity go, under the same id
        have hmem : command.sessionId ∈ worker.sessionIds :=
          CMLWorkerState.hasSession_iff.mp hsession
        have hid : worker.id = command.workerId := Repository.id_of_find hfind
        simp only [hsession, not_true_eq_false, if_false]
        rw [Repository.find_save_of_id
          (show (CMLWorkerState.removed _ _ _ _).id = command.workerId by
            rw [← hid]; exact CMLWorkerState.releasePorts_id now)]
        split
        next hk =>
          rw [hk, hfind]
          simp only [Option.map_some, CMLWorkerState.released, if_pos hmem]
        next => rfl
      · have hmem : command.sessionId ∉ worker.sessionIds :=
          fun h => hsession (CMLWorkerState.hasSession_iff.mpr h)
        rw [Bool.not_eq_true] at hsession
        simp only [hsession, Bool.false_eq_true, not_false_eq_true, if_true]
        split
        next hk =>
          rw [hk, hfind]
          simp only [Option.map_some, CMLWorkerState.released, if_neg hmem]
        next => rfl

/-- **What an allocation without ports needs** of the worker that was read, and what it makes
of it. -/
theorem allocateOn_eq_ok_iff (now : Int) {worker : CMLWorkerState}
    {granted : CMLWorkerState × Ports} (command : AllocateCapacityCommand)
    (hports : command.portRequirements = none) :
    allocateOn now command worker = .ok granted
      ↔ worker.status = .running ∧ command.sessionId ∉ worker.sessionIds
        ∧ worker.canAccommodate command.requirements = true
        ∧ granted = (worker.assigned command.sessionId command.requirements now, Dict.empty) := by
  unfold allocateOn notRunning insufficientCapacity allocateRequestedPorts
  rw [hports]
  by_cases hrunning : worker.status = .running
  · by_cases hmem : command.sessionId ∈ worker.sessionIds
    · simp [hrunning, hmem, CMLWorkerState.hasSession]
    · by_cases hfits : worker.canAccommodate command.requirements = true
      · simp [hrunning, hmem, hfits, CMLWorkerState.hasSession, eq_comm]
      · simp [hrunning, hmem, hfits, CMLWorkerState.hasSession]
  · simp [hrunning]

/-- An allocation that is refused is not answered with success. -/
theorem allocateOn_error {now : Int} {worker : CMLWorkerState} {command : AllocateCapacityCommand}
    {answer : OperationResult AllocateCapacityResult}
    (h : allocateOn now command worker = .error answer) : answer.isSuccess = false := by
  unfold allocateOn at h
  split at h
  next => cases h; rfl
  next =>
    split at h
    next => cases h; rfl
    next =>
      split at h
      next => cases h; rfl
      next =>
        split at h
        next => cases h; rfl
        next => cases h

/-- **The effect of an allocation without ports**: it is granted to a running worker that
does not have the session yet and has the room. -/
theorem allocateCapacity_granted (now : Int) {workers : WorkerRepository}
    {worker : CMLWorkerState} (command : AllocateCapacityCommand)
    (hports : command.portRequirements = none)
    (hfind : workers.find command.workerId = some worker) (hrunning : worker.status = .running)
    (hfresh : command.sessionId ∉ worker.sessionIds)
    (hfits : worker.canAccommodate command.requirements = true) :
    (allocateCapacity now workers command).1.isSuccess = true
      ∧ (allocateCapacity now workers command).2
        = workers.save (worker.assigned command.sessionId command.requirements now) := by
  have hok := (allocateOn_eq_ok_iff now command hports).mpr
    ⟨hrunning, hfresh, hfits, rfl⟩
  unfold allocateCapacity
  simp only [hfind, hok]
  exact ⟨rfl, trivial⟩

/-- An allocation concerns the worker it is for. -/
theorem find_allocateCapacity_ne (now : Int) (workers : WorkerRepository)
    (command : AllocateCapacityCommand) {k : String} (hports : command.portRequirements = none)
    (h : k ≠ command.workerId) :
    (allocateCapacity now workers command).2.find k = workers.find k := by
  unfold allocateCapacity
  cases hfind : workers.find command.workerId with
  | none => rfl
  | some worker =>
      have hid : worker.id = command.workerId := Repository.id_of_find hfind
      cases hgranted : allocateOn now command worker with
      | error answer => simp only [hgranted]
      | ok granted =>
          simp only [hgranted]
          -- what is saved is the worker that was read
          obtain ⟨-, -, -, rfl⟩ := (allocateOn_eq_ok_iff now command hports).mp hgranted
          refine Repository.find_save_ne _ _ ?_
          rw [CMLWorkerState.assigned_id, hid]
          exact h

/-! ## §5. Balanced workers. -/

/-- The total is the sum of the amounts of the tracked sessions. -/
def CMLWorkerState.Balanced (s : CMLWorkerState) (amounts : String → Resource → Nat) : Prop :=
  ∀ r, s.allocatedCapacity.amount r = held s.sessionIds (fun sid => amounts sid r)

section Balanced

variable {s : CMLWorkerState} {amounts amounts' : String → Resource → Nat}

/-- An assigned session is counted with what it was given. -/
theorem balanced_assigned {sessionId : String} {c : WorkerCapacity} (t : Int)
    (hfresh : sessionId ∉ s.sessionIds) (hbalanced : s.Balanced amounts)
    (hothers : ∀ sid ∈ s.sessionIds, amounts' sid = amounts sid)
    (hgiven : ∀ r, amounts' sessionId r = c.amount r) :
    (s.assigned sessionId c t).Balanced amounts' := by
  intro r
  rw [CMLWorkerState.assigned_allocatedCapacity, CMLWorkerState.assigned_sessionIds hfresh,
    held_snoc, WorkerCapacity.amount_add, hbalanced r, hgiven r]
  rw [held_congr fun sid hsid => congrFun (hothers sid hsid).symm r]

/-- The release of a tracked session takes its amounts off the total. -/
theorem released_amount (now : Int) {command : ReleaseCapacityCommand}
    (hmem : command.sessionId ∈ s.sessionIds) (r : Resource) :
    (s.released now command).allocatedCapacity.amount r
      = s.allocatedCapacity.amount r - command.capacity.amount r := by
  unfold CMLWorkerState.released
  rw [if_pos hmem, CMLWorkerState.removed_amount, CMLWorkerState.releasePorts_allocatedCapacity]

theorem released_sessionIds (now : Int) (command : ReleaseCapacityCommand) :
    (s.released now command).sessionIds = s.sessionIds.filter (· ≠ command.sessionId) := by
  unfold CMLWorkerState.released
  split
  next =>
    show (s.releasePorts command.sessionId now).sessionIds.filter _ = _
    rw [CMLWorkerState.releasePorts_sessionIds]
  next hmem =>
    -- there is nothing to take off the list
    refine (List.filter_eq_self.mpr fun sid hsid => ?_).symm
    exact decide_eq_true fun h => hmem (h ▸ hsid)

/-- **A release keeps the balance** iff, of every resource, it gives back what the session has,
or at least that much while the session has all of it. -/
theorem balanced_released_iff (now : Int) (command : ReleaseCapacityCommand)
    (hbalanced : s.Balanced amounts) :
    (s.released now command).Balanced amounts
      ↔ (command.sessionId ∈ s.sessionIds → ∀ r,
        command.capacity.amount r = amounts command.sessionId r
          ∨ s.allocatedCapacity.amount r = amounts command.sessionId r
            ∧ amounts command.sessionId r ≤ command.capacity.amount r) := by
  by_cases hmem : command.sessionId ∈ s.sessionIds
  · simp only [hmem, true_implies]
    refine forall_congr' fun r => ?_
    rw [released_amount now hmem, released_sessionIds]
    exact sub_eq_held_iff s.sessionIds_nodup hmem (hbalanced r)
  · -- a session that is not tracked is released already
    unfold CMLWorkerState.released
    rw [if_neg hmem]
    simp only [hmem, false_implies, iff_true]
    exact hbalanced

end Balanced

end CmlCloudManager.ControlPlane
