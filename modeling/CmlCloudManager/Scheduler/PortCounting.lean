/-
  CmlCloudManager.Scheduler.PortCounting
  ──────────────────────────────────────
  **THE PORTS OF A DEFINITION, AS THE ENGINE COUNTS THEM.**

  A port template is serialized with its definitions under the key `ports`; the engine
  looks for them under the key `port_entries`.  It finds none, so that no worker is ever
  rejected for its ports (`checkPortAvailability_of_template`) and a worker is placed on
  whether it has the ports or not (`ports_counted_iff`).
-/
import CmlCloudManager.ControlPlane.PortAvailability
import CmlCloudManager.Scheduler.PlacementCorrectness

namespace CmlCloudManager.Scheduler

open CmlCloudManager.Foundation
open CmlCloudManager.ControlPlane

/-! ## §1. The documents. -/

/-- A port template as a document: lists under keys.  Of an entry of a list, which is a
dictionary of its own, only the name is kept. -/
abbrev PortTemplateDict : Type := Dict String (List String)

/-- `PortTemplate.to_dict`. -/
def portTemplateToDict (t : PortTemplate) : PortTemplateDict :=
  Dict.empty.set "ports" (t.ports.map PortDefinition.name)

/-- What the engine reads of the document: `get("port_entries") or []`. -/
def portEntriesOf (d : PortTemplateDict) : List String := (d.get? "port_entries").getD []

/-- The definition with its port template, as the engine reads it. -/
def DefinitionDict.withPortTemplate (definition : DefinitionDict) (t : PortTemplate) :
    DefinitionDict :=
  { definition with portEntries := portEntriesOf (portTemplateToDict t) }

/-- **The engine reads nothing.** -/
theorem portEntriesOf_toDict (t : PortTemplate) : portEntriesOf (portTemplateToDict t) = [] := by
  unfold portEntriesOf portTemplateToDict
  rw [Dict.get?_set_ne _ _ _ (by decide)]
  rfl

/-! ## §2. The ports of a worker. -/

/-- `max_ports` of the declared capacity, or the default of the engine. -/
def portLimit (worker : WorkerDict) : Int :=
  let declared := (effectiveDeclaredCapacity worker).maxPorts.getD 0
  if declared ≠ 0 then declared else 1000

/-- The ports of all its allocations. -/
def usedPorts (worker : WorkerDict) : Nat := (worker.portAllocations.map Dict.size).sum

/-- The ports of the template are left on the worker. -/
def PortsLeft (t : PortTemplate) (worker : WorkerDict) : Prop :=
  (t.portCount : Int) ≤ portLimit worker - usedPorts worker

instance (t : PortTemplate) (worker : WorkerDict) : Decidable (PortsLeft t worker) :=
  inferInstanceAs (Decidable (_ ≤ _))

/-- What the check asks of a worker, in these terms. -/
theorem checkPortAvailability_iff (worker : WorkerDict) (definition : DefinitionDict) :
    checkPortAvailability worker definition = true
      ↔ definition.portEntries = []
        ∨ (definition.portEntries.length : Int) ≤ portLimit worker - usedPorts worker := by
  unfold checkPortAvailability portLimit usedPorts
  dsimp only
  split
  next hnone => exact iff_of_true rfl (.inl (List.eq_nil_of_length_eq_zero hnone))
  next hsome =>
    have hne : definition.portEntries ≠ [] := fun h => hsome (congrArg List.length h)
    rw [decide_eq_true_iff, or_iff_right hne]

/-- A serialized template never stands in the way. -/
theorem checkPortAvailability_of_template (worker : WorkerDict) (definition : DefinitionDict)
    (t : PortTemplate) :
    checkPortAvailability worker (definition.withPortTemplate t) = true :=
  (checkPortAvailability_iff _ _).mpr (.inl (portEntriesOf_toDict t))

/-! ## §3. The placement. -/

/-- The worker passes the checks of status, license, capacity and AMI. -/
def PassesButPorts (definition : DefinitionDict) (etcdCapacities : EtcdCapacities)
    (worker : WorkerDict) : Bool :=
  checkStatus worker && checkLicenseAffinity worker definition
    && checkResourceCapacity worker definition etcdCapacities
    && checkAmiRequirements worker definition

/-- With a serialized template these are all the checks there are. -/
theorem rejection_withPortTemplate (definition : DefinitionDict) (etcdCapacities : EtcdCapacities)
    (t : PortTemplate) (worker : WorkerDict) :
    decide (rejection (definition.withPortTemplate t) etcdCapacities worker = none)
      = PassesButPorts definition etcdCapacities worker := by
  have hports := checkPortAvailability_of_template worker definition t
  have hlicense : checkLicenseAffinity worker (definition.withPortTemplate t)
      = checkLicenseAffinity worker definition := rfl
  have hcapacity : checkResourceCapacity worker (definition.withPortTemplate t) etcdCapacities
      = checkResourceCapacity worker definition etcdCapacities := rfl
  have hami : checkAmiRequirements worker (definition.withPortTemplate t)
      = checkAmiRequirements worker definition := rfl
  unfold rejection PassesButPorts
  rw [hports, hlicense, hcapacity, hami]
  cases checkStatus worker <;> cases checkLicenseAffinity worker definition <;>
    cases checkResourceCapacity worker definition etcdCapacities <;>
    cases checkAmiRequirements worker definition <;> rfl

/-- **A worker is assigned only with enough ports left exactly when the one that is chosen
without looking at the ports has them**, whatever the numbers are that the scores are in. -/
theorem ports_counted_iff {ρ : Type} [LinearOrder ρ] (ops : FloatOps ρ)
    (hlt : ∀ x y, ops.lt x y = true ↔ x < y) (definition : DefinitionDict) (t : PortTemplate)
    (workers : List WorkerDict) (etcdCapacities : EtcdCapacities) :
    (∀ worker ∈ workers,
        (PlacementEngine.schedule ops (definition.withPortTemplate t) workers
          etcdCapacities).workerId = some worker.id → PortsLeft t worker)
      ↔ ∀ chosen, IsFirstMax (score ops etcdCapacities)
            (workers.filter (PassesButPorts definition etcdCapacities)) chosen →
          ∀ worker ∈ workers, worker.id = chosen.id → PortsLeft t worker := by
  have hworker := schedule_workerId_iff ops hlt (definition.withPortTemplate t) workers
    etcdCapacities
  simp only [rejection_withPortTemplate] at hworker
  constructor
  · intro h chosen hchosen worker hmem hid
    exact h worker hmem ((hworker worker.id).mpr ⟨chosen, hchosen, hid.symm⟩)
  · intro h worker hmem hassigned
    obtain ⟨chosen, hchosen, hid⟩ := (hworker worker.id).mp hassigned
    exact h chosen hchosen worker hmem hid.symm

/-- A worker with room for one port, and a busier one that has not said how many it has. -/
def oneAndMany : List WorkerDict :=
  [runningWorker { maxPorts := some 1 },
    { runningWorker { cpuCores := some 8, memoryGb := some 32, storageGb := some 100 } with
      id := "roomy"
      id_given := by decide
      allocatedCapacity := some { cpuCores := some 4 } }]

/-- The busier one is chosen, and it has the ports. -/
theorem ports_counted_on_the_busier :
    (PlacementEngine.schedule exactFloats
        (DefinitionDict.withPortTemplate {} PortAllocationService.consoleAndVnc) oneAndMany
        Dict.empty).workerId = some "roomy"
      ∧ ∀ chosen, IsFirstMax (score exactFloats Dict.empty)
            (oneAndMany.filter (PassesButPorts {} Dict.empty)) chosen →
          ∀ worker ∈ oneAndMany, worker.id = chosen.id →
            PortsLeft PortAllocationService.consoleAndVnc worker := by
  refine ⟨by decide +kernel, ?_⟩
  exact (ports_counted_iff exactFloats (fun _ _ => decide_eq_true_iff) {}
    PortAllocationService.consoleAndVnc oneAndMany Dict.empty).mp (by decide +kernel)

/-- A worker for one port is given two. -/
theorem two_ports_on_a_worker_for_one :
    (PlacementEngine.schedule exactFloats
        (DefinitionDict.withPortTemplate {} PortAllocationService.consoleAndVnc)
        [runningWorker { maxPorts := some 1 }] Dict.empty).workerId = some "worker-1"
      ∧ ¬PortsLeft PortAllocationService.consoleAndVnc
          (runningWorker { maxPorts := some 1 }) := by
  refine ⟨?_, by decide⟩
  decide

end CmlCloudManager.Scheduler
