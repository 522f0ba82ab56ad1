/-
  CmlCloudManager.Scheduler.PlacementCorrectness
  ──────────────────────────────────────────────
  **WHO IS CHOSEN, AND HOW THE OTHERS ARE COUNTED.**

  What the engine is for, without its loops:

    • a worker may be placed on if it passes the five checks (`Passes`), and if it
      does not, the first check it fails is its category (`firstFailed`),
    • of the workers that may be placed on, the one with the greatest score is
      chosen, the earliest of several,
    • if there is none, every worker is counted under its category.

  The filter, the tally and the choice of the engine come to this for every list
  of workers (`schedule_correct`).
-/
import CmlCloudManager.Foundation.Ranking
import CmlCloudManager.Scheduler.PlacementEngine
import Mathlib.Algebra.Order.Ring.Unbundled.Rat

namespace CmlCloudManager.Scheduler

open CmlCloudManager.Foundation
open CmlCloudManager.ControlPlane

/-! ## §1. What the engine is for. -/

/-- The five checks, in their order. -/
def placementChecks (definition : DefinitionDict) (etcdCapacities : EtcdCapacities) :
    List (RejectionCategory × (WorkerDict → Bool)) :=
  [(.status, checkStatus),
   (.license, fun worker => checkLicenseAffinity worker definition),
   (.capacity, fun worker => checkResourceCapacity worker definition etcdCapacities),
   (.ami, fun worker => checkAmiRequirements worker definition),
   (.ports, fun worker => checkPortAvailability worker definition)]

/-- The worker passes all of them. -/
def Passes (definition : DefinitionDict) (etcdCapacities : EtcdCapacities)
    (worker : WorkerDict) : Prop :=
  ∀ check ∈ placementChecks definition etcdCapacities, check.2 worker = true

/-- The first one it fails. -/
def firstFailed (definition : DefinitionDict) (etcdCapacities : EtcdCapacities)
    (worker : WorkerDict) : Option RejectionCategory :=
  ((placementChecks definition etcdCapacities).find? fun check => !check.2 worker).map Prod.fst

/-! ## §2. The filter. -/

section Filter

variable {definition : DefinitionDict} {etcdCapacities : EtcdCapacities} {worker : WorkerDict}

/-- The nested conditions of the loop look for the first check that fails. -/
theorem rejection_eq_firstFailed (definition : DefinitionDict) (etcdCapacities : EtcdCapacities)
    (worker : WorkerDict) :
    rejection definition etcdCapacities worker = firstFailed definition etcdCapacities worker := by
  unfold rejection firstFailed placementChecks
  simp only [List.find?_cons, List.find?_nil]
  cases checkStatus worker with
  | false => rfl
  | true =>
  cases checkLicenseAffinity worker definition with
  | false => rfl
  | true =>
  cases checkResourceCapacity worker definition etcdCapacities with
  | false => rfl
  | true =>
  cases checkAmiRequirements worker definition with
  | false => rfl
  | true =>
  cases checkPortAvailability worker definition with
  | false => rfl
  | true => rfl

theorem rejection_eq_none_iff :
    rejection definition etcdCapacities worker = none
      ↔ Passes definition etcdCapacities worker := by
  rw [rejection_eq_firstFailed, firstFailed, Option.map_eq_none_iff, List.find?_eq_none]
  refine forall₂_congr fun check _ => ?_
  rw [Bool.not_eq_true', Bool.not_eq_false]

theorem filterStep_snd_foldl (definition : DefinitionDict) (etcdCapacities : EtcdCapacities) :
    ∀ (workers : List WorkerDict) (acc : List WorkerDict × RejectionSummary),
      (workers.foldl (filterStep definition etcdCapacities) acc).2
        = (workers.filterMap (rejection definition etcdCapacities)).foldl Dict.countUp acc.2
  | [], _ => rfl
  | worker :: workers, acc => by
      rw [List.foldl_cons, filterStep_snd_foldl definition etcdCapacities workers,
        List.filterMap_cons, filterStep]
      cases rejection definition etcdCapacities worker with
      | none => rfl
      | some category => rfl

/-- **The rejections are the tally of the categories.** -/
theorem filterEligibleWorkers_snd (workers : List WorkerDict) (definition : DefinitionDict)
    (etcdCapacities : EtcdCapacities) :
    (filterEligibleWorkers workers definition etcdCapacities).2
      = Dict.tally (workers.filterMap (rejection definition etcdCapacities)) :=
  filterStep_snd_foldl definition etcdCapacities workers ([], Dict.empty)

/-- A count is the number of workers with that category. -/
theorem countOf_tally (workers : List WorkerDict) (category : RejectionCategory) :
    countOf (Dict.tally (workers.filterMap (rejection definition etcdCapacities))) category
      = workers.countP fun worker =>
          decide (firstFailed definition etcdCapacities worker = some category) := by
  rw [countOf, Dict.getD_tally]
  induction workers with
  | nil => rfl
  | cons worker workers ih =>
      rw [List.filterMap_cons, List.countP_cons, ← ih, ← rejection_eq_firstFailed]
      cases rejection definition etcdCapacities worker with
      | none => rfl
      | some found =>
          rw [List.count_cons]
          congr 1
          by_cases h : found = category
          · simp [h]
          · simp [h]

/-- When nobody passes, everybody is counted. -/
theorem sum_tally_of_none_passes {workers : List WorkerDict}
    (h : ∀ worker ∈ workers, ¬Passes definition etcdCapacities worker) :
    (Dict.tally (workers.filterMap (rejection definition etcdCapacities))).values.sum
      = workers.length := by
  rw [Dict.sum_values_tally]
  induction workers with
  | nil => rfl
  | cons worker workers ih =>
      have hworker := h worker List.mem_cons_self
      rw [← rejection_eq_none_iff] at hworker
      obtain ⟨category, hcategory⟩ := Option.ne_none_iff_exists'.mp hworker
      rw [List.filterMap_cons_some hcategory, List.length_cons, List.length_cons,
        ih fun w hw => h w (List.mem_cons_of_mem _ hw)]

end Filter

/-! ## §3. The choice. -/

/-- The choice among ordered scores is the first of the greatest. -/
theorem best_eq_firstMax {ρ : Type} [LinearOrder ρ] {ops : FloatOps ρ}
    (hlt : ∀ x y, ops.lt x y = true ↔ x < y) (first : WorkerDict × ρ)
    (rest : List (WorkerDict × ρ)) : best ops first rest = firstMax Prod.snd first rest := by
  unfold best firstMax
  simp only [hlt]

/-- The scored candidates hold each worker with its score, and the choice is the first of the
greatest. -/
theorem best_scored {ρ : Type} [LinearOrder ρ] {ops : FloatOps ρ}
    (hlt : ∀ x y, ops.lt x y = true ↔ x < y) {etcdCapacities : EtcdCapacities}
    {workers : List WorkerDict} {first : WorkerDict × ρ} {rest : List (WorkerDict × ρ)}
    (h : scoreCandidates ops workers etcdCapacities = first :: rest) :
    ∃ chosen, best ops first rest = (chosen, score ops etcdCapacities chosen)
      ∧ IsFirstMax (score ops etcdCapacities) workers chosen := by
  have hmax := isFirstMax_firstMax Prod.snd first rest
  rw [← best_eq_firstMax hlt, ← h, scoreCandidates] at hmax
  exact hmax.of_map

/-- **The worker of a decision** is the first of the greatest among those that are not
rejected. -/
theorem schedule_workerId_iff {ρ : Type} [LinearOrder ρ] (ops : FloatOps ρ)
    (hlt : ∀ x y, ops.lt x y = true ↔ x < y) (definition : DefinitionDict)
    (workers : List WorkerDict) (etcdCapacities : EtcdCapacities) (workerId : String) :
    (PlacementEngine.schedule ops definition workers etcdCapacities).workerId = some workerId
      ↔ ∃ chosen, IsFirstMax (score ops etcdCapacities)
            (workers.filter fun w => decide (rejection definition etcdCapacities w = none)) chosen
          ∧ chosen.id = workerId := by
  unfold PlacementEngine.schedule
  split
  next hempty =>
    rw [List.isEmpty_iff.mp hempty]
    refine iff_of_false ?_ ?_
    · intro h
      cases h
    · rintro ⟨chosen, hmax, -⟩
      exact absurd hmax.mem List.not_mem_nil
  next =>
    dsimp only
    rw [filterEligibleWorkers_fst]
    generalize workers.filter (fun w => decide (rejection definition etcdCapacities w = none))
      = eligible
    cases hscored : scoreCandidates ops eligible etcdCapacities with
    | nil =>
        rw [List.map_eq_nil_iff.mp hscored]
        refine iff_of_false ?_ ?_
        · intro h
          cases h
        · rintro ⟨chosen, hmax, -⟩
          exact absurd hmax.mem List.not_mem_nil
    | cons first rest =>
        obtain ⟨chosen, heq, hchosen⟩ := best_scored hlt hscored
        show some (best ops first rest).1.id = some workerId ↔ _
        rw [heq, Option.some.injEq]
        constructor
        · exact fun h => ⟨chosen, hchosen, h⟩
        · rintro ⟨other, hother, h⟩
          rw [hchosen.unique hother]
          exact h

/-- The used part of a resource is what is allocated of what is declared. -/
theorem utilization_exact {declared allocated : CapacityDict} {r : Resource} {d a : Int}
    (hdeclared : declared.get r = some d) (hd : 0 < d) (hallocated : allocated.get r = some a) :
    utilization exactFloats declared allocated r = (a : ℚ) / d := by
  have hdeclaredAmount : amountOr (declared.get r) 1 = d := by
    rw [hdeclared, amountOr]
    exact if_pos hd.ne'
  have hallocatedAmount : amountOr (allocated.get r) 0 = a := by
    rw [hallocated, amountOr]
    by_cases ha : a = 0
    · subst ha
      rfl
    · exact if_pos ha
  rw [utilization, hdeclaredAmount, hallocatedAmount]
  exact if_pos hd

/-- **The score**: the mean of the used parts of cores and memory, and a hundredth for each
session up to a twentieth. -/
theorem score_exact (etcdCapacities : EtcdCapacities) (worker : WorkerDict) :
    let entry := etcdCapacities.get? worker.id
    let declared :=
      (entry.bind fun e => CapacityDict.given e.declaredCapacity).getD
        (effectiveDeclaredCapacity worker)
    let allocated :=
      (entry.elim worker.allocatedCapacity CapacityEntry.allocatedCapacity).getD {}
    score exactFloats etcdCapacities worker
      = (utilization exactFloats declared allocated .cpuCores
            + utilization exactFloats declared allocated .memoryGb) / 2
          + min ((sessionCount worker entry : ℚ) / 100) (1 / 20) := by
  dsimp only
  have hbonus : ∀ bonus : ℚ,
      (if exactFloats.lt bonus exactFloats.maxBonus then bonus else exactFloats.maxBonus)
        = min bonus (1 / 20) := by
    intro bonus
    rw [min_def_lt]
    exact if_congr decide_eq_true_iff rfl rfl
  unfold score
  dsimp only
  rw [hbonus]
  cases etcdCapacities.get? worker.id with
  | none => rfl
  | some entry => rfl

/-- What may be said of the worker that is placed on. -/
def Chosen (definition : DefinitionDict) (etcdCapacities : EtcdCapacities)
    (workers : List WorkerDict) (chosen : WorkerDict) : Prop :=
  Passes definition etcdCapacities chosen
    ∧ ∃ before after, workers = before ++ chosen :: after
      ∧ (∀ worker ∈ workers, Passes definition etcdCapacities worker →
          score exactFloats etcdCapacities worker ≤ score exactFloats etcdCapacities chosen)
      ∧ ∀ worker ∈ before, Passes definition etcdCapacities worker →
          score exactFloats etcdCapacities worker < score exactFloats etcdCapacities chosen

section Choice

variable {definition : DefinitionDict} {etcdCapacities : EtcdCapacities}
  {workers : List WorkerDict}

/-- **The best of the scored workers.** -/
theorem chosen_of_best {first : WorkerDict × ℚ} {rest : List (WorkerDict × ℚ)}
    (h : scoreCandidates exactFloats (filterEligibleWorkers workers definition etcdCapacities).1
        etcdCapacities = first :: rest) :
    Chosen definition etcdCapacities workers (best exactFloats first rest).1 := by
  obtain ⟨chosen, heq, hmax⟩ := best_scored (fun _ _ => decide_eq_true_iff) h
  rw [filterEligibleWorkers_fst] at hmax
  obtain ⟨before, after, hsplit, hchosen, hbefore, hle⟩ := hmax.of_filter
  rw [heq]
  refine ⟨rejection_eq_none_iff.mp (of_decide_eq_true hchosen), before, after, hsplit, ?_, ?_⟩
  · intro worker hworker hpasses
    exact hle worker hworker (decide_eq_true (rejection_eq_none_iff.mpr hpasses))
  · intro worker hworker hpasses
    exact hbefore worker hworker (decide_eq_true (rejection_eq_none_iff.mpr hpasses))

/-- Nobody is scored when nobody passes. -/
theorem none_passes_of_scored_nil
    (h : scoreCandidates exactFloats (filterEligibleWorkers workers definition etcdCapacities).1
        etcdCapacities = []) :
    ∀ worker ∈ workers, ¬Passes definition etcdCapacities worker := by
  rw [filterEligibleWorkers_fst, scoreCandidates] at h
  intro worker hworker hpasses
  have hnil := List.map_eq_nil_iff.mp h
  exact List.filter_eq_nil_iff.mp hnil worker hworker
    (decide_eq_true (rejection_eq_none_iff.mpr hpasses))

/-- **The placement engine is correct.** -/
theorem schedule_correct (definition : DefinitionDict) (workers : List WorkerDict)
    (etcdCapacities : EtcdCapacities) (hworkers : workers ≠ []) :
    let decision := PlacementEngine.schedule exactFloats definition workers etcdCapacities
    (decision.action = .assign ↔ ∃ worker ∈ workers, Passes definition etcdCapacities worker)
      ∧ (decision.action = .assign →
          ∃ chosen, decision.workerId = some chosen.id
            ∧ Chosen definition etcdCapacities workers chosen)
      ∧ (decision.action ≠ .assign →
          decision.action = .scaleUp
            ∧ ∃ rejections, decision.rejectionSummary = some rejections
              ∧ rejections.values.sum = workers.length
              ∧ ∀ category, countOf rejections category
                  = workers.countP fun worker =>
                      decide (firstFailed definition etcdCapacities worker = some category)) := by
  unfold PlacementEngine.schedule
  rw [if_neg (by simpa using hworkers)]
  dsimp only
  cases hscored : scoreCandidates exactFloats
      (filterEligibleWorkers workers definition etcdCapacities).1 etcdCapacities with
  | nil =>
      have hnone := none_passes_of_scored_nil hscored
      refine ⟨iff_of_false ?_ ?_, ?_, fun _ => ⟨rfl, _, rfl, ?_, ?_⟩⟩
      · intro h
        cases h
      · rintro ⟨worker, hworker, hpasses⟩
        exact hnone worker hworker hpasses
      · intro h
        cases h
      · rw [filterEligibleWorkers_snd]
        exact sum_tally_of_none_passes hnone
      · intro category
        rw [filterEligibleWorkers_snd]
        exact countOf_tally workers category
  | cons first rest =>
      have hchosen := chosen_of_best hscored
      refine ⟨iff_of_true rfl ?_, fun _ => ⟨_, rfl, hchosen⟩, fun h => absurd rfl h⟩
      obtain ⟨hpasses, before, after, hsplit, -⟩ := hchosen
      exact ⟨_, hsplit ▸ List.mem_append_right _ List.mem_cons_self, hpasses⟩

end Choice

theorem placedOn_given : "worker-1" ≠ "" := by decide

/-- A worker that is running, with what is declared of it. -/
def runningWorker (declared : CapacityDict) : WorkerDict where
  id := "worker-1"
  id_given := placedOn_given
  status := "running"
  declaredCapacity := some declared

/-- A worker with nothing on it, and one with half of its cores in use. -/
def idleAndBusy : List WorkerDict :=
  [runningWorker { cpuCores := some 8, memoryGb := some 32, storageGb := some 100 },
    { runningWorker { cpuCores := some 8, memoryGb := some 32, storageGb := some 100 } with
      id := "busy"
      id_given := by decide
      allocatedCapacity := some { cpuCores := some 4, memoryGb := some 8 } }]

/-- The busy one is placed on, whose score is the greater one. -/
theorem schedule_correct_for_the_busier :
    idleAndBusy.map (score exactFloats Dict.empty) = [0, 3 / 8]
      ∧ ∃ chosen, chosen.id = "busy" ∧ Chosen {} Dict.empty idleAndBusy chosen := by
  have hassign : (PlacementEngine.schedule exactFloats {} idleAndBusy Dict.empty).action
      = .assign := by decide
  have hbusy : (PlacementEngine.schedule exactFloats {} idleAndBusy Dict.empty).workerId
      = some "busy" := by decide +kernel
  obtain ⟨chosen, hid, hchosen⟩ :=
    (schedule_correct {} idleAndBusy Dict.empty (by decide)).2.1 hassign
  refine ⟨by decide +kernel, chosen, ?_, hchosen⟩
  exact Option.some.inj (hid.symm.trans hbusy)

end CmlCloudManager.Scheduler
