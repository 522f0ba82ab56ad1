/-
  CmlCloudManager.Scheduler.PlacementPreview
  ──────────────────────────────────────────
  **THE DRY RUN OF THE PLACEMENT ENGINE.**

  `schedule_preview` runs the algorithm without carrying out its decision and says
  more about it:

    • the filter is a loop of its own that keeps, beside the counts, a rejection with
      its reason for every worker that is left out,
    • the candidates are shown with their rounded scores, best first,
    • of the worker that is chosen the utilization after the placement is estimated.

  The loops of the preview and of the real run do the same
  (`filterEligibleWorkersDetailed_eq`), so that they come to the same decision; the
  candidates are sorted by rounded scores, which may put another candidate with the
  same rounded score before the chosen one (`preview_agrees`).

  Neither function uses the instance for more than its log lines, and the templates are
  handed on to `_select_template`, which does not use them.
-/
import CmlCloudManager.Scheduler.PlacementCorrectness
import Mathlib.Data.Rat.Floor
import Mathlib.Tactic.Linarith

namespace CmlCloudManager.Scheduler

open CmlCloudManager.Foundation
open CmlCloudManager.ControlPlane

/-! ## §1. Numbers that are shown. -/

/-- The operations of the score on ordered numbers, and those on what is shown: floating
point numbers without the values that are not numbers. -/
structure PreviewOps (ρ : Type) [LinearOrder ρ] extends FloatOps ρ where
  lt_iff : ∀ x y, lt x y = true ↔ x < y
  /-- `x * 100`. -/
  percent : ρ → ρ
  /-- `round(x, digits)`. -/
  roundTo : Nat → ρ → ρ
  roundTo_mono : ∀ digits x y, x ≤ y → roundTo digits x ≤ roundTo digits y
  /-- A list of texts in an f-string. -/
  listText : List String → String

/-- The nearest integer, of two the even one. -/
def roundHalfEven (x : ℚ) : ℤ :=
  if x - ⌊x⌋ < 1 / 2 ∨ (x - ⌊x⌋ = 1 / 2 ∧ ⌊x⌋ % 2 = 0) then ⌊x⌋ else ⌊x⌋ + 1

theorem roundHalfEven_bounds (x : ℚ) : ⌊x⌋ ≤ roundHalfEven x ∧ roundHalfEven x ≤ ⌊x⌋ + 1 := by
  unfold roundHalfEven
  split
  next => exact ⟨le_refl _, by omega⟩
  next => exact ⟨by omega, le_refl _⟩

theorem roundHalfEven_mono {x y : ℚ} (h : x ≤ y) : roundHalfEven x ≤ roundHalfEven y := by
  rcases lt_or_eq_of_le (Int.floor_le_floor h) with hlt | heq
  · have hx := (roundHalfEven_bounds x).2
    have hy := (roundHalfEven_bounds y).1
    omega
  · -- between the same integers
    unfold roundHalfEven
    rw [heq]
    by_cases hdown : y - ⌊y⌋ < 1 / 2 ∨ (y - ⌊y⌋ = 1 / 2 ∧ ⌊y⌋ % 2 = 0)
    · have hdown' : x - ⌊y⌋ < 1 / 2 ∨ (x - ⌊y⌋ = 1 / 2 ∧ ⌊y⌋ % 2 = 0) := by
        rcases hdown with hbelow | ⟨hhalf, heven⟩
        · exact .inl (by linarith)
        · rcases lt_or_eq_of_le h with hlt | rfl
          · exact .inl (by linarith)
          · exact .inr ⟨hhalf, heven⟩
      rw [if_pos hdown, if_pos hdown']
    · rw [if_neg hdown]
      split
      next => omega
      next => exact le_refl _

/-- The operations with exact numbers. -/
def exactPreview (listText : List String → String) : PreviewOps ℚ where
  toFloatOps := exactFloats
  lt_iff _ _ := decide_eq_true_iff
  percent x := x * 100
  roundTo digits x := roundHalfEven (x * 10 ^ digits) / 10 ^ digits
  roundTo_mono digits x y h := by
    have hscale : (0 : ℚ) < 10 ^ digits := by positivity
    have hround := roundHalfEven_mono (mul_le_mul_of_nonneg_right h hscale.le)
    exact div_le_div_of_nonneg_right (Int.cast_le.mpr hround) hscale.le
  listText := listText

/-! ## §2. What the preview returns. -/

/-- `CandidateScore`. -/
structure CandidateScore (ρ : Type) where
  workerId : String
  workerName : String
  score : ρ
  cpuUtilization : ρ
  memoryUtilization : ρ
  sessionCount : Int
  localityBonus : ρ

/-- `WorkerRejection`. -/
structure WorkerRejection where
  workerId : String
  workerName : String
  reasonCategory : RejectionCategory
  reasonDetail : String

/-- `UtilizationForecast`. -/
structure UtilizationForecast (ρ : Type) where
  workerId : String
  workerName : String
  cpuPercentBefore : ρ
  cpuPercentAfter : ρ
  memoryPercentBefore : ρ
  memoryPercentAfter : ρ
  storagePercentBefore : ρ
  storagePercentAfter : ρ
  sessionCountBefore : Int
  sessionCountAfter : Int

/-- `PlacementPreviewResult`. -/
structure PlacementPreviewResult (ρ : Type) where
  decision : SchedulingDecision
  candidates : List (CandidateScore ρ) := []
  rejections : List WorkerRejection := []
  utilizationForecast : Option (UtilizationForecast ρ) := none
  totalWorkersEvaluated : Nat := 0
  definitionName : String := ""

/-- `worker.get("name", worker_id)`. -/
def workerName (worker : WorkerDict) : String := worker.name.getD worker.id

/-! ## §3. The detailed filter. -/

/-- `_describe_capacity_rejection`. -/
def describeCapacityRejection (worker : WorkerDict) (definition : DefinitionDict)
    (etcdCapacities : EtcdCapacities) : String :=
  let required := definition.resourceRequirements.required
  let etcdData := etcdCapacities.get? worker.id
  let count := sessionCount worker etcdData
  if workerLicenseType worker = "personal" ∧ count ≥ 1 then
    "Personal license limited to 1 session (current: " ++ toString count ++ ")"
  else
    let shortfall (label unit : String) (r : Resource) : List String :=
      if required r > available worker etcdData r then
        [label ++ ": need " ++ toString (required r) ++ unit ++ ", have "
          ++ toString (available worker etcdData r) ++ unit]
      else []
    let shortfalls := shortfall "CPU" "" .cpuCores ++ shortfall "Memory" "GB" .memoryGb
      ++ shortfall "Storage" "GB" .storageGb
    if shortfalls.isEmpty then "Insufficient capacity"
    else "Insufficient resources — " ++ "; ".intercalate shortfalls

section Preview

variable {ρ : Type} [LinearOrder ρ] (ops : PreviewOps ρ)

/-- The checks of the detailed loop for one worker: the category and the reason of the first
that fails. -/
def detailedRejection (definition : DefinitionDict) (etcdCapacities : EtcdCapacities)
    (worker : WorkerDict) : Option (RejectionCategory × String) :=
  let rawStatus := strip worker.status
  match parseWorkerStatus rawStatus with
  | none => some (.status, "Unknown status: " ++ rawStatus)
  | some workerStatus =>
      if workerStatus ∈ excludedStatuses then
        some (.status, "Excluded status: " ++ workerStatus.value)
      else if workerStatus ≠ .running then
        some (.status, "Not running (current: " ++ workerStatus.value ++ ")")
      else if !checkLicenseAffinity worker definition then
        some (.license, "License mismatch: worker has '" ++ workerLicenseType worker
          ++ "', definition requires " ++ ops.listText definition.licenseAffinity)
      else if !checkResourceCapacity worker definition etcdCapacities then
        some (.capacity, describeCapacityRejection worker definition etcdCapacities)
      else if !checkAmiRequirements worker definition then
        some (.ami, "AMI/CML version or node definitions not met")
      else if !checkPortAvailability worker definition then
        some (.ports, "Insufficient available ports")
      else none

/-- What the detailed loop collects. -/
structure DetailedFilter where
  eligible : List WorkerDict := []
  rejections : RejectionSummary := Dict.empty
  workerRejections : List WorkerRejection := []

/-- One turn of the loop of `_filter_eligible_workers_detailed`. -/
def detailedStep (definition : DefinitionDict) (etcdCapacities : EtcdCapacities)
    (acc : DetailedFilter) (worker : WorkerDict) : DetailedFilter :=
  match detailedRejection ops definition etcdCapacities worker with
  | some (category, detail) =>
      { acc with
        rejections := acc.rejections.set category (countOf acc.rejections category + 1)
        workerRejections := acc.workerRejections
          ++ [⟨worker.id, workerName worker, category, detail⟩] }
  | none => { acc with eligible := acc.eligible ++ [worker] }

/-- `_filter_eligible_workers_detailed`. -/
def filterEligibleWorkersDetailed (workers : List WorkerDict) (definition : DefinitionDict)
    (etcdCapacities : EtcdCapacities) : DetailedFilter :=
  workers.foldl (detailedStep ops definition etcdCapacities) {}

/-! ## §4. Candidates and forecast. -/

/-- The capacities that the score and the forecast look at: declared and allocated. -/
def effectiveCapacities (etcdCapacities : EtcdCapacities) (worker : WorkerDict) :
    CapacityDict × CapacityDict :=
  match etcdCapacities.get? worker.id with
  | some entry =>
      ((CapacityDict.given entry.declaredCapacity).getD (effectiveDeclaredCapacity worker),
        entry.allocatedCapacity.getD {})
  | none => (effectiveDeclaredCapacity worker, worker.allocatedCapacity.getD {})

/-- The bonus for sessions that are there already. -/
def localityBonus (count : Int) : ρ :=
  let bonus := ops.hundredths count
  if ops.lt bonus ops.maxBonus then bonus else ops.maxBonus

/-- An entry of `_build_candidate_scores`. -/
def candidateScore (etcdCapacities : EtcdCapacities) (scored : WorkerDict × ρ) :
    CandidateScore ρ :=
  let capacities := effectiveCapacities etcdCapacities scored.1
  let count := sessionCount scored.1 (etcdCapacities.get? scored.1.id)
  { workerId := scored.1.id
    workerName := workerName scored.1
    score := ops.roundTo 4 scored.2
    cpuUtilization := ops.roundTo 4
      (utilization ops.toFloatOps capacities.1 capacities.2 .cpuCores)
    memoryUtilization := ops.roundTo 4
      (utilization ops.toFloatOps capacities.1 capacities.2 .memoryGb)
    sessionCount := count
    localityBonus := ops.roundTo 4 (localityBonus ops count) }

/-- `_build_candidate_scores`. -/
def buildCandidateScores (scored : List (WorkerDict × ρ)) (etcdCapacities : EtcdCapacities) :
    List (CandidateScore ρ) :=
  scored.map (candidateScore ops etcdCapacities)

/-- The percentage of a resource that is used when `more` of it is. -/
def usedPercent (capacities : CapacityDict × CapacityDict) (r : Resource) (more : Int) : ρ :=
  let declared := amountOr (capacities.1.get r) 1
  let allocated := amountOr (capacities.2.get r) 0
  if declared > 0 then ops.percent (ops.ratio (allocated + more) declared) else ops.zero

/-- `_build_utilization_forecast`. -/
def buildUtilizationForecast (worker : WorkerDict) (definition : DefinitionDict)
    (etcdCapacities : EtcdCapacities) : UtilizationForecast ρ :=
  let capacities := effectiveCapacities etcdCapacities worker
  let required := definition.resourceRequirements.required
  let count := sessionCount worker (etcdCapacities.get? worker.id)
  let before r := ops.roundTo 1 (usedPercent ops capacities r 0)
  let after r := ops.roundTo 1 (usedPercent ops capacities r (required r))
  { workerId := worker.id
    workerName := workerName worker
    cpuPercentBefore := before .cpuCores
    cpuPercentAfter := after .cpuCores
    memoryPercentBefore := before .memoryGb
    memoryPercentAfter := after .memoryGb
    storagePercentBefore := before .storageGb
    storagePercentAfter := after .storageGb
    sessionCountBefore := count
    sessionCountAfter := count + 1 }

/-- `PlacementEngine.schedule_preview`. -/
def PlacementEngine.schedulePreview (definition : DefinitionDict) (workers : List WorkerDict)
    (etcdCapacities : EtcdCapacities) : PlacementPreviewResult ρ :=
  if workers.isEmpty then
    { decision := scaleUpDecision definition "No active workers available" none
      definitionName := definition.name }
  else
    let filtered := filterEligibleWorkersDetailed ops workers definition etcdCapacities
    match scoreCandidates ops.toFloatOps filtered.eligible etcdCapacities with
    | [] =>
        { decision := scaleUpDecision definition (rejectionReason filtered.rejections)
            (some filtered.rejections)
          rejections := filtered.workerRejections
          totalWorkersEvaluated := workers.length
          definitionName := definition.name }
    | first :: rest =>
        let chosen := best ops.toFloatOps first rest
        { decision := assignDecision ops.toFloatOps chosen
          candidates := rankDescending CandidateScore.score
            (buildCandidateScores ops (first :: rest) etcdCapacities)
          rejections := filtered.workerRejections
          utilizationForecast :=
            some (buildUtilizationForecast ops chosen.1 definition etcdCapacities)
          totalWorkersEvaluated := workers.length
          definitionName := definition.name }

end Preview

/-! ## §5. The two filters. -/

section Agreement

variable {ρ : Type} [LinearOrder ρ] (ops : PreviewOps ρ) (definition : DefinitionDict)
  (etcdCapacities : EtcdCapacities)

/-- The checks of the two loops are the same. -/
theorem detailedRejection_map_fst (worker : WorkerDict) :
    (detailedRejection ops definition etcdCapacities worker).map Prod.fst
      = rejection definition etcdCapacities worker := by
  unfold detailedRejection rejection checkStatus
  dsimp only
  generalize strip worker.status = rawStatus
  cases parseWorkerStatus rawStatus with
  | none => simp only [Option.map_some, Bool.not_false, if_true]
  | some workerStatus =>
      dsimp only
      by_cases hexcluded : workerStatus ∈ excludedStatuses
      · simp only [if_pos hexcluded, Option.map_some, Bool.not_false, if_true]
      · simp only [if_neg hexcluded]
        by_cases hrunning : workerStatus = .running
        · -- the other checks are the same expressions
          simp only [hrunning, ne_eq, not_true_eq_false, if_false, beq_self_eq_true,
            Bool.not_true, Bool.false_eq_true, apply_ite (Option.map Prod.fst), Option.map_some,
            Option.map_none]
        · simp only [ne_eq, hrunning, not_false_eq_true, if_true, Option.map_some,
            beq_eq_false_iff_ne.mpr hrunning, Bool.not_false]

/-- One turn of the two loops. -/
theorem detailedStep_agrees {acc : DetailedFilter} {plain : List WorkerDict × RejectionSummary}
    (h : (acc.eligible, acc.rejections) = plain) (worker : WorkerDict) :
    ((detailedStep ops definition etcdCapacities acc worker).eligible,
        (detailedStep ops definition etcdCapacities acc worker).rejections)
      = filterStep definition etcdCapacities plain worker := by
  subst h
  unfold detailedStep filterStep
  rw [← detailedRejection_map_fst ops]
  cases detailedRejection ops definition etcdCapacities worker with
  | none => rfl
  | some found => rfl

theorem detailedStep_foldl_agrees (workers : List WorkerDict) {acc : DetailedFilter}
    {plain : List WorkerDict × RejectionSummary} (h : (acc.eligible, acc.rejections) = plain) :
    ((workers.foldl (detailedStep ops definition etcdCapacities) acc).eligible,
        (workers.foldl (detailedStep ops definition etcdCapacities) acc).rejections)
      = workers.foldl (filterStep definition etcdCapacities) plain := by
  induction workers generalizing acc plain with
  | nil => exact h
  | cons worker workers ih =>
      rw [List.foldl_cons, List.foldl_cons]
      exact ih (detailedStep_agrees ops definition etcdCapacities h worker)

/-- **The detailed filter leaves the same workers and counts the same.** -/
theorem filterEligibleWorkersDetailed_eq (workers : List WorkerDict) :
    ((filterEligibleWorkersDetailed ops workers definition etcdCapacities).eligible,
        (filterEligibleWorkersDetailed ops workers definition etcdCapacities).rejections)
      = filterEligibleWorkers workers definition etcdCapacities :=
  detailedStep_foldl_agrees ops definition etcdCapacities workers rfl

/-- Who is left out, and under which category. -/
def WorkerRejection.under (r : WorkerRejection) : String × RejectionCategory :=
  (r.workerId, r.reasonCategory)

theorem workerRejections_foldl :
    ∀ (workers : List WorkerDict) (acc : DetailedFilter),
      (workers.foldl (detailedStep ops definition etcdCapacities) acc).workerRejections.map
          WorkerRejection.under
        = acc.workerRejections.map WorkerRejection.under
          ++ workers.filterMap fun worker =>
              (rejection definition etcdCapacities worker).map fun category =>
                (worker.id, category)
  | [], acc => by simp
  | worker :: workers, acc => by
      rw [List.foldl_cons, workerRejections_foldl workers, List.filterMap_cons, detailedStep,
        ← detailedRejection_map_fst ops]
      cases detailedRejection ops definition etcdCapacities worker with
      | none => rfl
      | some found =>
          simp only [List.map_append, List.map_cons, List.map_nil, Option.map_some,
            List.append_assoc, List.singleton_append]
          rfl

/-- **Every worker that is left out is listed, in order, under its category.** -/
theorem workerRejections_eq (workers : List WorkerDict) :
    (filterEligibleWorkersDetailed ops workers definition etcdCapacities).workerRejections.map
        WorkerRejection.under
      = workers.filterMap fun worker =>
          (rejection definition etcdCapacities worker).map fun category =>
            (worker.id, category) :=
  workerRejections_foldl ops definition etcdCapacities workers {}

/-! ## §6. Preview and decision. -/

/-- The scores of the eligible workers, as the preview shows them. -/
def shownCandidates (workers : List WorkerDict) : List (CandidateScore ρ) :=
  (filterEligibleWorkers workers definition etcdCapacities).1.map fun worker =>
    candidateScore ops etcdCapacities
      (worker, score ops.toFloatOps etcdCapacities worker)

theorem buildCandidateScores_scored (workers : List WorkerDict) :
    buildCandidateScores ops (scoreCandidates ops.toFloatOps
        (filterEligibleWorkers workers definition etcdCapacities).1 etcdCapacities) etcdCapacities
      = shownCandidates ops definition etcdCapacities workers := by
  unfold buildCandidateScores scoreCandidates shownCandidates
  rw [List.map_map]
  rfl

/-- The preview of a nonempty list of workers, in terms of the filter of the real run. -/
theorem schedulePreview_cases (workers : List WorkerDict) :
    let preview := PlacementEngine.schedulePreview ops definition workers etcdCapacities
    let filtered := filterEligibleWorkers workers definition etcdCapacities
    preview.decision = PlacementEngine.schedule ops.toFloatOps definition workers etcdCapacities
      ∧ preview.rejections.map WorkerRejection.under
        = (workers.filterMap fun worker =>
            (rejection definition etcdCapacities worker).map fun category =>
              (worker.id, category))
      ∧ ((filtered.1 = [] ∧ preview.candidates = [] ∧ preview.decision.workerId = none)
        ∨ ∃ first rest,
          scoreCandidates ops.toFloatOps filtered.1 etcdCapacities = first :: rest
            ∧ preview.decision = assignDecision ops.toFloatOps (best ops.toFloatOps first rest)
            ∧ preview.candidates = rankDescending CandidateScore.score
                (shownCandidates ops definition etcdCapacities workers)) := by
  have hfilter := filterEligibleWorkersDetailed_eq ops definition etcdCapacities workers
  have hlisted := workerRejections_eq ops definition etcdCapacities workers
  unfold PlacementEngine.schedulePreview PlacementEngine.schedule
  cases workers with
  | nil => exact ⟨rfl, rfl, .inl ⟨rfl, rfl, rfl⟩⟩
  | cons worker workers =>
      rw [if_neg (by simp), if_neg (by simp)]
      rw [← buildCandidateScores_scored, ← hfilter]
      dsimp only
      cases hscored : scoreCandidates ops.toFloatOps
          (filterEligibleWorkersDetailed ops (worker :: workers) definition
            etcdCapacities).eligible etcdCapacities with
      | nil => exact ⟨rfl, hlisted, .inl ⟨List.map_eq_nil_iff.mp hscored, rfl, rfl⟩⟩
      | cons first rest => exact ⟨rfl, hlisted, .inr ⟨first, rest, rfl, rfl, rfl⟩⟩

/-- Of the ranked candidates the first has the rounded score of the greatest. -/
theorem ranked_first {workers : List WorkerDict} {chosen : WorkerDict}
    (hmax : IsFirstMax (score ops.toFloatOps etcdCapacities)
      (filterEligibleWorkers workers definition etcdCapacities).1 chosen) :
    ∃ first rest, rankDescending CandidateScore.score
          (shownCandidates ops definition etcdCapacities workers) = first :: rest
      ∧ (∀ c ∈ shownCandidates ops definition etcdCapacities workers, c.score ≤ first.score)
      ∧ (candidateScore ops etcdCapacities
          (chosen, score ops.toFloatOps etcdCapacities chosen)).score = first.score := by
  have hshown : candidateScore ops etcdCapacities
      (chosen, score ops.toFloatOps etcdCapacities chosen)
        ∈ shownCandidates ops definition etcdCapacities workers :=
    List.mem_map_of_mem (f := fun worker => candidateScore ops etcdCapacities
      (worker, score ops.toFloatOps etcdCapacities worker)) hmax.mem
  cases hranked : rankDescending CandidateScore.score
      (shownCandidates ops definition etcdCapacities workers) with
  | nil =>
      rw [← mem_rankDescending CandidateScore.score, hranked] at hshown
      exact absurd hshown List.not_mem_nil
  | cons first rest =>
      have hle := le_of_rankDescending_head hranked
      refine ⟨first, rest, rfl, hle, le_antisymm (hle _ hshown) ?_⟩
      -- the first is a candidate as well, and its score was not greater before rounding
      have hfirst : first ∈ shownCandidates ops definition etcdCapacities workers := by
        rw [← mem_rankDescending CandidateScore.score, hranked]
        exact List.mem_cons_self
      obtain ⟨worker, hworker, rfl⟩ := List.mem_map.mp hfirst
      exact ops.roundTo_mono 4 _ _ (hmax.le worker hworker)

/-- **The preview agrees with the real run.** -/
theorem preview_agrees (workers : List WorkerDict) :
    let preview := PlacementEngine.schedulePreview ops definition workers etcdCapacities
    let filtered := filterEligibleWorkers workers definition etcdCapacities
    preview.decision = PlacementEngine.schedule ops.toFloatOps definition workers etcdCapacities
      ∧ Dict.tally (preview.rejections.map WorkerRejection.reasonCategory) = filtered.2
      ∧ preview.rejections.map WorkerRejection.under
        = (workers.filterMap fun worker =>
            (rejection definition etcdCapacities worker).map fun category =>
              (worker.id, category))
      ∧ preview.candidates.Perm (shownCandidates ops definition etcdCapacities workers)
      ∧ ∀ workerId, preview.decision.workerId = some workerId →
          ∃ chosen ∈ filtered.1, chosen.id = workerId
            ∧ ∃ first rest, preview.candidates = first :: rest
              ∧ (∀ c ∈ preview.candidates, c.score ≤ first.score)
              ∧ (candidateScore ops etcdCapacities
                  (chosen, score ops.toFloatOps etcdCapacities chosen)).score = first.score := by
  obtain ⟨hdecision, hlisted, hcandidates⟩ :=
    schedulePreview_cases ops definition etcdCapacities workers
  refine ⟨hdecision, ?_, hlisted, ?_⟩
  · -- the categories are the second components of the list
    have hcategories := congrArg (List.map Prod.snd) hlisted
    rw [List.map_map, List.map_filterMap] at hcategories
    rw [filterEligibleWorkers_snd]
    refine congrArg Dict.tally (hcategories.trans ?_)
    refine congrFun (congrArg List.filterMap (funext fun worker => ?_)) workers
    rw [Option.map_map]
    exact Option.map_id' ..
  · rcases hcandidates with ⟨hnone, hempty, hworker⟩ | ⟨first, rest, hscored, hchosen, hranked⟩
    · refine ⟨?_, fun workerId h => ?_⟩
      · rw [hempty, shownCandidates, hnone]
        exact List.Perm.nil
      · rw [hworker] at h
        cases h
    · obtain ⟨chosen, hbest, hmax⟩ := best_scored ops.lt_iff hscored
      obtain ⟨top, others, htop, hle, hscore⟩ :=
        ranked_first ops definition etcdCapacities hmax
      rw [hranked, hchosen, hbest]
      refine ⟨rankDescending_perm _ _, fun workerId h => ?_⟩
      refine ⟨chosen, hmax.mem, Option.some.inj h, top, others, htop, fun c hc => ?_, hscore⟩
      exact hle c ((mem_rankDescending _).mp hc)

end Agreement

end CmlCloudManager.Scheduler
