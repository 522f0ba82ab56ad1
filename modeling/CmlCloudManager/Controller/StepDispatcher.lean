/-
  CmlCloudManager.Controller.StepDispatcher
  ─────────────────────────────────────────
  **FROM A HANDLER'S `StepResult` TO THE EXECUTOR'S DICT.**

  Three layers encode the outcome of a step: `StepResult.to_dict`, the adapter
  `LabletReconciler._build_step_dispatcher` puts around every handler, and the
  executor, which reads `status` from the dict it gets.  The adapter hands on
  `result_data` ALONE, so the executor sees the status of a failed result (it
  is raised) and otherwise whatever stands under `status` in `result_data`.

    • `stepDispatcher_registered` — what the adapter does to a `StepResult`,
    • `dispatchedStatus`          — the status the executor then records,
    • `CarriesStatus`             — the results for which this is the right one.
-/
import CmlCloudManager.ControlPlane.PipelineProgress
import CmlCloudManager.Pipeline.Visits

namespace CmlCloudManager.Controller

open CmlCloudManager.Foundation
open CmlCloudManager.Pipeline
open CmlCloudManager.ControlPlane

/-! ## §1. `StepResult`. -/

/-- `StepResult.status`. -/
inductive ResultStatus where
  | completed
  | skipped
  | failed
  | suspended
  deriving DecidableEq, Repr

/-- The status as a string. -/
def ResultStatus.text : ResultStatus → String
  | .completed => "completed"
  | .skipped => "skipped"
  | .failed => "failed"
  | .suspended => "suspended"

/-- The step status of the same name. -/
def ResultStatus.stepStatus : ResultStatus → StepStatus
  | .completed => .completed
  | .skipped => .skipped
  | .failed => .failed
  | .suspended => .suspended

/-- `StepResult`: the standardized return value of a registered step handler. -/
structure StepResult where
  status : ResultStatus
  resultData : Payload := Dict.empty
  error : Option String := none
  reason : Option String := none
  externalJobId : Option String := none
  stepCorrelationId : Option String := none

namespace StepResult

/-- `StepResult.completed(result_data)`. -/
def completed (resultData : Option Payload) : StepResult :=
  { status := .completed, resultData := resultData.getD Dict.empty }

/-- `StepResult.skipped(reason)`. -/
def skipped (reason : String) : StepResult :=
  { status := .skipped, reason := some reason }

/-- `StepResult.failed(error)`. -/
def failed (error : String) : StepResult :=
  { status := .failed, error := some error }

/-- `StepResult.suspended(external_job_id=..., step_correlation_id=..., reason=...)`. -/
def suspended (externalJobId stepCorrelationId : String) (reason : Option String) : StepResult :=
  { status := .suspended
    externalJobId := some externalJobId
    stepCorrelationId := some stepCorrelationId
    reason := some (match reason with
      | some t => if t = "" then "awaiting external job " ++ externalJobId else t
      | none => "awaiting external job " ++ externalJobId) }

/-- `if self.x: result[key] = self.x`. -/
def textEntry (key : String) : Option String → List (String × Value)
  | some t => if t = "" then [] else [(key, .str t)]
  | none => []

/-- `StepResult.to_dict`. -/
def toDict (r : StepResult) : Payload :=
  Dict.ofList
    ([("status", .str r.status.text)]
      ++ (if r.resultData.isEmpty then [] else [("result_data", .dict r.resultData.entries)])
      ++ textEntry "error" r.error ++ textEntry "reason" r.reason
      ++ textEntry "external_job_id" r.externalJobId
      ++ textEntry "step_correlation_id" r.stepCorrelationId)

end StepResult

/-! ## §2. `_build_step_dispatcher`. -/

/-- What looking a handler up and awaiting it gave. -/
inductive HandlerAnswer where
  /-- A handler of the registry returned. -/
  | registered (result : StepResult)
  /-- A `_step_<name>` method of the reconciler returned its dict. -/
  | legacy (result : Payload)
  | raised (message : String)
  /-- Neither is there. -/
  | unknown

/-- The conversion both paths share: a failed result is raised, of any other the
`result_data` is returned. -/
def adaptResult (handlerName : String) (result : Payload) : DispatchOutcome :=
  if (result.getD "status" (.str "completed")).isStr "failed" then
    .raised (result.getD "error" (.str ("Step " ++ handlerName ++ " failed"))).pyStr
  else
    match result.get? "result_data" with
    | none => .returned Dict.empty
    | some (.dict kvs) => .returned (Dict.ofList kvs)
    | some v => .returnedOther v

/-- `_dispatch`. -/
def stepDispatcher (handlerName : String) : HandlerAnswer → DispatchOutcome
  | .registered result => adaptResult handlerName result.toDict
  | .legacy result => adaptResult handlerName result
  | .raised message => .raised message
  | .unknown =>
      .raised ("Unknown pipeline step handler: " ++ handlerName
        ++ " (not in registry or reconciler)")

/-! ## §3. What arrives at the executor. -/

theorem get?_ofList_textEntry (l : List (String × Value)) (key k : String) (t : Option String)
    (hne : k ≠ key) :
    (Dict.ofList (l ++ StepResult.textEntry key t)).get? k = (Dict.ofList l).get? k := by
  unfold StepResult.textEntry
  split
  next s =>
    split
    next => rw [List.append_nil]
    next =>
      rw [Dict.ofList, List.foldl_append]
      exact Dict.get?_set_ne _ _ _ hne
  next => rw [List.append_nil]

theorem toDict_status (r : StepResult) : r.toDict.get? "status" = some (.str r.status.text) := by
  unfold StepResult.toDict
  rw [get?_ofList_textEntry _ _ _ _ (by decide), get?_ofList_textEntry _ _ _ _ (by decide),
    get?_ofList_textEntry _ _ _ _ (by decide), get?_ofList_textEntry _ _ _ _ (by decide)]
  split <;> rfl

theorem toDict_resultData (r : StepResult) :
    r.toDict.get? "result_data"
      = if r.resultData.isEmpty then none else some (.dict r.resultData.entries) := by
  unfold StepResult.toDict
  rw [get?_ofList_textEntry _ _ _ _ (by decide), get?_ofList_textEntry _ _ _ _ (by decide),
    get?_ofList_textEntry _ _ _ _ (by decide), get?_ofList_textEntry _ _ _ _ (by decide)]
  split <;> rfl

/-- **The adapter keeps only `result_data`** of a result that did not fail. -/
theorem stepDispatcher_registered (handlerName : String) (r : StepResult)
    (h : r.status ≠ .failed) :
    stepDispatcher handlerName (.registered r) = .returned r.resultData := by
  have hstatus : (r.toDict.getD "status" (.str "completed")).isStr "failed" = false := by
    rw [Payload.getD, toDict_status]
    cases hr : r.status with
    | completed => rfl
    | skipped => rfl
    | failed => exact absurd hr h
    | suspended => rfl
  simp only [stepDispatcher, adaptResult, hstatus, Bool.false_eq_true, if_false,
    toDict_resultData]
  by_cases hempty : r.resultData.isEmpty = true
  · rw [if_pos hempty, Dict.eq_empty_of_isEmpty hempty]
  · rw [if_neg hempty]
    show DispatchOutcome.returned (Dict.ofList r.resultData.entries) = _
    rw [Dict.ofList_entries]

/-- A failed result is raised. -/
theorem stepDispatcher_failed (handlerName : String) (r : StepResult) (h : r.status = .failed) :
    ∃ message, stepDispatcher handlerName (.registered r) = .raised message := by
  have hstatus : (r.toDict.getD "status" (.str "completed")).isStr "failed" = true := by
    rw [Payload.getD, toDict_status, h]
    rfl
  simp only [stepDispatcher, adaptResult, hstatus, if_true]
  exact ⟨_, rfl⟩

/-! ## §4. What the executor records. -/

/-- A text field as it stands in a dict; `None` when it is not given. -/
def textValue : Option String → Value
  | none => .none
  | some t => .str t

/-- The status a handler's dict stands for. -/
def statusOf : HandlerStatus → StepStatus
  | .skipped => .skipped
  | .suspended => .suspended
  | .failed => .failed
  | .completed => .completed

/-- The status the executor arrives at for a `StepResult`. -/
def dispatchedStatus (r : StepResult) : StepStatus :=
  if r.status = .failed then .failed else statusOf (handlerStatus r.resultData)

/-- **`result_data` says what `status` says**: the results that survive the adapter. -/
def CarriesStatus (r : StepResult) : Prop :=
  match r.status with
  | .failed => True
  | .completed => ∀ t ∈ ["skipped", "suspended", "failed"], r.resultData.get "status" ≠ .str t
  | .skipped => r.resultData.get "status" = .str "skipped"
  | .suspended => r.resultData.get "status" = .str "suspended"
      ∧ r.resultData.get "external_job_id" = textValue r.externalJobId
      ∧ r.resultData.get "step_correlation_id" = textValue r.stepCorrelationId

/-- The run ends at the suspension of the step, which the control plane stores
with the identifiers of the external job. -/
def StopsSuspended (name : String) (jobId correlationId : Value) (tr : Trace)
    (out : Except ExecuteError ExecState) : Prop :=
  ∃ final past site update, out = .ok final ∧ terminalStatus final = .suspended
    ∧ tr = past ++ [⟨.persist site update, ()⟩] ∧ update.stepName = name
    ∧ ∀ info : StepInfo, (applyStepDelta info update).status = some .suspended
      ∧ (applyStepDelta info update).externalJobId = some jobId
      ∧ (applyStepDelta info update).stepCorrelationId = some correlationId

/-- **The run is faithful to the `StepResult`**: its status is sent to the control
plane, and nothing else is; it is the status the run ends with; a suspension ends
the run with its identifiers stored. -/
structure RecordsResult (name : String) (r : StepResult) (tr : Trace)
    (out : Except ExecuteError ExecState) : Prop where
  persisted : (updatesOf name tr).map (fun u => u.2.stepStatus) = [r.status.stepStatus]
  recorded : ∀ final, out = .ok final →
    final.stepStatuses.get? name = some r.status.stepStatus
  suspended : r.status = .suspended →
    StopsSuspended name (textValue r.externalJobId) (textValue r.stepCorrelationId) tr out

/-- What the run says of a step whose last dispatch was answered by the adapter. -/
structure Arrives (name : String) (r : StepResult) (tr : Trace)
    (out : Except ExecuteError ExecState) : Prop where
  persisted : (updatesOf name tr).map (fun u => u.2.stepStatus) = [dispatchedStatus r]
  recorded : ∀ final, out = .ok final → final.stepStatuses.get? name = some (dispatchedStatus r)
  suspended : dispatchedStatus r = .suspended →
    StopsSuspended name (r.resultData.get "external_job_id")
      (r.resultData.get "step_correlation_id") tr out

theorem StopsSuspended.unique {name : String} {j j' c c' : Value} {tr : Trace}
    {out : Except ExecuteError ExecState} (h : StopsSuspended name j c tr out)
    (h' : StopsSuspended name j' c' tr out) : j = j' ∧ c = c' := by
  obtain ⟨final, past, site, update, -, -, htr, -, hstored⟩ := h
  obtain ⟨final', past', site', update', -, -, htr', -, hstored'⟩ := h'
  rw [htr] at htr'
  have hev := (List.append_inj' htr' rfl).2
  injection hev with hev
  injection hev with hev
  injection hev with _ hupd
  subst hupd
  obtain ⟨-, hj, hc⟩ := hstored {}
  obtain ⟨-, hj', hc'⟩ := hstored' {}
  rw [hj] at hj'
  rw [hc] at hc'
  exact ⟨Option.some.inj hj', Option.some.inj hc'⟩

/-- The result dict the executor gets for a registered handler's result. -/
theorem dispatchResult_registered (request : DispatchRequest) (r : StepResult) :
    dispatchResult ⟨.dispatch request, stepDispatcher request.handlerName (.registered r)⟩
      = if r.status = .failed then none else some r.resultData := by
  show (stepDispatcher request.handlerName (.registered r)).result? = _
  split_ifs with h
  · obtain ⟨message, hm⟩ := stepDispatcher_failed request.handlerName r h
    rw [hm]
    rfl
  · rw [stepDispatcher_registered _ _ h]
    rfl

/-- The suspension of a step as the control plane stores it. -/
theorem applyStepDelta_suspension (rt : Runtime) (name : String) (result : Payload)
    (info : StepInfo) :
    let stored := applyStepDelta info
      (progressUpdate rt name .suspended (some (suspensionData rt result)) none)
    stored.status = some .suspended
      ∧ stored.externalJobId = some (result.get "external_job_id")
      ∧ stored.stepCorrelationId = some (result.get "step_correlation_id") :=
  ⟨rfl, rfl, rfl⟩

section Arrival

variable {rt : Runtime} {steps ordered : List StepDef} {resume : Dict String StepInfo}
  {step : StepDef} {r : StepResult} {request : DispatchRequest}

/-- The result of a step that returned is the handler's `result_data`. -/
theorem result_of_last {st st' : ExecState} {attempts : Trace} {result : Payload}
    (run : AttemptRun step st attempts (.ok result) st')
    (hlast : attempts.getLast? = some
      ⟨.dispatch request, stepDispatcher request.handlerName (.registered r)⟩) :
    dispatchedStatus r = statusOf (handlerStatus result) ∧ result = r.resultData := by
  have hres := AttemptOutcome.last run.outcome hlast
  rw [dispatchResult_registered] at hres
  split_ifs at hres with hfailed
  · cases hres
  · injection hres with hres
    subst hres
    rw [dispatchedStatus, if_neg hfailed]
    exact ⟨rfl, rfl⟩

/-- A step whose attempts all raised had a failed result last. -/
theorem failed_of_last {st st' : ExecState} {attempts : Trace} {site : PersistSite}
    {cause : Value} {info : StepInfo} (fail : Failure step st attempts site cause info st')
    (hlast : attempts.getLast? = some
      ⟨.dispatch request, stepDispatcher request.handlerName (.registered r)⟩) :
    dispatchedStatus r = .failed := by
  cases fail with
  | handler run hstatus =>
      rw [(result_of_last run hlast).1, hstatus]
      rfl
  | exception run =>
      have hres := AttemptOutcome.last run.outcome hlast
      rw [dispatchResult_registered] at hres
      split_ifs at hres with hfailed
      · rw [dispatchedStatus, if_pos hfailed]
      · cases hres

/-- **A visited step is recorded with the status that arrived.** -/
theorem arrives_of_visit (hv : ValidOrder steps ordered) {tr : Trace}
    {out : Except ExecuteError ExecState} (hvisit : Visit rt steps ordered resume step tr out)
    (hlast : (dispatchesOf step.name tr).getLast? = some
      ⟨.dispatch request, stepDispatcher request.handlerName (.registered r)⟩) :
    Arrives step.name r tr out := by
  obtain ⟨done, rest, st, before, own, after, exit, hsplit, hh, rfl, run, tail, hbefore, hafter⟩
    := hvisit
  have hev := @eventsOf_visited step done before own after (hv.fresh hsplit) hbefore hafter
  have hdis : dispatchesOf step.name (before ++ own ++ after) = dispatchesOf step.name own := by
    rw [dispatchesOf, hev, dispatchesOf]
  have hupd : updatesOf step.name (before ++ own ++ after) = updatesOf step.name own := by
    rw [updatesOf, hev, updatesOf]
  have hfinal : ∀ {st' : ExecState} {status : StepStatus}, (exit = .next st' ∨ exit = .stop st') →
      st'.stepStatuses.get? step.name = some status → ∀ final, out = .ok final →
      final.stepStatuses.get? step.name = some status := by
    intro st' status hexit hget final hout
    rw [tail.get?_final hv hsplit hh run hexit hout, hget]
  rw [hdis] at hlast
  -- a step that is not dispatched has no last dispatch
  have hnone : ∀ {name : String} {l : Trace}, dispatchesOf name l = [] →
      (dispatchesOf name l).getLast? ≠ some
        ⟨.dispatch request, stepDispatcher request.handlerName (.registered r)⟩ := by
    intro name l hl
    rw [hl]
    simp
  -- every exit but the suspension: one update, and the run ends with its status
  have plain : ∀ {st' : ExecState} {status : StepStatus} {u : PersistSite × ProgressUpdate},
      dispatchedStatus r = status → status ≠ .suspended → updatesOf step.name own = [u] →
      u.2.stepStatus = status → (exit = .next st' ∨ exit = .stop st') →
      st'.stepStatuses.get? step.name = some status →
      Arrives step.name r (before ++ own ++ after) out := by
    intro st' status u hrec hne hu hstatus hexit hget
    refine ⟨?_, ?_, ?_⟩
    · rw [hupd, hu, hrec, ← hstatus]
      rfl
    · rw [hrec]
      exact hfinal hexit hget
    · intro hsus
      exact absurd (hrec.symm.trans hsus) hne
  cases run with
  | resumed h => exact absurd hlast (hnone rfl)
  | blocked hnew h => exact absurd hlast (hnone (dispatchesOf_persistEvent rt _ _ _ _ _).1)
  | crashed hnew h => exact absurd hlast (hnone rfl)
  | skipWhen hnew h => exact absurd hlast (hnone (dispatchesOf_persistEvent rt _ _ _ _ _).1)
  | handlerSkipped hnew hup hskip run hstatus =>
      obtain ⟨hd, hu⟩ := @calls_of_step rt step st _ run.attempts .handlerSkipped .skipped none none
      rw [hd] at hlast
      obtain ⟨hrec, -⟩ := result_of_last run hlast
      rw [hstatus] at hrec
      exact plain hrec (by decide) hu rfl (.inl rfl) (Dict.get?_set_self _ _ _)
  | @suspended attempts result st' hnew hup hskip run hstatus =>
      obtain ⟨hd, hu⟩ := @calls_of_step rt step st _ run.attempts .suspension .suspended _ none
      rw [hd] at hlast
      obtain ⟨hrec, rfl⟩ := result_of_last run hlast
      rw [hstatus] at hrec
      refine ⟨?_, ?_, ?_⟩
      · rw [hupd, hu, hrec]
        rfl
      · rw [hrec]
        exact hfinal (.inr rfl) (Dict.get?_set_self _ _ _)
      · -- the suspension ends the run, so its update is the last event
        intro _
        obtain ⟨rfl, rfl⟩ := tail
        refine ⟨_, before ++ attempts, .suspension, _, rfl, rfl, ?_, rfl,
          applyStepDelta_suspension rt step.name r.resultData⟩
        rw [List.append_nil, ← List.append_assoc]
        rfl
  | completed hnew hup hskip run hstatus =>
      obtain ⟨hd, hu⟩ := @calls_of_step rt step st _ run.attempts .completed .completed _ none
      rw [hd] at hlast
      obtain ⟨hrec, -⟩ := result_of_last run hlast
      rw [hstatus] at hrec
      exact plain hrec (by decide) hu rfl (.inl rfl) (Dict.get?_set_self _ _ _)
  | failedOptional hnew hup hskip fail hopt =>
      obtain ⟨⟨out', run⟩, -⟩ := fail.attemptRun
      obtain ⟨hd, hu⟩ := @calls_of_step rt step st _ run.attempts _ .failed none _
      rw [hd] at hlast
      have hrec := failed_of_last fail hlast
      exact plain hrec (by decide) hu rfl (.inl rfl) (Dict.get?_set_self _ _ _)
  | failedRequired hnew hup hskip fail hopt =>
      obtain ⟨⟨out', run⟩, -⟩ := fail.attemptRun
      obtain ⟨hd, hu⟩ := @calls_of_failed_step rt ordered step st _ run.attempts _ _ _ _
      rw [hd] at hlast
      have hrec := failed_of_last fail hlast
      -- the abort that follows keeps the status
      exact plain hrec (by decide) hu rfl (.inr rfl)
        (abortState_get? _ _ (Dict.get?_set_self _ _ _))

end Arrival

/-! ## §5. When the status survives. -/

/-- The status that arrives is the one the result has, identifiers included,
exactly when `result_data` carries it. -/
theorem carriesStatus_iff (r : StepResult) :
    CarriesStatus r ↔ dispatchedStatus r = r.status.stepStatus
      ∧ (r.status = .suspended → r.resultData.get "external_job_id" = textValue r.externalJobId
        ∧ r.resultData.get "step_correlation_id" = textValue r.stepCorrelationId) := by
  have hsays : ∀ t, (r.resultData.get "status").isStr t = true
      ↔ r.resultData.get "status" = .str t := fun t => Value.isStr_iff _ t
  cases hr : r.status with
  | failed => simp [CarriesStatus, dispatchedStatus, ResultStatus.stepStatus, hr]
  | completed =>
      simp only [CarriesStatus, dispatchedStatus, ResultStatus.stepStatus, hr, handlerStatus,
        List.forall_mem_cons, reduceCtorEq, false_implies, and_true, if_false]
      split_ifs <;> simp_all [statusOf]
  | skipped =>
      simp only [CarriesStatus, dispatchedStatus, ResultStatus.stepStatus, hr, handlerStatus,
        ← hsays, reduceCtorEq, false_implies, and_true, if_false]
      split_ifs <;> simp_all [statusOf]
  | suspended =>
      simp only [CarriesStatus, dispatchedStatus, ResultStatus.stepStatus, hr, handlerStatus,
        ← hsays, reduceCtorEq, true_implies, if_false]
      refine and_congr_left fun _ => ?_
      by_cases hskip : r.resultData.get "status" = .str "skipped"
      · simp [hskip, statusOf]
      · rw [← hsays, Bool.not_eq_true] at hskip
        simp only [hskip, Bool.false_eq_true, if_false]
        split_ifs <;> simp_all [statusOf]

/-- **Status fidelity across the dispatcher.**  In every run of the executor, the
step whose last dispatch the reconciler's dispatcher answered with `r` is recorded
and persisted with the status of `r` IF AND ONLY IF `result_data` carries it. -/
theorem dispatcher_status_fidelity (rt : Runtime) (sorter : Sorter) (hsound : sorter.Sound)
    (steps : List StepDef) (existing : Option ExistingProgress) (tr : Trace)
    (out : Except ExecuteError ExecState)
    (h : (runPipeline rt sorter steps existing).Runs tr out) (step : StepDef)
    (hstep : step ∈ steps) (request : DispatchRequest) (r : StepResult)
    (hlast : (dispatchesOf step.name tr).getLast? = some
      ⟨.dispatch request, stepDispatcher request.handlerName (.registered r)⟩) :
    RecordsResult step.name r tr out ↔ CarriesStatus r := by
  -- the step was visited: a step the loop passed over has no dispatch
  have harr : Arrives step.name r tr out := by
    rcases runPipeline_visit_or_passed hsound h with ⟨e, -, rfl, -⟩ | ⟨ordered, -, hv, -, hall⟩
    · cases hlast
    · rcases hall step hstep with hvisit | hpassed
      · exact arrives_of_visit hv hvisit hlast
      · exfalso
        cases hpassed with
        | aborted events herr =>
            rw [dispatchesOf, events] at hlast
            cases hlast
        | halted events hsus =>
            rw [dispatchesOf, events] at hlast
            cases hlast
        | raised events =>
            rw [dispatchesOf, events] at hlast
            cases hlast
  rw [carriesStatus_iff]
  constructor
  · intro hrec
    have hstatus : dispatchedStatus r = r.status.stepStatus := by
      have hsame := harr.persisted.symm.trans hrec.persisted
      injection hsame
    refine ⟨hstatus, fun hsus => ?_⟩
    refine (harr.suspended ?_).unique (hrec.suspended hsus)
    rw [hstatus, hsus]
    rfl
  · rintro ⟨hstatus, hids⟩
    refine ⟨?_, ?_, ?_⟩
    · rw [harr.persisted, hstatus]
    · intro final hout
      rw [harr.recorded final hout, hstatus]
    · intro hsus
      obtain ⟨hj, hc⟩ := hids hsus
      rw [← hj, ← hc]
      refine harr.suspended ?_
      rw [hstatus, hsus]
      rfl

/-- A step that is delegated to an external job, and one that follows it. -/
def delegatingSteps : List StepDef :=
  [{ name := "collect", handler := some "se_collect" }, { name := "grade", needs := ["collect"] }]

/-- The registered handlers of both steps. -/
def delegatingHandlers (request : DispatchRequest) : StepResult :=
  if request.handlerName = "se_collect" then .suspended "job-1" "corr-1" none
  else .completed none

/-- The run of both steps. -/
def delegatingRun (handlers : DispatchRequest → StepResult) :
    Trace × Except ExecuteError ExecState :=
  (runPipeline { context := { sessionId := "s1" }, simpleEval := fun _ _ => .caught "SyntaxError" }
    staticOrder delegatingSteps none).runWith (answering fun request =>
      stepDispatcher request.handlerName (.registered (handlers request)))

/-- The statuses sent for a step. -/
def sentStatuses (name : String) (tr : Trace) : List StepStatus :=
  (updatesOf name tr).map fun u => u.2.stepStatus

/-- **A suspended result is recorded as completed**, its identifiers are lost and
the next step is dispatched. -/
theorem suspended_result_recorded_completed :
    sentStatuses "collect" (delegatingRun delegatingHandlers).1 = [.completed]
      ∧ (delegatingRun delegatingHandlers).1.filterMap dispatchedStep = ["collect", "grade"]
      ∧ (∃ request, (dispatchesOf "collect" (delegatingRun delegatingHandlers).1).getLast? = some
          ⟨.dispatch request, stepDispatcher request.handlerName
            (.registered (.suspended "job-1" "corr-1" none))⟩)
      ∧ ¬ RecordsResult "collect" (.suspended "job-1" "corr-1" none)
          (delegatingRun delegatingHandlers).1 (delegatingRun delegatingHandlers).2 := by
  refine ⟨by decide, by decide, ⟨_, rfl⟩, fun h => ?_⟩
  have hsent : sentStatuses "collect" (delegatingRun delegatingHandlers).1 = [.suspended] :=
    h.persisted
  revert hsent
  decide

/-- A suspension that repeats its status and identifiers in `result_data`. -/
def repeatedSuspension : StepResult :=
  { status := .suspended
    externalJobId := some "job-1"
    stepCorrelationId := some "corr-1"
    resultData := Dict.ofList
      [("status", .str "suspended"), ("external_job_id", .str "job-1"),
        ("step_correlation_id", .str "corr-1")] }

theorem dispatcher_status_fidelity_repeated :
    RecordsResult "collect" repeatedSuspension (delegatingRun fun _ => repeatedSuspension).1
      (delegatingRun fun _ => repeatedSuspension).2 :=
  (dispatcher_status_fidelity _ staticOrder staticOrder_sound delegatingSteps none _ _
    (Resumption.runWith_runs _ _) { name := "collect", handler := some "se_collect" }
    List.mem_cons_self _ _ rfl).mpr ⟨rfl, rfl, rfl⟩

end CmlCloudManager.Controller
