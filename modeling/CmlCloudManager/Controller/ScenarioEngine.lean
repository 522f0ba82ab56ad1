/-
  CmlCloudManager.Controller.ScenarioEngine
  ─────────────────────────────────────────
  **CALLBACKS OF THE SCENARIO ENGINE.**

  A delegated step submits a job, suspends, and is resolved by a CloudEvent that
  echoes the metadata of the job.  The three terminal event handlers differ in
  the command they build; what they do with it is the same: call the control
  plane, take a 404 for a duplicate and drop it, otherwise signal the handler
  that is registered for the session.

  The job is submitted INSIDE the step handler, before the executor has written
  the `suspended` marker.  `resumed_iff` says when the callback still finds it.
-/
import CmlCloudManager.ControlPlane.Callbacks
import CmlCloudManager.Controller.StepDispatcher

namespace CmlCloudManager.Controller

open CmlCloudManager.Foundation
open CmlCloudManager.Pipeline
open CmlCloudManager.ControlPlane

/-! ## §1. Submitting a job. -/

/-- The metadata `submit_scenario_engine_job` sends with a job. -/
def jobMetadata (sessionId stepName stepCorrelationId : String) : Payload :=
  Dict.ofList
    [ ("lablet_session_id", .str sessionId),
      ("step_name", .str stepName),
      ("step_correlation_id", .str stepCorrelationId) ]

/-- The `StepResult` of a submitted job. -/
def submittedResult (jobId scenarioName scenarioVersion stepCorrelationId : String) : StepResult :=
  .suspended jobId stepCorrelationId
    (some ("awaiting SE job " ++ jobId ++ " (scenario=" ++ scenarioName ++ "@" ++ scenarioVersion
      ++ ")"))

/-! ## §2. From an event to a command. -/

/-- Library functions the event handlers use. -/
structure EventRuntime where
  /-- `str.lower`. -/
  lower : String → String
  /-- `_parse_event_time(raw).isoformat()`, if the text parses. -/
  parseEventTime : String → Option String
  /-- `settings.scenario_engine_allowed_sources`. -/
  allowedSources : List String := []

/-- What the terminal events have in common. -/
structure JobEvent where
  source : Option String := none
  jobId : String := ""
  metadata : Option Payload := none

/-- A terminal event of the Scenario Engine. -/
inductive ScenarioEngineEvent where
  | completed (event : JobEvent) (outputData : Payload) (completedAt : Option String)
  | failed (event : JobEvent) (error : String) (errorMessage : Option String)
      (errorDetails details : Option Payload) (failedAt : Option String)
  | cancelled (event : JobEvent) (reason : String) (cancelledAt : Option String)

/-- The common part of an event. -/
def ScenarioEngineEvent.event : ScenarioEngineEvent → JobEvent
  | .completed e _ _ => e
  | .failed e _ _ _ _ _ => e
  | .cancelled e _ _ => e

/-- `_source_allowed`: an empty allow-list disables the check. -/
def sourceAllowed (er : EventRuntime) (e : JobEvent) : Bool :=
  er.allowedSources.isEmpty || match e.source with
    | none => false
    | some s => decide (er.lower s ∈ er.allowedSources.map er.lower)

/-- `_get_metadata`. -/
def getMetadata (e : JobEvent) : Payload := e.metadata.getD Dict.empty

/-- A value that is a string. -/
def textOf : Value → Option String
  | .str s => some s
  | _ => none

/-- `_require_session_correlation`. -/
def requireSessionCorrelation (metadata : Payload) : Option (Value × Value) :=
  let sessionId := metadata.get "lablet_session_id"
  let correlationId := metadata.get "step_correlation_id"
  if !sessionId.truthy || !correlationId.truthy then none else some (sessionId, correlationId)

/-- `DEFAULT_PIPELINE_NAME`. -/
def defaultPipelineName : String := "instantiate"

/-- `metadata.get("pipeline_name", DEFAULT_PIPELINE_NAME)`. -/
def pipelineOf (metadata : Payload) : Value :=
  metadata.getD "pipeline_name" (.str defaultPipelineName)

/-- Where an event is routed: session, pipeline, correlation id.  Events of other
sources, without routing keys or with keys that are no strings go nowhere. -/
def route (er : EventRuntime) (e : JobEvent) : Option (String × String × String) :=
  if !sourceAllowed er e then none
  else do
    let (sessionId, correlationId) ← requireSessionCorrelation (getMetadata e)
    let sid ← textOf sessionId
    let pl ← textOf (pipelineOf (getMetadata e))
    let c ← textOf correlationId
    return (sid, pl, c)

/-- `x or y` for texts. -/
def textOr (x : Option String) (y : String) : String :=
  match x with
  | some t => if t = "" then y else t
  | none => y

/-- The command an event is turned into. -/
def callbackOf (er : EventRuntime) (ev : ScenarioEngineEvent) : Option CallbackCommand :=
  (route er ev.event).map fun (sid, pl, c) =>
    match ev with
    | .completed _ outputData completedAt =>
        .resume
          { sessionId := sid, pipelineName := pl, stepCorrelationId := c
            outputData := outputData
            completedAt := completedAt.bind er.parseEventTime }
    | .failed _ error errorMessage errorDetails details failedAt =>
        .fail
          { sessionId := sid, pipelineName := pl, stepCorrelationId := c
            error := textOr errorMessage (textOr (some error) "external job failed")
            details := errorDetails.or details
            failedAt := failedAt.bind er.parseEventTime }
    | .cancelled _ reason cancelledAt =>
        .fail
          { sessionId := sid, pipelineName := pl, stepCorrelationId := c
            error := "cancelled: " ++ textOr (some reason) "job cancelled"
            details := some (Dict.ofList
              [("cancelled", .bool true), ("reason", .str (textOr (some reason) "job cancelled"))])
            failedAt := cancelledAt.bind er.parseEventTime }

/-! ## §3. Delivering an event. -/

/-- A signal for the handler registered for a session. -/
structure ResumeSignal where
  sessionId : String
  progress : Progress

/-- The control plane after an event, and the signal for the in-process handler.
Errors of the control plane (a 404 counts as a duplicate) end the delivery. -/
def deliver (er : EventRuntime) (now : String) (repo : SessionRepository)
    (ev : ScenarioEngineEvent) : SessionRepository × Option ResumeSignal :=
  match callbackOf er ev with
  | none => (repo, none)
  | some (.resume request) =>
      match handleResume now repo request with
      | (.ok response, repo') =>
          (repo', some { sessionId := request.sessionId, progress := response.pipelineProgress })
      | (_, repo') => (repo', none)
  | some (.fail request) =>
      match handleFail now repo request with
      | (.ok response, repo') =>
          (repo', some { sessionId := request.sessionId, progress := response.pipelineProgress })
      | (_, repo') => (repo', none)

theorem deliver_repo {er : EventRuntime} {ev : ScenarioEngineEvent} {cmd : CallbackCommand}
    (h : callbackOf er ev = some cmd) (now : String) (repo : SessionRepository) :
    (deliver er now repo ev).1 = handleCallback now repo cmd := by
  unfold deliver
  rw [h]
  cases cmd with
  | resume request =>
      simp only [handleCallback]
      split <;> simp_all
  | fail request =>
      simp only [handleCallback]
      split <;> simp_all

/-- A completion event is routed to a resume of the step it names. -/
theorem callbackOf_completed {er : EventRuntime} {e : JobEvent} {sid pl c : String}
    (h : route er e = some (sid, pl, c)) (outputData : Payload) (completedAt : Option String) :
    ∃ request : ResumePipelineStepCommand,
      callbackOf er (.completed e outputData completedAt) = some (.resume request)
        ∧ request.sessionId = sid ∧ request.pipelineName = pl ∧ request.stepCorrelationId = c := by
  have hroute : route er (ScenarioEngineEvent.completed e outputData completedAt).event
      = some (sid, pl, c) := h
  rw [callbackOf, hroute]
  exact ⟨_, rfl, rfl, rfl, rfl⟩

/-! ## §4. The marker and the callback. -/

/-- The executor's `suspended` write for a step, as `suspendStep` sends it. -/
def suspensionWrite (rt : Runtime) (stepName : String) (result : Payload) : ProgressUpdate :=
  progressUpdate rt stepName .suspended (some (suspensionData rt result)) none

/-- The two messages in one of the two orders. -/
def settle (er : EventRuntime) (now : String) (writeFirst : Bool) (write : ProgressUpdate)
    (callback : ScenarioEngineEvent) (repo : SessionRepository) : SessionRepository :=
  if writeFirst then (deliver er now (handleUpdate repo write).2 callback).1
  else (handleUpdate (deliver er now repo callback).1 write).2

section Marker

variable {rt : Runtime} {repo : SessionRepository} {stepName c : String} {result : Payload}

theorem suspended_valid : StepStatus.suspended ∈ validStepStatuses := by decide

/-- The step after the `suspended` write. -/
theorem suspensionWrite_get? (repo : SessionRepository)
    (hname : (suspensionWrite rt stepName result).pipelineName ∈ validPipelineNames)
    (hsession : (repo.get? rt.context.sessionId).isSome)
    (hc : result.get "step_correlation_id" = .str c) :
    let write := suspensionWrite rt stepName result
    ∃ info, (progressOf (handleUpdate repo write).2 write.sessionId write.pipelineName).get?
        stepName = some info
      ∧ info.status = some .suspended ∧ info.stepCorrelationId = some (.str c) := by
  intro write
  rw [handleUpdate_progressOf repo write hname suspended_valid hsession, if_pos ⟨rfl, rfl⟩]
  obtain ⟨hst, -, hid⟩ := applyStepDelta_suspension rt stepName result
    (stepOrInit (progressOf repo write.sessionId write.pipelineName) stepName)
  exact ⟨_, applyUpdate_get?_self _ _, hst, by rw [← hc]; exact hid⟩

/-- After the write the marker is the only record with its id, if the id was fresh. -/
theorem suspensionWrite_find
    (hname : (suspensionWrite rt stepName result).pipelineName ∈ validPipelineNames)
    (hsession : (repo.get? rt.context.sessionId).isSome)
    (hc : result.get "step_correlation_id" = .str c)
    (hfresh : ∀ n info, (progressOf repo rt.context.sessionId
        (suspensionWrite rt stepName result).pipelineName).get? n = some info →
      info.stepCorrelationId ≠ some (.str c)) :
    let write := suspensionWrite rt stepName result
    ∃ info, findByCorrelation
        (progressOf (handleUpdate repo write).2 write.sessionId write.pipelineName) c
        = some (stepName, info) ∧ info.status = some .suspended := by
  intro write
  obtain ⟨info, hget, hst, hid⟩ := suspensionWrite_get? (c := c) repo hname hsession hc
  refine ⟨info, ?_, hst⟩
  cases hf : findByCorrelation
      (progressOf (handleUpdate repo write).2 write.sessionId write.pipelineName) c with
  | none =>
      have hnot := List.find?_eq_none.mp hf _ ((Dict.get?_eq_some_iff _ _ _).mp hget)
      simp [hid] at hnot
  | some e =>
      obtain ⟨n, info'⟩ := e
      obtain ⟨hget', hid'⟩ := findByCorrelation_some hf
      by_cases hn : n = stepName
      · subst hn
        rw [hget] at hget'
        rw [Option.some.inj hget']
      · rw [handleUpdate_progressOf repo write hname suspended_valid hsession, if_pos ⟨rfl, rfl⟩,
          applyUpdate_get?_ne _ _ hn] at hget'
        exact absurd hid' (hfresh n info' hget')

theorem deliver_get?_isSome {er : EventRuntime} {now : String} {ev : ScenarioEngineEvent}
    {cmd : CallbackCommand} (h : callbackOf er ev = some cmd) {sid : String}
    (hs : (repo.get? sid).isSome) : ((deliver er now repo ev).1.get? sid).isSome := by
  rw [deliver_repo h]
  exact handleCallback_get?_isSome now cmd hs

/-- The status of the step once both messages have been processed. -/
theorem settle_status (er : EventRuntime) (now : String) (writeFirst : Bool) {e : JobEvent}
    {pl : String} (outputData : Payload) (completedAt : Option String)
    (hname : (suspensionWrite rt stepName result).pipelineName ∈ validPipelineNames)
    (hsession : (repo.get? rt.context.sessionId).isSome)
    (hc : result.get "step_correlation_id" = .str c)
    (hroute : route er e = some (rt.context.sessionId, pl, c))
    (hfresh : ∀ n info, (progressOf repo rt.context.sessionId
        (suspensionWrite rt stepName result).pipelineName).get? n = some info →
      info.stepCorrelationId ≠ some (.str c)) :
    let write := suspensionWrite rt stepName result
    (progressOf (settle er now writeFirst write (.completed e outputData completedAt) repo)
        write.sessionId write.pipelineName).status? stepName
      = some (if writeFirst = true ∧ pl = write.pipelineName then .completed else .suspended) := by
  intro write
  obtain ⟨request, hcb, hsid, hrpl, hrc⟩ := callbackOf_completed hroute outputData completedAt
  cases writeFirst with
  | false =>
      -- the callback is dropped, then the marker is written
      obtain ⟨info, hget, hst, -⟩ := suspensionWrite_get? (c := c)
        (deliver er now repo (.completed e outputData completedAt)).1 hname
        (deliver_get?_isSome hcb hsession) hc
      simp only [settle, Bool.false_eq_true, if_false, false_and]
      rw [Progress.status?, hget]
      exact hst
  | true =>
      obtain ⟨info, hfind, hst⟩ := suspensionWrite_find (c := c) hname hsession hc hfresh
      obtain ⟨hget, -⟩ := findByCorrelation_some hfind
      simp only [settle, if_true, true_and]
      rw [deliver_repo hcb]
      by_cases hpl : pl = write.pipelineName
      · -- the callback finds the marker
        subst hrc
        have hfound := @handleCallback_get?_found now (handleUpdate repo write).2 (.resume request)
          write.sessionId write.pipelineName stepName info hsid (hrpl.trans hpl) hfind
        rw [if_pos hpl, Progress.status?, hfound, callbackInfo,
          if_pos (by simp [CallbackCommand.acts, hst])]
        rfl
      · -- it looks in another pipeline
        have hother := handleCallback_get?_other now (handleUpdate repo write).2 (.resume request)
          write.sessionId write.pipelineName stepName
          fun _ hpl' => absurd (hrpl.symm.trans hpl') hpl
        rw [if_neg hpl, Progress.status?, hother, hget]
        exact hst

end Marker

/-- **When a delegated step wakes up.**  Once the `suspended` write of a step and the
completion event with its session and correlation id have both been processed, the
step is completed IF AND ONLY IF the write came first and the event is routed to the
pipeline of the run. -/
theorem resumed_iff (er : EventRuntime) (now : String) (rt : Runtime) (repo : SessionRepository)
    (stepName c pl : String) (result : Payload) (e : JobEvent) (outputData : Payload)
    (completedAt : Option String) (writeFirst : Bool)
    (hname : (suspensionWrite rt stepName result).pipelineName ∈ validPipelineNames)
    (hsession : (repo.get? rt.context.sessionId).isSome)
    (hc : result.get "step_correlation_id" = .str c)
    (hroute : route er e = some (rt.context.sessionId, pl, c))
    (hfresh : ∀ n info, (progressOf repo rt.context.sessionId
        (suspensionWrite rt stepName result).pipelineName).get? n = some info →
      info.stepCorrelationId ≠ some (.str c)) :
    let write := suspensionWrite rt stepName result
    let settled := progressOf
      (settle er now writeFirst write (.completed e outputData completedAt) repo)
      write.sessionId write.pipelineName
    (settled.status? stepName = some .completed ∧ settled.status? stepName ≠ some .suspended)
      ↔ writeFirst = true ∧ pl = write.pipelineName := by
  intro write settled
  have hstatus : settled.status? stepName
      = some (if writeFirst = true ∧ pl = write.pipelineName then .completed else .suspended) :=
    settle_status er now writeFirst outputData completedAt hname hsession hc hroute hfresh
  rw [hstatus]
  by_cases hcond : writeFirst = true ∧ pl = write.pipelineName
  · simp [hcond]
  · simp [hcond]

/-- The run of a session that delegates `lab_start`. -/
def instantiateRuntime : Runtime :=
  { context := { sessionId := "s1" }
    simpleEval := fun _ _ => .caught "SyntaxError"
    now := "t0"
    pipelineName := some "instantiate" }

/-- The result dict of the delegated step. -/
def delegatedResult : Payload :=
  (submittedResult "job-1" "lab_start" "1.0.0" "s1:lab_start:0a1b2c3d").toDict

/-- Its completion event. -/
def completionEvent : JobEvent :=
  { jobId := "job-1", metadata := some (jobMetadata "s1" "lab_start" "s1:lab_start:0a1b2c3d") }

/-- Sources are compared as they are, timestamps taken as they are. -/
def plainEvents : EventRuntime := { lower := id, parseEventTime := some }

/-- The final status of the delegated step. -/
def settledStatus (rt : Runtime) (writeFirst : Bool) : Option StepStatus :=
  (progressOf (settle plainEvents "t1" writeFirst (suspensionWrite rt "lab_start" delegatedResult)
    (.completed completionEvent Dict.empty none) newSession) "s1"
    (suspensionWrite rt "lab_start" delegatedResult).pipelineName).status? "lab_start"

/-- **A callback that overtakes the marker is lost**: the step stays suspended.  So it
does, in either order, when the step is delegated by another pipeline. -/
theorem overtaking_callback_lost :
    settledStatus instantiateRuntime false = some .suspended
      ∧ settledStatus { instantiateRuntime with pipelineName := some "teardown" } true
        = some .suspended := by
  decide

theorem resumed_iff_instantiate :
    settledStatus instantiateRuntime true = some .completed :=
  ((resumed_iff plainEvents "t1" instantiateRuntime newSession "lab_start"
    "s1:lab_start:0a1b2c3d" "instantiate" delegatedResult completionEvent Dict.empty none true
    (by decide) (by decide) rfl rfl (by intro n info h; cases h)).mpr ⟨rfl, rfl⟩).1

end CmlCloudManager.Controller
