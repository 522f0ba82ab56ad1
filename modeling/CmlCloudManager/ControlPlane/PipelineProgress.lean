/-
  CmlCloudManager.ControlPlane.PipelineProgress
  ─────────────────────────────────────────────
  **PIPELINE PROGRESS ON THE CONTROL PLANE.**

  The control plane owns the progress of every pipeline of every session.  Three
  commands write it, each a load, a change and a save of one session:

    • `UpdatePipelineProgress` — the executor's per-step deltas,
    • `ResumePipelineStep`     — an external job completed a suspended step,
    • `FailPipelineStep`       — an external job failed or was cancelled.

  The first addresses a step by name, the other two by the correlation id that
  was stored when the step was suspended.  Clock readings are arguments.
-/
import CmlCloudManager.Pipeline.Executor

namespace CmlCloudManager.ControlPlane

open CmlCloudManager.Foundation
open CmlCloudManager.Pipeline

/-! ## §1. Sessions and their progress. -/

/-- The part of `LabletSessionState` the progress commands touch. -/
structure LabletSession where
  pipelineProgress : Option (Dict String Progress) := none

/-- The session repository. -/
abbrev SessionRepository : Type := Dict String LabletSession

/-- A repository with one session that has no progress yet. -/
def newSession : SessionRepository := Dict.ofList [("s1", {})]

/-- The result of a command handler. -/
inductive OperationResult (α : Type) where
  | ok (data : α)
  | badRequest (message : String)
  | notFound (key : String)
  | conflict (message : String)

/-- `session.state.pipeline_progress or {}`. -/
def LabletSession.progressMap (s : LabletSession) : Dict String Progress :=
  s.pipelineProgress.getD Dict.empty

/-- `LabletSession.update_pipeline_progress` with its domain event applied. -/
def LabletSession.updatePipelineProgress (s : LabletSession) (pipelineName : String)
    (progressData : Progress) : LabletSession :=
  { s with pipelineProgress := some (s.progressMap.set pipelineName progressData) }

/-- The progress stored for a pipeline of a session (empty when there is none). -/
def progressOf (repo : SessionRepository) (sessionId pipelineName : String) : Progress :=
  ((repo.get? sessionId).bind (fun s => s.progressMap.get? pipelineName)).getD Dict.empty

/-- Save a pipeline's progress on the session. -/
def saveProgress (repo : SessionRepository) (sessionId : String) (session : LabletSession)
    (pipelineName : String) (progress : Progress) : SessionRepository :=
  repo.set sessionId (session.updatePipelineProgress pipelineName progress)

/-! ## §2. `UpdatePipelineProgressCommandHandler`. -/

/-- `VALID_PIPELINE_NAMES`. -/
def validPipelineNames : List String :=
  ["instantiate", "teardown", "collect_evidence", "compute_grading"]

/-- `VALID_STEP_STATUSES`. -/
def validStepStatuses : List StepStatus :=
  [.pending, .completed, .failed, .skipped, .suspended]

/-- A payload given and not empty (`if request.result_data:`). -/
def givenPayload : Option Payload → Option Payload
  | some d => if d.isEmpty then none else some d
  | none => none

/-- Apply a step-level delta to the step's dict. -/
def applyStepDelta (step : StepInfo) (request : ProgressUpdate) : StepInfo :=
  match request.stepStatus with
  | .pending => { step with status := some .inProgress }
  | .inProgress => step
  | .completed =>
      { step with
        status := some .completed
        resultData := (givenPayload request.resultData).or step.resultData }
  | .failed =>
      { step with
        status := some .failed
        error := some ((request.error.getD .none).orElse (.str "Unknown error")) }
  | .skipped =>
      { step with
        status := some .skipped
        skipReason :=
          if (request.error.getD .none).truthy then request.error else step.skipReason }
  | .suspended =>
      match givenPayload request.resultData with
      | none => { step with status := some .suspended }
      | some data =>
          { step with
            status := some .suspended
            resultData := some data
            externalJobId := (data.get? "external_job_id").or step.externalJobId
            stepCorrelationId := (data.get? "step_correlation_id").or step.stepCorrelationId
            suspendedAt := (data.get? "suspended_at").or step.suspendedAt }

/-- The step's dict, auto-initialized when the step is not there yet. -/
def stepOrInit (progress : Progress) (stepName : String) : StepInfo :=
  (progress.get? stepName).getD { status := some .pending, order := some progress.size }

/-- The pipeline's progress after one update. -/
def applyUpdate (progress : Progress) (request : ProgressUpdate) : Progress :=
  progress.set request.stepName
    (applyStepDelta (stepOrInit progress request.stepName) request)

/-- All steps completed or skipped. -/
def allDone (progress : Progress) : Bool :=
  progress.values.all fun s => s.status == some .completed || s.status == some .skipped

/-- The data of a successful update. -/
structure UpdateResponse where
  sessionId : String
  pipelineName : String
  stepName : String
  stepStatus : StepStatus
  pipelineComplete : Bool

/-- `UpdatePipelineProgressCommandHandler.handle_async`. -/
def handleUpdate (repo : SessionRepository) (request : ProgressUpdate) :
    OperationResult UpdateResponse × SessionRepository :=
  if request.pipelineName ∉ validPipelineNames then
    (.badRequest ("Invalid pipeline_name '" ++ request.pipelineName ++ "'. Must be one of ("
      ++ ", ".intercalate (validPipelineNames.map fun n => "'" ++ n ++ "'") ++ ")"), repo)
  else if request.stepStatus ∉ validStepStatuses then
    (.badRequest ("Invalid step_status '" ++ request.stepStatus.text ++ "'. Must be one of ("
      ++ ", ".intercalate (validStepStatuses.map fun s => "'" ++ s.text ++ "'") ++ ")"), repo)
  else
    match repo.get? request.sessionId with
    | none => (.notFound request.sessionId, repo)
    | some session =>
        let current := (session.progressMap.get? request.pipelineName).getD Dict.empty
        let progress := applyUpdate current request
        (.ok
          { sessionId := request.sessionId
            pipelineName := request.pipelineName
            stepName := request.stepName
            stepStatus := request.stepStatus
            pipelineComplete := allDone progress },
          saveProgress repo request.sessionId session request.pipelineName progress)

/-! ## §3. `ResumePipelineStepCommandHandler` and `FailPipelineStepCommandHandler`. -/

/-- `ResumePipelineStepCommand`. -/
structure ResumePipelineStepCommand where
  sessionId : String
  pipelineName : String
  stepCorrelationId : String
  outputData : Payload := Dict.empty
  completedAt : Option String := none

/-- `FailPipelineStepCommand`. -/
structure FailPipelineStepCommand where
  sessionId : String
  pipelineName : String
  stepCorrelationId : String
  error : String
  details : Option Payload := none
  failedAt : Option String := none

/-- The first step whose stored correlation id is the given one. -/
def findByCorrelation (progress : Progress) (correlationId : String) : Option (String × StepInfo) :=
  progress.entries.find? fun e => (e.2.stepCorrelationId.getD .none).isStr correlationId

/-- `given or datetime.now(timezone.utc).isoformat()`. -/
def timestampOr (given : Option String) (now : String) : String :=
  match given with
  | some t => if t = "" then now else t
  | none => now

/-- Flip suspended to completed and merge the external output into `result_data`. -/
def completeStep (step : StepInfo) (outputData : Payload) (completedAt : String) : StepInfo :=
  { step with
    status := some .completed
    resultData := some ((step.resultData.getD Dict.empty).update outputData)
    completedAt := some completedAt }

/-- Flip a step to failed and record the error. -/
def failStepInfo (step : StepInfo) (error : String) (details : Option Payload)
    (failedAt : String) : StepInfo :=
  { step with
    status := some .failed
    error := some (.str error)
    errorDetails := details.or step.errorDetails
    failedAt := some failedAt }

/-- The data of a successful resume. -/
structure ResumeResponse where
  sessionId : String
  pipelineName : String
  stepName : String
  pipelineProgress : Progress
  idempotent : Bool

/-- The data of a successful fail. -/
structure FailResponse where
  sessionId : String
  pipelineName : String
  stepName : String
  pipelineProgress : Progress

/-- `pipeline_progress.get(pipeline_name)`, an empty dict counting as absent. -/
def loadProgress (session : LabletSession) (pipelineName : String) : Option Progress :=
  (session.progressMap.get? pipelineName).filter fun p => !p.isEmpty

/-- `ResumePipelineStepCommandHandler.handle_async`. -/
def handleResume (now : String) (repo : SessionRepository) (request : ResumePipelineStepCommand) :
    OperationResult ResumeResponse × SessionRepository :=
  match repo.get? request.sessionId with
  | none => (.notFound request.sessionId, repo)
  | some session =>
      match loadProgress session request.pipelineName with
      | none => (.notFound (request.sessionId ++ "/" ++ request.pipelineName), repo)
      | some current =>
          match findByCorrelation current request.stepCorrelationId with
          | none =>
              (.notFound (request.sessionId ++ "/" ++ request.pipelineName ++ "/correlation/"
                ++ request.stepCorrelationId), repo)
          | some (stepName, target) =>
              if target.status ≠ some .suspended then
                -- already resumed, or in another terminal state
                (.ok
                  { sessionId := request.sessionId
                    pipelineName := request.pipelineName
                    stepName := stepName
                    pipelineProgress := current
                    idempotent := true }, repo)
              else
                let progress := current.set stepName
                  (completeStep target request.outputData (timestampOr request.completedAt now))
                (.ok
                  { sessionId := request.sessionId
                    pipelineName := request.pipelineName
                    stepName := stepName
                    pipelineProgress := progress
                    idempotent := false },
                  saveProgress repo request.sessionId session request.pipelineName progress)

/-- `FailPipelineStepCommandHandler.handle_async`. -/
def handleFail (now : String) (repo : SessionRepository) (request : FailPipelineStepCommand) :
    OperationResult FailResponse × SessionRepository :=
  match repo.get? request.sessionId with
  | none => (.notFound request.sessionId, repo)
  | some session =>
      match loadProgress session request.pipelineName with
      | none => (.notFound (request.sessionId ++ "/" ++ request.pipelineName), repo)
      | some current =>
          match findByCorrelation current request.stepCorrelationId with
          | none =>
              (.notFound (request.sessionId ++ "/" ++ request.pipelineName ++ "/correlation/"
                ++ request.stepCorrelationId), repo)
          | some (stepName, target) =>
              if target.status ≠ some .suspended ∧ target.status ≠ some .failed then
                (.conflict ("Cannot fail step " ++ stepName ++ " in status '"
                  ++ (target.status.map StepStatus.text).getD "None" ++ "'"), repo)
              else
                let progress := current.set stepName
                  (failStepInfo target request.error request.details
                    (timestampOr request.failedAt now))
                (.ok
                  { sessionId := request.sessionId
                    pipelineName := request.pipelineName
                    stepName := stepName
                    pipelineProgress := progress },
                  saveProgress repo request.sessionId session request.pipelineName progress)

/-! ## §4. Frames: what a save changes. -/

theorem progressOf_saveProgress (repo : SessionRepository) (sid : String) (session : LabletSession)
    (pl : String) (progress : Progress) (h : repo.get? sid = some session) (sid' pl' : String) :
    progressOf (saveProgress repo sid session pl progress) sid' pl'
      = if sid' = sid ∧ pl' = pl then progress else progressOf repo sid' pl' := by
  unfold progressOf saveProgress
  by_cases hs : sid' = sid
  · subst hs
    rw [Dict.get?_set_self, h]
    simp only [Option.bind_some, LabletSession.updatePipelineProgress, LabletSession.progressMap,
      Option.getD_some, true_and]
    by_cases hp : pl' = pl
    · subst hp
      rw [Dict.get?_set_self, if_pos rfl]
      rfl
    · rw [Dict.get?_set_ne _ _ _ hp, if_neg hp]
  · rw [Dict.get?_set_ne _ _ _ hs, if_neg (fun hc => hs hc.1)]

theorem get?_saveProgress_isSome (repo : SessionRepository) (sid : String)
    (session : LabletSession) (pl : String) (progress : Progress) (sid' : String)
    (h : (repo.get? sid').isSome) :
    ((saveProgress repo sid session pl progress).get? sid').isSome := by
  unfold saveProgress
  rw [Dict.get?_set]
  split
  · rfl
  · exact h

/-- **An accepted update** changes the addressed pipeline by `applyUpdate` and no other. -/
theorem handleUpdate_progressOf (repo : SessionRepository) (request : ProgressUpdate)
    (hname : request.pipelineName ∈ validPipelineNames)
    (hstatus : request.stepStatus ∈ validStepStatuses)
    (hsession : (repo.get? request.sessionId).isSome) (sid pl : String) :
    progressOf (handleUpdate repo request).2 sid pl
      = if sid = request.sessionId ∧ pl = request.pipelineName
        then applyUpdate (progressOf repo sid pl) request else progressOf repo sid pl := by
  obtain ⟨session, hget⟩ := Option.isSome_iff_exists.mp hsession
  have hcur : progressOf repo request.sessionId request.pipelineName
      = (session.progressMap.get? request.pipelineName).getD Dict.empty := by
    rw [progressOf, hget]
    rfl
  simp only [handleUpdate, hname, hstatus, not_true_eq_false, if_false, hget]
  rw [progressOf_saveProgress _ _ _ _ _ hget]
  split
  next heq =>
    obtain ⟨rfl, rfl⟩ := heq
    rw [hcur]
  next => rfl

/-- An update, accepted or not, changes at most the step it names. -/
theorem handleUpdate_get?_other (repo : SessionRepository) (request : ProgressUpdate)
    {sid pl n : String}
    (h : ¬ (sid = request.sessionId ∧ pl = request.pipelineName ∧ n = request.stepName)) :
    (progressOf (handleUpdate repo request).2 sid pl).get? n = (progressOf repo sid pl).get? n := by
  unfold handleUpdate
  split
  · rfl
  · split
    · rfl
    · split
      next => rfl
      next session hget =>
        rw [progressOf_saveProgress _ _ _ _ _ hget]
        split
        next heq =>
          obtain ⟨rfl, rfl⟩ := heq
          have hn : n ≠ request.stepName := fun hn => h ⟨rfl, rfl, hn⟩
          rw [progressOf, hget]
          exact Dict.get?_set_ne _ _ _ hn
        next => rfl

theorem handleUpdate_get?_isSome (repo : SessionRepository) (request : ProgressUpdate)
    (sid : String) (h : (repo.get? sid).isSome) :
    ((handleUpdate repo request).2.get? sid).isSome := by
  unfold handleUpdate
  split
  · exact h
  · split
    · exact h
    · split
      · exact h
      · exact get?_saveProgress_isSome _ _ _ _ _ _ h

/-! ## §5. Statuses after an update. -/

theorem applyUpdate_get?_ne (progress : Progress) (request : ProgressUpdate) {name : String}
    (h : name ≠ request.stepName) :
    (applyUpdate progress request).get? name = progress.get? name :=
  Dict.get?_set_ne _ _ _ h

theorem applyUpdate_get?_self (progress : Progress) (request : ProgressUpdate) :
    (applyUpdate progress request).get? request.stepName
      = some (applyStepDelta (stepOrInit progress request.stepName) request) :=
  Dict.get?_set_self _ _ _

/-- The statuses the executor sends are stored as they are. -/
theorem applyStepDelta_status (step : StepInfo) (request : ProgressUpdate)
    (h : request.stepStatus ∈ [StepStatus.completed, .failed, .skipped, .suspended]) :
    (applyStepDelta step request).status = some request.stepStatus := by
  simp only [List.mem_cons, List.not_mem_nil, or_false] at h
  rcases h with h | h | h | h <;> simp only [applyStepDelta, h]
  split <;> rfl

end CmlCloudManager.ControlPlane
