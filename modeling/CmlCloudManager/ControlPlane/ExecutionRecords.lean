/-
  CmlCloudManager.ControlPlane.ExecutionRecords
  ─────────────────────────────────────────────
  **WHAT AN UPDATE ANNOUNCES AND RECORDS.**

  Saving the progress is only the first half of `UpdatePipelineProgress`.  The
  handler then publishes CloudEvents (G5) and keeps the audit collection
  `pipeline_executions` up to date (G1); both are fire-and-forget.

    • a `pending` update CREATES an execution record with status `running`,
    • any other update that makes all stored steps done FINALIZES the latest one.

  The executor reports outcomes only, never that a step starts.  So its runs
  create no record at all (`deliverAll_recordsOf`), whatever their outcome is.
-/
import CmlCloudManager.ControlPlane.PersistedRuns
import Mathlib.Data.List.Perm.Basic

namespace CmlCloudManager.ControlPlane

open CmlCloudManager.Foundation
open CmlCloudManager.Pipeline

/-! ## §1. Execution records and CloudEvents. -/

/-- The status of an execution record. -/
inductive ExecutionStatus where
  | running
  | completed
  | failed
  /-- `"partial"`. -/
  | partialRun
  deriving DecidableEq, Repr

/-- An entry of a record's step snapshot. -/
structure StepSnapshot where
  name : String
  status : StepStatus
  order : Nat

/-- `PipelineExecutionRecord`. -/
structure PipelineExecutionRecord where
  id : String
  sessionId : String
  pipelineName : String
  status : ExecutionStatus := .running
  steps : List StepSnapshot := []
  attempt : Nat := 1
  startedAt : Int
  completedAt : Option Int := none
  durationSeconds : Int := 0
  outputs : Payload := Dict.empty
  error : Option Value := none

/-- The CloudEvents of a progress update. -/
inductive CloudEvent where
  | stepStarted (sessionId pipelineName stepName : String)
  | stepCompleted (sessionId pipelineName stepName : String) (resultData : Payload)
  | stepFailed (sessionId pipelineName stepName : String) (error : Value)
  | pipelineCompleted (sessionId pipelineName : String) (status : ExecutionStatus)
      (stepsCompleted stepsFailed stepsSkipped : Nat)

/-- `PipelineCompletedEventV1`. -/
def CloudEvent.isPipelineCompleted : CloudEvent → Bool
  | .pipelineCompleted .. => true
  | _ => false

/-- What one call of the handler finds outside: the clock, the id `uuid4` draws,
and the CloudEvents whose publication does not raise. -/
structure HandlerEnv where
  now : Int := 0
  newId : String := ""
  publishes : CloudEvent → Bool := fun _ => true

/-- The stores the handler writes to. -/
structure ProgressStore where
  sessions : SessionRepository
  executions : List PipelineExecutionRecord := []
  published : List CloudEvent := []

/-- `get_by_session_and_pipeline_async`. -/
def ProgressStore.recordsOf (store : ProgressStore) (sessionId pipelineName : String) :
    List PipelineExecutionRecord :=
  store.executions.filter fun r => r.sessionId = sessionId ∧ r.pipelineName = pipelineName

/-! ## §2. The side effects of an update. -/

/-- `sum(1 for s in current_progress.values() if s.get("status") == status)`. -/
def countStatus (progress : Progress) (status : StepStatus) : Nat :=
  progress.values.countP fun s => s.status = some status

/-- The terminal status of a pipeline, from its failed and skipped steps. -/
def terminalOf (stepsFailed stepsSkipped : Nat) : ExecutionStatus :=
  if stepsFailed > 0 then .failed else if stepsSkipped > 0 then .partialRun else .completed

/-- `steps_snapshot`. -/
def stepsSnapshot (progress : Progress) : List StepSnapshot :=
  progress.entries.map fun e =>
    { name := e.1
      status := e.2.status.getD .pending
      order := e.2.order.getD 0 }

/-- The CloudEvents `_emit_step_cloud_event` publishes, in order. -/
def stepCloudEvents (request : ProgressUpdate) (done : Bool) (progress : Progress) :
    List CloudEvent :=
  let step := match request.stepStatus with
    | .pending => [.stepStarted request.sessionId request.pipelineName request.stepName]
    | .completed =>
        [.stepCompleted request.sessionId request.pipelineName request.stepName
          (request.resultData.getD Dict.empty)]
    | .failed =>
        [.stepFailed request.sessionId request.pipelineName request.stepName
          ((request.error.getD .none).orElse (.str "Unknown error"))]
    -- a skipped step has no event of its own
    | _ => []
  let failed := countStatus progress .failed
  let skipped := countStatus progress .skipped
  step ++ if done then
    [.pipelineCompleted request.sessionId request.pipelineName (terminalOf failed skipped)
      (countStatus progress .completed) failed skipped]
  else []

/-- `_emit_step_cloud_event`: a publication that raises ends the emission. -/
def emitStepCloudEvent (env : HandlerEnv) (request : ProgressUpdate) (done : Bool)
    (progress : Progress) : List CloudEvent :=
  (stepCloudEvents request done progress).takeWhile env.publishes

/-- `PipelineExecutionRecord.create`. -/
def PipelineExecutionRecord.create (env : HandlerEnv) (sessionId pipelineName : String)
    (attempt : Nat) (steps : List StepSnapshot) : PipelineExecutionRecord :=
  { id := env.newId
    sessionId := sessionId
    pipelineName := pipelineName
    status := .running
    steps := steps
    attempt := attempt
    startedAt := env.now }

/-- `get_latest_by_session_and_pipeline_async`: the greatest `started_at`. -/
def ProgressStore.latestRecord (store : ProgressStore) (sessionId pipelineName : String) :
    Option PipelineExecutionRecord :=
  (store.recordsOf sessionId pipelineName).foldl
    (fun best r => match best with
      | none => some r
      | some b => if b.startedAt < r.startedAt then some r else some b) none

/-- `mark_failed`, `mark_partial` or `mark_completed` on the latest record. -/
def finalizeRecord (env : HandlerEnv) (request : ProgressUpdate) (progress : Progress)
    (record : PipelineExecutionRecord) : PipelineExecutionRecord :=
  let status := terminalOf (countStatus progress .failed) (countStatus progress .skipped)
  { record with
    status := status
    completedAt := some env.now
    durationSeconds := env.now - record.startedAt
    steps := stepsSnapshot progress
    error :=
      if status = .failed then
        some ((request.error.getD .none).orElse (.str "One or more steps failed"))
      else record.error
    outputs :=
      if status = .failed then record.outputs else request.resultData.getD Dict.empty }

/-- `update_async` of the execution repository: replace the document with this id. -/
def replaceRecord (record : PipelineExecutionRecord) :
    List PipelineExecutionRecord → List PipelineExecutionRecord
  | [] => []
  | r :: rest => if r.id = record.id then record :: rest else r :: replaceRecord record rest

/-- `_upsert_execution_record`. -/
def upsertExecutionRecord (env : HandlerEnv) (store : ProgressStore) (request : ProgressUpdate)
    (progress : Progress) (done : Bool) : List PipelineExecutionRecord :=
  -- the one place where a record is created
  if request.stepStatus = .pending then
    let existing := store.recordsOf request.sessionId request.pipelineName
    store.executions ++
      [.create env request.sessionId request.pipelineName (existing.length + 1)
        (stepsSnapshot progress)]
  else if done then
    match store.latestRecord request.sessionId request.pipelineName with
    | none => store.executions
    | some record =>
        -- a record that has ended is left alone
        if record.status = .running then
          replaceRecord (finalizeRecord env request progress record) store.executions
        else store.executions
  else store.executions

/-- `UpdatePipelineProgressCommandHandler.handle_async` with its side effects. -/
def handleUpdateAsync (env : HandlerEnv) (store : ProgressStore) (request : ProgressUpdate) :
    OperationResult UpdateResponse × ProgressStore :=
  match handleUpdate store.sessions request with
  | (.ok response, sessions) =>
      let progress := progressOf sessions request.sessionId request.pipelineName
      let done := allDone progress
      (.ok response,
        { sessions := sessions
          published := store.published ++ emitStepCloudEvent env request done progress
          executions := upsertExecutionRecord env store request progress done })
  -- a rejected update returns before anything is saved
  | (result, _) => (result, store)

/-! ## §3. Updates that do not start a step. -/

section Records

variable (env : HandlerEnv) (store : ProgressStore) (request : ProgressUpdate)

/-- Without a record to finalize, an update that is not `pending` records nothing. -/
theorem upsertExecutionRecord_of_none (progress : Progress) (done : Bool)
    (hstatus : request.stepStatus ≠ .pending)
    (hnone : store.recordsOf request.sessionId request.pipelineName = []) :
    upsertExecutionRecord env store request progress done = store.executions := by
  have hlatest : store.latestRecord request.sessionId request.pipelineName = none := by
    rw [ProgressStore.latestRecord, hnone]
    rfl
  unfold upsertExecutionRecord
  rw [if_neg hstatus, hlatest]
  split <;> rfl

theorem handleUpdateAsync_recordsOf {sid pl : String} (hsid : request.sessionId = sid)
    (hpl : request.pipelineName = pl) (hstatus : request.stepStatus ≠ .pending)
    (hnone : store.recordsOf sid pl = []) :
    (handleUpdateAsync env store request).2.recordsOf sid pl = [] := by
  subst hsid
  subst hpl
  unfold handleUpdateAsync
  split
  next response sessions hok =>
    show (upsertExecutionRecord env store request _ _).filter _ = []
    rw [upsertExecutionRecord_of_none env store request _ _ hstatus hnone]
    exact hnone
  next => exact hnone

/-- The update has a known pipeline and status, and its session exists. -/
def Acceptable (repo : SessionRepository) (request : ProgressUpdate) : Prop :=
  request.pipelineName ∈ validPipelineNames ∧ request.stepStatus ∈ validStepStatuses
    ∧ (repo.get? request.sessionId).isSome

/-- **What an update does**: save the delta and say whether all stored steps are done, or
change nothing. -/
theorem handleUpdate_cases (repo : SessionRepository) :
    (Acceptable repo request
        ∧ ∃ session, repo.get? request.sessionId = some session
          ∧ ∃ progress, progress = applyUpdate
              ((session.progressMap.get? request.pipelineName).getD Dict.empty) request
            ∧ handleUpdate repo request
              = (.ok
                  { sessionId := request.sessionId
                    pipelineName := request.pipelineName
                    stepName := request.stepName
                    stepStatus := request.stepStatus
                    pipelineComplete := allDone progress },
                saveProgress repo request.sessionId session request.pipelineName progress))
      ∨ (¬ Acceptable repo request ∧ (handleUpdate repo request).2 = repo
        ∧ ∀ response, (handleUpdate repo request).1 ≠ .ok response) := by
  unfold handleUpdate Acceptable
  split
  next hname => exact .inr ⟨fun h => hname h.1, rfl, fun response => by simp⟩
  next hname =>
    split
    next hstatus => exact .inr ⟨fun h => hstatus h.2.1, rfl, fun response => by simp⟩
    next hstatus =>
      split
      next hget => exact .inr ⟨fun h => by simp [hget] at h, rfl, fun response => by simp⟩
      next session hget =>
        rw [not_not] at hname hstatus
        exact .inl ⟨⟨hname, hstatus, by simp [hget]⟩, session, hget, _, rfl, rfl⟩

/-- The sessions are written as by the handler without side effects. -/
theorem handleUpdateAsync_sessions :
    (handleUpdateAsync env store request).2.sessions = (handleUpdate store.sessions request).2 := by
  unfold handleUpdateAsync
  split
  next response sessions hok => rw [hok]
  next result sessions hnot heq =>
    -- an answer that is not ok comes with the sessions as they were
    rcases handleUpdate_cases request store.sessions with ⟨-, session, -, progress, -, hok⟩ | hrej
    · exact absurd (by rw [heq] at hok; exact congrArg Prod.fst hok) (hnot _)
    · exact hrej.2.1.symm

end Records

/-! ## §4. Runs and the updates they send. -/

/-- The pipeline name `_persist_progress` sends. -/
def sentPipelineName (rt : Runtime) : String :=
  match rt.pipelineName with
  | some n => if n = "" then "unnamed" else n
  | none => "unnamed"

/-- The updates a run sends, in order. -/
def sentUpdates (tr : Trace) : List ProgressUpdate :=
  tr.filterMap fun e => (persistedUpdate e).map Prod.snd

/-- One handled command. -/
structure Delivery where
  env : HandlerEnv := {}
  request : ProgressUpdate

/-- The stores after one handled command. -/
def deliver (store : ProgressStore) (d : Delivery) : ProgressStore :=
  (handleUpdateAsync d.env store d.request).2

/-- The stores after a sequence of handled commands. -/
def deliverAll (store : ProgressStore) (ds : List Delivery) : ProgressStore :=
  ds.foldl deliver store

/-- A run of `execute`, cut or complete, with the commands the control plane handled. -/
structure DeliveredRun where
  pipeline : PipelineDef
  rt : Runtime
  sorter : Sorter
  existing : Option ExistingProgress
  tr : Trace
  left : Exec (Except ExecuteError PipelineResult)
  deliveries : List Delivery

/-- The record is a run of a pipeline of this session, and its updates are the commands. -/
structure IsDeliveredRun (sid pl : String) (r : DeliveredRun) : Prop where
  sound : r.sorter.Sound
  session : r.rt.context.sessionId = sid
  named : sentPipelineName r.rt = pl
  reaches : (execute r.rt r.sorter r.pipeline r.existing).Reaches r.tr r.left
  delivered : r.deliveries.map Delivery.request = sentUpdates r.tr

theorem mem_sentUpdates {u : ProgressUpdate} {tr : Trace} :
    u ∈ sentUpdates tr ↔ ∃ e ∈ tr, ∃ site, persistedUpdate e = some (site, u) := by
  unfold sentUpdates
  rw [List.mem_filterMap]
  constructor
  · rintro ⟨e, he, hu⟩
    obtain ⟨⟨site, u'⟩, hsu, rfl⟩ := Option.map_eq_some_iff.mp hu
    exact ⟨e, he, site, hsu⟩
  · rintro ⟨e, he, site, hu⟩
    exact ⟨e, he, by rw [hu]; rfl⟩

/-- What a run sends: outcomes of steps of its pipeline, never the start of one. -/
theorem IsDeliveredRun.sent {sid pl : String} {r : DeliveredRun} (run : IsDeliveredRun sid pl r)
    {u : ProgressUpdate} (hu : u ∈ sentUpdates r.tr) :
    u.sessionId = sid ∧ u.pipelineName = pl ∧ u.stepStatus ∈ sentStatusList
      ∧ ∃ s ∈ r.pipeline.steps, u.stepName = s.name := by
  obtain ⟨tr', out, hrun⟩ := run.reaches.extend
  obtain ⟨hreport, hmem⟩ := execute_report run.sound hrun
  obtain ⟨e, he, site, hsu⟩ := mem_sentUpdates.mp hu
  have hin : e ∈ r.tr ++ tr' := List.mem_append_left _ he
  obtain ⟨s, hs, hc⟩ := hmem e hin
  obtain ⟨status, rd, err, rfl, hstatus⟩ :=
    (hreport s hs).update (mem_eventsOf.mpr ⟨hin, hc⟩) hsu
  exact ⟨run.session, run.named, hstatus, s, hs, rfl⟩

/-- The commands of a run are the updates it sent. -/
theorem IsDeliveredRun.request {sid pl : String} {r : DeliveredRun}
    (run : IsDeliveredRun sid pl r) {d : Delivery} (hd : d ∈ r.deliveries) :
    d.request ∈ sentUpdates r.tr := by
  rw [← run.delivered]
  exact List.mem_map_of_mem hd

theorem not_pending_of_sent {status : StepStatus} (h : status ∈ sentStatusList) :
    status ≠ .pending := by
  rintro rfl
  revert h
  decide

/-- **Runs create no record**: what starts without records ends without records. -/
theorem deliverAll_recordsOf {sid pl : String} :
    ∀ (ds : List Delivery) (store : ProgressStore),
      (∀ d ∈ ds, d.request.sessionId = sid ∧ d.request.pipelineName = pl
        ∧ d.request.stepStatus ∈ sentStatusList) →
      store.recordsOf sid pl = [] → (deliverAll store ds).recordsOf sid pl = []
  | [], _, _, hnone => hnone
  | d :: ds, store, hsent, hnone => by
      obtain ⟨hsid, hpl, hstatus⟩ := hsent d List.mem_cons_self
      show (deliverAll (deliver store d) ds).recordsOf sid pl = []
      refine deliverAll_recordsOf ds _ (fun d' hd' => hsent d' (List.mem_cons_of_mem _ hd')) ?_
      exact handleUpdateAsync_recordsOf d.env store d.request hsid hpl
        (not_pending_of_sent hstatus) hnone

/-! ## §5. The audit of a pipeline's executions. -/

/-- The outcome of a run: failed, else partial, else completed. -/
def runOutcome (result : PipelineResult) : ExecutionStatus :=
  terminalOf result.stepsFailed result.stepsSkipped

/-- The stores after the runs, one after the other. -/
def deliverRuns (store : ProgressStore) (runs : List DeliveredRun) : ProgressStore :=
  runs.foldl (fun s r => deliverAll s r.deliveries) store

/-- One record for each run, numbered from one, with the outcome of a run that ended. -/
structure ExecutionAudit (store : ProgressStore) (sid pl : String) (runs : List DeliveredRun) :
    Prop where
  attempts : ((store.recordsOf sid pl).map PipelineExecutionRecord.attempt).Perm
    (List.range' 1 runs.length)
  outcomes : ∀ i r result, runs[i]? = some r → r.left = .done (.ok result) →
    ∀ record ∈ store.recordsOf sid pl, record.attempt = i + 1 →
      record.status = runOutcome result

theorem deliverRuns_recordsOf {sid pl : String} :
    ∀ (runs : List DeliveredRun) (store : ProgressStore),
      (∀ r ∈ runs, IsDeliveredRun sid pl r) → store.recordsOf sid pl = [] →
      (deliverRuns store runs).recordsOf sid pl = []
  | [], _, _, hnone => hnone
  | r :: runs, store, hruns, hnone => by
      have run := hruns r List.mem_cons_self
      show (deliverRuns (deliverAll store r.deliveries) runs).recordsOf sid pl = []
      refine deliverRuns_recordsOf runs _ (fun r' hr' => hruns r' (List.mem_cons_of_mem _ hr')) ?_
      refine deliverAll_recordsOf r.deliveries store (fun d hd => ?_) hnone
      obtain ⟨hsid, hpl, hstatus, -⟩ := run.sent (run.request hd)
      exact ⟨hsid, hpl, hstatus⟩

/-- **The audit holds of no run**: the records say what happened only when nothing did. -/
theorem execution_audit_iff (sid pl : String) (store : ProgressStore)
    (hnone : store.recordsOf sid pl = []) (runs : List DeliveredRun)
    (hruns : ∀ r ∈ runs, IsDeliveredRun sid pl r) :
    ExecutionAudit (deliverRuns store runs) sid pl runs ↔ runs = [] := by
  have hrecords := deliverRuns_recordsOf runs store hruns hnone
  constructor
  · -- no records, so no runs
    intro haudit
    have hlen := haudit.attempts.length_eq
    rw [hrecords, List.length_range'] at hlen
    exact List.length_eq_zero_iff.mp hlen.symm
  · rintro rfl
    refine ⟨?_, fun i r result hr => ?_⟩
    · rw [hrecords]
      exact .refl _
    · simp at hr

/-- A run of a pipeline from scratch in which every dispatch ends the same way, with its
updates handled as they come. -/
def soloRun (pipeline : PipelineDef) (outcome : DispatchOutcome) : DeliveredRun :=
  let rt : Runtime :=
    { context := { sessionId := "s1" }
      simpleEval := fun _ _ => .caught "SyntaxError"
      pipelineName := some "instantiate" }
  let ran := (execute rt staticOrder pipeline none).runWith (answering fun _ => outcome)
  { pipeline := pipeline
    rt := rt
    sorter := staticOrder
    existing := none
    tr := ran.1
    left := .done ran.2
    deliveries := (sentUpdates ran.1).map fun u => { request := u } }

theorem soloRun_isDeliveredRun (pipeline : PipelineDef) (outcome : DispatchOutcome) :
    IsDeliveredRun "s1" "instantiate" (soloRun pipeline outcome) where
  sound := staticOrder_sound
  session := rfl
  named := rfl
  reaches := (Resumption.runWith_runs _ _).reaches
  delivered := by
    show (List.map _ _).map _ = _
    rw [List.map_map]
    exact List.map_id _

/-- A pipeline of one step. -/
def oneStep : PipelineDef := { steps := [{ name := "boot_lab" }] }

/-- **A completed run without a record**: the store holds no execution at all. -/
theorem completed_run_unrecorded :
    (soloRun oneStep (.returned Dict.empty)).deliveries.map
        (fun d => (d.request.stepName, d.request.stepStatus)) = [("boot_lab", .completed)]
      ∧ ¬ ExecutionAudit
        (deliverRuns { sessions := newSession } [soloRun oneStep (.returned Dict.empty)])
        "s1" "instantiate" [soloRun oneStep (.returned Dict.empty)] := by
  refine ⟨by decide, fun haudit => ?_⟩
  have hlen := haudit.attempts.length_eq
  revert hlen
  decide

theorem execution_audit_iff_solo :
    ExecutionAudit
        (deliverRuns { sessions := newSession } [soloRun oneStep (.returned Dict.empty)])
        "s1" "instantiate" [soloRun oneStep (.returned Dict.empty)]
      ↔ [soloRun oneStep (.returned Dict.empty)] = [] := by
  refine execution_audit_iff "s1" "instantiate" { sessions := newSession } rfl _ ?_
  intro r hr
  rw [List.mem_singleton.mp hr]
  exact soloRun_isDeliveredRun oneStep _

end CmlCloudManager.ControlPlane
