/-
  CmlCloudManager.ScenarioEngine.FinishedJobs
  ───────────────────────────────────────────
  **FINISHED JOBS STAY FINISHED.**

  SUBMITTED → RUNNING → COMPLETED | FAILED | CANCELLED: nobody ends a job that he
  reads as finished.  But the executor keeps its copy over the whole scenario, and
  a handler of `CancelJob` keeps its copy over an await; a copy that has become stale
  meanwhile may be written over a finished job, where the repository lets it.

    • `finished_stays`             — without such a write a finished job keeps its
                                     status, and a cancelled one stays CANCELLED,
    • `completed_over_cancelled`   — with one, a job that was cancelled with success
                                     ends COMPLETED.
-/
import CmlCloudManager.ScenarioEngine.JobRuns

namespace CmlCloudManager.ScenarioEngine

open CmlCloudManager.Foundation
open CmlCloudManager.Foundation.VersionedStore
open CmlCloudManager.Pipeline

/-! ## §1. Stale writes. -/

/-- The write of a stale copy over a finished job. -/
def JobAction.overwrites (action : JobAction) (w : JobWorld) : Bool :=
  match action.saves w with
  | none => false
  | some (jobId, copy) =>
      (w.jobs jobId).any fun stored =>
        stored.doc.status.isFinished && copy.version != stored.version

/-- No stale copy gets over a finished job: the repository rejects it, or none is written. -/
def SparesFinished (env : JobEnv) (w : JobWorld) (action : JobAction) : Prop :=
  env.mode = .rejectStale ∨ action.overwrites w = false

variable {env : JobEnv} {w w' : JobWorld}

/-- **The step lemma**: a finished job is left alone. -/
theorem finished_untouched {action : JobAction} (h : jobStep env w action = some w')
    (hheld : CopiesHeld w) (hspares : SparesFinished env w action) {jobId : String}
    {stored : Versioned JobState} (hstored : w.jobs jobId = some stored)
    (hfinished : stored.doc.status.isFinished = true) : w'.jobs jobId = some stored := by
  have heffect := (step_cases h).jobsEffect
  generalize w'.jobs = jobs' at heffect
  cases heffect with
  | same => exact hstored
  | @added job new submitted =>
      have hne : jobId ≠ job.id := by
        rintro rfl
        rw [new] at hstored
        cases hstored
      exact (Function.update_of_ne hne ..).trans hstored
  | @written id copy jobs saves write =>
      by_cases hid : jobId = id
      · subst hid
        -- the copy is the stored job, which then was not finished
        have hversion : copy.version = stored.version := by
          rcases hspares with hreject | hfresh
          · obtain ⟨stored', hstored', -, hcurrent⟩ := write_eq_some write
            obtain rfl := Option.some.inj (hstored.symm.trans hstored')
            exact (hcurrent hreject).symm
          · unfold JobAction.overwrites at hfresh
            rw [saves] at hfresh
            simpa [hstored, hfinished] using hfresh
        have hopen := (hheld.saves saves).2
        rw [hversion] at hopen
        exact absurd hfinished (Bool.eq_false_iff.mp (hopen.stored hstored))
      · rw [find_write_ne write hid]
        exact hstored

/-! ## §2. Runs. -/

/-- What the runs keep: what the copies are based on, and that cancelled jobs are CANCELLED. -/
structure CancelledStay (w : JobWorld) : Prop where
  held : CopiesHeld w
  cancelled : ∀ jobId ∈ w.cancelled, w.status jobId = some .cancelled

theorem status_of_finished {jobId : String} {status : JobStatus}
    (h : w.status jobId = some status) (hfinished : status.isFinished = true) :
    ∃ stored, w.jobs jobId = some stored ∧ stored.doc.status = status
      ∧ stored.doc.status.isFinished = true := by
  obtain ⟨stored, hstored, rfl⟩ := Option.map_eq_some_iff.mp h
  exact ⟨stored, hstored, rfl, hfinished⟩

/-- A finished status outlives the action. -/
theorem status_stays {action : JobAction} (h : jobStep env w action = some w')
    (hheld : CopiesHeld w) (hspares : SparesFinished env w action) {jobId : String}
    {status : JobStatus} (hstatus : w.status jobId = some status)
    (hfinished : status.isFinished = true) : w'.status jobId = some status := by
  obtain ⟨stored, hstored, rfl, hf⟩ := status_of_finished hstatus hfinished
  exact status_eq (finished_untouched h hheld hspares hstored hf)

theorem CancelledStay.step {action : JobAction} (hinv : CancelledStay w)
    (hspares : SparesFinished env w action) (h : jobStep env w action = some w') :
    CancelledStay w' := by
  have hmove := step_cases h
  refine ⟨hmove.copiesHeld hinv.held, fun jobId hjobId => ?_⟩
  by_cases hold : jobId ∈ w.cancelled
  · exact status_stays h hinv.held hspares (hinv.cancelled jobId hold) rfl
  · cases hmove with
    | scheduled same reserve left => exact absurd (same.cancelled ▸ hjobId) hold
    | moved found performed =>
        rw [goto_cancelled, performed.sameParts.cancelled] at hjobId
        exact absurd hjobId hold
    | @cancelled k now handler copy jobs found saving write =>
        -- the new entry is the job that was written just now
        obtain rfl : jobId = handler.jobId := by
          rcases List.mem_append.mp hjobId with hbefore | hnew
          · exact absurd hbefore hold
          · exact List.mem_singleton.mp hnew
        have hcopy := hinv.held.handlers handler (List.mem_of_getElem? found)
        rw [saving] at hcopy
        obtain ⟨stored, hstored, hdoc⟩ := find_write_self write
        exact (status_eq hstored).trans (by rw [hdoc, hcopy.1])
    | _ => exact absurd hjobId hold

/-- **Finished is final** between two states of a run. -/
def StaysFinished (w w' : JobWorld) (jobId : String) : Prop :=
  (∀ status, w.status jobId = some status → status.isFinished = true →
      w'.status jobId = some status)
    ∧ (jobId ∈ w.cancelled → w'.status jobId = some .cancelled)

/-- **A finished job stays finished**, and a cancelled one CANCELLED, in every run that writes no
stale copy over a finished job. -/
theorem finished_stays (env : JobEnv) (jobs : VersionedStore String JobState)
    (ids : List String) {before after : List JobAction} {w w' : JobWorld}
    (reached : Run (jobStep env) (SparesFinished env) (JobWorld.boot env jobs ids) before w)
    (run : Run (jobStep env) (SparesFinished env) w after w') (jobId : String) :
    StaysFinished w w' jobId := by
  have hstart : CancelledStay (JobWorld.boot env jobs ids) :=
    ⟨boot_copiesHeld env jobs ids, fun _ h => absurd h List.not_mem_nil⟩
  have hw : CancelledStay w :=
    reached.invariant (fun _ _ _ hinv hok hstep => hinv.step hok hstep) hstart
  have hkeeps : ∀ status, w.status jobId = some status → status.isFinished = true →
      w'.status jobId = some status := by
    intro status hstatus hfinished
    have hw' : CancelledStay w' ∧ w'.status jobId = some status :=
      @Run.invariant _ _ _ _ (fun u => CancelledStay u ∧ u.status jobId = some status)
        (fun _ _ _ hinv hok hstep =>
          ⟨hinv.1.step hok hstep, status_stays hstep hinv.1.held hok hinv.2 hfinished⟩)
        _ _ _ run ⟨hw, hstatus⟩
    exact hw'.2
  exact ⟨hkeeps, fun hcancelled => hkeeps .cancelled (hw.cancelled jobId hcancelled) rfl⟩

/-- A service whose repository lets the last write win, with every scenario registered and a sink
for the events. -/
def lastWins : JobEnv where
  mode := .lastWriteWins
  registered _ _ := true
  cloudEventSink := "http://sink/events"

/-- It starts with nothing stored. -/
def noJobs : JobWorld := .boot lastWins (fun _ => none) []

/-- A job is submitted and executed, and cancelled with success while its scenario runs. -/
def cancelledInExecution : List JobAction :=
  [.sweep 0 .done, .sweep 0 .done, .add { id := "job-1", scenarioName := "echo" },
    .enqueue "job-1", .dequeue, .grant, .spawn, .task 0 1 .done, .task 0 2 .done, .task 0 3 .done,
    .cancelJob "job-1", .handler 0 4 .done, .handler 0 5 .done]

/-- The scenario is cancelled. -/
def scenarioCancelled : List JobAction :=
  [.hardCancel "job-1", .task 0 6 (.ends .cancelled), .task 0 7 .done, .reap 0]

/-- The scenario completes all the same. -/
def scenarioCompletes : List JobAction :=
  [.task 0 6 (.ends (.result "completed" Dict.empty none [])), .task 0 7 .done]

theorem spares_of_check (w : JobWorld) (action : JobAction) (h : (!action.overwrites w) = true) :
    SparesFinished lastWins w action := .inr (by simpa using h)

/-- The job that is cancelled while its scenario runs stays CANCELLED when that is cancelled. -/
theorem finished_stays_cancelled :
    ∃ w w', exec (jobStep lastWins) (fun w a => !a.overwrites w) cancelledInExecution noJobs
        = some w
      ∧ exec (jobStep lastWins) (fun w a => !a.overwrites w) scenarioCancelled w = some w'
      ∧ w.status "job-1" = some .cancelled
      ∧ StaysFinished w w' "job-1" := by
  have hruns : ((exec (jobStep lastWins) (fun w a => !a.overwrites w) cancelledInExecution
      noJobs).bind fun w => (exec (jobStep lastWins) (fun w a => !a.overwrites w)
        scenarioCancelled w).map fun _ => w.status "job-1") = some (some .cancelled) := by
    decide +kernel
  obtain ⟨w, hw, hrest⟩ := Option.bind_eq_some_iff.mp hruns
  obtain ⟨w', hw', hstatus⟩ := Option.map_eq_some_iff.mp hrest
  refine ⟨w, w', hw, hw', hstatus, ?_⟩
  exact finished_stays lastWins _ _ (exec_run spares_of_check _ .nil hw)
    (exec_run spares_of_check _ .nil hw') "job-1"

/-- **A job that was cancelled with success ends COMPLETED**, where the last write wins: the
executor writes the copy that it has had since the job was started. -/
theorem completed_over_cancelled :
    ¬ ∀ (env : JobEnv) (jobs : VersionedStore String JobState) (ids : List String)
        (before after : List JobAction) (w w' : JobWorld),
      Run (jobStep env) anyAction (JobWorld.boot env jobs ids) before w →
        Run (jobStep env) anyAction w after w' → ∀ jobId, StaysFinished w w' jobId := by
  intro h
  have hruns : ((exec (jobStep lastWins) (fun _ _ => true) cancelledInExecution noJobs).bind
      fun w => (exec (jobStep lastWins) (fun _ _ => true) scenarioCompletes w).map fun w' =>
        (w.cancelled, w'.status "job-1")) = some (["job-1"], some .completed) := by
    decide +kernel
  obtain ⟨w, hw, hrest⟩ := Option.bind_eq_some_iff.mp hruns
  obtain ⟨w', hw', heq⟩ := Option.map_eq_some_iff.mp hrest
  obtain ⟨hcancelled, hcompleted⟩ := Prod.mk.inj heq
  have hstays := (h lastWins _ [] _ _ w w' (exec_run (fun _ _ _ => trivial) _ .nil hw)
    (exec_run (fun _ _ _ => trivial) _ .nil hw') "job-1").2
      (by rw [hcancelled]; exact List.mem_singleton_self _)
  rw [hcompleted] at hstays
  cases hstays

end CmlCloudManager.ScenarioEngine
