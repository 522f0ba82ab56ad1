/-
  CmlCloudManager.ScenarioEngine.Job
  ──────────────────────────────────
  **A JOB OF THE SCENARIO ENGINE.**

  A job is stored with its status and carries what its scenario is given and what
  came of it.  The operations of the aggregate have no guards: each of them writes
  its status over whatever the copy it is called on has.

  What the engine tells the one who submitted a job are CloudEvents; three of them
  say how a job ended.
-/
import CmlCloudManager.Pipeline.Value

namespace CmlCloudManager.ScenarioEngine

open CmlCloudManager.Foundation
open CmlCloudManager.Pipeline

/-! ## §1. Jobs. -/

/-- `JobStatus`. -/
inductive JobStatus where
  | submitted
  | running
  | completed
  | failed
  | cancelled
  deriving DecidableEq, Repr

/-- The value of a status. -/
def JobStatus.value : JobStatus → String
  | .submitted => "submitted"
  | .running => "running"
  | .completed => "completed"
  | .failed => "failed"
  | .cancelled => "cancelled"

/-- COMPLETED, FAILED and CANCELLED. -/
def JobStatus.isFinished : JobStatus → Bool
  | .completed | .failed | .cancelled => true
  | .submitted | .running => false

/-- `JobState`. -/
structure JobState where
  id : String
  scenarioName : String
  scenarioVersion : String := "v1"
  status : JobStatus := .submitted
  inputData : Payload := Dict.empty
  outputData : Payload := Dict.empty
  callbackUrl : Option String := none
  podDefinitionId : Option String := none
  error : Option String := none
  createdAt : Option Int := none
  startedAt : Option Int := none
  completedAt : Option Int := none
  metadata : Option Payload := none

namespace JobState

/-- `Job.start`. -/
def start (job : JobState) (now : Int) : JobState :=
  { job with status := .running, startedAt := some now }

/-- `Job.complete`. -/
def complete (job : JobState) (now : Int) (outputData : Payload) : JobState :=
  { job with status := .completed, outputData := outputData, completedAt := some now }

/-- `Job.fail`. -/
def fail (job : JobState) (now : Int) (error : String) : JobState :=
  { job with status := .failed, error := some error, completedAt := some now }

/-- `Job.cancel`. -/
def cancel (job : JobState) (now : Int) : JobState :=
  { job with status := .cancelled, completedAt := some now }

variable (job : JobState) (now : Int)

@[simp] theorem start_status : (job.start now).status = .running := rfl

@[simp] theorem complete_status (outputData : Payload) :
    (job.complete now outputData).status = .completed := rfl

@[simp] theorem fail_status (error : String) : (job.fail now error).status = .failed := rfl

@[simp] theorem cancel_status : (job.cancel now).status = .cancelled := rfl

end JobState

/-! ## §2. CloudEvents. -/

/-- What an event of a job says. -/
inductive JobNews where
  | started (scenarioName : String) (startedAt : Int)
  | completed (outputData : Payload) (artifacts : List String)
  | failed (error : String)
  | cancelled (cancelledAt : Int)

/-- The final status an event tells. -/
def JobNews.final : JobNews → Option JobStatus
  | .started _ _ => none
  | .completed _ _ => some .completed
  | .failed _ => some .failed
  | .cancelled _ => some .cancelled

/-- An event as it is sent. -/
structure JobCloudEvent where
  jobId : String
  news : JobNews
  targetUrl : String
  metadata : Option Payload := none

/-! ## §3. Scenarios. -/

/-- How the execution of a scenario ends. -/
inductive ScenarioOutcome where
  /-- A `ScenarioResult`. -/
  | result (status : String) (outputData : Payload) (error : Option String)
      (artifacts : List String)
  | timeout
  /-- A `CancelledError`. -/
  | cancelled
  | raised (message : String)

end CmlCloudManager.ScenarioEngine
