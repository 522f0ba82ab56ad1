/-
  CmlCloudManager.ScenarioEngine.JobExecution
  ───────────────────────────────────────────
  **THE SERVICE THAT EXECUTES JOBS.**

  One process with one event loop: what a coroutine does between two awaits is one
  action.  The coroutines are

    • the start of the service with its sweep, and then the dispatch loop,
    • a task for every id that the loop takes from the queue,
    • the handlers of `CancelJob`.

  Each of them works on its own copy of a job; the repository either rejects a stale
  copy or lets the last write win.  Tasks and cancellation events are kept by job id,
  so that of two tasks of one job the later one replaces the other's entries.

  An answer says how an await ends: with what was awaited, with an exception, or with
  the `CancelledError` of a task that was cancelled, which may strike before or
  after what was awaited took effect.  An event goes to the job's own URL or to the
  sink; where there is neither, nothing is sent and nothing is awaited.  A restart
  loses everything but the jobs.
-/
import CmlCloudManager.Foundation.Transition
import CmlCloudManager.Foundation.VersionedStore
import CmlCloudManager.ControlPlane.PipelineProgress
import CmlCloudManager.ScenarioEngine.Job

namespace CmlCloudManager.ScenarioEngine

open CmlCloudManager.Foundation
open CmlCloudManager.Pipeline
open CmlCloudManager.ControlPlane (OperationResult)

/-! ## §1. The parts of the service. -/

/-- The repository's treatment of stale writes, the scenario registry, and the settings. -/
structure JobEnv where
  mode : WriteMode
  /-- `get_scenario(name, version) is not None`. -/
  registered : String → String → Bool
  maxConcurrentJobs : Nat := 10
  jobDefaultTimeout : Int := 600
  cloudEventSink : String := ""

/-- `x or y` for a text. -/
def orText (x : Option String) (y : String) : String :=
  match x with
  | some t => if t = "" then y else t
  | none => y

/-- `_resolve_target_url`. -/
def JobEnv.resolveTargetUrl (env : JobEnv) (callbackUrl : Option String) : Option String :=
  let url := orText callbackUrl env.cloudEventSink
  if url = "" then none else some url

/-- What `_execute_job` awaits, with the copy it works on. -/
inductive TaskPoint where
  | loading
  | starting (copy : Versioned JobState)
  | announcing (url : String) (copy : Versioned JobState) (news : JobNews)
  | executing (copy : Versioned JobState)
  /-- The write that ends the job; `caught` in the last `except` branch. -/
  | finishing (copy : Versioned JobState) (news : JobNews) (caught : Bool)
  | reporting (url : String) (job : JobState) (news : JobNews) (caught : Bool)
  /-- The load in the last `except` branch. -/
  | recovering (error : String)
  /-- Done; the callback has not run yet. -/
  | ended
  | reaped

/-- `task.done()`. -/
def TaskPoint.isDone : TaskPoint → Bool
  | .ended | .reaped => true
  | _ => false

/-- A task of `_execute_job`, with the flag of its cancellation event. -/
structure JobTask where
  jobId : String
  point : TaskPoint := .loading
  eventSet : Bool := false
  cancelRequested : Bool := false

/-- What the handler of `CancelJob` awaits, or its answer; an exception is no answer. -/
inductive HandlerPoint where
  | loading
  | saving (copy : Versioned JobState)
  | answered (answer : Option (OperationResult Unit))

/-- A handler of `CancelJob`. -/
structure CancelHandler where
  jobId : String
  point : HandlerPoint := .loading

/-- What `_startup_sweep` awaits. -/
inductive SweepPoint where
  | listingSubmitted
  | listingRunning
  | failing (jobs : List (String × Versioned JobState))

/-- Where `start_async` and the dispatch loop are. -/
inductive Dispatcher where
  | sweeping (point : SweepPoint)
  | waiting
  | acquiring (jobId : String)
  /-- The permit is taken, the task is not there yet. -/
  | holding (jobId : String)
  | stopped

/-- The stored jobs, the service, and what has happened: the events sent, the calls of
`scenario.execute`, the jobs that were cancelled with success. -/
structure JobWorld where
  jobs : VersionedStore String JobState
  ids : List String
  queue : List String := []
  permits : Nat
  dispatcher : Dispatcher := .sweeping .listingSubmitted
  tasks : List JobTask := []
  runningTasks : Dict String Nat := Dict.empty
  cancellationEvents : Dict String Nat := Dict.empty
  handlers : List CancelHandler := []
  timers : List String := []
  stopping : Bool := false
  events : List JobCloudEvent := []
  executions : List String := []
  cancelled : List String := []

/-- A process that starts on the stored jobs. -/
def JobWorld.boot (env : JobEnv) (jobs : VersionedStore String JobState) (ids : List String) :
    JobWorld where
  jobs := jobs
  ids := ids
  permits := env.maxConcurrentJobs

namespace JobWorld

/-- `find_by_status_async`. -/
def withStatus (w : JobWorld) (status : JobStatus) : List (String × Versioned JobState) :=
  w.ids.filterMap fun id =>
    ((w.jobs id).filter fun job => job.doc.status = status).map fun job => (id, job)

/-- `update_async`; a copy that is written is as new as what is stored. -/
def save (env : JobEnv) (w : JobWorld) (jobId : String) (copy : Versioned JobState) :
    Option (JobWorld × Versioned JobState) :=
  match w.jobs jobId, w.jobs.write env.mode jobId copy.version copy.doc with
  | some stored, some jobs => some ({ w with jobs := jobs }, ⟨stored.version + 1, copy.doc⟩)
  | _, _ => none

/-- An event of a job goes to its target. -/
def send (w : JobWorld) (jobId url : String) (job : JobState) (news : JobNews) : JobWorld :=
  { w with events := w.events ++ [⟨jobId, news, url, job.metadata⟩] }

/-- The task of a job in `_running_tasks`, unless it is done. -/
def runningTask (w : JobWorld) (jobId : String) : Option Nat :=
  (w.runningTasks.get? jobId).filter fun i =>
    (w.tasks[i]?).any fun task => !task.point.isDone

/-- `task.cancel()`. -/
def cancelTask (w : JobWorld) (i : Nat) : JobWorld :=
  { w with tasks := w.tasks.modify i fun task => { task with cancelRequested := true } }

/-- `request_cancel`. -/
def requestCancel (w : JobWorld) (jobId : String) : JobWorld :=
  { w with
    tasks :=
      match w.cancellationEvents.get? jobId with
      | some i => w.tasks.modify i fun task => { task with eventSet := true }
      | none => w.tasks
    timers := if (w.runningTask jobId).isSome then w.timers ++ [jobId] else w.timers }

end JobWorld

/-! ## §2. The task. -/

/-- The access a task awaits. -/
inductive Access where
  | load
  | save (copy : Versioned JobState)
  | emit (url : String) (job : JobState) (news : JobNews)
  | execute
  | nothing

/-- What a point awaits. -/
def TaskPoint.access : TaskPoint → Access
  | .loading => .load
  | .starting copy => .save copy
  | .announcing url copy news => .emit url copy.doc news
  | .executing _ => .execute
  | .finishing copy _ _ => .save copy
  | .reporting url job news _ => .emit url job news
  | .recovering _ => .load
  | .ended => .nothing
  | .reaped => .nothing

/-- How an await ends. -/
inductive Answer where
  | done
  | ends (outcome : ScenarioOutcome)
  | raises (message : String)
  /-- An exception after the effect, of a second attempt to send an event. -/
  | raisesAfter (message : String)
  /-- A `CancelledError`, after the effect or instead of it. -/
  | interrupted (applied : Bool)

/-- What the coroutine sees of it. -/
inductive Reply where
  | loaded (job : Option (Versioned JobState))
  | saved (copy : Versioned JobState)
  | emitted
  | returned (outcome : ScenarioOutcome)
  | raised (message : String)
  | cancelled

/-- A cancelled task gets a `CancelledError` at its next await; inside a scenario anything may
come of it. -/
def JobTask.mayGet (task : JobTask) : Answer → Bool
  | .interrupted _ => task.cancelRequested
  | .ends _ => true
  | _ => !task.cancelRequested

/-- The exception of a rejected write. -/
def staleMessage : String := "the aggregate has been modified"

/-- An access and its end. -/
def perform (env : JobEnv) (w : JobWorld) (jobId : String) :
    Access → Answer → Option (JobWorld × Reply)
  | .load, .done => some (w, .loaded (w.jobs jobId))
  | .load, .raises message => some (w, .raised message)
  | .load, .interrupted _ => some (w, .cancelled)
  | .save copy, .done =>
      -- the repository returns the copy with its new version
      match w.save env jobId copy with
      | some (w, copy) => some (w, .saved copy)
      | none => some (w, .raised staleMessage)
  | .save _, .raises message => some (w, .raised message)
  | .save copy, .interrupted true =>
      -- the request reached the database before the cancellation reached the task
      match w.save env jobId copy with
      | some (w, _) => some (w, .cancelled)
      | none => some (w, .cancelled)
  | .save _, .interrupted false => some (w, .cancelled)
  | .emit url job news, .done => some (w.send jobId url job news, .emitted)
  -- `_emit` catches no other exception than `httpx.HTTPError`
  | .emit _ _ _, .raises message => some (w, .raised message)
  | .emit url job news, .raisesAfter message =>
      some (w.send jobId url job news, .raised message)
  | .emit url job news, .interrupted true => some (w.send jobId url job news, .cancelled)
  | .emit _ _ _, .interrupted false => some (w, .cancelled)
  | .execute, .ends outcome => some (w, .returned outcome)
  | _, _ => none

/-- `emit_*` for a job; without a target URL it returns at once. -/
def JobEnv.emit (env : JobEnv) (job : JobState) (sending : String → TaskPoint)
    (skipped : TaskPoint) : TaskPoint :=
  match env.resolveTargetUrl job.callbackUrl with
  | some url => sending url
  | none => skipped

/-- The job was loaded: it is started, unless its status or its scenario forbids it. -/
def afterLoad (env : JobEnv) (now : Int) (job : Versioned JobState) : TaskPoint :=
  if job.doc.status ≠ .submitted then .ended
  else if env.registered job.doc.scenarioName job.doc.scenarioVersion then
    .starting ⟨job.version, job.doc.start now⟩
  else
    let error := "Scenario '" ++ job.doc.scenarioName ++ "@" ++ job.doc.scenarioVersion
      ++ "' not found in registry"
    .finishing ⟨job.version, job.doc.fail now error⟩ (.failed error) false

/-- The scenario has ended; a status that it should not have leaves the job as it is. -/
def afterExecution (env : JobEnv) (now : Int) (eventSet : Bool) (copy : Versioned JobState) :
    ScenarioOutcome → TaskPoint
  | .result "completed" outputData _ artifacts =>
      .finishing ⟨copy.version, copy.doc.complete now outputData⟩ (.completed outputData artifacts)
        false
  | .result "failed" _ error _ =>
      .finishing
        ⟨copy.version, copy.doc.fail now (orText error "Scenario returned failed status")⟩
        (.failed (orText error "Unknown error")) false
  | .result "cancelled" _ _ _ =>
      .finishing ⟨copy.version, copy.doc.cancel now⟩ (.cancelled now) false
  -- none of the three branches takes any other status
  | .result _ _ _ _ => .ended
  | .timeout =>
      let error := "Job exceeded timeout (" ++ toString env.jobDefaultTimeout ++ "s)"
      .finishing ⟨copy.version, copy.doc.fail now error⟩ (.failed error) false
  | .cancelled =>
      -- cancelled by a user, or by the shutdown
      if eventSet then
        env.emit copy.doc (fun url => .reporting url copy.doc (.cancelled now) false) .ended
      else
        .finishing ⟨copy.version, copy.doc.fail now "Service shutting down"⟩
          (.failed "Service shutting down") false
  | .raised message => .recovering message

/-- `_execute_job`, from one await to the next. -/
def resume (env : JobEnv) (now : Int) (eventSet : Bool) : TaskPoint → Reply → TaskPoint
  | .loading, .loaded (some job) => afterLoad env now job
  | .loading, .raised message => .recovering message
  | .starting _, .saved copy =>
      env.emit copy.doc (fun url => .announcing url copy (.started copy.doc.scenarioName now))
        (.executing copy)
  | .starting _, .raised message => .recovering message
  | .announcing _ copy _, .emitted => .executing copy
  | .announcing _ _ _, .raised message => .recovering message
  | .executing copy, .returned outcome => afterExecution env now eventSet copy outcome
  | .finishing _ news caught, .saved copy =>
      env.emit copy.doc (fun url => .reporting url copy.doc news caught) .ended
  | .finishing _ _ false, .raised message => .recovering message
  | .reporting _ _ _ false, .raised message => .recovering message
  -- the last `except` branch works on a copy of its own
  | .recovering error, .loaded (some job) =>
      if job.doc.status = .running then
        .finishing ⟨job.version, job.doc.fail now error⟩ (.failed error) true
      else .ended
  -- a `CancelledError` outside the scenario is no `Exception`: no branch catches it
  | _, _ => .ended

/-- The task is at its next await; a scenario that is executed has its event registered. -/
def JobWorld.goto (w : JobWorld) (i : Nat) (task : JobTask) (point : TaskPoint) : JobWorld :=
  let w :=
    { w with tasks := w.tasks.set i { task with point := point, cancelRequested := false } }
  match point with
  | .executing _ =>
      { w with
        cancellationEvents := w.cancellationEvents.set task.jobId i
        executions := w.executions ++ [task.jobId] }
  | _ => w

/-- The await of a task ends. -/
def taskStep (env : JobEnv) (w : JobWorld) (i : Nat) (now : Int) (answer : Answer) :
    Option JobWorld :=
  match w.tasks[i]? with
  | none => none
  | some task =>
      if task.mayGet answer then
        (perform env w task.jobId task.point.access answer).map fun (w, reply) =>
          w.goto i task (resume env now task.eventSet task.point reply)
      else none

/-- `_on_task_done`. -/
def reapStep (w : JobWorld) (i : Nat) : Option JobWorld :=
  match w.tasks[i]? with
  | some task =>
      match task.point with
      | .ended =>
          some
            { w with
              tasks := w.tasks.set i { task with point := .reaped }
              runningTasks := w.runningTasks.erase task.jobId
              cancellationEvents := w.cancellationEvents.erase task.jobId
              permits := w.permits + 1 }
      | _ => none
  | none => none

/-! ## §3. CancelJob. -/

/-- The handler is at its next await, or has answered. -/
def JobWorld.gotoHandler (w : JobWorld) (h : Nat) (handler : CancelHandler)
    (point : HandlerPoint) : JobWorld :=
  { w with handlers := w.handlers.set h { handler with point := point } }

/-- `Validate cancellable state`. -/
def afterCancelLoad (now : Int) (jobId : String) : Option (Versioned JobState) → HandlerPoint
  | none => .answered (some (.notFound jobId))
  | some job =>
      if job.doc.status.isFinished then
        .answered (some (.conflict ("Job '" ++ jobId ++ "' is in '" ++ job.doc.status.value
          ++ "' state and cannot be cancelled")))
      else .saving ⟨job.version, job.doc.cancel now⟩

/-- The await of a handler of `CancelJob` ends. -/
def handlerStep (env : JobEnv) (w : JobWorld) (h : Nat) (now : Int) (answer : Answer) :
    Option JobWorld :=
  match w.handlers[h]? with
  | none => none
  | some handler =>
      match handler.point, answer with
      | .loading, .done =>
          some (w.gotoHandler h handler (afterCancelLoad now handler.jobId (w.jobs handler.jobId)))
      | .saving copy, .done =>
          match w.save env handler.jobId copy with
          | some (w, _) =>
              -- only now is the task asked to stop
              let w := (w.requestCancel handler.jobId).gotoHandler h handler
                (.answered (some (.ok ())))
              some { w with cancelled := w.cancelled ++ [handler.jobId] }
          -- the exception of the write leaves the handler
          | none => some (w.gotoHandler h handler (.answered none))
      | .loading, .raises _ => some (w.gotoHandler h handler (.answered none))
      | .saving _, .raises _ => some (w.gotoHandler h handler (.answered none))
      | _, _ => none

/-! ## §4. Start, dispatch, shutdown. -/

/-- The error of a job that was running when the process ended. -/
def restartError : String := "Service restarted; execution context lost"

/-- The jobs that are left to fail; after them the dispatch loop starts. -/
def sweepOn : List (String × Versioned JobState) → Dispatcher
  | [] => .waiting
  | jobs => .sweeping (.failing jobs)

/-- The await of `_startup_sweep` ends; an exception ends the sweep. -/
def sweepStep (env : JobEnv) (w : JobWorld) (now : Int) (answer : Answer) : Option JobWorld :=
  match w.dispatcher, answer with
  | .sweeping .listingSubmitted, .done =>
      some
        { w with
          queue := w.queue ++ (w.withStatus .submitted).map (·.1)
          dispatcher := .sweeping .listingRunning }
  | .sweeping .listingRunning, .done =>
      some { w with dispatcher := sweepOn (w.withStatus .running) }
  | .sweeping (.failing ((jobId, job) :: rest)), .done =>
      match w.save env jobId ⟨job.version, job.doc.fail now restartError⟩ with
      | some (w, _) => some { w with dispatcher := sweepOn rest }
      -- one rejected write, and the jobs after it are left as they are
      | none => some { w with dispatcher := .waiting }
  | .sweeping _, .raises _ => some { w with dispatcher := .waiting }
  | _, _ => none

/-- `await self._queue.get()`. -/
def dequeueStep (w : JobWorld) : Option JobWorld :=
  match w.dispatcher, w.queue with
  | .waiting, jobId :: rest => some { w with queue := rest, dispatcher := .acquiring jobId }
  | _, _ => none

/-- `await self._semaphore.acquire()`. -/
def grantStep (w : JobWorld) : Option JobWorld :=
  match w.dispatcher, w.permits with
  | .acquiring jobId, permits + 1 =>
      some { w with permits := permits, dispatcher := .holding jobId }
  | _, _ => none

/-- `asyncio.create_task(self._execute_job(job_id))`. -/
def spawnStep (w : JobWorld) : Option JobWorld :=
  match w.dispatcher with
  | .holding jobId =>
      some
        { w with
          tasks := w.tasks ++ [{ jobId := jobId }]
          runningTasks := w.runningTasks.set jobId w.tasks.length
          dispatcher := .waiting }
  | _ => none

/-- `stop_async` cancels the dispatch loop, which gives a permit back that it holds. -/
def stopStep (w : JobWorld) : Option JobWorld :=
  match w.dispatcher with
  | .sweeping _ => none
  | .holding _ =>
      some { w with stopping := true, dispatcher := .stopped, permits := w.permits + 1 }
  | _ => some { w with stopping := true, dispatcher := .stopped }

/-- Then it cancels the running tasks. -/
def cancelTasksStep (w : JobWorld) : Option JobWorld :=
  if w.stopping then
    some ((w.runningTasks.entries.filterMap fun entry => w.runningTask entry.1).foldl
      JobWorld.cancelTask w)
  else none

/-- And forgets the tasks when they are done. -/
def clearStep (w : JobWorld) : Option JobWorld :=
  if w.stopping ∧ ∀ entry ∈ w.runningTasks.entries, w.runningTask entry.1 = none then
    some { w with runningTasks := Dict.empty, cancellationEvents := Dict.empty }
  else none

/-- What can happen. -/
inductive JobAction where
  /-- `SubmitJob` stores a new job. -/
  | add (job : JobState)
  | enqueue (jobId : String)
  | dequeue
  | grant
  | spawn
  | task (i : Nat) (now : Int) (answer : Answer)
  | reap (i : Nat)
  | cancelJob (jobId : String)
  | handler (h : Nat) (now : Int) (answer : Answer)
  | hardCancel (jobId : String)
  | sweep (now : Int) (answer : Answer)
  | stop
  | cancelTasks
  | clear
  /-- The process ends, and another one starts. -/
  | restart

/-- One action. -/
def jobStep (env : JobEnv) (w : JobWorld) : JobAction → Option JobWorld
  | .add job =>
      if job.status = .submitted ∧ (w.jobs job.id).isNone then
        some
          { w with
            jobs := Function.update w.jobs job.id (some ⟨0, job⟩)
            ids := w.ids ++ [job.id] }
      else none
  | .enqueue jobId => some (if w.stopping then w else { w with queue := w.queue ++ [jobId] })
  | .dequeue => dequeueStep w
  | .grant => grantStep w
  | .spawn => spawnStep w
  | .task i now answer => taskStep env w i now answer
  | .reap i => reapStep w i
  | .cancelJob jobId =>
      let point :=
        if jobId = "" then .answered (some (.badRequest "job_id is required")) else .loading
      some { w with handlers := w.handlers ++ [⟨jobId, point⟩] }
  | .handler h now answer => handlerStep env w h now answer
  | .hardCancel jobId =>
      if jobId ∈ w.timers then
        let w := { w with timers := w.timers.erase jobId }
        some (match w.runningTask jobId with
          | some i => w.cancelTask i
          | none => w)
      else none
  | .sweep now answer => sweepStep env w now answer
  | .stop => stopStep w
  | .cancelTasks => cancelTasksStep w
  | .clear => clearStep w
  | .restart =>
      some
        { JobWorld.boot env w.jobs w.ids with
          events := w.events
          executions := w.executions
          cancelled := w.cancelled }

end CmlCloudManager.ScenarioEngine
