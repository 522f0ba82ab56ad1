/-
  CmlCloudManager.ScenarioEngine.JobRuns
  ──────────────────────────────────────
  **WHAT AN ACTION OF THE SERVICE DOES.**

  `step_cases` says once what an action may do to the jobs and to those who work on
  them; every invariant of the service is derived from it.  The first is
  `CopiesHeld`, what the copies under way are based on:

    • the copy of a task that starts, on a job that was SUBMITTED,
    • the copy of a task that executes, on a job that was RUNNING,
    • what ends a job, on a job that was not finished.
-/
import CmlCloudManager.ScenarioEngine.JobExecution

namespace CmlCloudManager.ScenarioEngine

open CmlCloudManager.Foundation
open CmlCloudManager.Foundation.VersionedStore
open CmlCloudManager.Pipeline

variable {env : JobEnv} {w w' : JobWorld}

/-! ## §1. Writes. -/

/-- A write of a copy, and the copy after it. -/
theorem save_eq_some {jobId : String} {copy copy' : Versioned JobState}
    (h : w.save env jobId copy = some (w', copy')) :
    ∃ jobs, w.jobs.write env.mode jobId copy.version copy.doc = some jobs
      ∧ w' = { w with jobs := jobs } ∧ jobs jobId = some copy' ∧ copy'.doc = copy.doc := by
  unfold JobWorld.save at h
  split at h
  next stored jobs hstored hjobs =>
    obtain ⟨rfl, rfl⟩ := Prod.mk.inj (Option.some.inj h)
    obtain ⟨stored', hstored', rfl, -⟩ := write_eq_some hjobs
    obtain rfl := Option.some.inj (hstored.symm.trans hstored')
    exact ⟨_, hjobs, rfl, Function.update_self .., rfl⟩
  next => cases h

/-- A write that the repository does not take. -/
theorem save_eq_none {jobId : String} {copy : Versioned JobState}
    (h : w.save env jobId copy = none) :
    w.jobs.write env.mode jobId copy.version copy.doc = none := by
  cases hwrite : w.jobs.write env.mode jobId copy.version copy.doc with
  | none => rfl
  | some jobs =>
      obtain ⟨stored, hstored, -⟩ := write_eq_some hwrite
      unfold JobWorld.save at h
      rw [hstored, hwrite] at h
      cases h

/-- The await ends after its effect. -/
def Answer.applies : Answer → Bool
  | .done => true
  | .interrupted applied => applied
  | _ => false

/-- The copy a task is about to write. -/
def TaskPoint.saving : TaskPoint → Option (Versioned JobState)
  | .starting copy => some copy
  | .finishing copy _ _ => some copy
  | _ => none

/-- The copy a handler is about to write. -/
def HandlerPoint.cancelling : HandlerPoint → Option (Versioned JobState)
  | .saving copy => some copy
  | _ => none

/-- The copy the sweep is about to write. -/
def Dispatcher.failing (now : Int) : Dispatcher → Option (String × Versioned JobState)
  | .sweeping (.failing ((jobId, job) :: _)) =>
      some (jobId, ⟨job.version, job.doc.fail now restartError⟩)
  | _ => none

/-- The write an action makes if the repository takes it. -/
def JobAction.saves (w : JobWorld) : JobAction → Option (String × Versioned JobState)
  | .task i _ answer =>
      if answer.applies then
        (w.tasks[i]?).bind fun t => t.point.saving.map fun copy => (t.jobId, copy)
      else none
  | .handler k _ answer =>
      if answer.applies then
        (w.handlers[k]?).bind fun t => t.point.cancelling.map fun copy => (t.jobId, copy)
      else none
  | .sweep now answer => if answer.applies then w.dispatcher.failing now else none
  | _ => none

theorem TaskPoint.saving_iff {point : TaskPoint} {copy : Versioned JobState} :
    point.saving = some copy ↔ point.access = .save copy := by
  cases point <;> simp [TaskPoint.saving, TaskPoint.access]

theorem saves_task {i : Nat} {now : Int} {answer : Answer} {task : JobTask}
    {copy : Versioned JobState} (htask : w.tasks[i]? = some task)
    (haccess : task.point.access = .save copy) (happlies : answer.applies = true) :
    (JobAction.task i now answer).saves w = some (task.jobId, copy) := by
  show (if answer.applies then _ else none) = _
  rw [if_pos happlies, htask, Option.bind_some, TaskPoint.saving_iff.mpr haccess]
  rfl

theorem saves_handler {k : Nat} (now : Int) {handler : CancelHandler}
    {copy : Versioned JobState} (found : w.handlers[k]? = some handler)
    (saving : handler.point = .saving copy) :
    (JobAction.handler k now .done).saves w = some (handler.jobId, copy) := by
  show (w.handlers[k]?).bind _ = _
  rw [found, Option.bind_some, saving]
  rfl

theorem saves_sweep {now : Int} {jobId : String} {job : Versioned JobState}
    {rest : List (String × Versioned JobState)}
    (sweeping : w.dispatcher = .sweeping (.failing ((jobId, job) :: rest))) :
    (JobAction.sweep now .done).saves w
      = some (jobId, ⟨job.version, job.doc.fail now restartError⟩) := by
  show w.dispatcher.failing now = _
  rw [sweeping]
  rfl

/-! ## §2. The accesses of a task. -/

/-- The access may raise an exception of its own. -/
def Access.mayRaise : Access → Bool
  | .load => true
  | .save _ => true
  | .emit _ _ _ => true
  | _ => false

/-- A `CancelledError` may come without an effect of the access. -/
def Access.mayBeLost : Access → Bool → Bool
  | .load, _ => true
  | .save _, applied => !applied
  | .emit _ _ _, applied => !applied
  | _, _ => false

/-- **What an access may do**, and what the task sees of it. -/
inductive Performed (env : JobEnv) (w : JobWorld) (jobId : String) :
    Access → Answer → JobWorld → Reply → Prop where
  | loaded : Performed env w jobId .load .done w (.loaded (w.jobs jobId))
  | saved {copy copy' : Versioned JobState} {jobs : VersionedStore String JobState}
      (write : w.jobs.write env.mode jobId copy.version copy.doc = some jobs)
      (stored : jobs jobId = some copy') (same : copy'.doc = copy.doc) :
      Performed env w jobId (.save copy) .done { w with jobs := jobs } (.saved copy')
  | savedCancelled {copy : Versioned JobState} {jobs : VersionedStore String JobState}
      (write : w.jobs.write env.mode jobId copy.version copy.doc = some jobs) :
      Performed env w jobId (.save copy) (.interrupted true) { w with jobs := jobs } .cancelled
  | rejected {copy : Versioned JobState}
      (stale : w.jobs.write env.mode jobId copy.version copy.doc = none) :
      Performed env w jobId (.save copy) .done w (.raised staleMessage)
  | rejectedCancelled {copy : Versioned JobState}
      (stale : w.jobs.write env.mode jobId copy.version copy.doc = none) :
      Performed env w jobId (.save copy) (.interrupted true) w .cancelled
  | emitted {url : String} {job : JobState} {news : JobNews} :
      Performed env w jobId (.emit url job news) .done (w.send jobId url job news) .emitted
  | emittedRaised {url : String} {job : JobState} {news : JobNews} (message : String) :
      Performed env w jobId (.emit url job news) (.raisesAfter message)
        (w.send jobId url job news) (.raised message)
  | emittedCancelled {url : String} {job : JobState} {news : JobNews} :
      Performed env w jobId (.emit url job news) (.interrupted true)
        (w.send jobId url job news) .cancelled
  | returned (outcome : ScenarioOutcome) :
      Performed env w jobId .execute (.ends outcome) w (.returned outcome)
  | raised {a : Access} (message : String) (may : a.mayRaise = true) :
      Performed env w jobId a (.raises message) w (.raised message)
  | lost {a : Access} (applied : Bool) (may : a.mayBeLost applied = true) :
      Performed env w jobId a (.interrupted applied) w .cancelled

theorem perform_cases {jobId : String} {a : Access} {answer : Answer} {reply : Reply}
    (h : perform env w jobId a answer = some (w', reply)) :
    Performed env w jobId a answer w' reply := by
  unfold perform at h
  -- the equations of `perform`, first those of the load
  split at h
  next =>
    cases h
    exact .loaded
  next =>
    cases h
    exact .raised _ rfl
  next =>
    cases h
    exact .lost _ rfl
  -- a write, which the repository may reject
  next copy =>
    split at h
    next w₁ copy' hsave =>
      cases h
      obtain ⟨jobs, hwrite, rfl, hstored, hsame⟩ := save_eq_some hsave
      exact .saved hwrite hstored hsame
    next hsave =>
      cases h
      exact .rejected (save_eq_none hsave)
  next =>
    cases h
    exact .raised _ rfl
  next copy =>
    split at h
    next w₁ copy' hsave =>
      cases h
      obtain ⟨jobs, hwrite, rfl, -, -⟩ := save_eq_some hsave
      exact .savedCancelled hwrite
    next hsave =>
      cases h
      exact .rejectedCancelled (save_eq_none hsave)
  next =>
    cases h
    exact .lost _ rfl
  -- an event, and the scenario
  next =>
    cases h
    exact .emitted
  next =>
    cases h
    exact .raised _ rfl
  next =>
    cases h
    exact .emittedRaised _
  next =>
    cases h
    exact .emittedCancelled
  next =>
    cases h
    exact .lost _ rfl
  next =>
    cases h
    exact .returned _
  next => cases h

/-- **The step of a task**: its access, and the point it comes to. -/
theorem taskStep_cases {i : Nat} {now : Int} {answer : Answer}
    (h : taskStep env w i now answer = some w') :
    ∃ task w₁ reply, w.tasks[i]? = some task ∧ task.mayGet answer = true
      ∧ Performed env w task.jobId task.point.access answer w₁ reply
      ∧ w' = w₁.goto i task (resume env now task.eventSet task.point reply) := by
  unfold taskStep at h
  cases htask : w.tasks[i]? with
  | none =>
      rw [htask] at h
      cases h
  | some task =>
      rw [htask] at h
      dsimp only at h
      split at h
      next hmay =>
        obtain ⟨⟨w₁, reply⟩, hperform, rfl⟩ := Option.map_eq_some_iff.mp h
        exact ⟨task, w₁, reply, rfl, hmay, perform_cases hperform, rfl⟩
      next => cases h

section Goto

variable {i : Nat} {task : JobTask} {point : TaskPoint}

@[simp] theorem goto_jobs : (w.goto i task point).jobs = w.jobs := by
  unfold JobWorld.goto
  cases point <;> rfl

@[simp] theorem goto_handlers : (w.goto i task point).handlers = w.handlers := by
  unfold JobWorld.goto
  cases point <;> rfl

@[simp] theorem goto_dispatcher : (w.goto i task point).dispatcher = w.dispatcher := by
  unfold JobWorld.goto
  cases point <;> rfl

@[simp] theorem goto_permits : (w.goto i task point).permits = w.permits := by
  unfold JobWorld.goto
  cases point <;> rfl

@[simp] theorem goto_events : (w.goto i task point).events = w.events := by
  unfold JobWorld.goto
  cases point <;> rfl

@[simp] theorem goto_cancelled : (w.goto i task point).cancelled = w.cancelled := by
  unfold JobWorld.goto
  cases point <;> rfl

/-- A task that comes to execute its scenario calls it. -/
theorem goto_executions : (w.goto i task point).executions
    = match point with
      | .executing _ => w.executions ++ [task.jobId]
      | _ => w.executions := by
  unfold JobWorld.goto
  cases point <;> rfl

@[simp] theorem goto_tasks : (w.goto i task point).tasks
    = w.tasks.set i { task with point := point, cancelRequested := false } := by
  unfold JobWorld.goto
  cases point <;> rfl

end Goto

/-- An access leaves the parts of the service alone. -/
structure SameParts (w w' : JobWorld) : Prop where
  tasks : w'.tasks = w.tasks
  handlers : w'.handlers = w.handlers
  dispatcher : w'.dispatcher = w.dispatcher
  permits : w'.permits = w.permits
  registered : w'.cancellationEvents = w.cancellationEvents
  executions : w'.executions = w.executions
  cancelled : w'.cancelled = w.cancelled

theorem Performed.sameParts {jobId : String} {a : Access} {answer : Answer} {reply : Reply}
    (h : Performed env w jobId a answer w' reply) : SameParts w w' := by
  cases h <;> exact ⟨rfl, rfl, rfl, rfl, rfl, rfl, rfl⟩

/-! ## §3. The actions. -/

/-- A task, apart from a `cancel()` that has not reached it. -/
def JobTask.view (task : JobTask) : JobTask := { task with cancelRequested := false }

/-- The tasks without what is asked of them. -/
def JobWorld.views (w : JobWorld) : List JobTask := w.tasks.map JobTask.view

/-- Where the tasks are. -/
def JobWorld.points (w : JobWorld) : List (String × TaskPoint) :=
  w.tasks.map fun task => (task.jobId, task.point)

/-- What the sweep has left to fail. -/
def Dispatcher.left : Dispatcher → List (String × Versioned JobState)
  | .sweeping (.failing jobs) => jobs
  | _ => []

/-- The permit that the dispatch loop holds. -/
def Dispatcher.held : Dispatcher → Nat
  | .holding _ => 1
  | _ => 0

theorem Dispatcher.held_eq_zero {dispatcher : Dispatcher}
    (h : ∀ jobId, dispatcher ≠ .holding jobId) : dispatcher.held = 0 := by
  cases dispatcher with
  | holding jobId => exact absurd rfl (h jobId)
  | _ => rfl

/-- The free permits and the one that is held. -/
def JobWorld.reserve (w : JobWorld) : Nat := w.permits + w.dispatcher.held

/-- Nothing has happened to the jobs, and none of those who work on them has moved. -/
structure SameJobs (w w' : JobWorld) : Prop where
  jobs : w'.jobs = w.jobs
  views : w'.views = w.views
  handlers : w'.handlers = w.handlers
  events : w'.events = w.events
  executions : w'.executions = w.executions
  cancelled : w'.cancelled = w.cancelled
  registered : ∀ jobId i, w'.cancellationEvents.get? jobId = some i →
    w.cancellationEvents.get? jobId = some i

/-- **What an action may do.** -/
inductive JobMove (env : JobEnv) (w : JobWorld) : JobAction → JobWorld → Prop where
  /-- The queue, the permits, the timers and the requests to cancel. -/
  | scheduled {action : JobAction} {w' : JobWorld} (same : SameJobs w w')
      (reserve : w'.reserve = w.reserve) (left : w'.dispatcher.left ⊆ w.dispatcher.left) :
      JobMove env w action w'
  | added {job : JobState} (new : w.jobs job.id = none) (submitted : job.status = .submitted) :
      JobMove env w (.add job)
        { w with
          jobs := Function.update w.jobs job.id (some ⟨0, job⟩)
          ids := w.ids ++ [job.id] }
  | listed {now : Int} (sweeping : w.dispatcher = .sweeping .listingRunning) :
      JobMove env w (.sweep now .done) { w with dispatcher := sweepOn (w.withStatus .running) }
  | swept {now : Int} {jobId : String} {job : Versioned JobState}
      {rest : List (String × Versioned JobState)} {jobs : VersionedStore String JobState}
      (sweeping : w.dispatcher = .sweeping (.failing ((jobId, job) :: rest)))
      (write : w.jobs.write env.mode jobId job.version (job.doc.fail now restartError)
        = some jobs) :
      JobMove env w (.sweep now .done) { w with jobs := jobs, dispatcher := sweepOn rest }
  | spawned {jobId : String} (holding : w.dispatcher = .holding jobId) :
      JobMove env w .spawn
        { w with
          tasks := w.tasks ++ [{ jobId := jobId }]
          runningTasks := w.runningTasks.set jobId w.tasks.length
          dispatcher := .waiting }
  | moved {i : Nat} {now : Int} {answer : Answer} {task : JobTask} {w₁ : JobWorld}
      {reply : Reply} (found : w.tasks[i]? = some task)
      (performed : Performed env w task.jobId task.point.access answer w₁ reply) :
      JobMove env w (.task i now answer)
        (w₁.goto i task (resume env now task.eventSet task.point reply))
  | reaped {i : Nat} {task : JobTask} (found : w.tasks[i]? = some task)
      (ended : task.point = .ended) :
      JobMove env w (.reap i)
        { w with
          tasks := w.tasks.set i { task with point := .reaped }
          runningTasks := w.runningTasks.erase task.jobId
          cancellationEvents := w.cancellationEvents.erase task.jobId
          permits := w.permits + 1 }
  | asked {jobId : String} {point : HandlerPoint} (start : ∀ copy, point ≠ .saving copy) :
      JobMove env w (.cancelJob jobId) { w with handlers := w.handlers ++ [⟨jobId, point⟩] }
  | handled {k : Nat} {now : Int} {answer : Answer} {handler : CancelHandler}
      {point : HandlerPoint} (found : w.handlers[k]? = some handler)
      (next : point = afterCancelLoad now handler.jobId (w.jobs handler.jobId)
        ∨ point = .answered none) :
      JobMove env w (.handler k now answer) (w.gotoHandler k handler point)
  | cancelled {k : Nat} {now : Int} {handler : CancelHandler} {copy : Versioned JobState}
      {jobs : VersionedStore String JobState} (found : w.handlers[k]? = some handler)
      (saving : handler.point = .saving copy)
      (write : w.jobs.write env.mode handler.jobId copy.version copy.doc = some jobs) :
      JobMove env w (.handler k now .done)
        { ({ w with jobs := jobs }.requestCancel handler.jobId).gotoHandler k handler
            (.answered (some (.ok ()))) with
          cancelled := w.cancelled ++ [handler.jobId] }
  | restarted :
      JobMove env w .restart
        { JobWorld.boot env w.jobs w.ids with
          events := w.events
          executions := w.executions
          cancelled := w.cancelled }

theorem cancelTask_views (i : Nat) : (w.cancelTask i).views = w.views := by
  -- a task's view does not show that its cancellation was requested
  refine List.ext_getElem? fun j => ?_
  simp only [JobWorld.views, JobWorld.cancelTask, List.getElem?_map, List.getElem?_modify]
  split
  next => cases w.tasks[j]? <;> rfl
  next => cases w.tasks[j]? <;> rfl

theorem cancelTasks_same (tasks : List Nat) :
    SameJobs w (tasks.foldl JobWorld.cancelTask w)
      ∧ (tasks.foldl JobWorld.cancelTask w).dispatcher = w.dispatcher
      ∧ (tasks.foldl JobWorld.cancelTask w).permits = w.permits := by
  induction tasks generalizing w with
  | nil => exact ⟨⟨rfl, rfl, rfl, rfl, rfl, rfl, fun _ _ h => h⟩, rfl, rfl⟩
  | cons i rest ih =>
      obtain ⟨hsame, hdispatcher, hpermits⟩ := @ih (w.cancelTask i)
      exact ⟨{ hsame with views := hsame.views.trans (cancelTask_views i) }, hdispatcher, hpermits⟩

theorem handlerStep_cases {k : Nat} {now : Int} {answer : Answer}
    (h : handlerStep env w k now answer = some w') :
    JobMove env w (.handler k now answer) w' := by
  unfold handlerStep at h
  split at h
  next => cases h
  next handler hhandler =>
    split at h
    next =>
      cases h
      exact .handled hhandler (.inl rfl)
    next copy hpoint =>
      split at h
      next w₁ copy' hsave =>
        cases h
        obtain ⟨jobs, hwrite, rfl, -, -⟩ := save_eq_some hsave
        exact .cancelled hhandler hpoint hwrite
      next =>
        cases h
        exact .handled hhandler (.inr rfl)
    next =>
      cases h
      exact .handled hhandler (.inr rfl)
    next =>
      cases h
      exact .handled hhandler (.inr rfl)
    next => cases h

/-- An action that only schedules leaves these parts as they are. -/
theorem SameJobs.of_eq (jobs : w'.jobs = w.jobs) (tasks : w'.tasks = w.tasks)
    (handlers : w'.handlers = w.handlers) (events : w'.events = w.events)
    (executions : w'.executions = w.executions) (cancelled : w'.cancelled = w.cancelled)
    (registered : w'.cancellationEvents = w.cancellationEvents) : SameJobs w w' where
  jobs := jobs
  views := congrArg (List.map JobTask.view) tasks
  handlers := handlers
  events := events
  executions := executions
  cancelled := cancelled
  registered jobId i h := by rwa [registered] at h

/-- The sweep or the dispatch loop goes on, with the permits it takes or gives back. -/
theorem JobMove.dispatched {action : JobAction} {queue : List String} {permits : Nat}
    {dispatcher : Dispatcher} {stopping : Bool}
    (reserve : permits + dispatcher.held = w.permits + w.dispatcher.held)
    (left : dispatcher.left = []) :
    JobMove env w action
      { w with
        queue := queue
        permits := permits
        dispatcher := dispatcher
        stopping := stopping } := by
  refine .scheduled (.of_eq rfl rfl rfl rfl rfl rfl rfl) reserve ?_
  show dispatcher.left ⊆ _
  rw [left]
  exact List.nil_subset _

theorem sweepStep_cases {now : Int} {answer : Answer} (h : sweepStep env w now answer = some w') :
    JobMove env w (.sweep now answer) w' := by
  unfold sweepStep at h
  split at h
  next hdispatcher =>
    cases h
    exact .dispatched (by simp only [hdispatcher, Dispatcher.held]) rfl
  next hdispatcher =>
    cases h
    exact .listed hdispatcher
  next jobId job rest hdispatcher =>
    split at h
    next w₁ copy' hsave =>
      cases h
      obtain ⟨jobs, hwrite, rfl, -, -⟩ := save_eq_some hsave
      exact .swept hdispatcher hwrite
    next =>
      cases h
      exact .dispatched (by simp only [hdispatcher, Dispatcher.held]) rfl
  next hdispatcher =>
    cases h
    exact .dispatched (by simp only [hdispatcher, Dispatcher.held]) rfl
  next => cases h

/-- **What an action has done.** -/
theorem step_cases {action : JobAction} (h : jobStep env w action = some w') :
    JobMove env w action w' := by
  cases action with
  | add job =>
      change (if job.status = .submitted ∧ (w.jobs job.id).isNone then some _ else none)
        = some w' at h
      split at h
      next hnew =>
        cases h
        exact .added (Option.isNone_iff_eq_none.mp hnew.2) hnew.1
      next => cases h
  | enqueue jobId =>
      cases h
      -- a service that stops ignores the id
      split
      next =>
        exact .scheduled (.of_eq rfl rfl rfl rfl rfl rfl rfl) rfl (List.Subset.refl _)
      next =>
        exact .scheduled (.of_eq rfl rfl rfl rfl rfl rfl rfl) rfl (List.Subset.refl _)
  | dequeue =>
      change dequeueStep w = some w' at h
      unfold dequeueStep at h
      split at h
      next hdispatcher hqueue =>
        cases h
        exact .dispatched (by simp only [hdispatcher, Dispatcher.held]) rfl
      next => cases h
  | grant =>
      change grantStep w = some w' at h
      unfold grantStep at h
      -- the permit that is taken is the one that is held
      split at h
      next jobId permits hdispatcher hpermits =>
        cases h
        exact .dispatched (by simp only [hdispatcher, hpermits, Dispatcher.held]) rfl
      next => cases h
  | spawn =>
      change spawnStep w = some w' at h
      unfold spawnStep at h
      split at h
      next jobId hdispatcher =>
        cases h
        exact .spawned hdispatcher
      next => cases h
  | task i now answer =>
      obtain ⟨task, w₁, reply, htask, -, hperformed, rfl⟩ := taskStep_cases h
      exact .moved htask hperformed
  | reap i =>
      change reapStep w i = some w' at h
      unfold reapStep at h
      split at h
      next task htask =>
        split at h
        next hended =>
          cases h
          exact .reaped htask hended
        next => cases h
      next => cases h
  | cancelJob jobId =>
      cases h
      refine .asked fun copy hpoint => ?_
      split at hpoint <;> cases hpoint
  | handler k now answer => exact handlerStep_cases h
  | hardCancel jobId =>
      change (if jobId ∈ w.timers then some _ else none) = some w' at h
      split at h
      next =>
        cases h
        split
        next i hi =>
          refine .scheduled ⟨rfl, cancelTask_views i, rfl, rfl, rfl, rfl, fun _ _ h => h⟩ rfl ?_
          exact List.Subset.refl _
        next =>
          exact .scheduled (.of_eq rfl rfl rfl rfl rfl rfl rfl) rfl (List.Subset.refl _)
      next => cases h
  | sweep now answer => exact sweepStep_cases h
  | stop =>
      change stopStep w = some w' at h
      unfold stopStep at h
      split at h
      next => cases h
      -- a loop that holds a permit gives it back
      next hdispatcher =>
        cases h
        exact .dispatched (by simp only [hdispatcher, Dispatcher.held]) rfl
      next hsweeping hholding =>
        cases h
        exact .dispatched (by simp only [Dispatcher.held]) rfl
  | cancelTasks =>
      change cancelTasksStep w = some w' at h
      unfold cancelTasksStep at h
      split at h
      next =>
        cases h
        obtain ⟨hsame, hdispatcher, hpermits⟩ := cancelTasks_same
          (w.runningTasks.entries.filterMap fun entry => w.runningTask entry.1)
        refine .scheduled hsame ?_ ?_
        · simp only [JobWorld.reserve, hdispatcher, hpermits]
        · rw [hdispatcher]
          exact List.Subset.refl _
      next => cases h
  | clear =>
      change clearStep w = some w' at h
      unfold clearStep at h
      split at h
      next =>
        cases h
        refine .scheduled ⟨rfl, rfl, rfl, rfl, rfl, rfl, ?_⟩ rfl (List.Subset.refl _)
        intro jobId i h
        cases h
      next => cases h
  | restart =>
      cases h
      exact .restarted

/-! ## §4. The copies under way. -/

/-- What the copy of a task is based on, and what it is about to tell. -/
def TaskPoint.Held (jobs : VersionedStore String JobState) (jobId : String) : TaskPoint → Prop
  | .starting copy =>
      copy.doc.status = .running ∧ jobs.BasedOn jobId copy.version (·.status = .submitted)
  | .announcing _ copy news =>
      news.final = none ∧ jobs.BasedOn jobId copy.version (·.status = .running)
  | .executing copy => jobs.BasedOn jobId copy.version (·.status = .running)
  | .finishing copy news _ =>
      news.final = some copy.doc.status ∧ copy.doc.status.isFinished = true
        ∧ jobs.BasedOn jobId copy.version (·.status.isFinished = false)
  | .reporting _ _ news _ => news.final.isSome = true
  | _ => True

/-- A cancelled copy of a job that was not finished. -/
def HandlerPoint.Held (jobs : VersionedStore String JobState) (jobId : String) :
    HandlerPoint → Prop
  | .saving copy =>
      copy.doc.status = .cancelled ∧ jobs.BasedOn jobId copy.version (·.status.isFinished = false)
  | _ => True

/-- The jobs that the sweep found RUNNING. -/
def Dispatcher.Held (jobs : VersionedStore String JobState) (dispatcher : Dispatcher) : Prop :=
  ∀ entry ∈ dispatcher.left, jobs.BasedOn entry.1 entry.2.version (·.status = .running)

/-- **The copies under way.** -/
structure CopiesHeld (w : JobWorld) : Prop where
  tasks : ∀ entry ∈ w.points, entry.2.Held w.jobs entry.1
  handlers : ∀ handler ∈ w.handlers, handler.point.Held w.jobs handler.jobId
  sweep : w.dispatcher.Held w.jobs

section Held

variable {jobs jobs' : VersionedStore String JobState} {jobId : String}

theorem TaskPoint.Held.grows {point : TaskPoint} (h : point.Held jobs jobId)
    (hgrows : jobs.Grows jobs') : point.Held jobs' jobId := by
  cases point with
  | starting copy => exact ⟨h.1, h.2.grows hgrows⟩
  | announcing url copy news => exact ⟨h.1, h.2.grows hgrows⟩
  | executing copy =>
      change jobs.BasedOn jobId copy.version (·.status = .running) at h
      exact h.grows hgrows
  | finishing copy news caught => exact ⟨h.1, h.2.1, h.2.2.grows hgrows⟩
  | _ => exact h

theorem HandlerPoint.Held.grows {point : HandlerPoint} (h : point.Held jobs jobId)
    (hgrows : jobs.Grows jobs') : point.Held jobs' jobId := by
  cases point with
  | saving copy => exact ⟨h.1, h.2.grows hgrows⟩
  | _ => exact h

theorem Dispatcher.Held.grows {dispatcher : Dispatcher} (h : dispatcher.Held jobs)
    (hgrows : jobs.Grows jobs') : dispatcher.Held jobs' :=
  fun entry hentry => (h entry hentry).grows hgrows

/-- An event is sent, or there is nowhere to send it. -/
theorem emit_cases (env : JobEnv) (job : JobState) (sending : String → TaskPoint)
    (skipped : TaskPoint) :
    (∃ url, env.resolveTargetUrl job.callbackUrl = some url
        ∧ env.emit job sending skipped = sending url)
      ∨ env.resolveTargetUrl job.callbackUrl = none
        ∧ env.emit job sending skipped = skipped := by
  unfold JobEnv.emit
  cases env.resolveTargetUrl job.callbackUrl with
  | none => exact .inr ⟨rfl, rfl⟩
  | some url => exact .inl ⟨url, rfl, rfl⟩

/-- What holds of both outcomes of an emission. -/
theorem emit_rule {P : TaskPoint → Prop} {job : JobState} {sending : String → TaskPoint}
    {skipped : TaskPoint} (hsending : ∀ url, P (sending url)) (hskipped : P skipped) :
    P (env.emit job sending skipped) := by
  rcases emit_cases env job sending skipped with ⟨url, -, heq⟩ | ⟨-, heq⟩
  · rw [heq]
    exact hsending url
  · rw [heq]
    exact hskipped

/-- What was read is a base. -/
theorem basedOn_read (job : Versioned JobState) {P : JobState → Prop}
    (hstored : jobs jobId = some job) (hP : P job.doc) : jobs.BasedOn jobId job.version P :=
  ⟨job, readFrom_stored hstored, rfl, hP⟩

theorem afterLoad_held {now : Int} {job : Versioned JobState} (hstored : jobs jobId = some job) :
    (afterLoad env now job).Held jobs jobId := by
  unfold afterLoad
  split
  next => trivial
  next hsubmitted =>
    rw [not_not] at hsubmitted
    split
    next => exact ⟨rfl, basedOn_read job hstored hsubmitted⟩
    next => exact ⟨rfl, rfl, basedOn_read job hstored (congrArg JobStatus.isFinished hsubmitted)⟩

theorem afterExecution_held {now : Int} {eventSet : Bool} {copy : Versioned JobState}
    (hcopy : jobs.BasedOn jobId copy.version (·.status = .running)) (outcome : ScenarioOutcome) :
    (afterExecution env now eventSet copy outcome).Held jobs jobId := by
  have hbase : jobs.BasedOn jobId copy.version (·.status.isFinished = false) := by
    obtain ⟨read, hread, hversion, hrunning⟩ := hcopy
    exact ⟨read, hread, hversion, congrArg JobStatus.isFinished hrunning⟩
  unfold afterExecution
  split
  next => exact ⟨rfl, rfl, hbase⟩
  next => exact ⟨rfl, rfl, hbase⟩
  next => exact ⟨rfl, rfl, hbase⟩
  next => trivial
  next => exact ⟨rfl, rfl, hbase⟩
  next =>
    split
    next => exact emit_rule (fun _ => rfl) trivial
    next => exact ⟨rfl, rfl, hbase⟩
  next => trivial

theorem afterCancelLoad_held {now : Int} :
    (afterCancelLoad now jobId (jobs jobId)).Held jobs jobId := by
  unfold afterCancelLoad
  split
  next => trivial
  next job hstored =>
    split
    next => trivial
    next hopen => exact ⟨rfl, basedOn_read job hstored (Bool.eq_false_iff.mpr hopen)⟩

end Held

/-- Nobody takes a copy back. -/
theorem Performed.grows {jobId : String} {a : Access} {answer : Answer} {reply : Reply}
    (h : Performed env w jobId a answer w' reply) : w.jobs.Grows w'.jobs := by
  cases h with
  | saved write stored same => exact grows_write write
  | savedCancelled write => exact grows_write write
  | _ => exact Grows.refl _

/-- The task comes to a point with a copy that is based on what it read. -/
theorem Performed.held {task : JobTask} {now : Int} {answer : Answer} {reply : Reply}
    (h : Performed env w task.jobId task.point.access answer w' reply)
    (hheld : task.point.Held w.jobs task.jobId) :
    (resume env now task.eventSet task.point reply).Held w'.jobs task.jobId := by
  have hafter := hheld.grows h.grows
  generalize haccess : task.point.access = a at h
  unfold resume
  -- the cases of `resume`: what the task holds next, given the reply
  split
  next job hpoint =>
    rw [hpoint] at haccess
    cases haccess
    generalize hjob : some job = loaded at h
    cases h
    exact afterLoad_held hjob.symm
  next => trivial
  next copy copy' hpoint =>
    rw [hpoint] at haccess hheld
    cases haccess
    cases h with
    | saved write stored same =>
        have hbase := basedOn_read copy' stored (P := (·.status = .running))
          (by rw [same]; exact hheld.1)
        exact emit_rule (fun _ => ⟨rfl, hbase⟩) hbase
  next => trivial
  next url copy news hpoint =>
    rw [hpoint] at hafter
    exact hafter.2
  next => trivial
  next copy outcome hpoint =>
    rw [hpoint] at hafter
    exact afterExecution_held hafter outcome
  next copy news caught copy' hpoint =>
    rw [hpoint] at hafter
    have htold : news.final.isSome = true := by
      rw [hafter.1]
      rfl
    exact emit_rule (fun _ => htold) trivial
  next => trivial
  next => trivial
  next error job hpoint =>
    rw [hpoint] at haccess
    cases haccess
    generalize hjob : some job = loaded at h
    cases h
    split
    next hrunning =>
      exact ⟨rfl, rfl, basedOn_read job hjob.symm (congrArg JobStatus.isFinished hrunning)⟩
    next => trivial
  next => trivial

theorem views_points : w.points = w.views.map fun task => (task.jobId, task.point) := by
  unfold JobWorld.points JobWorld.views
  rw [List.map_map]
  rfl

theorem SameJobs.points (h : SameJobs w w') : w'.points = w.points := by
  rw [views_points, views_points, h.views]

theorem Performed.points {jobId : String} {a : Access} {answer : Answer} {reply : Reply}
    (h : Performed env w jobId a answer w' reply) : w'.points = w.points := by
  unfold JobWorld.points
  rw [h.sameParts.tasks]

theorem goto_points {i : Nat} {task : JobTask} {point : TaskPoint} :
    (w.goto i task point).points = w.points.set i (task.jobId, point) := by
  unfold JobWorld.points
  rw [goto_tasks, List.map_set]

theorem points_get {i : Nat} {task : JobTask} (found : w.tasks[i]? = some task) :
    w.points[i]? = some (task.jobId, task.point) := by
  unfold JobWorld.points
  rw [List.getElem?_map, found]
  rfl

theorem points_spawned {jobId : String} (h : w'.tasks = w.tasks ++ [{ jobId := jobId }]) :
    w'.points = w.points ++ [(jobId, .loading)] := by
  unfold JobWorld.points
  rw [h, List.map_append]
  rfl

theorem points_reaped {i : Nat} {task : JobTask}
    (h : w'.tasks = w.tasks.set i { task with point := .reaped }) :
    w'.points = w.points.set i (task.jobId, .reaped) := by
  unfold JobWorld.points
  rw [h, List.map_set]

/-- A request to cancel moves no task. -/
theorem requestCancel_points {jobId : String} : (w.requestCancel jobId).points = w.points := by
  refine List.ext_getElem? fun j => ?_
  unfold JobWorld.points JobWorld.requestCancel
  dsimp only
  split
  next i hi =>
    simp only [List.getElem?_map, List.getElem?_modify]
    split
    next => cases w.tasks[j]? <;> rfl
    next => cases w.tasks[j]? <;> rfl
  next => rfl

/-- No action takes a copy back. -/
theorem JobMove.grows {action : JobAction} (h : JobMove env w action w') :
    w.jobs.Grows w'.jobs := by
  cases h with
  | scheduled same reserve left =>
      rw [same.jobs]
      exact Grows.refl _
  | added new submitted => exact grows_insert new _
  | swept sweeping write => exact grows_write write
  | moved found performed =>
      rw [goto_jobs]
      exact performed.grows
  | cancelled found saving write => exact grows_write write
  | _ => exact Grows.refl _

theorem sweepOn_left (jobs : List (String × Versioned JobState)) : (sweepOn jobs).left = jobs := by
  cases jobs <;> rfl

/-- The sweep starts with the jobs as they are stored. -/
theorem withStatus_held : (sweepOn (w.withStatus .running)).Held w.jobs := by
  intro entry hentry
  rw [sweepOn_left] at hentry
  obtain ⟨id, -, hid⟩ := List.mem_filterMap.mp hentry
  obtain ⟨job, hjob, rfl⟩ := Option.map_eq_some_iff.mp hid
  obtain ⟨hstored, hrunning⟩ := Option.filter_eq_some_iff.mp hjob
  exact basedOn_read job hstored (of_decide_eq_true hrunning)

/-- Where a service starts there are no copies. -/
theorem boot_copiesHeld (env : JobEnv) (jobs : VersionedStore String JobState)
    (ids : List String) : CopiesHeld (JobWorld.boot env jobs ids) where
  tasks _ htask := absurd htask List.not_mem_nil
  handlers _ hhandler := absurd hhandler List.not_mem_nil
  sweep _ hentry := absurd hentry List.not_mem_nil

/-- **The step lemma**: what the copies are based on, every action keeps. -/
theorem JobMove.copiesHeld {action : JobAction} (h : JobMove env w action w')
    (hheld : CopiesHeld w) : CopiesHeld w' := by
  -- what a copy is based on stays stored: documents only grow in version
  have hgrows := h.grows
  have htasks : ∀ entry ∈ w.points, entry.2.Held w'.jobs entry.1 :=
    fun entry hentry => (hheld.tasks entry hentry).grows hgrows
  have hhandlers : ∀ handler ∈ w.handlers, handler.point.Held w'.jobs handler.jobId :=
    fun handler hhandler => (hheld.handlers handler hhandler).grows hgrows
  have hsweep : w.dispatcher.Held w'.jobs := hheld.sweep.grows hgrows
  cases h with
  | scheduled same reserve left =>
      refine ⟨?_, ?_, fun entry hentry => hsweep entry (left hentry)⟩
      · rwa [same.points]
      · rwa [same.handlers]
  | added new submitted => exact ⟨htasks, hhandlers, hsweep⟩
  | listed sweeping => exact ⟨htasks, hhandlers, withStatus_held⟩
  | swept sweeping write =>
      refine ⟨htasks, hhandlers, fun entry hentry => ?_⟩
      rw [sweepOn_left] at hentry
      exact hsweep entry (by rw [sweeping]; exact List.mem_cons_of_mem _ hentry)
  | spawned holding =>
      refine ⟨fun entry hentry => ?_, hhandlers, fun _ hentry => absurd hentry List.not_mem_nil⟩
      -- the new task holds no copy yet
      rw [points_spawned rfl] at hentry
      rcases List.mem_append.mp hentry with hold | hnew
      · exact htasks entry hold
      · obtain rfl := List.mem_singleton.mp hnew
        trivial
  | @moved i now answer task w₁ reply found performed =>
      have hsame := performed.sameParts
      have htask := hheld.tasks _ (List.mem_map_of_mem (List.mem_of_getElem? found))
      refine ⟨fun entry hentry => ?_, ?_, ?_⟩
      · rw [goto_points, performed.points] at hentry
        rcases List.mem_or_eq_of_mem_set hentry with hold | rfl
        · exact htasks entry hold
        · rw [goto_jobs]
          exact performed.held htask
      · rw [goto_handlers, hsame.handlers]
        exact hhandlers
      · rw [goto_dispatcher, hsame.dispatcher]
        exact hsweep
  | reaped found ended =>
      refine ⟨fun entry hentry => ?_, hhandlers, hsweep⟩
      rw [points_reaped rfl] at hentry
      rcases List.mem_or_eq_of_mem_set hentry with hold | rfl
      · exact htasks entry hold
      · trivial
  | @asked jobId point start =>
      refine ⟨htasks, fun handler hhandler => ?_, hsweep⟩
      rcases List.mem_append.mp hhandler with hold | hnew
      · exact hhandlers handler hold
      · obtain rfl := List.mem_singleton.mp hnew
        cases point with
        | saving copy => exact absurd rfl (start copy)
        | _ => trivial
  | handled found next =>
      refine ⟨htasks, fun handler' hhandler' => ?_, hsweep⟩
      rcases List.mem_or_eq_of_mem_set hhandler' with hold | rfl
      · exact hhandlers handler' hold
      · rcases next with rfl | rfl
        · exact afterCancelLoad_held
        · trivial
  | cancelled found saving write =>
      refine ⟨fun entry hentry => ?_, fun handler' hhandler' => ?_, hsweep⟩
      · change entry ∈ JobWorld.points (JobWorld.requestCancel _ _) at hentry
        rw [requestCancel_points] at hentry
        exact htasks entry hentry
      · rcases List.mem_or_eq_of_mem_set hhandler' with hold | rfl
        · exact hhandlers handler' hold
        · trivial
  | restarted =>
      have hboot := boot_copiesHeld env w.jobs w.ids
      exact ⟨hboot.tasks, hboot.handlers, hboot.sweep⟩

/-! ## §5. The stored jobs. -/

/-- The status of a stored job. -/
def JobWorld.status (w : JobWorld) (jobId : String) : Option JobStatus :=
  (w.jobs jobId).map (·.doc.status)

theorem status_eq {jobId : String} {stored : Versioned JobState}
    (h : w.jobs jobId = some stored) : w.status jobId = some stored.doc.status := by
  unfold JobWorld.status
  rw [h]
  rfl

/-- What an action does to the stored jobs. -/
inductive JobsEffect (env : JobEnv) (w : JobWorld) (action : JobAction) :
    VersionedStore String JobState → Prop where
  | same : JobsEffect env w action w.jobs
  | added {job : JobState} (new : w.jobs job.id = none) (submitted : job.status = .submitted) :
      JobsEffect env w action (Function.update w.jobs job.id (some ⟨0, job⟩))
  | written {jobId : String} {copy : Versioned JobState} {jobs : VersionedStore String JobState}
      (saves : action.saves w = some (jobId, copy))
      (write : w.jobs.write env.mode jobId copy.version copy.doc = some jobs) :
      JobsEffect env w action jobs

/-- **The stored jobs** are added to, or written to from a copy. -/
theorem JobMove.jobsEffect {action : JobAction} (h : JobMove env w action w') :
    JobsEffect env w action w'.jobs := by
  cases h with
  | scheduled same reserve left =>
      rw [same.jobs]
      exact .same
  | added new submitted => exact .added new submitted
  | @swept now jobId job rest jobs sweeping write =>
      exact @JobsEffect.written env w _ jobId ⟨_, job.doc.fail now restartError⟩ jobs
        (saves_sweep sweeping) write
  | @moved i now answer task w₁ reply found performed =>
      rw [goto_jobs]
      generalize haccess : task.point.access = a at performed
      cases performed with
      | saved write stored same => exact .written (saves_task found haccess rfl) write
      | savedCancelled write => exact .written (saves_task found haccess rfl) write
      | _ => exact .same
  | cancelled found saving write => exact .written (saves_handler _ found saving) write
  | _ => exact .same

/-- A copy to write: not SUBMITTED, of a job that was not finished. -/
def Advances (jobs : VersionedStore String JobState) (jobId : String)
    (copy : Versioned JobState) : Prop :=
  copy.doc.status ≠ .submitted
    ∧ jobs.BasedOn jobId copy.version (·.status.isFinished = false)

section Advances

variable {jobs : VersionedStore String JobState} {jobId : String} {copy : Versioned JobState}

theorem TaskPoint.Held.advances {point : TaskPoint} (h : point.Held jobs jobId)
    (hsaving : point.saving = some copy) : Advances jobs jobId copy := by
  cases point with
  | starting copy =>
      cases hsaving
      obtain ⟨hrunning, read, hread, hversion, hsubmitted⟩ := h
      exact ⟨by rw [hrunning]; decide, read, hread, hversion,
        congrArg JobStatus.isFinished hsubmitted⟩
  | finishing copy news caught =>
      cases hsaving
      refine ⟨fun hsubmitted => ?_, h.2.2⟩
      have hfinished := h.2.1
      rw [hsubmitted] at hfinished
      cases hfinished
  | _ => cases hsaving

theorem HandlerPoint.Held.advances {point : HandlerPoint} (h : point.Held jobs jobId)
    (hcancelling : point.cancelling = some copy) : Advances jobs jobId copy := by
  cases point with
  | saving copy =>
      cases hcancelling
      exact ⟨by rw [h.1]; decide, h.2⟩
  | _ => cases hcancelling

theorem Dispatcher.Held.advances {dispatcher : Dispatcher} {now : Int} (h : dispatcher.Held jobs)
    (hfailing : dispatcher.failing now = some (jobId, copy)) : Advances jobs jobId copy := by
  unfold Dispatcher.failing at hfailing
  split at hfailing
  next jobId job rest =>
    cases hfailing
    obtain ⟨read, hread, hversion, hrunning⟩ := h (_, job) (List.mem_cons_self ..)
    exact ⟨JobStatus.noConfusion, read, hread, hversion, congrArg JobStatus.isFinished hrunning⟩
  next => cases hfailing

end Advances

/-- **What is written.** -/
theorem CopiesHeld.saves (h : CopiesHeld w) {action : JobAction} {jobId : String}
    {copy : Versioned JobState} (hsaves : action.saves w = some (jobId, copy)) :
    Advances w.jobs jobId copy := by
  unfold JobAction.saves at hsaves
  split at hsaves
  next i now answer =>
    split at hsaves
    next =>
      obtain ⟨task, htask, hcopy⟩ := Option.bind_eq_some_iff.mp hsaves
      obtain ⟨copy', hsaving, heq⟩ := Option.map_eq_some_iff.mp hcopy
      obtain ⟨rfl, rfl⟩ := Prod.mk.inj heq
      have hheld := h.tasks _ (List.mem_map_of_mem (List.mem_of_getElem? htask))
      exact hheld.advances hsaving
    next => cases hsaves
  next k now answer =>
    split at hsaves
    next =>
      obtain ⟨handler, hhandler, hcopy⟩ := Option.bind_eq_some_iff.mp hsaves
      obtain ⟨copy', hcancelling, heq⟩ := Option.map_eq_some_iff.mp hcopy
      obtain ⟨rfl, rfl⟩ := Prod.mk.inj heq
      exact (h.handlers handler (List.mem_of_getElem? hhandler)).advances hcancelling
    next => cases hsaves
  next now answer =>
    split at hsaves
    next => exact h.sweep.advances hsaves
    next => cases hsaves
  next => cases hsaves

end CmlCloudManager.ScenarioEngine
