/-
  CmlCloudManager.ScenarioEngine.JobConcurrency
  ─────────────────────────────────────────────
  **A SCENARIO IS EXECUTED ONCE.**

  An id may be enqueued any number of times.  Each time it becomes a task, and a task
  goes on only if it loads the job as SUBMITTED; but the job stays SUBMITTED until the
  write of that task, an await later.  Of two tasks that have both seen SUBMITTED the
  second write is stale: a repository that rejects it stops the second task, one that
  takes it lets both execute the scenario.

  A permit is taken for each task and given back by its callback, whatever becomes of
  the job and of the entries that the tasks of one job take from each other.

    • `permits_balanced` — free permits and tasks add up to the configured number,
    • `BegunOnce.step`   — of a job that is begun no task starts again,
    • `executed_once`    — no scenario is executed twice, unless two tasks load a job as
                           SUBMITTED at the same time,
    • `executed_twice`   — such a job, enqueued twice.
-/
import CmlCloudManager.ScenarioEngine.FinishedJobs

namespace CmlCloudManager.ScenarioEngine

open CmlCloudManager.Foundation
open CmlCloudManager.Foundation.VersionedStore
open CmlCloudManager.Pipeline

variable {env : JobEnv} {w w' : JobWorld}

/-! ## §1. Counting tasks. -/

/-- How far a task is on its way to the execution. -/
inductive TaskStage where
  | starting
  | announcing
  | executing
  | elsewhere
  deriving DecidableEq

/-- The stage of a point. -/
def TaskPoint.stage : TaskPoint → TaskStage
  | .starting _ => .starting
  | .announcing _ _ _ => .announcing
  | .executing _ => .executing
  | _ => .elsewhere

/-- The tasks of a job at a stage. -/
def JobWorld.tasksAt (w : JobWorld) (stage : TaskStage) (jobId : String) : Nat :=
  w.points.countP fun entry => entry.1 = jobId && entry.2.stage = stage

variable {stage : TaskStage} {i : Nat} {task : JobTask} {point : TaskPoint} {jobId : String}

theorem tasksAt_of_points (hpoints : w'.points = w.points) :
    w'.tasksAt stage jobId = w.tasksAt stage jobId := by
  unfold JobWorld.tasksAt
  rw [hpoints]

/-- A task that moves leaves its stage for another one. -/
theorem tasksAt_set (stage : TaskStage) (found : w.tasks[i]? = some task)
    (hpoints : w'.points = w.points.set i (task.jobId, point)) :
    w'.tasksAt stage task.jobId + (if task.point.stage = stage then 1 else 0)
      = w.tasksAt stage task.jobId + (if point.stage = stage then 1 else 0) := by
  unfold JobWorld.tasksAt
  rw [hpoints]
  simpa using countP_set_add (fun entry : String × TaskPoint =>
    entry.1 = task.jobId && entry.2.stage = stage) (points_get found) (task.jobId, point)

/-- The tasks of other jobs stay where they are. -/
theorem tasksAt_set_ne (found : w.tasks[i]? = some task)
    (hpoints : w'.points = w.points.set i (task.jobId, point)) (hne : task.jobId ≠ jobId) :
    w'.tasksAt stage jobId = w.tasksAt stage jobId := by
  unfold JobWorld.tasksAt
  rw [hpoints]
  simpa [hne] using countP_set_add (fun entry : String × TaskPoint =>
    entry.1 = jobId && entry.2.stage = stage) (points_get found) (task.jobId, point)

/-! ## §2. Permits. -/

/-- `_on_task_done` has run. -/
def TaskPoint.isReaped : TaskPoint → Bool
  | .reaped => true
  | _ => false

/-- The tasks whose `_on_task_done` has not run. -/
def JobWorld.unfinished (w : JobWorld) : Nat := w.points.countP fun entry => !entry.2.isReaped

theorem resume_not_reaped {now : Int} {eventSet : Bool} (point : TaskPoint) (reply : Reply) :
    (resume env now eventSet point reply).isReaped = false := by
  unfold resume
  split
  next =>
    unfold afterLoad
    split
    next => rfl
    next => split <;> rfl
  next => rfl
  next => exact @emit_rule _ (·.isReaped = false) _ _ _ (fun _ => rfl) rfl
  next => rfl
  next => rfl
  next => rfl
  next =>
    unfold afterExecution
    split
    next => rfl
    next => rfl
    next => rfl
    next => rfl
    next => rfl
    next =>
      split
      next => exact @emit_rule _ (·.isReaped = false) _ _ _ (fun _ => rfl) rfl
      next => rfl
    next => rfl
  next => exact @emit_rule _ (·.isReaped = false) _ _ _ (fun _ => rfl) rfl
  next => rfl
  next => rfl
  next => split <;> rfl
  next => rfl

/-- Whoever awaits something has not been reaped. -/
theorem Performed.not_reaped {answer : Answer} {reply : Reply}
    (h : Performed env w jobId point.access answer w' reply) :
    point.isReaped = false := by
  cases point with
  | reaped =>
      change Performed env w jobId .nothing answer w' reply at h
      cases h with
      | raised message may => cases may
      | lost applied may => cases may
  | _ => rfl

/-- What the permits and the tasks add up to. -/
def Balanced (env : JobEnv) (w : JobWorld) : Prop :=
  w.reserve + w.unfinished = env.maxConcurrentJobs

theorem unfinished_set (found : w.tasks[i]? = some task)
    (hpoints : w'.points = w.points.set i (task.jobId, point)) :
    w'.unfinished + (if task.point.isReaped = false then 1 else 0)
      = w.unfinished + (if point.isReaped = false then 1 else 0) := by
  have hadd := countP_set_add (fun entry : String × TaskPoint => !entry.2.isReaped)
    (points_get found) (task.jobId, point)
  unfold JobWorld.unfinished
  rw [hpoints]
  simpa using hadd

theorem unfinished_of_points (hpoints : w'.points = w.points) : w'.unfinished = w.unfinished := by
  unfold JobWorld.unfinished
  rw [hpoints]

@[simp] theorem sweepOn_held (jobs : List (String × Versioned JobState)) :
    (sweepOn jobs).held = 0 := by
  cases jobs <;> rfl

/-- **The step lemma**: what an action takes it gives back. -/
theorem JobMove.balanced {action : JobAction} (h : JobMove env w action w')
    (hbalanced : Balanced env w) : Balanced env w' := by
  unfold Balanced at hbalanced ⊢
  obtain ⟨v, hv⟩ : ∃ v, w' = v := ⟨w', rfl⟩
  rw [hv] at h
  cases h with
  | scheduled same reserve left =>
      rw [hv, unfinished_of_points same.points, reserve]
      exact hbalanced
  | listed sweeping =>
      unfold JobWorld.reserve at hbalanced ⊢
      rw [sweeping] at hbalanced
      rw [hv, sweepOn_held]
      exact hbalanced
  | swept sweeping write =>
      unfold JobWorld.reserve at hbalanced ⊢
      rw [sweeping] at hbalanced
      rw [hv, sweepOn_held]
      exact hbalanced
  | @spawned jobId holding =>
      -- the permit that was held is that of the new task
      have hunfinished : w'.unfinished = w.unfinished + 1 := by
        unfold JobWorld.unfinished
        rw [points_spawned (by rw [hv]), List.countP_append]
        rfl
      have hreserve : w.reserve = w'.reserve + 1 := by
        unfold JobWorld.reserve
        rw [holding, hv]
        rfl
      omega
  | @moved i now answer task w₁ reply found performed =>
      have hset := @unfinished_set w w' i task _ found
        (by rw [hv, goto_points, performed.points])
      rw [performed.not_reaped, resume_not_reaped] at hset
      have hreserve : w'.reserve = w.reserve := by
        unfold JobWorld.reserve
        rw [hv, goto_permits, goto_dispatcher, performed.sameParts.permits,
          performed.sameParts.dispatcher]
      rw [hreserve, Nat.add_right_cancel hset]
      exact hbalanced
  | @reaped i task found ended =>
      have hset := @unfinished_set w w' i task _ found (points_reaped (by rw [hv]))
      rw [ended] at hset
      have hunfinished : w.unfinished = w'.unfinished + 1 := hset.symm
      have hreserve : w'.reserve = w.reserve + 1 := by
        unfold JobWorld.reserve
        rw [hv]
        exact Nat.add_right_comm ..
      omega
  | cancelled found saving write =>
      have hpoints : w'.points = w.points := by
        rw [hv]
        exact requestCancel_points
      have hreserve : w'.reserve = w.reserve := by
        rw [hv]
        rfl
      rw [unfinished_of_points hpoints, hreserve]
      exact hbalanced
  | restarted =>
      rw [hv]
      rfl
  | _ =>
      rw [hv]
      exact hbalanced

/-! ## §3. Executions. -/

/-- **The way to the execution**: a task that loads the job as SUBMITTED starts it, one that has
written its start announces it, if there is somebody to tell, and executes the scenario. -/
inductive ComesTo (point : TaskPoint) (reply : Reply) : TaskStage → Prop where
  | starting (job : Versioned JobState) (loading : point = .loading)
      (loaded : reply = .loaded (some job)) (submitted : job.doc.status = .submitted) :
      ComesTo point reply .starting
  | begun {stage : TaskStage} (copy copy' : Versioned JobState)
      (starting : point = .starting copy) (saved : reply = .saved copy')
      (reached : stage = .announcing ∨ stage = .executing) : ComesTo point reply stage
  | executing (announcing : point.stage = .announcing) : ComesTo point reply .executing
  | elsewhere : ComesTo point reply .elsewhere

theorem resume_stage {now : Int} {eventSet : Bool} {reply : Reply} :
    ComesTo point reply (resume env now eventSet point reply).stage := by
  unfold resume
  split
  next job =>
    unfold afterLoad
    split
    next => exact .elsewhere
    next hsubmitted =>
      split
      next => exact .starting job rfl rfl (not_not.mp hsubmitted)
      next => exact .elsewhere
  next => exact .elsewhere
  next copy copy' =>
    rcases emit_cases env copy'.doc
        (fun url => .announcing url copy' (.started copy'.doc.scenarioName now))
        (.executing copy') with ⟨url, -, heq⟩ | ⟨-, heq⟩
    · rw [heq]
      exact .begun copy copy' rfl rfl (.inl rfl)
    · rw [heq]
      exact .begun copy copy' rfl rfl (.inr rfl)
  next => exact .elsewhere
  next => exact .executing rfl
  next => exact .elsewhere
  next =>
    unfold afterExecution
    split
    next => exact .elsewhere
    next => exact .elsewhere
    next => exact .elsewhere
    next => exact .elsewhere
    next => exact .elsewhere
    next =>
      split
      next => exact @emit_rule _ (ComesTo _ _ ·.stage) _ _ _ (fun _ => .elsewhere) .elsewhere
      next => exact .elsewhere
    next => exact .elsewhere
  next => exact @emit_rule _ (ComesTo _ _ ·.stage) _ _ _ (fun _ => .elsewhere) .elsewhere
  next => exact .elsewhere
  next => exact .elsewhere
  next => split <;> exact .elsewhere
  next => exact .elsewhere

theorem goto_count : (w.goto i task point).executions.count jobId
    = w.executions.count jobId
      + (if point.stage = .executing ∧ task.jobId = jobId then 1 else 0) := by
  rw [goto_executions]
  cases point with
  | executing copy =>
      show (w.executions ++ [task.jobId]).count jobId = _
      rw [List.count_append, List.count_singleton]
      simp [TaskPoint.stage]
  | _ => rfl

/-- The executions of a job's scenario, and those that are about to begin. -/
def JobWorld.begun (w : JobWorld) (jobId : String) : Nat :=
  w.executions.count jobId + w.tasksAt .announcing jobId

/-- The load of a job that is SUBMITTED while another task starts it. -/
def JobAction.startsToo (action : JobAction) (w : JobWorld) : Bool :=
  match action with
  | .task i _ .done =>
      (w.tasks[i]?).any fun task =>
        match task.point with
        | .loading => w.status task.jobId == some .submitted
            && decide (0 < w.tasksAt .starting task.jobId)
        | _ => false
  | _ => false

/-- No second task starts a job: the repository rejects its write, or none has loaded it. -/
def StartsAlone (env : JobEnv) (w : JobWorld) (action : JobAction) : Prop :=
  env.mode = .rejectStale ∨ action.startsToo w = false

/-- **Begun once**: where the last write wins, a task that starts the job counts as well. -/
structure BegunOnce (env : JobEnv) (w : JobWorld) (jobId : String) : Prop where
  once : w.begun jobId ≤ 1
  alone : env.mode ≠ .rejectStale → w.begun jobId + w.tasksAt .starting jobId ≤ 1
  left : 0 < w.begun jobId → ∃ status, w.status jobId = some status ∧ status ≠ .submitted

/-- A job that has left SUBMITTED never comes back. -/
theorem JobMove.leaves_submitted {action : JobAction} (h : JobMove env w action w')
    (hheld : CopiesHeld w)
    (hleft : ∃ status, w.status jobId = some status ∧ status ≠ .submitted) :
    ∃ status, w'.status jobId = some status ∧ status ≠ .submitted := by
  have heffect := h.jobsEffect
  unfold JobWorld.status at hleft ⊢
  generalize w'.jobs = jobs' at heffect
  cases heffect with
  | same => exact hleft
  | @added job new submitted =>
      have hne : jobId ≠ job.id := by
        rintro rfl
        obtain ⟨status, hstatus, -⟩ := hleft
        rw [new] at hstatus
        cases hstatus
      obtain ⟨status, hstatus, hne'⟩ := hleft
      exact ⟨status, (congrArg _ (Function.update_of_ne hne ..)).trans hstatus, hne'⟩
  | @written id copy jobs saves write =>
      by_cases hid : jobId = id
      · subst hid
        obtain ⟨stored, hstored, hdoc⟩ := find_write_self write
        refine ⟨stored.doc.status, by rw [hstored]; rfl, ?_⟩
        rw [hdoc]
        exact (hheld.saves saves).1
      · rw [find_write_ne write hid]
        exact hleft

/-- Where no task comes closer to the execution, nothing is begun. -/
theorem BegunOnce.of_le {action : JobAction} (hinv : BegunOnce env w jobId)
    (h : JobMove env w action w') (hheld : CopiesHeld w) (hbegun : w'.begun jobId ≤ w.begun jobId)
    (hstarting : w'.tasksAt .starting jobId ≤ w.tasksAt .starting jobId) :
    BegunOnce env w' jobId where
  once := Nat.le_trans hbegun hinv.once
  alone hmode := Nat.le_trans (Nat.add_le_add hbegun hstarting) (hinv.alone hmode)
  left hpos := h.leaves_submitted hheld (hinv.left (Nat.lt_of_lt_of_le hpos hbegun))

/-- A task that is at no stage neither comes nor goes. -/
theorem BegunOnce.of_elsewhere {action : JobAction} (hinv : BegunOnce env w jobId)
    (h : JobMove env w action w') (hheld : CopiesHeld w) (found : w.tasks[i]? = some task)
    (hpoints : w'.points = w.points.set i (task.jobId, point)) (hnew : point.stage = .elsewhere)
    (hexecutions : w'.executions = w.executions) : BegunOnce env w' jobId := by
  have hle : ∀ stage, stage ≠ .elsewhere → w'.tasksAt stage jobId ≤ w.tasksAt stage jobId := by
    intro stage hstage
    by_cases hid : task.jobId = jobId
    · subst hid
      have hset := tasksAt_set stage found hpoints
      rw [hnew, if_neg (Ne.symm hstage)] at hset
      omega
    · exact Nat.le_of_eq (tasksAt_set_ne found hpoints hid)
  refine hinv.of_le h hheld ?_ (hle .starting TaskStage.noConfusion)
  unfold JobWorld.begun
  rw [hexecutions]
  exact Nat.add_le_add_left (hle .announcing TaskStage.noConfusion) _

/-- Nothing is begun of a job that is SUBMITTED. -/
theorem BegunOnce.of_submitted (hinv : BegunOnce env w jobId) {stored : Versioned JobState}
    (hstored : w.jobs jobId = some stored) (hsubmitted : stored.doc.status = .submitted) :
    w.begun jobId = 0 := by
  by_contra hbegun
  obtain ⟨status, hstatus, hleft⟩ := hinv.left (Nat.pos_of_ne_zero hbegun)
  rw [status_eq hstored] at hstatus
  exact hleft ((Option.some.inj hstatus).symm.trans hsubmitted)

/-- A task has loaded the job as SUBMITTED: no other task starts it. -/
theorem StartsAlone.none_starting {now : Int} (halone : StartsAlone env w (.task i now .done))
    (hmode : env.mode ≠ .rejectStale) (found : w.tasks[i]? = some task)
    (loading : task.point = .loading) (hstatus : w.status task.jobId = some .submitted) :
    w.tasksAt .starting task.jobId = 0 := by
  have hnot := halone.resolve_left hmode
  unfold JobAction.startsToo at hnot
  simpa [found, loading, hstatus] using hnot

/-- The start of the job is written: nothing of it was begun before. -/
theorem BegunOnce.none_begun (hinv : BegunOnce env w task.jobId) (hheld : CopiesHeld w)
    (found : w.tasks[i]? = some task) {copy : Versioned JobState}
    (starting : task.point = .starting copy) {jobs : VersionedStore String JobState}
    (write : w.jobs.write env.mode task.jobId copy.version copy.doc = some jobs) :
    w.begun task.jobId = 0 := by
  by_cases hmode : env.mode = .rejectStale
  · -- the copy is the stored job
    obtain ⟨stored, hstored, -, hcurrent⟩ := write_eq_some write
    have hcopy := hheld.tasks _ (List.mem_of_getElem? (points_get found))
    rw [starting] at hcopy
    have hsubmitted := hcopy.2
    rw [← hcurrent hmode] at hsubmitted
    exact hinv.of_submitted hstored (hsubmitted.stored hstored)
  · have hpos : 0 < w.tasksAt .starting task.jobId :=
      List.countP_pos_iff.mpr ⟨_, List.mem_of_getElem? (points_get found),
        by simp [starting, TaskPoint.stage]⟩
    have halone := hinv.alone hmode
    omega

/-- **The step of a task.** -/
theorem BegunOnce.moved {now : Int} {answer : Answer} {w₁ : JobWorld} {reply : Reply}
    (hinv : BegunOnce env w task.jobId) (hheld : CopiesHeld w)
    (halone : StartsAlone env w (.task i now answer)) (found : w.tasks[i]? = some task)
    (performed : Performed env w task.jobId task.point.access answer w₁ reply)
    (h : JobMove env w (.task i now answer)
      (w₁.goto i task (resume env now task.eventSet task.point reply))) :
    BegunOnce env (w₁.goto i task (resume env now task.eventSet task.point reply)) task.jobId := by
  have hcomes := @resume_stage env task.point now task.eventSet reply
  generalize resume env now task.eventSet task.point reply = point at h hcomes ⊢
  -- only one task moves: the counts change by what it leaves and where it goes
  have hpoints := (@goto_points w₁ i task point).trans (by rw [performed.points])
  have hstarting := tasksAt_set .starting found hpoints
  have hannouncing := tasksAt_set .announcing found hpoints
  have hcount := @goto_count w₁ i task point task.jobId
  rw [performed.sameParts.executions] at hcount
  generalize hstage : point.stage = stage at hcomes hstarting hannouncing hcount
  cases hcomes with
  | starting job loading loaded submitted =>
      rw [loading, loaded] at performed
      generalize hjob : some job = read at performed
      cases performed
      -- a job that is SUBMITTED has not begun, and no other task is starting it
      have hnone := hinv.of_submitted hjob.symm submitted
      have hstatus : w.status task.jobId = some .submitted :=
        (status_eq hjob.symm).trans (congrArg some submitted)
      have hbegun : (w.goto i task point).begun task.jobId = 0 := by
        unfold JobWorld.begun at hnone ⊢
        simp [loading, TaskPoint.stage] at hannouncing hcount
        omega
      refine ⟨by omega, fun hmode => ?_, fun hpos => absurd hbegun (Nat.ne_of_gt hpos)⟩
      have hzero := halone.none_starting hmode found loading hstatus
      simp [loading, TaskPoint.stage] at hstarting
      omega
  | begun copy copy' starting saved reached =>
      have hrunning := hheld.tasks _ (List.mem_of_getElem? (points_get found))
      rw [starting] at hrunning
      rw [starting, saved] at performed
      cases performed with
      | @saved _ _ jobs write stored same =>
          have hnone := hinv.none_begun hheld found starting write
          generalize hw : JobWorld.goto { w with jobs := jobs } i task point = w₂
            at h hstarting hannouncing hcount ⊢
          have hleaves : w₂.tasksAt .starting task.jobId + 1
              = w.tasksAt .starting task.jobId := by
            rcases reached with rfl | rfl <;> simpa [starting, TaskPoint.stage] using hstarting
          have hbegins : w₂.begun task.jobId = w.begun task.jobId + 1 := by
            unfold JobWorld.begun
            rcases reached with rfl | rfl
            · simp [starting, TaskPoint.stage] at hannouncing hcount
              omega
            · simp [starting, TaskPoint.stage] at hannouncing hcount
              omega
          refine ⟨?_, fun hmode => ?_, fun _ => ⟨.running, ?_, JobStatus.noConfusion⟩⟩
          · omega
          · have hone := hinv.alone hmode
            omega
          · refine (status_eq (by rw [← hw, goto_jobs]; exact stored)).trans ?_
            rw [same, hrunning.1]
  | executing announcing =>
      refine hinv.of_le h hheld ?_ ?_
      · unfold JobWorld.begun
        simp [announcing] at hannouncing hcount
        omega
      · simp [announcing] at hstarting
        omega
  | elsewhere =>
      refine hinv.of_elsewhere h hheld found hpoints hstage ?_
      rw [goto_executions, performed.sameParts.executions]
      cases point with
      | executing copy => cases hstage
      | _ => rfl

/-- **The step lemma.** -/
theorem BegunOnce.step {action : JobAction} (hinv : BegunOnce env w jobId)
    (hheld : CopiesHeld w) (halone : StartsAlone env w action) (h : JobMove env w action w') :
    BegunOnce env w' jobId := by
  -- most moves leave the tasks where they are, and execute nothing
  have hsame : w'.points = w.points → w'.executions = w.executions → BegunOnce env w' jobId := by
    intro hpoints hexecutions
    refine hinv.of_le h hheld (Nat.le_of_eq ?_) (Nat.le_of_eq (tasksAt_of_points hpoints))
    unfold JobWorld.begun
    rw [hexecutions, tasksAt_of_points hpoints]
  obtain ⟨v, hv⟩ : ∃ v, w' = v := ⟨w', rfl⟩
  have hmove := h
  rw [hv] at hmove
  cases hmove with
  | scheduled same reserve left =>
      exact hsame (by rw [hv]; exact same.points) (by rw [hv]; exact same.executions)
  | spawned holding =>
      have htasks : ∀ stage, stage ≠ .elsewhere →
          w'.tasksAt stage jobId ≤ w.tasksAt stage jobId := by
        intro stage hstage
        unfold JobWorld.tasksAt
        rw [points_spawned (by rw [hv]), List.countP_append, List.countP_singleton]
        simp [TaskPoint.stage, Ne.symm hstage]
      refine hinv.of_le h hheld ?_ (htasks .starting TaskStage.noConfusion)
      exact Nat.add_le_add (Nat.le_of_eq (by rw [hv])) (htasks .announcing TaskStage.noConfusion)
  | @moved i now answer task w₁ reply found performed =>
      -- a task of another job does not count
      by_cases hid : task.jobId = jobId
      · subst hid
        rw [hv] at h ⊢
        exact hinv.moved hheld halone found performed h
      · have hpoints : w'.points
            = w.points.set i (task.jobId, resume env now task.eventSet task.point reply) := by
          rw [hv, goto_points, performed.points]
        refine hinv.of_le h hheld ?_ (Nat.le_of_eq (tasksAt_set_ne found hpoints hid))
        unfold JobWorld.begun
        rw [tasksAt_set_ne found hpoints hid, hv, goto_count, performed.sameParts.executions,
          if_neg fun hboth => hid hboth.2]
        exact Nat.le_refl _
  | reaped found ended =>
      exact hinv.of_elsewhere h hheld found (points_reaped (by rw [hv])) rfl (by rw [hv])
  | cancelled found saving write =>
      exact hsame (by rw [hv]; exact requestCancel_points) (by rw [hv]; rfl)
  | restarted =>
      -- after a restart there are no tasks at all
      have hnone : ∀ stage, w'.tasksAt stage jobId = 0 := fun stage => by rw [hv]; rfl
      refine hinv.of_le h hheld ?_ ((hnone .starting).symm ▸ Nat.zero_le _)
      unfold JobWorld.begun
      rw [hnone, hv]
      exact Nat.le_add_right ..
  | _ => exact hsame (congrArg JobWorld.points hv :) (congrArg JobWorld.executions hv :)

/-! ## §4. Runs. -/

/-- **No permit is lost**, whatever happens. -/
theorem permits_balanced {jobs : VersionedStore String JobState} {ids : List String}
    {allowed : JobWorld → JobAction → Prop} {actions : List JobAction}
    (run : Run (jobStep env) allowed (JobWorld.boot env jobs ids) actions w)
    (hfree : ∀ jobId, w.dispatcher ≠ .holding jobId) :
    w.permits + w.unfinished = env.maxConcurrentJobs := by
  have hbalanced : Balanced env w := run.invariant
    (fun _ _ _ hinv _ hstep => (step_cases hstep).balanced hinv) rfl
  unfold Balanced JobWorld.reserve at hbalanced
  rw [Dispatcher.held_eq_zero hfree] at hbalanced
  exact hbalanced

/-- What the runs keep. -/
structure InOrder (env : JobEnv) (w : JobWorld) : Prop where
  held : CopiesHeld w
  once : ∀ jobId, BegunOnce env w jobId

theorem boot_inOrder (env : JobEnv) (jobs : VersionedStore String JobState)
    (ids : List String) : InOrder env (JobWorld.boot env jobs ids) where
  held := boot_copiesHeld env jobs ids
  once _ := ⟨Nat.zero_le _, fun _ => Nat.zero_le _, fun h => absurd h (Nat.lt_irrefl 0)⟩

/-- **A scenario is executed at most once** and no permit is lost, in every run in which no task
loads a job as SUBMITTED that another task starts. -/
theorem executed_once (env : JobEnv) (jobs : VersionedStore String JobState) (ids : List String)
    {actions : List JobAction} {w : JobWorld}
    (run : Run (jobStep env) (StartsAlone env) (JobWorld.boot env jobs ids) actions w) :
    (∀ jobId, w.executions.count jobId ≤ 1)
      ∧ ((∀ jobId, w.dispatcher ≠ .holding jobId) →
          w.permits + w.unfinished = env.maxConcurrentJobs) := by
  have hinv : InOrder env w := run.invariant
    (fun _ _ _ hinv hok hstep =>
      have hmove := step_cases hstep
      ⟨hmove.copiesHeld hinv.held, fun jobId => (hinv.once jobId).step hinv.held hok hmove⟩)
    (boot_inOrder env jobs ids)
  refine ⟨fun jobId => ?_, permits_balanced run⟩
  exact Nat.le_trans (Nat.le_add_right ..) (hinv.once jobId).once

/-- A job is submitted and enqueued twice, and becomes two tasks. -/
def enqueuedTwice : List JobAction :=
  [.sweep 0 .done, .sweep 0 .done, .add { id := "job-1", scenarioName := "echo" },
    .enqueue "job-1", .enqueue "job-1", .dequeue, .grant, .spawn, .dequeue, .grant, .spawn]

/-- The second task loads the job when the first one has started it. -/
def oneAfterTheOther : List JobAction :=
  enqueuedTwice ++ [.task 0 1 .done, .task 0 2 .done, .task 1 3 .done, .task 0 4 .done, .reap 1]

/-- Both tasks load the job before either starts it. -/
def bothLoad : List JobAction :=
  enqueuedTwice ++ [.task 0 1 .done, .task 1 1 .done, .task 0 2 .done, .task 1 2 .done,
    .task 0 3 .done, .task 1 3 .done]

theorem startsAlone_of_check (w : JobWorld) (action : JobAction)
    (h : (!action.startsToo w) = true) : StartsAlone lastWins w action := .inr (by simpa using h)

/-- One after the other the tasks execute the scenario once. -/
theorem executed_once_in_turn :
    ∃ w, exec (jobStep lastWins) (fun w a => !a.startsToo w) oneAfterTheOther noJobs = some w
      ∧ w.executions = ["job-1"]
      ∧ (∀ jobId, w.executions.count jobId ≤ 1)
      ∧ ((∀ jobId, w.dispatcher ≠ .holding jobId) →
          w.permits + w.unfinished = lastWins.maxConcurrentJobs) := by
  have hruns : (exec (jobStep lastWins) (fun w a => !a.startsToo w) oneAfterTheOther
      noJobs).map JobWorld.executions = some ["job-1"] := by
    decide +kernel
  obtain ⟨w, hw, hexecutions⟩ := Option.map_eq_some_iff.mp hruns
  exact ⟨w, hw, hexecutions,
    executed_once lastWins _ _ (exec_run startsAlone_of_check _ .nil hw)⟩

/-- **A scenario is executed twice**, where the last write wins: both tasks have read SUBMITTED
when the first of them writes RUNNING. -/
theorem executed_twice :
    ¬ ∀ (env : JobEnv) (jobs : VersionedStore String JobState) (ids : List String)
        (actions : List JobAction) (w : JobWorld),
      Run (jobStep env) anyAction (JobWorld.boot env jobs ids) actions w →
        (∀ jobId, w.executions.count jobId ≤ 1)
          ∧ ((∀ jobId, w.dispatcher ≠ .holding jobId) →
              w.permits + w.unfinished = env.maxConcurrentJobs) := by
  intro h
  have hruns : (exec (jobStep lastWins) (fun _ _ => true) bothLoad noJobs).map
      JobWorld.executions = some ["job-1", "job-1"] := by
    decide +kernel
  obtain ⟨w, hw, hexecutions⟩ := Option.map_eq_some_iff.mp hruns
  have honce := (h lastWins _ [] _ w (exec_run (fun _ _ _ => trivial) _ .nil hw)).1 "job-1"
  rw [hexecutions] at honce
  exact absurd honce (by decide)

end CmlCloudManager.ScenarioEngine
