/-
  CmlCloudManager.ScenarioEngine.JobNotifications
  ───────────────────────────────────────────────
  **WHO SUBMITTED A JOB IS TOLD HOW IT ENDED.**

  A job ends with a write, and its end is told by an event that the same task sends
  an await later, if the job or the settings name a URL to send it to.  Those who end
  a job without being its task send nothing: the startup sweep never tells, and
  `CancelJob` leaves it to the task that executes the job, if there is one and if it
  comes to tell.

  `Phase` is where a job stands between the two:

    • `undecided` — not finished, and nothing told,
    • `owed`      — finished, nothing told, and one task is going to tell,
    • `told`      — finished, told once, and nobody is at work on it.

  `Phase.step` says which actions keep to these phases; `told_once` is the run.
-/
import CmlCloudManager.ScenarioEngine.JobConcurrency

namespace CmlCloudManager.ScenarioEngine

open CmlCloudManager.Foundation
open CmlCloudManager.Foundation.VersionedStore
open CmlCloudManager.Pipeline

variable {env : JobEnv} {w w' : JobWorld} {jobId : String}

/-! ## §1. What is told, and by whom. -/

/-- The final statuses that were told of a job. -/
def JobWorld.notices (w : JobWorld) (jobId : String) : List JobStatus :=
  w.events.filterMap fun event => if event.jobId = jobId then event.news.final else none

/-- The job is finished, and nobody has been told. -/
def JobWorld.owes (w : JobWorld) (jobId : String) : Bool :=
  (w.status jobId).any JobStatus.isFinished && (w.notices jobId).isEmpty

/-- The task has taken the job on. -/
def TaskPoint.isEngaged : TaskPoint → Bool
  | .starting _ | .announcing _ _ _ | .executing _ | .finishing _ _ _ => true
  | .reporting _ _ _ _ => true
  | _ => false

/-- A task has taken the job on. -/
def JobWorld.isEngaged (w : JobWorld) (jobId : String) : Bool :=
  w.points.any fun entry => entry.1 = jobId && entry.2.isEngaged

/-- The end that a task at this point will tell is the cancellation, or one that it writes over
it. -/
def TaskPoint.tellsCancel (mode : WriteMode) : TaskPoint → Bool
  | .executing _ => true
  | .starting _ | .announcing _ _ _ | .finishing _ _ _ => mode == .lastWriteWins
  | _ => false

/-- The executor ends the job with a write. -/
def ScenarioOutcome.isWritten : ScenarioOutcome → Bool
  | .result status _ _ _ => status == "completed" || status == "failed" || status == "cancelled"
  | .timeout => true
  | .cancelled => true
  | .raised _ => false

/-- An event of the job has somewhere to go. -/
def JobEnv.reaches (env : JobEnv) (job : JobState) : Bool :=
  (env.resolveTargetUrl job.callbackUrl).isSome

/-- The await ends after the event was sent. -/
def Answer.sends : Answer → Bool
  | .raisesAfter _ => true
  | answer => answer.applies

/-- A task that owes an event comes closer to it. -/
def TaskPoint.keepsOn (env : JobEnv) (eventSet : Bool) : TaskPoint → Answer → Bool
  | .executing copy, .ends .cancelled =>
      if eventSet then env.reaches copy.doc else env.mode == .lastWriteWins
  | .executing _, .ends outcome => env.mode == .lastWriteWins && outcome.isWritten
  | .starting _, answer => answer.applies
  | .reporting _ _ _ _, answer => answer.sends
  | .announcing _ _ _, .done => true
  | .finishing _ _ _, .done => true
  | point, _ => !point.isEngaged

/-- A load after which the task goes on with the job. -/
def TaskPoint.takesOn : TaskPoint → Option JobStatus → Bool
  | .loading, status => status == some .submitted
  | .recovering _, status => status == some .running
  | _, _ => false

/-- The await ends with what was awaited. -/
def Answer.isDone : Answer → Bool
  | .done => true
  | _ => false

/-- The write that ends the job is followed by an event: the await is not cut short, and the
event has somewhere to go. -/
def TaskPoint.isFollowed (env : JobEnv) : TaskPoint → Answer → Bool
  | .finishing copy _ _, answer => answer.isDone && env.reaches copy.doc
  | _, _ => true

/-- The action writes the job. -/
def JobAction.writesTo (env : JobEnv) (action : JobAction) (w : JobWorld) (jobId : String) :
    Bool :=
  (action.saves w).any fun (id, copy) =>
    id = jobId && (w.jobs.write env.mode id copy.version copy.doc).isSome

/-- **A task keeps the promise**: it takes the job on alone, it goes on when an event is owed,
and the write with which it ends the job is followed by an event. -/
def JobTask.tells (env : JobEnv) (w : JobWorld) (task : JobTask) (answer : Answer)
    (writes : Bool) : Bool :=
  !(answer.isDone && task.point.takesOn (w.status task.jobId) && w.isEngaged task.jobId)
    && (!w.owes task.jobId || task.point.keepsOn env task.eventSet answer)
    && (task.point.isFollowed env answer || !writes)

/-- **The action keeps the promise** that the end of the job is told once: the task keeps it;
`CancelJob` writes CANCELLED only while a task will tell of it; the startup sweep does not
write the job; and the process does not end while an event is owed. -/
def JobAction.tells (env : JobEnv) (jobId : String) (w : JobWorld) (action : JobAction) : Bool :=
  match action with
  | .task i _ answer =>
      (w.tasks[i]?).all fun task =>
        task.jobId != jobId || task.tells env w answer (action.writesTo env w jobId)
  | .handler _ _ _ =>
      !action.writesTo env w jobId
        || w.points.any fun entry => entry.1 = jobId && entry.2.tellsCancel env.mode
  | .sweep _ _ => !action.writesTo env w jobId
  | .restart => !w.owes jobId
  | _ => true

theorem writesTo_of_write {action : JobAction} {copy : Versioned JobState}
    {jobs : VersionedStore String JobState} (saves : action.saves w = some (jobId, copy))
    (write : w.jobs.write env.mode jobId copy.version copy.doc = some jobs) :
    action.writesTo env w jobId = true := by
  unfold JobAction.writesTo
  rw [saves]
  simp [write]

/-- **Told once**: never more than one end, the one that is stored; and it is told when no task
of the job is under way. -/
structure ToldOnce (w : JobWorld) (jobId : String) : Prop where
  once : (w.notices jobId).length ≤ 1
  kind : ∀ status ∈ w.notices jobId, w.status jobId = some status
  told : (∀ task ∈ w.tasks, task.jobId = jobId → task.point.isDone = true) →
    ∀ status, w.status jobId = some status → status.isFinished = true →
      w.notices jobId = [status]

/-! ## §2. Cancellation events. -/

/-- The task has not come to its scenario. -/
def TaskPoint.isEarly : TaskPoint → Bool
  | .loading | .starting _ | .announcing _ _ _ => true
  | _ => false

/-- **The events**: a task has none before its scenario, and an event that is registered for a
job is that of a task of the job. -/
structure EventsHeld (w : JobWorld) : Prop where
  unset : ∀ (i : Nat) (task : JobTask), w.views[i]? = some task → task.point.isEarly = true →
    task.eventSet = false
  registered : ∀ (id : String) (i : Nat), w.cancellationEvents.get? id = some i →
    ∃ task, w.views[i]? = some task ∧ task.jobId = id ∧ task.point.isEarly = false

theorem views_get {i : Nat} {task : JobTask} (found : w.tasks[i]? = some task) :
    w.views[i]? = some task.view := by
  unfold JobWorld.views
  rw [List.getElem?_map, found]
  rfl

theorem goto_views {i : Nat} {task : JobTask} {point : TaskPoint} :
    (w.goto i task point).views
      = w.views.set i { task with point := point, cancelRequested := false } := by
  unfold JobWorld.views
  rw [goto_tasks, List.map_set]
  rfl

theorem goto_registered {i : Nat} {task : JobTask} {point : TaskPoint} {id : String} {j : Nat}
    (h : (w.goto i task point).cancellationEvents.get? id = some j) :
    (id = task.jobId ∧ j = i ∧ point.isEarly = false) ∨ w.cancellationEvents.get? id = some j := by
  unfold JobWorld.goto at h
  cases point with
  | executing copy =>
      rcases Dict.get?_set_eq_some h with ⟨rfl, rfl⟩ | hold
      · exact .inl ⟨rfl, rfl, rfl⟩
      · exact .inr hold.2
  | _ => exact .inr h

/-- A request to cancel sets the event that is registered for the job. -/
theorem requestCancel_views (id : String) (j : Nat) :
    (w.requestCancel id).views[j]? = (w.views[j]?).map fun task =>
      { task with eventSet := task.eventSet || w.cancellationEvents.get? id == some j } := by
  unfold JobWorld.requestCancel JobWorld.views
  cases hid : w.cancellationEvents.get? id with
  | none =>
      rw [List.getElem?_map]
      cases w.tasks[j]? with
      | none => rfl
      | some task => exact congrArg some (by simp [JobTask.view])
  | some i =>
      rw [List.getElem?_map, List.getElem?_map, List.getElem?_modify]
      cases w.tasks[j]? with
      | none => rfl
      | some task =>
          by_cases hij : i = j
          · simp [JobTask.view, hij]
          · simp [JobTask.view, hij]

/-- A task does not go back before its scenario. -/
theorem resume_early {now : Int} {eventSet : Bool} {point : TaskPoint} {reply : Reply}
    (h : (resume env now eventSet point reply).isEarly = true) : point.isEarly = true := by
  have hlate : ∀ (job : JobState) (sending : String → TaskPoint) (skipped : TaskPoint),
      (∀ url, (sending url).isEarly = false) → skipped.isEarly = false →
        (env.emit job sending skipped).isEarly = false :=
    fun job sending skipped hsending hskipped =>
      @emit_rule env (·.isEarly = false) job sending skipped hsending hskipped
  unfold resume at h
  split at h
  next => rfl
  next => rfl
  next => rfl
  next => rfl
  next => rfl
  next => rfl
  next =>
    unfold afterExecution at h
    split at h
    next => cases h
    next => cases h
    next => cases h
    next => cases h
    next => cases h
    next =>
      split at h
      next =>
        rw [hlate _ _ _ (fun _ => rfl) rfl] at h
        cases h
      next => cases h
    next => cases h
  next =>
    rw [hlate _ _ _ (fun _ => rfl) rfl] at h
    cases h
  next => cases h
  next => cases h
  next => split at h <;> cases h
  next => cases h

/-- Only the views and the registered events matter. -/
theorem EventsHeld.of_same (h : EventsHeld w) (hviews : w'.views = w.views)
    (hregistered : ∀ id i, w'.cancellationEvents.get? id = some i →
      w.cancellationEvents.get? id = some i) : EventsHeld w' := by
  refine ⟨fun i task hget => ?_, fun id i hid => ?_⟩
  · rw [hviews] at hget
    exact h.unset i task hget
  · rw [hviews]
    exact h.registered id i (hregistered id i hid)

/-- A task moves. -/
theorem EventsHeld.of_set (h : EventsHeld w) {i : Nat} {task : JobTask} (task' : JobTask)
    (found : w.tasks[i]? = some task) (hviews : w'.views = w.views.set i task')
    (hjob : task'.jobId = task.jobId) (hevent : task'.eventSet = task.eventSet)
    (hearly : task'.point.isEarly = true → task.point.isEarly = true)
    (hregistered : ∀ id j, w'.cancellationEvents.get? id = some j →
      (id = task.jobId ∧ j = i ∧ task'.point.isEarly = false)
        ∨ w.cancellationEvents.get? id = some j) : EventsHeld w' := by
  have hat : w'.views[i]? = some task' := by
    rw [hviews, List.getElem?_set_self (List.getElem?_eq_some_iff.mp (views_get found)).1]
  have hne : ∀ j, i ≠ j → w'.views[j]? = w.views[j]? := by
    intro j hij
    rw [hviews, List.getElem?_set_ne hij]
  refine ⟨fun j t hget ht => ?_, fun id j hid => ?_⟩
  · by_cases hij : i = j
    · subst hij
      obtain rfl := Option.some.inj (hat.symm.trans hget)
      rw [hevent]
      exact h.unset i task.view (views_get found) (hearly ht)
    · exact h.unset j t ((hne j hij).symm.trans hget) ht
  · rcases hregistered id j hid with ⟨rfl, rfl, hpoint⟩ | hold
    · exact ⟨task', hat, hjob, hpoint⟩
    · obtain ⟨t, hget, hid', ht⟩ := h.registered id j hold
      by_cases hij : i = j
      · subst hij
        obtain rfl := Option.some.inj ((views_get found).symm.trans hget)
        refine ⟨task', hat, hjob.trans hid', Bool.eq_false_iff.mpr fun he => ?_⟩
        exact Bool.eq_false_iff.mp ht (hearly he)
      · exact ⟨t, (hne j hij).trans hget, hid', ht⟩

/-- **The step lemma.** -/
theorem EventsHeld.step {action : JobAction} (hinv : EventsHeld w)
    (h : JobMove env w action w') : EventsHeld w' := by
  obtain ⟨v, hv⟩ : ∃ v, w' = v := ⟨w', rfl⟩
  rw [hv] at h
  cases h with
  | scheduled same reserve left =>
      rw [hv]
      exact hinv.of_same same.views same.registered
  | @spawned id holding =>
      have hviews : w'.views = w.views ++ [{ jobId := id }] := by
        rw [hv]
        exact List.map_append
      refine ⟨fun i task hget hearly => ?_, fun id' i hid => ?_⟩
      · rw [hviews] at hget
        rcases List.mem_append.mp (List.mem_of_getElem? hget) with hold | hnew
        · obtain ⟨j, hj⟩ := List.mem_iff_getElem?.mp hold
          exact hinv.unset j task hj hearly
        · rw [List.mem_singleton.mp hnew]
      · rw [hv] at hid
        obtain ⟨task, hget, htask⟩ := hinv.registered id' i hid
        refine ⟨task, ?_, htask⟩
        rw [hviews, List.getElem?_append_left (List.getElem?_eq_some_iff.mp hget).1]
        exact hget
  | @moved i now answer task w₁ reply found performed =>
      have hviews : w₁.views = w.views :=
        congrArg (List.map JobTask.view) performed.sameParts.tasks
      refine hinv.of_set
        { task with
          point := resume env now task.eventSet task.point reply
          cancelRequested := false }
        found (by rw [hv, goto_views, hviews]) rfl rfl resume_early ?_
      intro id j hid
      rw [hv] at hid
      rw [← performed.sameParts.registered]
      exact goto_registered hid
  | @reaped i task found ended =>
      refine hinv.of_set { task.view with point := .reaped } found ?_ rfl rfl nofun ?_
      · rw [hv]
        exact List.map_set
      · intro id j hid
        rw [hv] at hid
        have hne : id ≠ task.jobId := by
          rintro rfl
          rw [Dict.get?_erase_self] at hid
          cases hid
        rw [Dict.get?_erase_ne _ _ hne] at hid
        exact .inr hid
  | @cancelled k now handler copy jobs found saving write =>
      have hget : ∀ j : Nat, w'.views[j]? = (w.views[j]?).map fun task =>
          { task with eventSet := task.eventSet
            || w.cancellationEvents.get? handler.jobId == some j } := by
        rw [hv]
        exact fun j => @requestCancel_views { w with jobs := jobs } handler.jobId j
      refine ⟨fun j task' hj hearly => ?_, fun id j hid => ?_⟩
      · rw [hget] at hj
        obtain ⟨task, htask, rfl⟩ := Option.map_eq_some_iff.mp hj
        -- the event that is set is that of a task that has come to its scenario
        have hset : (w.cancellationEvents.get? handler.jobId == some j) = false := by
          refine Bool.eq_false_iff.mpr fun hreg => ?_
          obtain ⟨task', htask', -, hlate⟩ := hinv.registered _ j (eq_of_beq hreg)
          obtain rfl := Option.some.inj (htask.symm.trans htask')
          exact Bool.eq_false_iff.mp hlate hearly
        show (task.eventSet || _) = false
        rw [hset, hinv.unset j task htask hearly]
        rfl
      · rw [hv] at hid
        obtain ⟨task, htask, hpoint⟩ := hinv.registered id j hid
        exact ⟨_, (hget j).trans (congrArg _ htask), hpoint⟩
  | restarted =>
      rw [hv]
      exact ⟨fun i task h => absurd (List.mem_of_getElem? h) List.not_mem_nil, fun _ _ => nofun⟩
  | _ => exact hinv.of_same (congrArg JobWorld.views hv :) (by rw [hv]; exact fun _ _ h => h)

/-! ## §3. Where a job stands. -/

/-- The task at a point has taken the job on. -/
def JobWorld.EngagedAt (w : JobWorld) (jobId : String) (i : Nat) (point : TaskPoint) : Prop :=
  w.points[i]? = some (jobId, point) ∧ point.isEngaged = true

/-- No task that executes the job's scenario has its event set. -/
def JobWorld.Calm (w : JobWorld) (jobId : String) : Prop :=
  ∀ (i : Nat) (task : JobTask), w.views[i]? = some task → task.jobId = jobId →
    task.point.stage = .executing → task.eventSet = false

/-- The task at this point is going to tell the status. -/
def TaskPoint.Owes (mode : WriteMode) (status : JobStatus) : TaskPoint → Prop
  | .reporting _ _ news _ => news.final = some status
  | point => status = .cancelled ∧ point.tellsCancel mode = true

/-- The event is under way already. -/
def TaskPoint.isReporting : TaskPoint → Bool
  | .reporting _ _ _ _ => true
  | _ => false

/-- **Where a job stands** between its end and the event. -/
inductive Phase (env : JobEnv) (jobId : String) (w : JobWorld) : Prop where
  /-- It is not finished, and at most one task has taken it on. -/
  | undecided (silent : w.notices jobId = [])
      (unfinished : ∀ status, w.status jobId = some status → status.isFinished = false)
      (single : ∀ i j p q, w.EngagedAt jobId i p → w.EngagedAt jobId j q → i = j)
      (working : ∀ i p, w.EngagedAt jobId i p → p.isReporting = false)
      (calm : w.Calm jobId)
  /-- It is finished, and one task is going to tell. -/
  | owed (status : JobStatus) (silent : w.notices jobId = [])
      (stored : w.status jobId = some status) (finished : status.isFinished = true)
      (i : Nat) (point : TaskPoint) (engaged : w.EngagedAt jobId i point)
      (only : ∀ j q, w.EngagedAt jobId j q → j = i) (owes : point.Owes env.mode status)
  /-- It is finished and told. -/
  | told (status : JobStatus) (notices : w.notices jobId = [status])
      (stored : w.status jobId = some status) (finished : status.isFinished = true)
      (free : ∀ i p, ¬ w.EngagedAt jobId i p)

/-- What does not concern the job leaves it where it stands. -/
theorem Phase.of_same (h : Phase env jobId w) (hstatus : w'.status jobId = w.status jobId)
    (hnotices : w'.notices jobId = w.notices jobId)
    (hengaged : ∀ i p, w'.EngagedAt jobId i p → w.EngagedAt jobId i p)
    (hstays : ∀ i p, w.EngagedAt jobId i p → w'.EngagedAt jobId i p)
    (hcalm : w.Calm jobId → w'.Calm jobId) : Phase env jobId w' := by
  cases h with
  | undecided silent unfinished single working calm =>
      refine .undecided (hnotices.trans silent) ?_ ?_ ?_ (hcalm calm)
      · rw [hstatus]
        exact unfinished
      · exact fun i j p q hi hj => single i j p q (hengaged i p hi) (hengaged j q hj)
      · exact fun i p hi => working i p (hengaged i p hi)
  | owed status silent stored finished i point engaged only owes =>
      exact .owed status (hnotices.trans silent) (hstatus.trans stored) finished i point
        (hstays i point engaged) (fun j q hj => only j q (hengaged j q hj)) owes
  | told status notices stored finished free =>
      exact .told status (hnotices.trans notices) (hstatus.trans stored) finished
        fun i p hi => free i p (hengaged i p hi)

theorem engagedAt_of_points (hpoints : w'.points = w.points) (i : Nat) (p : TaskPoint) :
    w'.EngagedAt jobId i p ↔ w.EngagedAt jobId i p := by
  unfold JobWorld.EngagedAt
  rw [hpoints]

theorem calm_of_views (hviews : w'.views = w.views) (h : w.Calm jobId) : w'.Calm jobId := by
  unfold JobWorld.Calm
  rwa [hviews]

theorem notices_of_events (hevents : w'.events = w.events) :
    w'.notices jobId = w.notices jobId := by
  unfold JobWorld.notices
  rw [hevents]

theorem isEngaged_iff : w.isEngaged jobId = true ↔ ∃ i p, w.EngagedAt jobId i p := by
  unfold JobWorld.isEngaged
  rw [List.any_eq_true]
  constructor
  · rintro ⟨⟨id, p⟩, hmem, hp⟩
    obtain ⟨i, hi⟩ := List.mem_iff_getElem?.mp hmem
    rw [Bool.and_eq_true, decide_eq_true_eq] at hp
    obtain ⟨rfl, hengaged⟩ := hp
    exact ⟨i, p, hi, hengaged⟩
  · rintro ⟨i, p, hi, hengaged⟩
    exact ⟨(jobId, p), List.mem_of_getElem? hi, by simp [hengaged]⟩

/-! ## §4. A task moves. -/

section Move

variable {i : Nat} {task : JobTask} {point : TaskPoint} {w₁ : JobWorld}

theorem goto_status : (w.goto i task point).status jobId = w.status jobId := by
  unfold JobWorld.status
  rw [goto_jobs]

theorem goto_notices : (w.goto i task point).notices jobId = w.notices jobId :=
  notices_of_events goto_events

/-- A task of another job, or one that neither had taken the job on nor does. -/
theorem engagedAt_idle (found : w.tasks[i]? = some task)
    (hpoints : w'.points = w.points.set i (task.jobId, point))
    (hidle : task.jobId = jobId → task.point.isEngaged = false ∧ point.isEngaged = false)
    (j : Nat) (q : TaskPoint) : w'.EngagedAt jobId j q ↔ w.EngagedAt jobId j q := by
  unfold JobWorld.EngagedAt
  rw [hpoints]
  by_cases hij : i = j
  · subst hij
    rw [List.getElem?_set_self (List.getElem?_eq_some_iff.mp (points_get found)).1,
      points_get found]
    constructor
    · rintro ⟨heq, hq⟩
      obtain ⟨hjob, rfl⟩ := Prod.mk.inj (Option.some.inj heq)
      exact absurd hq (Bool.eq_false_iff.mp (hidle hjob).2)
    · rintro ⟨heq, hq⟩
      obtain ⟨hjob, rfl⟩ := Prod.mk.inj (Option.some.inj heq)
      exact absurd hq (Bool.eq_false_iff.mp (hidle hjob).1)
  · rw [List.getElem?_set_ne hij]

/-- The one task that has taken the job on is the one that moves. -/
theorem engagedAt_alone (found : w.tasks[i]? = some task)
    (hpoints : w'.points = w.points.set i (task.jobId, point))
    (only : ∀ j q, w.EngagedAt task.jobId j q → j = i) {j : Nat} {q : TaskPoint}
    (h : w'.EngagedAt task.jobId j q) : j = i ∧ q = point := by
  obtain ⟨hget, hq⟩ := h
  rw [hpoints] at hget
  by_cases hij : i = j
  · subst hij
    rw [List.getElem?_set_self (List.getElem?_eq_some_iff.mp (points_get found)).1] at hget
    exact ⟨rfl, (Prod.mk.inj (Option.some.inj hget)).2.symm⟩
  · rw [List.getElem?_set_ne hij] at hget
    exact absurd (only j q ⟨hget, hq⟩).symm hij

theorem engagedAt_of_view {j : Nat} {t : JobTask} (hget : w.views[j]? = some t)
    (hengaged : t.point.isEngaged = true) : w.EngagedAt t.jobId j t.point := by
  refine ⟨?_, hengaged⟩
  rw [views_points, List.getElem?_map, hget]
  rfl

theorem goto_points_of (htasks : w₁.tasks = w.tasks) :
    (w₁.goto i task point).points = w.points.set i (task.jobId, point) := by
  rw [goto_points]
  unfold JobWorld.points
  rw [htasks]

/-- The task moves on, and the job stays undecided. -/
theorem Phase.opens (found : w.tasks[i]? = some task) (htasks : w₁.tasks = w.tasks)
    (only : ∀ j q, w.EngagedAt task.jobId j q → j = i) (silent : w₁.notices task.jobId = [])
    (unfinished : ∀ status, w₁.status task.jobId = some status → status.isFinished = false)
    (working : point.isReporting = false)
    (calm : point.stage = .executing → task.eventSet = false) :
    Phase env task.jobId (w₁.goto i task point) := by
  have halone := @engagedAt_alone w (w₁.goto i task point) i task point found
    (goto_points_of htasks) only
  refine .undecided (goto_notices.trans silent) ?_ ?_ ?_ ?_
  · rw [goto_status]
    exact unfinished
  · exact fun j k p q hj hk => (halone hj).1.trans (halone hk).1.symm
  · intro j p hj
    rw [(halone hj).2]
    exact working
  · intro j t hget hjob hstage
    have hengaged : t.point.isEngaged = true := by
      cases hp : t.point with
      | executing copy => rfl
      | _ =>
          rw [hp] at hstage
          cases hstage
    obtain ⟨rfl, hpoint⟩ := halone (hjob ▸ engagedAt_of_view hget hengaged)
    have hviews : (w₁.goto j task point).views[j]?
        = some { task with point := point, cancelRequested := false } := by
      rw [goto_views]
      unfold JobWorld.views
      rw [htasks]
      exact List.getElem?_set_self (List.getElem?_eq_some_iff.mp (views_get found)).1
    obtain rfl := Option.some.inj (hviews.symm.trans hget)
    exact calm hstage

/-- The task comes to owe the event, or comes closer to it. -/
theorem Phase.promises {status : JobStatus} (found : w.tasks[i]? = some task)
    (htasks : w₁.tasks = w.tasks) (only : ∀ j q, w.EngagedAt task.jobId j q → j = i)
    (silent : w₁.notices task.jobId = []) (stored : w₁.status task.jobId = some status)
    (finished : status.isFinished = true) (engaged : point.isEngaged = true)
    (owes : point.Owes env.mode status) : Phase env task.jobId (w₁.goto i task point) := by
  have hpoints := @goto_points_of w i task point w₁ htasks
  refine .owed status (goto_notices.trans silent) (goto_status.trans stored) finished i point
    ⟨?_, engaged⟩ (fun j q hj => (engagedAt_alone found hpoints only hj).1) owes
  rw [hpoints, List.getElem?_set_self (List.getElem?_eq_some_iff.mp (points_get found)).1]

/-- The task has told. -/
theorem Phase.delivers {status : JobStatus} (found : w.tasks[i]? = some task)
    (htasks : w₁.tasks = w.tasks) (only : ∀ j q, w.EngagedAt task.jobId j q → j = i)
    (notices : w₁.notices task.jobId = [status]) (stored : w₁.status task.jobId = some status)
    (finished : status.isFinished = true) (free : point.isEngaged = false) :
    Phase env task.jobId (w₁.goto i task point) := by
  refine .told status (goto_notices.trans notices) (goto_status.trans stored) finished ?_
  intro j q hj
  obtain ⟨rfl, rfl⟩ := engagedAt_alone found (goto_points_of htasks) only hj
  exact Bool.eq_false_iff.mp free hj.2

theorem notices_send {url : String} {job : JobState} {news : JobNews} :
    (w.send jobId url job news).notices jobId = w.notices jobId ++ news.final.toList := by
  unfold JobWorld.notices JobWorld.send
  rw [List.filterMap_append, List.filterMap_cons, if_pos rfl]
  cases news.final <;> rfl

/-- An execution ends in a report only if its event is set. -/
theorem afterExecution_stage {now : Int} {eventSet : Bool} {copy : Versioned JobState}
    {outcome : ScenarioOutcome} (hset : eventSet = false) :
    (afterExecution env now eventSet copy outcome).isReporting = false
      ∧ (afterExecution env now eventSet copy outcome).stage = .elsewhere := by
  unfold afterExecution
  split
  next => exact ⟨rfl, rfl⟩
  next => exact ⟨rfl, rfl⟩
  next => exact ⟨rfl, rfl⟩
  next => exact ⟨rfl, rfl⟩
  next => exact ⟨rfl, rfl⟩
  next =>
    rw [hset]
    exact ⟨rfl, rfl⟩
  next => exact ⟨rfl, rfl⟩

/-- The task writes RUNNING, over whatever the job was. -/
theorem Phase.starts {copy : Versioned JobState} {jobs : VersionedStore String JobState}
    (found : w.tasks[i]? = some task)
    (held : (TaskPoint.starting copy).Held w.jobs task.jobId)
    (write : w.jobs.write env.mode task.jobId copy.version copy.doc = some jobs)
    (only : ∀ j q, w.EngagedAt task.jobId j q → j = i) (silent : w.notices task.jobId = [])
    (working : point.isReporting = false) (unset : task.eventSet = false) :
    Phase env task.jobId (({ w with jobs := jobs } : JobWorld).goto i task point) := by
  refine .opens found rfl only silent (fun status hstatus => ?_) working fun _ => unset
  obtain ⟨stored, hstored, hdoc⟩ := find_write_self write
  rw [status_eq hstored, hdoc, held.1] at hstatus
  cases hstatus
  rfl

/-- A start that is written is announced or executed at once. -/
theorem resume_started {now : Int} {eventSet : Bool} {copy copy' : Versioned JobState} :
    (resume env now eventSet (.starting copy) (.saved copy')).isReporting = false :=
  @emit_rule env (·.isReporting = false) _ _ _ (fun _ => rfl) rfl

/-- An event that has somewhere to go is sent. -/
theorem emit_reached {job : JobState} {sending : String → TaskPoint} {skipped : TaskPoint}
    (h : env.reaches job = true) : ∃ url, env.emit job sending skipped = sending url := by
  rcases emit_cases env job sending skipped with ⟨url, -, heq⟩ | ⟨hnone, -⟩
  · exact ⟨url, heq⟩
  · unfold JobEnv.reaches at h
    rw [hnone] at h
    cases h

/-- The write that ends the job is followed by its event. -/
theorem followed_of_write {now : Int} {answer : Answer} {copy : Versioned JobState}
    {news : JobNews} {caught : Bool} {jobs : VersionedStore String JobState}
    (found : w.tasks[i]? = some task) (finishing : task.point = .finishing copy news caught)
    (applies : answer.applies = true)
    (followed : (task.point.isFollowed env answer
      || !(JobAction.task i now answer).writesTo env w task.jobId) = true)
    (write : w.jobs.write env.mode task.jobId copy.version copy.doc = some jobs) :
    answer.isDone = true ∧ env.reaches copy.doc = true := by
  have hsaves := @saves_task w i now answer task copy found (by rw [finishing]; rfl) applies
  rw [writesTo_of_write hsaves write, finishing, Bool.not_true, Bool.or_false] at followed
  exact (Bool.and_eq_true _ _).mp followed

/-- The task writes an end whose event has somewhere to go, and owes that event. -/
theorem Phase.ends {now : Int} {copy copy' : Versioned JobState} {news : JobNews} {caught : Bool}
    {jobs : VersionedStore String JobState} (found : w.tasks[i]? = some task)
    (held : (TaskPoint.finishing copy news caught).Held w.jobs task.jobId)
    (stored : jobs task.jobId = some copy') (same : copy'.doc = copy.doc)
    (only : ∀ j q, w.EngagedAt task.jobId j q → j = i) (silent : w.notices task.jobId = [])
    (reached : env.reaches copy.doc = true) :
    Phase env task.jobId (({ w with jobs := jobs } : JobWorld).goto i task
      (resume env now task.eventSet (.finishing copy news caught) (.saved copy'))) := by
  have hstatus := status_eq (w := { w with jobs := jobs }) stored
  rw [same] at hstatus
  obtain ⟨url, hurl⟩ := @emit_reached env copy'.doc
    (fun url => .reporting url copy'.doc news caught) .ended (by rw [same]; exact reached)
  show Phase env task.jobId (JobWorld.goto _ i task (env.emit _ _ _))
  rw [hurl]
  exact .promises found rfl only silent hstatus held.2.1 rfl held.1

/-- **A task that has taken on an undecided job.** -/
theorem Phase.undecided_works {now : Int} {answer : Answer} {reply : Reply}
    (found : w.tasks[i]? = some task) (held : task.point.Held w.jobs task.jobId)
    (unset : task.point.isEarly = true → task.eventSet = false)
    (performed : Performed env w task.jobId task.point.access answer w₁ reply)
    (followed : (task.point.isFollowed env answer
      || !(JobAction.task i now answer).writesTo env w task.jobId) = true)
    (engaged : task.point.isEngaged = true)
    (only : ∀ j q, w.EngagedAt task.jobId j q → j = i) (silent : w.notices task.jobId = [])
    (unfinished : ∀ status, w.status task.jobId = some status → status.isFinished = false)
    (working : task.point.isReporting = false)
    (calm : task.point.stage = .executing → task.eventSet = false) :
    Phase env task.jobId (w₁.goto i task (resume env now task.eventSet task.point reply)) := by
  have hsame : ∀ point : TaskPoint, point.isReporting = false → point.stage = .elsewhere →
      Phase env task.jobId (w.goto i task point) := fun point hworking hstage =>
    .opens found rfl only silent unfinished hworking fun h => by rw [hstage] at h; cases h
  cases hp : task.point with
  | starting copy =>
      rw [hp] at performed held unset
      cases performed with
      | saved write _ _ => exact .starts found held write only silent resume_started (unset rfl)
      | savedCancelled write => exact .starts found held write only silent rfl (unset rfl)
      | rejected stale => exact hsame _ rfl rfl
      | rejectedCancelled stale => exact hsame _ rfl rfl
      | raised message may => exact hsame _ rfl rfl
      | lost applied may => exact hsame _ rfl rfl
  | announcing url copy news =>
      rw [hp] at performed held unset
      -- what is announced is no end of the job
      have hquiet : ∀ url job, (w.send task.jobId url job news).notices task.jobId = [] := by
        intro url job
        rw [notices_send, silent, held.1]
        rfl
      cases performed with
      | emitted => exact .opens found rfl only (hquiet ..) unfinished rfl fun _ => unset rfl
      | emittedRaised message => exact .opens found rfl only (hquiet ..) unfinished rfl nofun
      | emittedCancelled => exact .opens found rfl only (hquiet ..) unfinished rfl nofun
      | raised message may => exact hsame _ rfl rfl
      | lost applied may => exact hsame _ rfl rfl
  | executing copy =>
      rw [hp] at performed calm
      cases performed with
      | returned outcome =>
          -- without its event the executor has only ends to write
          have hafter := @afterExecution_stage env now task.eventSet copy outcome (calm rfl)
          exact hsame _ hafter.1 hafter.2
      | raised message may => cases may
      | lost applied may => cases may
  | finishing copy news caught =>
      have hfollowed := fun applies jobs =>
        @followed_of_write env w i task now answer copy news caught jobs found hp applies followed
      rw [hp] at performed held
      cases performed with
      | @saved _ copy' jobs write stored same =>
          exact .ends found held stored same only silent (hfollowed rfl jobs write).2
      | @savedCancelled _ jobs write =>
          -- the job would be finished, and the task cut short before the event
          cases (hfollowed rfl jobs write).1
      | rejected stale => cases caught <;> exact hsame _ rfl rfl
      | rejectedCancelled stale => exact hsame _ rfl rfl
      | raised message may => cases caught <;> exact hsame _ rfl rfl
      | lost applied may => exact hsame _ rfl rfl
  | reporting url job news caught =>
      rw [hp] at working
      cases working
  | _ =>
      rw [hp] at engaged
      cases engaged

/-- Where the last write wins, the write of a stored job is taken. -/
theorem write_lastWins {status : JobStatus} {copy : Versioned JobState}
    (hmode : (env.mode == .lastWriteWins) = true) (stored : w.status jobId = some status) :
    w.jobs.write env.mode jobId copy.version copy.doc ≠ none := by
  intro hnone
  obtain ⟨job, hjob, -⟩ := Option.map_eq_some_iff.mp stored
  unfold VersionedStore.write at hnone
  rw [hjob, eq_of_beq hmode] at hnone
  cases hnone

/-- The task is about to write the end of the job. -/
def TaskPoint.isFinishing : TaskPoint → Bool
  | .finishing _ _ _ => true
  | _ => false

/-- The executor writes what is to be written, unless its event is set and it was cancelled. -/
theorem afterExecution_written {now : Int} {eventSet : Bool} {copy : Versioned JobState}
    {outcome : ScenarioOutcome} (hwritten : outcome.isWritten = true)
    (hcancelled : outcome = .cancelled → eventSet = false) :
    (afterExecution env now eventSet copy outcome).isFinishing = true := by
  cases outcome with
  | result status outputData error artifacts =>
      unfold ScenarioOutcome.isWritten at hwritten
      simp only [Bool.or_eq_true, beq_iff_eq] at hwritten
      rcases hwritten with (rfl | rfl) | rfl
      · rfl
      · rfl
      · rfl
  | timeout => rfl
  | cancelled =>
      rw [hcancelled rfl]
      rfl
  | raised message => cases hwritten

theorem keepsOn_write {eventSet : Bool} {copy : Versioned JobState} {outcome : ScenarioOutcome}
    (keeps : (TaskPoint.executing copy).keepsOn env eventSet (.ends outcome) = true)
    (hset : ¬ (outcome = .cancelled ∧ eventSet = true)) :
    (env.mode == .lastWriteWins) = true ∧ outcome.isWritten = true := by
  cases outcome with
  | cancelled =>
      have hnot : eventSet = false := Bool.eq_false_iff.mpr fun h => hset ⟨rfl, h⟩
      subst hnot
      exact ⟨keeps, rfl⟩
  | _ => exact (Bool.and_eq_true _ _).mp keeps

theorem owes_finishing {mode : WriteMode} (hpoint : point.isFinishing = true)
    (hmode : (mode == .lastWriteWins) = true) :
    point.isEngaged = true ∧ point.Owes mode .cancelled := by
  cases point with
  | finishing copy news caught => exact ⟨rfl, rfl, hmode⟩
  | _ => cases hpoint

/-- **A task that owes the event of a finished job.** -/
theorem Phase.owed_works {now : Int} {answer : Answer} {reply : Reply} {status : JobStatus}
    (found : w.tasks[i]? = some task) (held : task.point.Held w.jobs task.jobId)
    (unset : task.point.isEarly = true → task.eventSet = false)
    (performed : Performed env w task.jobId task.point.access answer w₁ reply)
    (keeps : task.point.keepsOn env task.eventSet answer = true)
    (followed : (task.point.isFollowed env answer
      || !(JobAction.task i now answer).writesTo env w task.jobId) = true)
    (only : ∀ j q, w.EngagedAt task.jobId j q → j = i) (silent : w.notices task.jobId = [])
    (stored : w.status task.jobId = some status) (finished : status.isFinished = true)
    (owes : task.point.Owes env.mode status) :
    Phase env task.jobId (w₁.goto i task (resume env now task.eventSet task.point reply)) := by
  cases hp : task.point with
  | starting copy =>
      rw [hp] at performed held keeps owes unset
      cases performed with
      | saved write _ _ => exact .starts found held write only silent resume_started (unset rfl)
      | savedCancelled write => exact .starts found held write only silent rfl (unset rfl)
      -- the task tells of the CANCELLED only where its own write is taken
      | rejected stale => exact absurd stale (write_lastWins owes.2 stored)
      | rejectedCancelled stale => exact absurd stale (write_lastWins owes.2 stored)
      | raised message may => cases keeps
      | lost applied may =>
          cases applied with
          | true => cases may
          | false => cases keeps
  | announcing url copy news =>
      rw [hp] at performed held keeps owes
      cases performed with
      | emitted =>
          refine .promises found rfl only ?_ stored finished rfl ⟨owes.1, rfl⟩
          rw [notices_send, silent, held.1]
          rfl
      | emittedRaised message => cases keeps
      | emittedCancelled => cases keeps
      | raised message may => cases keeps
      | lost applied may => cases keeps
  | executing copy =>
      rw [hp] at performed keeps owes
      cases performed with
      | returned outcome =>
          obtain ⟨rfl, -⟩ := owes
          by_cases hset : outcome = .cancelled ∧ task.eventSet = true
          · obtain ⟨rfl, hset⟩ := hset
            rw [hset] at keeps ⊢
            obtain ⟨url, hurl⟩ := @emit_reached env copy.doc
              (fun url => .reporting url copy.doc (.cancelled now) false) .ended keeps
            show Phase env task.jobId (JobWorld.goto _ i task (env.emit _ _ _))
            rw [hurl]
            exact .promises found rfl only silent stored rfl rfl rfl
          · -- the task writes its end over the CANCELLED
            obtain ⟨hmode, hwritten⟩ := keepsOn_write keeps hset
            have hfinishing := @afterExecution_written env now task.eventSet copy outcome hwritten
              fun hcancelled => Bool.eq_false_iff.mpr fun h => hset ⟨hcancelled, h⟩
            obtain ⟨hengaged, howes⟩ := owes_finishing hfinishing hmode
            exact .promises found rfl only silent stored rfl hengaged howes
      | raised message may => cases may
      | lost applied may => cases may
  | finishing copy news caught =>
      have hfollowed := fun applies jobs =>
        @followed_of_write env w i task now answer copy news caught jobs found hp applies followed
      rw [hp] at performed held keeps owes
      cases performed with
      | @saved _ copy' jobs write stored same =>
          exact .ends found held stored same only silent (hfollowed rfl jobs write).2
      | savedCancelled write => cases keeps
      | rejected stale => exact absurd stale (write_lastWins owes.2 stored)
      | rejectedCancelled stale => cases keeps
      | raised message may => cases keeps
      | lost applied may => cases keeps
  | reporting url job news caught =>
      rw [hp] at performed keeps owes
      have htold : (w.send task.jobId url job news).notices task.jobId = [status] := by
        rw [notices_send, silent]
        exact congrArg Option.toList owes
      cases performed with
      | emitted => cases caught <;> exact .delivers found rfl only htold stored finished rfl
      -- what the task recovers from is the exception, and it finds the job finished
      | emittedRaised message =>
          cases caught <;> exact .delivers found rfl only htold stored finished rfl
      | emittedCancelled =>
          cases caught <;> exact .delivers found rfl only htold stored finished rfl
      | raised message may => cases keeps
      | lost applied may =>
          cases applied with
          | true => cases may
          | false => cases keeps
  | _ =>
      rw [hp] at owes
      exact absurd owes.2 Bool.false_ne_true

theorem engaged_of_executing (h : point.stage = .executing) : point.isEngaged = true := by
  cases point with
  | executing copy => rfl
  | _ => cases h

/-- A task of another job, or one that neither had taken the job on nor does. -/
theorem Phase.idle (h : Phase env jobId w) (task' : JobTask) (found : w.tasks[i]? = some task)
    (hviews : w'.views = w.views.set i task') (hjob : task'.jobId = task.jobId)
    (hstatus : w'.status jobId = w.status jobId)
    (hnotices : w'.notices jobId = w.notices jobId)
    (hidle : task.jobId = jobId → task.point.isEngaged = false ∧ task'.point.isEngaged = false) :
    Phase env jobId w' := by
  have hpoints : w'.points = w.points.set i (task.jobId, task'.point) := by
    rw [views_points, hviews, List.map_set, views_points, hjob]
  have hengaged := @engagedAt_idle w w' jobId i task task'.point found hpoints hidle
  refine h.of_same hstatus hnotices (fun j q => (hengaged j q).mp)
    (fun j q => (hengaged j q).mpr) ?_
  intro hcalm j t hget hid hstage
  rw [hviews] at hget
  by_cases hij : i = j
  · subst hij
    rw [List.getElem?_set_self (List.getElem?_eq_some_iff.mp (views_get found)).1] at hget
    obtain rfl := Option.some.inj hget
    exact absurd (engaged_of_executing hstage)
      (Bool.eq_false_iff.mp (hidle (hjob.symm.trans hid)).2)
  · rw [List.getElem?_set_ne hij] at hget
    exact hcalm j t hget hid hstage

/-- What a task does to the other jobs. -/
theorem Performed.other {id : String} {a : Access} {answer : Answer} {reply : Reply}
    (h : Performed env w id a answer w₁ reply) (hne : jobId ≠ id) :
    w₁.status jobId = w.status jobId ∧ w₁.notices jobId = w.notices jobId := by
  have hsend : ∀ url job news, (w.send id url job news).notices jobId = w.notices jobId := by
    intro url job news
    unfold JobWorld.notices JobWorld.send
    rw [List.filterMap_append, List.filterMap_cons, if_neg hne.symm]
    exact List.append_nil _
  cases h with
  | saved write stored same =>
      exact ⟨congrArg (Option.map _) (find_write_ne write hne), rfl⟩
  | savedCancelled write =>
      exact ⟨congrArg (Option.map _) (find_write_ne write hne), rfl⟩
  | emitted => exact ⟨rfl, hsend ..⟩
  | emittedRaised message => exact ⟨rfl, hsend ..⟩
  | emittedCancelled => exact ⟨rfl, hsend ..⟩
  | _ => exact ⟨rfl, rfl⟩

/-- A task that loads the job takes it on only when it is SUBMITTED, or RUNNING if the task
recovers from an exception. -/
theorem resume_takesOn {now : Int} {eventSet : Bool} {reply : Reply}
    (hfree : task.point.isEngaged = false)
    (hengaged : (resume env now eventSet task.point reply).isEngaged = true) :
    ∃ job, reply = .loaded (some job) ∧ task.point.takesOn (some job.doc.status) = true
      ∧ job.doc.status.isFinished = false
      ∧ (resume env now eventSet task.point reply).isReporting = false
      ∧ (resume env now eventSet task.point reply).stage ≠ .executing := by
  generalize task.point = p at hfree hengaged ⊢
  unfold resume at hengaged ⊢
  split at hengaged
  next job =>
    refine ⟨job, rfl, ?_⟩
    unfold afterLoad at hengaged ⊢
    split at hengaged
    next => cases hengaged
    next hsubmitted =>
      rw [not_not] at hsubmitted
      rw [if_neg (not_not.mpr hsubmitted), hsubmitted]
      refine ⟨rfl, rfl, ?_⟩
      split
      next => exact ⟨rfl, nofun⟩
      next => exact ⟨rfl, nofun⟩
  next => cases hengaged
  next => cases hfree
  next => cases hfree
  next => cases hfree
  next => cases hfree
  next => cases hfree
  next => cases hfree
  next => cases hfree
  next => cases hfree
  next error job =>
    refine ⟨job, rfl, ?_⟩
    split at hengaged
    next hrunning =>
      rw [if_pos hrunning, hrunning]
      exact ⟨rfl, rfl, rfl, nofun⟩
    next => cases hengaged
  next => cases hengaged

end Move

/-! ## §5. Every action. -/

/-- A task that has not taken a job on only reads. -/
theorem Performed.reads {id : String} {point : TaskPoint} {answer : Answer} {w₁ : JobWorld}
    {reply : Reply} (h : Performed env w id point.access answer w₁ reply)
    (hfree : point.isEngaged = false) :
    w = w₁ ∧ ∀ job, reply = .loaded (some job) →
      answer.isDone = true ∧ w.jobs id = some job := by
  cases point with
  | loading =>
      cases h with
      | loaded => exact ⟨rfl, fun job hjob => ⟨rfl, Reply.loaded.inj hjob⟩⟩
      | raised message may => exact ⟨rfl, fun job hjob => Reply.noConfusion hjob⟩
      | lost applied may => exact ⟨rfl, fun job hjob => Reply.noConfusion hjob⟩
  | recovering error =>
      cases h with
      | loaded => exact ⟨rfl, fun job hjob => ⟨rfl, Reply.loaded.inj hjob⟩⟩
      | raised message may => exact ⟨rfl, fun job hjob => Reply.noConfusion hjob⟩
      | lost applied may => exact ⟨rfl, fun job hjob => Reply.noConfusion hjob⟩
  | ended =>
      cases h with
      | raised message may => cases may
      | lost applied may => cases may
  | reaped =>
      cases h with
      | raised message may => cases may
      | lost applied may => cases may
  | _ => cases hfree

theorem owes_eq {status : JobStatus} (silent : w.notices jobId = [])
    (stored : w.status jobId = some status) (finished : status.isFinished = true) :
    w.owes jobId = true := by
  unfold JobWorld.owes
  rw [silent, stored, Option.any_some, finished]
  rfl

/-- The job is taken on: it was undecided, and nobody else had taken it on. -/
theorem Phase.taken {i : Nat} {task : JobTask} {point : TaskPoint} {job : Versioned JobState}
    (phase : Phase env task.jobId w) (found : w.tasks[i]? = some task)
    (stored : w.jobs task.jobId = some job) (unfinished : job.doc.status.isFinished = false)
    (alone : w.isEngaged task.jobId = false) (working : point.isReporting = false)
    (stage : point.stage ≠ .executing) : Phase env task.jobId (w.goto i task point) := by
  have hnone : ∀ j q, ¬ w.EngagedAt task.jobId j q := fun j q hj =>
    Bool.eq_false_iff.mp alone (isEngaged_iff.mpr ⟨j, q, hj⟩)
  have hfinished : ∀ status, w.status task.jobId = some status → status.isFinished = false := by
    intro status hstatus
    rw [status_eq stored] at hstatus
    exact Option.some.inj hstatus ▸ unfinished
  cases phase with
  | undecided silent _ single _ calm =>
      exact .opens found rfl (fun j q hj => absurd hj (hnone j q)) silent hfinished working
        fun h => absurd h stage
  -- what a task takes on is stored as SUBMITTED or RUNNING
  | owed status silent hstored finished =>
      rw [hfinished status hstored] at finished
      cases finished
  | told status notices hstored finished =>
      rw [hfinished status hstored] at finished
      cases finished

/-- The task that moves keeps to where the job stands. -/
theorem Phase.moved {i : Nat} {now : Int} {answer : Answer} {task : JobTask} {w₁ : JobWorld}
    {reply : Reply} (phase : Phase env jobId w) (held : CopiesHeld w) (events : EventsHeld w)
    (tells : (JobAction.task i now answer).tells env jobId w = true)
    (found : w.tasks[i]? = some task)
    (performed : Performed env w task.jobId task.point.access answer w₁ reply) :
    Phase env jobId (w₁.goto i task (resume env now task.eventSet task.point reply)) := by
  have htasks := performed.sameParts.tasks
  by_cases hjob : jobId = task.jobId
  · subst hjob
    have htells : task.tells env w answer
        ((JobAction.task i now answer).writesTo env w task.jobId) = true := by
      unfold JobAction.tells at tells
      simpa [found] using tells
    unfold JobTask.tells at htells
    simp only [Bool.and_eq_true] at htells
    obtain ⟨⟨halone, hkeeps⟩, hfollowed⟩ := htells
    cases hengaged : task.point.isEngaged with
    | false =>
        -- the task has only read, and takes the job on or not
        obtain ⟨rfl, hread⟩ := performed.reads hengaged
        cases hnew : (resume env now task.eventSet task.point reply).isEngaged with
        | false =>
            exact phase.idle _ found goto_views rfl goto_status goto_notices
              fun _ => ⟨hengaged, hnew⟩
        | true =>
            obtain ⟨job, hreply, htakes, hunfinished, hworking, hstage⟩ :=
              resume_takesOn hengaged hnew
            obtain ⟨hdone, hstored⟩ := hread job hreply
            rw [status_eq hstored, hdone, htakes] at halone
            have hnobody : w.isEngaged task.jobId = false := by simpa using halone
            exact phase.taken found hstored hunfinished hnobody hworking hstage
    | true =>
        have hat : w.EngagedAt task.jobId i task.point := ⟨points_get found, hengaged⟩
        have hheld := held.tasks _ (List.mem_of_getElem? (points_get found))
        cases phase with
        | undecided silent unfinished single working calm =>
            exact .undecided_works found hheld (events.unset i task.view (views_get found))
              performed hfollowed hengaged (fun j q hj => single j i q task.point hj hat) silent
              unfinished (working i task.point hat)
              (calm i task.view (views_get found) rfl)
        | owed status silent stored finished k point engaged only owes =>
            obtain rfl := only i task.point hat
            obtain rfl := (Prod.mk.inj (Option.some.inj (hat.1.symm.trans engaged.1))).2
            rw [owes_eq silent stored finished] at hkeeps
            exact .owed_works found hheld (events.unset i task.view (views_get found)) performed
              hkeeps hfollowed only silent stored finished owes
        | told status notices stored finished free => exact absurd hat (free i task.point)
  · obtain ⟨hstatus, hnotices⟩ := performed.other hjob
    have hviews : w₁.views = w.views := congrArg (List.map JobTask.view) htasks
    exact phase.idle _ found (goto_views.trans (congrArg (List.set · i _) hviews)) rfl
      (goto_status.trans hstatus) (goto_notices.trans hnotices) fun h => absurd h.symm hjob

/-- The job is where it was, and so are those that have taken it on. -/
theorem Phase.of_views (h : Phase env jobId w) (hstatus : w'.status jobId = w.status jobId)
    (hevents : w'.events = w.events) (hviews : w'.views = w.views) : Phase env jobId w' := by
  have hpoints : w'.points = w.points := by rw [views_points, views_points, hviews]
  exact h.of_same hstatus (notices_of_events hevents)
    (fun i p => (engagedAt_of_points hpoints i p).mp)
    (fun i p => (engagedAt_of_points hpoints i p).mpr) (calm_of_views hviews)

/-- A new task has not taken the job on. -/
theorem Phase.spawned {id : String} (h : Phase env jobId w)
    (hstatus : w'.status jobId = w.status jobId) (hevents : w'.events = w.events)
    (htasks : w'.tasks = w.tasks ++ [{ jobId := id }]) : Phase env jobId w' := by
  have hviews : w'.views = w.views ++ [{ jobId := id }] := by
    unfold JobWorld.views
    rw [htasks, List.map_append]
    rfl
  have hnew : ∀ {α : Type} (l : List α) (x y : α) (i : Nat), (l ++ [x])[i]? = some y →
      l[i]? = some y ∨ y = x := by
    intro α l x y i hget
    by_cases hi : i < l.length
    · rw [List.getElem?_append_left hi] at hget
      exact .inl hget
    · rw [List.getElem?_append_right (Nat.le_of_not_lt hi)] at hget
      exact .inr (List.mem_singleton.mp (List.mem_of_getElem? hget))
  refine h.of_same hstatus (notices_of_events hevents) ?_ ?_ ?_
  · rintro i p ⟨hget, hp⟩
    rw [points_spawned htasks] at hget
    rcases hnew _ _ _ _ hget with hold | heq
    · exact ⟨hold, hp⟩
    · obtain ⟨-, rfl⟩ := Prod.mk.inj heq
      cases hp
  · rintro i p ⟨hget, hp⟩
    refine ⟨?_, hp⟩
    rw [points_spawned htasks, List.getElem?_append_left (List.getElem?_eq_some_iff.mp hget).1]
    exact hget
  · intro hcalm i t hget hjob hstage
    rw [hviews] at hget
    rcases hnew _ _ _ _ hget with hold | rfl
    · exact hcalm i t hold hjob hstage
    · rfl

/-- The job is cancelled while a task will tell of it. -/
theorem Phase.cancels (phase : Phase env jobId w)
    (htelling : ∃ i p, w.EngagedAt jobId i p ∧ p.tellsCancel env.mode = true)
    (hstatus : w'.status jobId = some .cancelled) (hevents : w'.events = w.events)
    (hpoints : w'.points = w.points) : Phase env jobId w' := by
  obtain ⟨i, p, hat, htells⟩ := htelling
  have howes : p.Owes env.mode .cancelled := by
    cases p with
    | reporting url job news caught => cases htells
    | _ => exact ⟨rfl, htells⟩
  have hsame := fun j q => @engagedAt_of_points w w' jobId hpoints j q
  have hnew : w.notices jobId = [] → (∀ j q, w.EngagedAt jobId j q → j = i) →
      Phase env jobId w' := fun silent only =>
    .owed .cancelled ((notices_of_events hevents).trans silent) hstatus rfl i p
      ((hsame i p).mpr hat) (fun j q hj => only j q ((hsame j q).mp hj)) howes
  cases phase with
  | undecided silent unfinished single working calm =>
      -- the task that will tell is the one that has taken the job on
      exact hnew silent fun j q hj => single j i q p hj hat
  | owed status silent stored finished k point engaged only owes =>
      exact hnew silent fun j q hj => (only j q hj).trans (only i p hat).symm
  | told status notices stored finished free => exact absurd hat (free i p)

/-- A handler of `CancelJob` has cancelled a job. -/
theorem Phase.cancelledBy {k : Nat} {now : Int} {handler : CancelHandler}
    {copy : Versioned JobState} {jobs : VersionedStore String JobState}
    (phase : Phase env jobId w) (held : CopiesHeld w) (events : EventsHeld w)
    (tells : (JobAction.handler k now .done).tells env jobId w = true)
    (found : w.handlers[k]? = some handler) (saving : handler.point = .saving copy)
    (write : w.jobs.write env.mode handler.jobId copy.version copy.doc = some jobs)
    (hjobs : w'.jobs = jobs) (hevents : w'.events = w.events) (hpoints : w'.points = w.points)
    (hviews : ∀ j : Nat, w'.views[j]? = ({ w with jobs := jobs }.requestCancel
      handler.jobId).views[j]?) : Phase env jobId w' := by
  by_cases hjob : jobId = handler.jobId
  · subst hjob
    have hwrites := writesTo_of_write (saves_handler now found saving) write
    have htelling : w.points.any (fun entry => entry.1 = handler.jobId
        && entry.2.tellsCancel env.mode) = true := by
      unfold JobAction.tells at tells
      simpa [hwrites] using tells
    obtain ⟨⟨id, p⟩, hmem, hp⟩ := List.any_eq_true.mp htelling
    obtain ⟨i, hi⟩ := List.mem_iff_getElem?.mp hmem
    rw [Bool.and_eq_true, decide_eq_true_eq] at hp
    obtain ⟨rfl, htells⟩ := hp
    have hcopy := held.handlers handler (List.mem_of_getElem? found)
    rw [saving] at hcopy
    obtain ⟨stored, hstored, hdoc⟩ := find_write_self write
    have hstatus : w'.status handler.jobId = some .cancelled := by
      rw [← hcopy.1, ← hdoc]
      exact status_eq (hjobs ▸ hstored)
    have hengaged : p.isEngaged = true := by
      cases p with
      | executing copy => rfl
      | starting copy => rfl
      | announcing url copy news => rfl
      | finishing copy news caught => rfl
      | _ => cases htells
    exact phase.cancels ⟨i, p, ⟨hi, hengaged⟩, htells⟩ hstatus hevents hpoints
  · have hstatus : w'.status jobId = w.status jobId := by
      unfold JobWorld.status
      rw [hjobs, find_write_ne write hjob]
    refine phase.of_same hstatus (notices_of_events hevents)
      (fun i p => (engagedAt_of_points hpoints i p).mp)
      (fun i p => (engagedAt_of_points hpoints i p).mpr) fun hcalm j t hget hid hstage => ?_
    rw [hviews, requestCancel_views] at hget
    obtain ⟨t', ht', rfl⟩ := Option.map_eq_some_iff.mp hget
    -- the event that is set is that of a task of the other job
    have hother : (w.cancellationEvents.get? handler.jobId == some j) = false := by
      refine Bool.eq_false_iff.mpr fun hreg => ?_
      obtain ⟨t'', ht'', hid', -⟩ := events.registered _ j (eq_of_beq hreg)
      obtain rfl := Option.some.inj (ht'.symm.trans ht'')
      exact hjob (hid.symm.trans hid')
    show (t'.eventSet || _) = false
    rw [hcalm j t' ht' hid hstage]
    exact hother

/-- A new job is undecided. -/
theorem Phase.added {job : JobState} (phase : Phase env jobId w) (new : w.jobs job.id = none)
    (submitted : job.status = .submitted) :
    Phase env jobId
      { w with
        jobs := Function.update w.jobs job.id (some ⟨0, job⟩)
        ids := w.ids ++ [job.id] } := by
  by_cases hjob : jobId = job.id
  · subst hjob
    have hnone : ∀ status, w.status job.id ≠ some status := by
      intro status hstatus
      unfold JobWorld.status at hstatus
      rw [new] at hstatus
      cases hstatus
    cases phase with
    | undecided silent _ single working calm =>
        refine .undecided silent (fun status hstatus => ?_) single working calm
        have hnew := hstatus.symm.trans (status_eq (Function.update_self ..))
        rw [Option.some.inj hnew]
        exact congrArg JobStatus.isFinished submitted
    | owed status silent stored => exact absurd stored (hnone status)
    | told status notices stored => exact absurd stored (hnone status)
  · exact phase.of_views (congrArg (Option.map _) (Function.update_of_ne hjob ..)) rfl rfl

/-- A process that ends owes nothing. -/
theorem Phase.restarted (phase : Phase env jobId w)
    (tells : JobAction.restart.tells env jobId w = true) :
    Phase env jobId
      { JobWorld.boot env w.jobs w.ids with
        events := w.events
        executions := w.executions
        cancelled := w.cancelled } := by
  have hnobody : ∀ i p, ¬ ({ JobWorld.boot env w.jobs w.ids with
      events := w.events
      executions := w.executions
      cancelled := w.cancelled } : JobWorld).EngagedAt jobId i p :=
    fun i p h => absurd (List.mem_of_getElem? h.1) List.not_mem_nil
  cases phase with
  | undecided silent unfinished _ _ _ =>
      exact .undecided silent unfinished (fun i j p q hi => absurd hi (hnobody i p))
        (fun i p hi => absurd hi (hnobody i p))
        fun i t hget => absurd (List.mem_of_getElem? hget) List.not_mem_nil
  | owed status silent stored finished =>
      change (!w.owes jobId) = true at tells
      rw [owes_eq silent stored finished] at tells
      cases tells
  | told status notices stored finished _ => exact .told status notices stored finished hnobody

/-- **The step lemma**: an action that keeps the promise keeps to where the job stands. -/
theorem Phase.step {action : JobAction} (phase : Phase env jobId w) (held : CopiesHeld w)
    (events : EventsHeld w) (tells : action.tells env jobId w = true)
    (h : JobMove env w action w') : Phase env jobId w' := by
  obtain ⟨v, hv⟩ : ∃ v, w' = v := ⟨w', rfl⟩
  rw [hv] at h
  cases h with
  | scheduled same reserve left =>
      rw [hv]
      exact phase.of_views (by unfold JobWorld.status; rw [same.jobs]) same.events same.views
  | @added job new submitted =>
      rw [hv]
      exact phase.added new submitted
  | @swept now id job rest jobs sweeping write =>
      rw [hv]
      -- the sweep writes one job; about that one `tells` says that it does not
      by_cases hjob : jobId = id
      · subst hjob
        have hwrites := @writesTo_of_write _ _ _ (.sweep now .done) _ _ (saves_sweep sweeping) write
        change (!(JobAction.sweep now .done).writesTo env w jobId) = true at tells
        rw [hwrites] at tells
        cases tells
      · exact phase.of_views (congrArg (Option.map _) (find_write_ne write hjob)) rfl rfl
  | spawned holding =>
      exact phase.spawned (congrArg (JobWorld.status · jobId) hv :) (by rw [hv]) (by rw [hv])
  | moved found performed =>
      rw [hv]
      exact phase.moved held events tells found performed
  | @reaped i task found ended =>
      refine phase.idle { task.view with point := .reaped } found ?_ rfl
        (congrArg (JobWorld.status · jobId) hv :) (congrArg (JobWorld.notices · jobId) hv :)
        fun _ => ⟨by rw [ended]; rfl, rfl⟩
      rw [hv]
      exact List.map_set
  | cancelled found saving write =>
      rw [hv]
      exact phase.cancelledBy held events tells found saving write rfl rfl requestCancel_points
        fun _ => rfl
  | restarted =>
      rw [hv]
      exact phase.restarted tells
  | _ =>
      exact phase.of_views (congrArg (JobWorld.status · jobId) hv :)
        (congrArg JobWorld.events hv :) (congrArg JobWorld.views hv :)

/-! ## §6. Runs. -/

/-- The awaits that a task has before it at most. -/
def TaskPoint.awaits : TaskPoint → Nat
  | .loading => 9
  | .starting _ => 8
  | .announcing _ _ _ => 7
  | .executing _ => 6
  | .finishing _ _ false => 5
  | .reporting _ _ _ false => 4
  | .recovering _ => 3
  | .finishing _ _ true => 2
  | .reporting _ _ _ true => 1
  | .ended | .reaped => 0

/-- An emission is at most one await. -/
theorem emit_awaits {job : JobState} {sending : String → TaskPoint} {skipped : TaskPoint} {n : Nat}
    (hsending : ∀ url, (sending url).awaits < n) (hskipped : skipped.awaits < n) :
    (env.emit job sending skipped).awaits < n :=
  @emit_rule env (·.awaits < n) job sending skipped hsending hskipped

theorem afterExecution_awaits {now : Int} {eventSet : Bool} {copy : Versioned JobState}
    {outcome : ScenarioOutcome} : (afterExecution env now eventSet copy outcome).awaits < 6 := by
  unfold afterExecution
  split
  next => exact Nat.lt_succ_self 5
  next => exact Nat.lt_succ_self 5
  next => exact Nat.lt_succ_self 5
  next => exact Nat.zero_lt_succ 5
  next => exact Nat.lt_succ_self 5
  next =>
    split
    next => exact emit_awaits (fun _ => by simp [TaskPoint.awaits]) (Nat.zero_lt_succ 5)
    next => exact Nat.lt_succ_self 5
  next => simp [TaskPoint.awaits]

/-- **A task comes to its end**: whatever an await ends with, there are fewer of them left. -/
theorem resume_awaits {now : Int} {eventSet : Bool} {point : TaskPoint} {reply : Reply}
    (h : point.isDone = false) :
    (resume env now eventSet point reply).awaits < point.awaits := by
  unfold resume
  split
  next =>
    unfold afterLoad
    split
    next => simp [TaskPoint.awaits]
    next => split <;> simp [TaskPoint.awaits]
  next => simp [TaskPoint.awaits]
  next => exact emit_awaits (fun _ => Nat.lt_succ_self 7) (by simp [TaskPoint.awaits])
  next => simp [TaskPoint.awaits]
  next => exact Nat.lt_succ_self 6
  next => simp [TaskPoint.awaits]
  next => exact afterExecution_awaits
  next copy news caught _ =>
    cases caught with
    | false => exact emit_awaits (fun _ => Nat.lt_succ_self 4) (Nat.zero_lt_succ 4)
    | true => exact emit_awaits (fun _ => Nat.lt_succ_self 1) (Nat.zero_lt_succ 1)
  next => simp [TaskPoint.awaits]
  next => exact Nat.lt_succ_self 3
  next =>
    split
    next => exact Nat.lt_succ_self 2
    next => simp [TaskPoint.awaits]
  next =>
    cases point with
    | ended => cases h
    | reaped => cases h
    | finishing copy news caught => cases caught <;> simp [TaskPoint.awaits]
    | reporting url job news caught => cases caught <;> simp [TaskPoint.awaits]
    | _ => exact Nat.zero_lt_succ _

/-- The action keeps the promise of the job. -/
def KeepsPromise (env : JobEnv) (jobId : String) (w : JobWorld) (action : JobAction) : Prop :=
  action.tells env jobId w = true

/-- What the runs keep. -/
structure Telling (env : JobEnv) (jobId : String) (w : JobWorld) : Prop where
  held : CopiesHeld w
  events : EventsHeld w
  phase : Phase env jobId w

theorem Telling.step {action : JobAction} (hinv : Telling env jobId w)
    (hok : KeepsPromise env jobId w action) (h : jobStep env w action = some w') :
    Telling env jobId w' := by
  have hmove := step_cases h
  exact ⟨hmove.copiesHeld hinv.held, hinv.events.step hmove,
    hinv.phase.step hinv.held hinv.events hok hmove⟩

/-- Where a service starts with a job that is not finished. -/
theorem boot_telling {jobs : VersionedStore String JobState} {ids : List String}
    (fresh : ∀ status, (JobWorld.boot env jobs ids).status jobId = some status →
      status.isFinished = false) : Telling env jobId (JobWorld.boot env jobs ids) where
  held := boot_copiesHeld env jobs ids
  events := ⟨fun _ _ h => absurd (List.mem_of_getElem? h) List.not_mem_nil, fun _ _ => nofun⟩
  phase := .undecided rfl fresh
    (fun _ _ _ _ h => absurd (List.mem_of_getElem? h.1) List.not_mem_nil)
    (fun _ _ h => absurd (List.mem_of_getElem? h.1) List.not_mem_nil)
    fun _ _ h => absurd (List.mem_of_getElem? h) List.not_mem_nil

/-- A job that is told once. -/
theorem Phase.toldOnce (phase : Phase env jobId w) : ToldOnce w jobId := by
  cases phase with
  | undecided silent unfinished _ _ _ =>
      refine ⟨by rw [silent]; exact Nat.zero_le _, by rw [silent]; nofun, ?_⟩
      intro _ status hstatus hfinished
      rw [unfinished status hstatus] at hfinished
      cases hfinished
  | owed status silent stored finished i point engaged only owes =>
      refine ⟨by rw [silent]; exact Nat.zero_le _, by rw [silent]; nofun, fun hdone => ?_⟩
      -- the task that owes the event is under way
      obtain ⟨hget, hengaged⟩ := engaged
      obtain ⟨task, htask, heq⟩ := List.mem_map.mp (List.mem_of_getElem? hget)
      obtain ⟨hjob, rfl⟩ := Prod.mk.inj heq
      have hended := hdone task htask hjob
      cases hp : task.point <;> rw [hp] at hended hengaged <;> cases hended <;> cases hengaged
  | told status notices stored finished free =>
      refine ⟨by rw [notices]; exact Nat.le_refl _, ?_, fun _ status' hstatus' _ => ?_⟩
      · intro status' hmem
        rw [notices] at hmem
        rw [List.mem_singleton.mp hmem]
        exact stored
      · rw [notices, Option.some.inj (stored.symm.trans hstatus')]

/-- **The end of a job is told once**, in every run that starts with the job not finished and
whose actions keep the promise. -/
theorem told_once (env : JobEnv) (jobs : VersionedStore String JobState) (ids : List String)
    (jobId : String)
    (fresh : ∀ status, (JobWorld.boot env jobs ids).status jobId = some status →
      status.isFinished = false) {actions : List JobAction} {w : JobWorld}
    (run : Run (jobStep env) (KeepsPromise env jobId) (JobWorld.boot env jobs ids) actions w) :
    ToldOnce w jobId := by
  have hinv : Telling env jobId w :=
    run.invariant (fun _ _ _ hinv hok hstep => hinv.step hok hstep) (boot_telling fresh)
  exact hinv.phase.toldOnce

/-- A job is submitted, and its scenario completes. -/
def completedJob : List JobAction :=
  [.sweep 0 .done, .sweep 0 .done, .add { id := "job-1", scenarioName := "echo" },
    .enqueue "job-1", .dequeue, .grant, .spawn, .task 0 1 .done, .task 0 2 .done, .task 0 3 .done,
    .task 0 4 (.ends (.result "completed" Dict.empty none [])), .task 0 5 .done, .task 0 6 .done,
    .reap 0]

/-- The service is restarted while the scenario runs, and sweeps. -/
def restartedJob : List JobAction :=
  [.sweep 0 .done, .sweep 0 .done, .add { id := "job-1", scenarioName := "echo" },
    .enqueue "job-1", .dequeue, .grant, .spawn, .task 0 1 .done, .task 0 2 .done, .task 0 3 .done,
    .restart, .sweep 4 .done, .sweep 4 .done, .sweep 5 .done]

theorem noJobs_fresh (jobId : String) (status : JobStatus)
    (h : noJobs.status jobId = some status) : status.isFinished = false := by
  have hnone : noJobs.status jobId = none := rfl
  rw [hnone] at h
  cases h

/-- The job that completes is told to have completed. -/
theorem told_once_completed :
    ∃ w, exec (jobStep lastWins) (fun w a => a.tells lastWins "job-1" w) completedJob noJobs
        = some w
      ∧ w.notices "job-1" = [.completed]
      ∧ ToldOnce w "job-1" := by
  have hruns : (exec (jobStep lastWins) (fun w a => a.tells lastWins "job-1" w) completedJob
      noJobs).map (fun w => w.notices "job-1") = some [.completed] := by
    decide +kernel
  obtain ⟨w, hw, hnotices⟩ := Option.map_eq_some_iff.mp hruns
  exact ⟨w, hw, hnotices, told_once lastWins _ _ "job-1" (noJobs_fresh "job-1")
    (exec_run (fun _ _ h => h) _ .nil hw)⟩

/-- **Nobody is told of a job that the startup sweep fails.** -/
theorem sweep_tells_nobody :
    ¬ ∀ (env : JobEnv) (jobs : VersionedStore String JobState) (ids : List String)
        (jobId : String) (actions : List JobAction) (w : JobWorld),
      (∀ status, (JobWorld.boot env jobs ids).status jobId = some status →
          status.isFinished = false) →
        Run (jobStep env) anyAction (JobWorld.boot env jobs ids) actions w →
          ToldOnce w jobId := by
  intro h
  have hruns : (exec (jobStep lastWins) (fun _ _ => true) restartedJob noJobs).map
      (fun w => (w.status "job-1", w.notices "job-1", w.tasks.length))
        = some (some .failed, [], 0) := by
    decide +kernel
  obtain ⟨w, hw, heq⟩ := Option.map_eq_some_iff.mp hruns
  obtain ⟨hfailed, hrest⟩ := Prod.mk.inj heq
  obtain ⟨hnotices, htasks⟩ := Prod.mk.inj hrest
  have htold := (h lastWins _ [] "job-1" _ w (noJobs_fresh "job-1")
    (exec_run (fun _ _ _ => trivial) _ .nil hw)).told
  have hidle : w.tasks = [] := List.length_eq_zero_iff.mp htasks
  have hnone := htold (fun task htask => absurd (hidle ▸ htask) List.not_mem_nil) .failed
    hfailed rfl
  rw [hnotices] at hnone
  cases hnone

/-- Without a sink and a URL of its own, a job that completes is told to nobody either. -/
example :
    (exec (jobStep { lastWins with cloudEventSink := "" }) (fun _ _ => true)
      [.sweep 0 .done, .sweep 0 .done, .add { id := "job-1", scenarioName := "echo" },
        .enqueue "job-1", .dequeue, .grant, .spawn, .task 0 1 .done, .task 0 2 .done,
        .task 0 4 (.ends (.result "completed" Dict.empty none [])), .task 0 5 .done, .reap 0]
      noJobs).map (fun w => (w.status "job-1", w.notices "job-1"))
      = some (some .completed, []) := by
  decide +kernel

end CmlCloudManager.ScenarioEngine
