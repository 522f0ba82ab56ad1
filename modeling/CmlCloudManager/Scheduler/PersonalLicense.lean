/-
  CmlCloudManager.Scheduler.PersonalLicense
  ─────────────────────────────────────────
  **ONE SESSION FOR A PERSONAL LICENSE, OVER A CYCLE.**

  The engine refuses a personal worker that has a session, and the control plane
  looks at nothing but capacity.  All decisions of a cycle are made on the workers
  as they were at its start, the commands change the control plane one after the
  other: what an earlier command has placed is not seen by a later decision.

  A cycle keeps the limit iff every command that the control plane accepts for a
  personal worker finds no other session on it (`personal_exclusive_iff`).
-/
import CmlCloudManager.ControlPlane.CapacityConservation
import CmlCloudManager.Scheduler.WatchEligibility

namespace CmlCloudManager.Scheduler

open CmlCloudManager.Foundation
open CmlCloudManager.ControlPlane

/-! ## §1. A cycle. -/

/-- The running workers, as the control plane lists them. -/
def runningWorkers (profiles : String → WorkerProfile) (store : Store) : List WorkerDict :=
  (store.workers.docs.values.filter fun w => w.status = .running).map fun w =>
    mapWorkerToDto (profiles w.id) w

/-- What the scheduler keeps over a cycle. -/
structure CycleCaches where
  workers : List WorkerDict
  capacities : EtcdCapacities

/-- The reconciliation of one session: what it is answered, and when the control plane gets
its command. -/
structure Turn where
  session : SessionView
  respond : Surroundings
  clock : Clock

/-- The answers of a turn, with those from the caches of the cycle. -/
def Turn.surroundings (caches : CycleCaches) (t : Turn) : Surroundings
  | .cachedWorkers => caches.workers
  | .cachedCapacities => caches.capacities
  | e => t.respond e

/-- What a command changes at the control plane.  A worker that is requested is a new one; it
does not run and has no session. -/
def applyCommand (store : Store) : Clock × Command → Store
  | (clock, .assign request) => (scheduleLabletSession clock store request).2
  | (_, .scaleUp _ _) => store

section Cycle

variable {ρ : Type} (runtime : SchedulerRuntime ρ)

/-- The commands of a cycle, in the order in which the control plane gets them. -/
def cycleCommands (caches : CycleCaches) (turns : List Turn) : List (Clock × Command) :=
  turns.flatMap fun t =>
    (commandsOf (t.surroundings caches) (reconcile runtime t.session)).map fun c => (t.clock, c)

/-- The caches at the start: the running workers, and whatever etcd has. -/
def cachesAt (profiles : String → WorkerProfile) (store : Store) (capacities : EtcdCapacities) :
    CycleCaches :=
  ⟨runningWorkers profiles store, capacities⟩

/-- **The control plane after a cycle.** -/
def afterCycle (profiles : String → WorkerProfile) (store : Store) (capacities : EtcdCapacities)
    (turns : List Turn) : Store :=
  replay applyCommand store (cycleCommands runtime (cachesAt profiles store capacities) turns)

end Cycle

/-! ## §2. The limit. -/

/-- The session is SCHEDULED on the worker. -/
def ScheduledOn (store : Store) (workerId sessionId : String) : Prop :=
  ∃ session, store.sessions.find sessionId = some session ∧ session.status = .scheduled ∧
    session.workerId = some workerId

/-- The ids that a worker tracks. -/
def tracks (store : Store) (workerId : String) : List String :=
  ((store.workers.find workerId).map CMLWorkerState.sessionIds).getD []

/-- The worker holds at most one session: it tracks one at most, and one at most is SCHEDULED
on it. -/
structure HoldsAtMostOne (store : Store) (workerId : String) : Prop where
  tracked : (tracks store workerId).length ≤ 1
  scheduled : ∀ sid sid', ScheduledOn store workerId sid → ScheduledOn store workerId sid' →
    sid' = sid

/-- A worker with a personal license that holds at most one session. -/
structure PersonalWithOne (profiles : String → WorkerProfile) (store : Store)
    (workerId : String) : Prop where
  personal : ∃ w, store.workers.find workerId = some w ∧
    workerLicenseType (mapWorkerToDto (profiles workerId) w) = "personal"
  one : HoldsAtMostOne store workerId

/-- The control plane accepts the command. -/
def Accepts (store : Store) (request : ScheduleLabletSessionCommand) : Prop :=
  ∃ session worker definition,
    store.sessions.find request.sessionId = some session ∧ session.status = .pending ∧
    store.workers.find request.workerId = some worker ∧ worker.status = .running ∧
    store.definitions.find session.definitionId = some definition ∧
    worker.canAccommodate definition.resourceRequirements.capacity = true

/-- No session is SCHEDULED on the worker, and it tracks none but the given one. -/
def FreeFor (store : Store) (workerId sessionId : String) : Prop :=
  (∀ sid, ¬ ScheduledOn store workerId sid) ∧
    (sessionId ∈ tracks store workerId ∨ tracks store workerId = [])

/-- A command that is accepted for one of the workers finds it free. -/
def FindsFree (workers : String → Prop) (store : Store) : Clock × Command → Prop
  | (_, .assign request) =>
      workers request.workerId → Accepts store request →
        FreeFor store request.workerId request.sessionId
  | (_, .scaleUp _ _) => True

/-! ## §3. One command. -/

section Step

variable {store : Store} {request : ScheduleLabletSessionCommand}

/-- What is not accepted changes nothing. -/
theorem applyCommand_refused (clock : Clock) (h : ¬ Accepts store request) :
    applyCommand store (clock, .assign request) = store := by
  show (scheduleLabletSession clock store request).2 = store
  have heffect := schedule_effect clock store request
  generalize scheduleLabletSession clock store request = outcome at heffect
  cases heffect with
  | refused fails => rfl
  | placed found pending foundWorker running foundDefinition fits refs status allocated =>
      exact absurd ⟨_, _, _, found, pending, foundWorker, running, foundDefinition, fits⟩ h

/-- **What is accepted** schedules the session on the worker and asks for the allocation. -/
theorem applyCommand_accepted (clock : Clock) {session : LabletSessionState}
    {worker : CMLWorkerState} {definition : LabletDefinitionState}
    (hfind : store.sessions.find request.sessionId = some session)
    (hpending : session.status = .pending)
    (hworker : store.workers.find request.workerId = some worker)
    (hrunning : worker.status = .running)
    (hdefinition : store.definitions.find session.definitionId = some definition)
    (hfits : worker.canAccommodate definition.resourceRequirements.capacity = true) :
    ∃ session', session'.id = request.sessionId ∧ session'.status = .scheduled ∧
      session'.workerId = some request.workerId ∧
      applyCommand store (clock, .assign request)
        = { store with
            sessions := store.sessions.save session'
            workers := (allocateCapacity clock.now store.workers
              (allocateCommand definition.resourceRequirements request.workerId
                request.sessionId)).2 } := by
  obtain ⟨session', hok, hrefs, hstatus⟩ := outcome_schedule (c := clock) request.workerId
    request.allocatedPorts request.labRecordId request.scheduledBy hpending
  refine ⟨session', ?_, hstatus, congrArg SessionRefs.workerId hrefs, ?_⟩
  · have hid : session.id = request.sessionId := Repository.id_of_find hfind
    exact (congrArg SessionRefs.id hrefs).trans hid
  · have hplaced : placeOn clock request session worker definition.resourceRequirements
        = .ok session' := by
      simp only [placeOn, insufficientCapacity, hfits, not_true_eq_false, if_false, hok]
    show (scheduleLabletSession clock store request).2 = _
    unfold scheduleLabletSession
    rw [hfind]
    simp only [notPending_eq_none.mpr hpending, hworker, notRunning_eq_none.mpr hrunning,
      hdefinition, hplaced]

/-- A session that is pending is not SCHEDULED on any worker. -/
theorem not_scheduledOn_pending {session : LabletSessionState} {workerId sessionId : String}
    (hfind : store.sessions.find sessionId = some session) (hpending : session.status = .pending) :
    ¬ ScheduledOn store workerId sessionId := by
  rintro ⟨session', hfind', hscheduled, -⟩
  rw [hfind] at hfind'
  cases hfind'
  rw [hpending] at hscheduled
  cases hscheduled

/-- The one session, on the one worker. -/
theorem scheduledOn_accepted (clock : Clock) (h : Accepts store request)
    (workerId sessionId : String) :
    ScheduledOn (applyCommand store (clock, .assign request)) workerId sessionId
      ↔ ScheduledOn store workerId sessionId ∨
        (workerId = request.workerId ∧ sessionId = request.sessionId) := by
  obtain ⟨session, worker, definition, hfind, hpending, hworker, hrunning, hdefinition, hfits⟩ := h
  obtain ⟨session', hid, hstatus, hplaced, hstore⟩ :=
    applyCommand_accepted clock hfind hpending hworker hrunning hdefinition hfits
  rw [hstore]
  unfold ScheduledOn
  dsimp only
  rw [Repository.find_save_of_id hid]
  by_cases hsid : sessionId = request.sessionId
  · rw [if_pos hsid]
    constructor
    · rintro ⟨s, hs, -, hon⟩
      cases hs
      rw [hplaced] at hon
      exact .inr ⟨(Option.some.inj hon).symm, hsid⟩
    · rintro (hbefore | ⟨rfl, -⟩)
      · rw [hsid] at hbefore
        exact absurd hbefore (not_scheduledOn_pending hfind hpending)
      · exact ⟨session', rfl, hstatus, hplaced⟩
  · rw [if_neg hsid]
    exact (or_iff_left fun h => hsid h.2).symm

/-- The session is tracked by the worker, if it is not already. -/
theorem tracks_accepted (clock : Clock) (h : Accepts store request) (workerId : String) :
    tracks (applyCommand store (clock, .assign request)) workerId
      = if workerId = request.workerId ∧ request.sessionId ∉ tracks store workerId
        then tracks store workerId ++ [request.sessionId] else tracks store workerId := by
  obtain ⟨session, worker, definition, hfind, hpending, hworker, hrunning, hdefinition, hfits⟩ := h
  obtain ⟨session', -, -, -, hstore⟩ :=
    applyCommand_accepted clock hfind hpending hworker hrunning hdefinition hfits
  rw [hstore]
  by_cases hwid : workerId = request.workerId
  · have htracks : tracks store workerId = worker.sessionIds := by
      unfold tracks
      rw [hwid, hworker]
      rfl
    rw [htracks]
    unfold tracks
    dsimp only
    rw [hwid]
    by_cases hmem : request.sessionId ∈ worker.sessionIds
    · -- refused: the session is assigned already
      have hrefused : (allocateCapacity clock.now store.workers
          (allocateCommand definition.resourceRequirements request.workerId
            request.sessionId)).2 = store.workers := by
        unfold allocateCapacity
        have hworker' : store.workers.find (allocateCommand definition.resourceRequirements
          request.workerId request.sessionId).workerId = some worker := hworker
        cases hgranted : allocateOn clock.now (allocateCommand definition.resourceRequirements
            request.workerId request.sessionId) worker with
        | error answer => simp only [hworker', hgranted]
        | ok granted =>
            exact absurd hmem ((allocateOn_eq_ok_iff clock.now _ rfl).mp hgranted).2.1
      rw [if_neg fun h => h.2 hmem, hrefused, hworker]
      rfl
    · obtain ⟨-, hsaved⟩ := allocateCapacity_granted clock.now
        (allocateCommand definition.resourceRequirements request.workerId request.sessionId) rfl
        hworker hrunning hmem hfits
      have hid : worker.id = request.workerId := Repository.id_of_find hworker
      rw [if_pos ⟨rfl, hmem⟩, hsaved,
        Repository.find_save_of_id ((CMLWorkerState.assigned_id _ _).trans hid), if_pos rfl]
      exact CMLWorkerState.assigned_sessionIds hmem _ _
  · rw [if_neg fun h => hwid h.1]
    unfold tracks
    dsimp only
    rw [find_allocateCapacity_ne clock.now store.workers _ rfl hwid]

/-- **An accepted command keeps the limit of its worker** iff the worker held at most one
session before and was free for this one. -/
theorem holdsAtMostOne_accepted_iff (clock : Clock) (h : Accepts store request) :
    HoldsAtMostOne (applyCommand store (clock, .assign request)) request.workerId
      ↔ HoldsAtMostOne store request.workerId ∧
        FreeFor store request.workerId request.sessionId := by
  have hscheduled := scheduledOn_accepted clock h request.workerId
  have htracks := tracks_accepted clock h request.workerId
  have hnot : ¬ ScheduledOn store request.workerId request.sessionId := by
    obtain ⟨session, -, -, hfind, hpending, -⟩ := h
    exact not_scheduledOn_pending hfind hpending
  constructor
  · rintro ⟨htracked, hone⟩
    -- the accepted session is one more on the worker, so no other may be there
    have hnone : ∀ sid, ¬ ScheduledOn store request.workerId sid := by
      intro sid hsid
      have heq := hone _ _ ((hscheduled request.sessionId).mpr (.inr ⟨rfl, rfl⟩))
        ((hscheduled sid).mpr (.inl hsid))
      rw [heq] at hsid
      exact hnot hsid
    rw [htracks] at htracked
    refine ⟨⟨?_, fun sid _ hsid => absurd hsid (hnone sid)⟩, hnone, ?_⟩
    · split at htracked
      next => rw [List.length_append] at htracked; omega
      next => exact htracked
    · split at htracked
      next hfresh =>
        rw [List.length_append, List.length_singleton] at htracked
        exact .inr (List.length_eq_zero_iff.mp (by omega))
      next hknown => exact .inl (by simpa using hknown)
  · rintro ⟨⟨htracked, -⟩, hnone, hfree⟩
    refine ⟨?_, fun sid sid' hsid hsid' => ?_⟩
    · rw [htracks]
      split
      next hfresh =>
        rcases hfree with hmem | hempty
        · exact absurd hmem hfresh.2
        · rw [hempty]
          exact Nat.le_refl 1
      next => exact htracked
    · rcases (hscheduled sid).mp hsid with hold | ⟨-, rfl⟩
      · exact absurd hold (hnone sid)
      · rcases (hscheduled sid').mp hsid' with hold | ⟨-, rfl⟩
        · exact absurd hold (hnone sid')
        · rfl

/-- A command for one worker leaves what another one holds. -/
theorem holdsAtMostOne_other_iff (clock : Clock) (h : Accepts store request) {workerId : String}
    (hne : workerId ≠ request.workerId) :
    HoldsAtMostOne (applyCommand store (clock, .assign request)) workerId
      ↔ HoldsAtMostOne store workerId := by
  have hscheduled : ∀ sid, ScheduledOn (applyCommand store (clock, .assign request)) workerId sid
      ↔ ScheduledOn store workerId sid := fun sid => by
    rw [scheduledOn_accepted clock h]
    exact or_iff_left fun h => hne h.1
  have htracks : tracks (applyCommand store (clock, .assign request)) workerId
      = tracks store workerId := by
    rw [tracks_accepted clock h, if_neg fun h => hne h.1]
  constructor
  · rintro ⟨htracked, hone⟩
    rw [htracks] at htracked
    exact ⟨htracked, fun sid sid' hs hs' =>
      hone sid sid' ((hscheduled sid).mpr hs) ((hscheduled sid').mpr hs')⟩
  · rintro ⟨htracked, hone⟩
    rw [← htracks] at htracked
    exact ⟨htracked, fun sid sid' hs hs' =>
      hone sid sid' ((hscheduled sid).mp hs) ((hscheduled sid').mp hs')⟩

end Step

/-- **One command keeps the limit of the given workers** iff they kept it before and it finds
its worker free. -/
theorem limit_step_iff (workers : String → Prop) (store : Store) (c : Clock × Command) :
    (∀ k, workers k → HoldsAtMostOne (applyCommand store c) k)
      ↔ (∀ k, workers k → HoldsAtMostOne store k) ∧ FindsFree workers store c := by
  obtain ⟨clock, command⟩ := c
  cases command with
  | scaleUp template reason => exact (and_iff_left trivial).symm
  | assign request =>
      by_cases haccepts : Accepts store request
      · constructor
        · intro h
          refine ⟨fun k hk => ?_, fun hk _ => ?_⟩
          · by_cases hkw : k = request.workerId
            · rw [hkw] at hk ⊢
              exact ((holdsAtMostOne_accepted_iff clock haccepts).mp (h _ hk)).1
            · exact (holdsAtMostOne_other_iff clock haccepts hkw).mp (h k hk)
          · exact ((holdsAtMostOne_accepted_iff clock haccepts).mp (h _ hk)).2
        · rintro ⟨hbefore, hfree⟩ k hk
          by_cases hkw : k = request.workerId
          · rw [hkw] at hk ⊢
            exact (holdsAtMostOne_accepted_iff clock haccepts).mpr
              ⟨hbefore _ hk, hfree hk haccepts⟩
          · exact (holdsAtMostOne_other_iff clock haccepts hkw).mpr (hbefore k hk)
      · rw [applyCommand_refused clock haccepts]
        exact (and_iff_left fun _ h => absurd h haccepts).symm

/-! ## §4. The cycle. -/

section Cycle

variable {ρ : Type} (runtime : SchedulerRuntime ρ) (profiles : String → WorkerProfile)
  (store : Store) (capacities : EtcdCapacities) (turns : List Turn)

/-- A command of a cycle places a session on a worker that the engine has not rejected on what
it was told at the start. -/
theorem assigned_not_rejected {clock : Clock} {request : ScheduleLabletSessionCommand}
    (h : (clock, Command.assign request)
      ∈ cycleCommands runtime (cachesAt profiles store capacities) turns) :
    ∃ w definition, store.workers.find request.workerId = some w ∧
      rejection definition capacities (mapWorkerToDto (profiles request.workerId) w) = none := by
  obtain ⟨t, -, hcommand⟩ := List.mem_flatMap.mp h
  obtain ⟨c, hc, heq⟩ := List.mem_map.mp hcommand
  obtain rfl : c = .assign request := (Prod.mk.inj heq).2
  rw [commandsOf_reconcile] at hc
  obtain ⟨definition, -, hplacement⟩ := List.mem_map.mp hc
  have hcases := PlacementEngine.schedule_cases runtime.floats definition
    (runningWorkers profiles store) capacities
  unfold placementCommand at hplacement
  have hdecision : PlacementEngine.schedule runtime.floats definition
      (t.surroundings (cachesAt profiles store capacities) .cachedWorkers)
      (t.surroundings (cachesAt profiles store capacities) .cachedCapacities)
      = PlacementEngine.schedule runtime.floats definition (runningWorkers profiles store)
        capacities := rfl
  rw [hdecision] at hplacement
  generalize PlacementEngine.schedule runtime.floats definition (runningWorkers profiles store)
    capacities = decision at hcases hplacement
  dsimp only at hplacement
  rcases hcases with ⟨worker, hworker, hnone, haction, hid⟩ | ⟨-, haction, -⟩
  · rw [haction, hid] at hplacement
    cases hplacement
    obtain ⟨w, hw, rfl⟩ := List.mem_map.mp hworker
    obtain ⟨⟨k, w⟩, hentry, rfl⟩ := List.mem_map.mp (List.mem_filter.mp hw).1
    have hfind : store.workers.find k = some w := (Dict.get?_eq_some_iff _ k w).mpr hentry
    have hid : w.id = k := Repository.id_of_find hfind
    rw [← hid] at hfind
    exact ⟨w, definition, hfind, hnone⟩
  · rw [haction] at hplacement
    cases hplacement

/-- A personal worker on which a cycle places a session tracked none at the start, unless etcd
has a session count for it. -/
theorem assigned_personal_untracked {clock : Clock} {request : ScheduleLabletSessionCommand}
    (h : (clock, Command.assign request)
      ∈ cycleCommands runtime (cachesAt profiles store capacities) turns)
    (hcount : (capacities.get? request.workerId).bind CapacityEntry.assignedSessionCount = none)
    (hpersonal : PersonalWithOne profiles store request.workerId) :
    tracks store request.workerId = [] := by
  obtain ⟨w, definition, hfind, hnone⟩ :=
    assigned_not_rejected runtime profiles store capacities turns h
  obtain ⟨-, -, hcapacity⟩ := checks_of_not_rejected hnone
  obtain ⟨w', hfind', hlicense⟩ := hpersonal.personal
  rw [hfind] at hfind'
  cases hfind'
  have hid : w.id = request.workerId := Repository.id_of_find hfind
  have hsessions : sessionCount (mapWorkerToDto (profiles request.workerId) w)
      (capacities.get? w.id) = w.sessionIds.length := by
    unfold sessionCount
    rw [hid, hcount]
    rfl
  unfold checkResourceCapacity at hcapacity
  dsimp only at hcapacity
  split at hcapacity
  next => cases hcapacity
  next hlimit =>
    have hfew : ¬ sessionCount (mapWorkerToDto (profiles request.workerId) w)
        (capacities.get? w.id) ≥ 1 := fun hmany => hlimit ⟨hlicense, hmany⟩
    rw [hsessions] at hfew
    have htracks : tracks store request.workerId = w.sessionIds := by
      unfold tracks
      rw [hfind]
      rfl
    rw [htracks]
    exact List.length_eq_zero_iff.mp (by omega)

/-- **A cycle keeps the limit of personal licenses** iff every command that the control plane
accepts for a personal worker that held at most one session at the start finds the worker
free. -/
theorem personal_exclusive_iff :
    (∀ workerId, PersonalWithOne profiles store workerId →
      HoldsAtMostOne (afterCycle runtime profiles store capacities turns) workerId)
      ↔ Meets applyCommand (FindsFree (PersonalWithOne profiles store)) store
        (cycleCommands runtime (cachesAt profiles store capacities) turns) := by
  have hiff := @replay_iff_meets Store (Clock × Command) applyCommand
    (FindsFree (PersonalWithOne profiles store)) (fun _ => True)
    (fun s => ∀ k, PersonalWithOne profiles store k → HoldsAtMostOne s k)
    (fun _ _ _ => trivial) (fun s c _ => limit_step_iff _ s c)
    (cycleCommands runtime (cachesAt profiles store capacities) turns) store trivial
  exact hiff.trans (and_iff_right fun k hk => hk.one)

end Cycle

/-! ## §5. Two sessions for one personal worker. -/

/-- A worker with a personal license. -/
def personalProfile (workerId : String) : WorkerProfile where
  name := workerId
  licenseInfo := { isEnterprise := some false }

/-- A lab that runs with a personal license. -/
def personalLab : DefinitionDict where
  name := "lab"
  licenseAffinity := ["personal"]
  resourceRequirements := { cpuCores := 2, memoryGb := 4, storageGb := 20 }

/-- The turn of a pending session of that lab. -/
def personalTurn (sessionId : String) (now : Int) : Turn where
  session := { id := sessionId, definitionId := "d1", status := "pending" }
  respond
    | .cachedDefinition _ => some (some personalLab)
    | e => monthAhead e
  clock := { now := now }

/-- **A cycle places two sessions on one personal worker** that had none. -/
theorem personal_worker_gets_two :
    ¬ ∀ workerId, PersonalWithOne personalProfile twoSessionStore workerId →
      HoldsAtMostOne (afterCycle epochRuntime personalProfile twoSessionStore Dict.empty
        [personalTurn "s1" 10, personalTurn "s2" 11]) workerId := by
  intro h
  have hstart : PersonalWithOne personalProfile twoSessionStore "w1" :=
    { personal := ⟨freeWorker, rfl, by decide⟩
      one :=
        { tracked := by decide
          scheduled := fun sid sid' ⟨session, hfind, hstatus, hon⟩ _ =>
            absurd ⟨session, hfind, hon, by rw [hstatus]; decide⟩
              (twoSessionStore_unused.sessions sid) } }
  have htracked := (h "w1" hstart).tracked
  have htracks : tracks (afterCycle epochRuntime personalProfile twoSessionStore Dict.empty
      [personalTurn "s1" 10, personalTurn "s2" 11]) "w1" = ["s1", "s2"] := by
    decide +kernel
  rw [htracks] at htracked
  exact absurd htracked (by decide)

end CmlCloudManager.Scheduler
