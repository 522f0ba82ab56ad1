/-
  CmlCloudManager.ControlPlane.CapacityConservation
  ─────────────────────────────────────────────────
  **CAPACITY CONSERVATION.**

  Commands are handled one at a time.  Beside the database the ledger records, for
  one worker, what each session was given when it was scheduled or last counted.
  The worker is conserved when

    • its total is the sum of the recorded amounts of its sessions, and
    • its sessions are exactly the ones placed on it.

  The second always holds.  The first is lost exactly at a release whose amounts
  are not the recorded ones: a definition that is updated in place under a
  scheduled session is enough.
-/
import CmlCloudManager.Foundation.Replay
import CmlCloudManager.ControlPlane.CommandEffects

namespace CmlCloudManager.ControlPlane

open CmlCloudManager.Foundation

/-! ## §1. The ledger. -/

/-- A command on the control plane. -/
inductive Command where
  | schedule (c : Clock) (request : ScheduleLabletSessionCommand)
  | session (command : SessionCommand)
  | recalculate (now : Int) (workerId requestedBy : String)
  | updateDefinition (newId : NewId) (request : UpdateLabletDefinitionCommand)

/-- The database after the command. -/
def Command.run (store : Store) : Command → Store
  | .schedule c request => (scheduleLabletSession c store request).2
  | .session command => command.run store
  | .recalculate now workerId requestedBy =>
      (recalculateWorkerCapacity now store workerId requestedBy).2
  | .updateDefinition newId request =>
      { store with definitions := (updateLabletDefinition newId store.definitions request).2 }

/-- The session whose worker the command asks to release it. -/
def Command.releases (store : Store) : Command → Option String
  | .session command => command.releases store
  | _ => none

/-- The database, and what each session was given on one worker. -/
structure CapacityLedger where
  store : Store
  recorded : String → Resource → Nat

/-- What is recorded after a command: the amounts of a granted allocation, and those of a
recalculation. -/
def CapacityLedger.record (wid : String) (t : CapacityLedger) :
    Command → String → Resource → Nat
  | .schedule c request =>
      if request.workerId = wid ∧ granted (scheduleLabletSession c t.store request).1 = true then
        fun sid => if sid = request.sessionId then t.store.requirement sid else t.recorded sid
      else t.recorded
  | .recalculate _ workerId _ =>
      match t.store.workers.find workerId with
      | none => t.recorded
      | some worker =>
          if workerId = wid then
            fun sid =>
              if sid ∈ (recalculation t.store worker.sessionIds).activeSessionIds then
                t.store.requirement sid
              else t.recorded sid
          else t.recorded
  | _ => t.recorded

/-- One command. -/
def ledgerStep (wid : String) (t : CapacityLedger) (cmd : Command) : CapacityLedger :=
  { store := cmd.run t.store, recorded := t.record wid cmd }

/-- The session is placed on the worker. -/
def PlacedOn (sessions : LabletSessionRepository) (wid sid : String) : Prop :=
  ∃ session, sessions.find sid = some session ∧ session.workerId = some wid
    ∧ session.status ∈ placedStatuses

/-- The worker tracks exactly the sessions placed on it. -/
def TracksPlaced (wid : String) (store : Store) : Prop :=
  ∀ w, store.workers.find wid = some w →
    ∀ sid, sid ∈ w.sessionIds ↔ PlacedOn store.sessions wid sid

/-- The worker's total is the sum of what is recorded for its sessions. -/
def CountsRecorded (wid : String) (t : CapacityLedger) : Prop :=
  ∀ w, t.store.workers.find wid = some w → w.Balanced t.recorded

/-- **Capacity conservation** of a worker. -/
def Conserved (wid : String) (t : CapacityLedger) : Prop :=
  CountsRecorded wid t ∧ TracksPlaced wid t.store

/-- A worker without sessions. -/
structure Unused (wid : String) (store : Store) : Prop where
  worker : ∀ w, store.workers.find wid = some w →
    w.sessionIds = [] ∧ ∀ r, w.allocatedCapacity.amount r = 0
  sessions : ∀ sid, ¬ PlacedOn store.sessions wid sid

/-- **When a command keeps the total right**: it releases no tracked session, or gives back, of
every resource, what is recorded for it, or at least that much while it has all of it. -/
def ReleaseCovered (wid : String) (t : CapacityLedger) (cmd : Command) : Prop :=
  ∀ w sid, t.store.workers.find wid = some w → cmd.releases t.store = some sid →
    sid ∈ w.sessionIds → ∀ r,
      t.store.requirement sid r = t.recorded sid r
        ∨ w.allocatedCapacity.amount r = t.recorded sid r
          ∧ t.recorded sid r ≤ t.store.requirement sid r

/-! ## §2. The sessions of a worker. -/

section Placed

variable {wid sid : String} {sessions : LabletSessionRepository}
  {session session' : LabletSessionState}

theorem placedOn_of_find (hfind : sessions.find sid = some session) :
    PlacedOn sessions wid sid
      ↔ session.workerId = some wid ∧ session.status ∈ placedStatuses := by
  unfold PlacedOn
  rw [hfind]
  constructor
  · rintro ⟨s, hs, hplaced⟩
    exact Option.some.inj hs ▸ hplaced
  · exact fun h => ⟨session, rfl, h⟩

/-- Saving a session leaves the other sessions where they are. -/
theorem placedOn_save_ne (h : sid ≠ session'.id) :
    PlacedOn (sessions.save session') wid sid ↔ PlacedOn sessions wid sid := by
  unfold PlacedOn
  rw [Repository.find_save_ne _ _ h]

theorem placedOn_save_self :
    PlacedOn (sessions.save session') wid session'.id
      ↔ session'.workerId = some wid ∧ session'.status ∈ placedStatuses :=
  placedOn_of_find (Repository.find_save_self sessions session')

/-- A move that releases nothing neither gives up a place nor takes one. -/
theorem placed_of_stays (src dst : LabletSessionStatus) (hallowed : dst ∈ validTransitions src)
    (hstays : dst ∉ releasingStatuses) (hlate : dst ≠ .scheduled) :
    dst ∈ placedStatuses ↔ src ∈ placedStatuses := by
  have htable : ∀ src, ∀ dst ∈ validTransitions src, dst ∉ releasingStatuses →
      dst ≠ .scheduled → (dst ∈ placedStatuses ↔ src ∈ placedStatuses) := by
    intro src
    cases src <;> decide
  exact htable src dst hallowed hstays hlate

theorem not_placed_of_leaves :
    ∀ dst ∈ releasingStatuses, dst ∉ placedStatuses := by
  decide

end Placed

/-! ## §3. A worker tracks what is placed on it. -/

section Tracks

variable {wid : String} {store store' : Store}

/-- Moving a session along its place changes no one's place. -/
theorem placedOn_moved {session session' : LabletSessionState} {dst : LabletSessionStatus}
    (found : store.sessions.find session.id = some session) (move : Moved session session' dst)
    (stays : dst ∉ releasingStatuses) (late : dst ≠ .scheduled) (sid : String) :
    PlacedOn (store.sessions.save session') wid sid ↔ PlacedOn store.sessions wid sid := by
  by_cases hsid : sid = session'.id
  · rw [hsid, placedOn_save_self, move.id, placedOn_of_find found, move.workerId, move.status,
      placed_of_stays session.status dst move.allowed stays late]
  · exact placedOn_save_ne hsid

/-- A session that is released has no place. -/
theorem placedOn_released {session session' : LabletSessionState} {dst : LabletSessionStatus}
    (move : Moved session session' dst) (leaves : dst ∈ releasingStatuses) (sid : String) :
    PlacedOn (store.sessions.save session') wid sid
      ↔ sid ≠ session.id ∧ PlacedOn store.sessions wid sid := by
  rw [← move.id]
  by_cases hsid : sid = session'.id
  · -- STOPPING, EXPIRED and TERMINATED are no places
    rw [hsid, placedOn_save_self, move.status]
    constructor
    · exact fun h => absurd h.2 (not_placed_of_leaves dst leaves)
    · exact fun h => absurd rfl h.1
  · rw [placedOn_save_ne hsid]
    exact ⟨fun h => ⟨hsid, h⟩, And.right⟩

theorem tracksPlaced_session {now : Int} {released : Option String} (h : TracksPlaced wid store)
    (heffect : SessionEffect store now released store') : TracksPlaced wid store' := by
  cases heffect with
  | refused => exact h
  | moved found move stays late =>
      intro w hw sid
      rw [h w hw sid, placedOn_moved found move stays late]
  | @released session session' dst labRecords found move leaves =>
      intro w' hw' sid
      rw [find_releaseSession, Option.map_eq_some_iff] at hw'
      obtain ⟨w, hw, rfl⟩ := hw'
      rw [placedOn_released move leaves, ← h w hw sid]
      by_cases hworker : session.workerId = some wid
      · rw [if_pos hworker, released_sessionIds, List.mem_filter, decide_eq_true_iff,
          releaseCommand_sessionId]
        exact and_comm
      · -- the session is on no list of a worker it does not refer to
        rw [if_neg hworker]
        constructor
        · rintro hmem
          refine ⟨?_, hmem⟩
          rintro rfl
          exact hworker ((placedOn_of_find found).mp ((h w hw _).mp hmem)).1
        · exact And.right

/-- A pending session is on no list of a worker that tracks what is placed on it. -/
theorem fresh_of_pending {sessionId : String} {session : LabletSessionState} {w : CMLWorkerState}
    (h : TracksPlaced wid store) (hw : store.workers.find wid = some w)
    (found : store.sessions.find sessionId = some session) (pending : session.status = .pending) :
    sessionId ∉ w.sessionIds := by
  intro hmem
  have hplaced := ((placedOn_of_find found).mp ((h w hw sessionId).mp hmem)).2
  rw [pending] at hplaced
  revert hplaced
  decide

/-- The allocation nested in scheduling is granted: the session is new to the worker. -/
theorem allocate_of_placed (now : Int) {sessionId : String} {session : LabletSessionState}
    {worker : CMLWorkerState} {requirements : ResourceRequirements} (h : TracksPlaced wid store)
    (found : store.sessions.find sessionId = some session) (pending : session.status = .pending)
    (foundWorker : store.workers.find wid = some worker) (running : worker.status = .running)
    (fits : worker.canAccommodate requirements.capacity = true) :
    sessionId ∉ worker.sessionIds
      ∧ (allocateCapacity now store.workers
          (allocateCommand requirements wid sessionId)).1.isSuccess = true
      ∧ (allocateCapacity now store.workers (allocateCommand requirements wid sessionId)).2.find wid
        = some (worker.assigned sessionId requirements.capacity now) := by
  have hfresh : sessionId ∉ worker.sessionIds := fresh_of_pending h foundWorker found pending
  obtain ⟨hsuccess, hsaved⟩ := allocateCapacity_granted now
    (allocateCommand requirements wid sessionId) rfl foundWorker running hfresh fits
  have hid : (worker.assigned sessionId requirements.capacity now).id = wid :=
    (CMLWorkerState.assigned_id _ _).trans (Repository.id_of_find foundWorker)
  refine ⟨hfresh, hsuccess, ?_⟩
  rw [hsaved]
  show (store.workers.save (worker.assigned sessionId requirements.capacity now)).find wid = _
  rw [Repository.find_save_of_id hid, if_pos rfl]

theorem tracksPlaced_schedule (c : Clock) (request : ScheduleLabletSessionCommand)
    (h : TracksPlaced wid store) :
    TracksPlaced wid (scheduleLabletSession c store request).2 := by
  have heffect := schedule_effect c store request
  generalize scheduleLabletSession c store request = answered at heffect ⊢
  cases heffect with
  | refused fails => exact h
  | @placed session session' worker definition answer found pending foundWorker running
      foundDefinition fits refs status allocated =>
      have hsession : session.id = request.sessionId := Repository.id_of_find found
      have hid : session'.id = request.sessionId := (congrArg SessionRefs.id refs).trans hsession
      have hworker : session'.workerId = some request.workerId := congrArg SessionRefs.workerId refs
      intro w' hw' sid
      by_cases hwid : wid = request.workerId
      · subst hwid
        obtain ⟨hfresh, -, hassigned⟩ :=
          allocate_of_placed c.now h found pending foundWorker running fits
        obtain rfl := Option.some.inj (hassigned.symm.trans hw')
        rw [CMLWorkerState.assigned_sessionIds hfresh, List.mem_append, List.mem_singleton]
        by_cases hsid : sid = session'.id
        · have hplaced : PlacedOn (store.sessions.save session') request.workerId session'.id :=
            placedOn_save_self.mpr ⟨hworker, by rw [status]; decide⟩
          rw [hsid]
          exact iff_of_true (.inr hid) hplaced
        · rw [placedOn_save_ne hsid, ← h worker foundWorker sid]
          exact or_iff_left fun heq => hsid (heq.trans hid.symm)
      · -- the worker is another one: its list and its sessions stay
        rw [find_allocateCapacity_ne c.now store.workers
          (allocateCommand definition.resourceRequirements request.workerId request.sessionId)
          rfl hwid] at hw'
        rw [h w' hw' sid]
        by_cases hsid : sid = session'.id
        · rw [hsid, placedOn_save_self, hworker, hid, placedOn_of_find found, pending]
          refine iff_of_false (fun hplaced => ?_) (fun hplaced => hwid ?_)
          · exact absurd hplaced.2 (by decide)
          · exact (Option.some.inj hplaced.1).symm
        · exact (placedOn_save_ne hsid).symm

/-- What is placed holds capacity. -/
theorem holdsCapacity_of_placed {sid : String} (h : PlacedOn store.sessions wid sid) :
    store.holdsCapacity sid = true := by
  obtain ⟨session, hfind, -, hplaced⟩ := h
  unfold Store.holdsCapacity
  rw [hfind]
  have hsub : ∀ s ∈ placedStatuses, s ∈ capacityHoldingStatuses := by decide
  exact decide_eq_true (hsub session.status hplaced)

/-- A recalculation finds nothing stale on a worker that tracks what is placed on it. -/
theorem filter_holdsCapacity {w : CMLWorkerState} (h : TracksPlaced wid store)
    (hw : store.workers.find wid = some w) :
    w.sessionIds.filter store.holdsCapacity = w.sessionIds :=
  List.filter_eq_self.mpr fun sid hsid => holdsCapacity_of_placed ((h w hw sid).mp hsid)

theorem recalculate_sessions (now : Int) (store : Store) (workerId requestedBy : String) :
    (recalculateWorkerCapacity now store workerId requestedBy).2.sessions = store.sessions := by
  unfold recalculateWorkerCapacity
  cases store.workers.find workerId <;> rfl

theorem tracksPlaced_recalculate (now : Int) (workerId requestedBy : String)
    (h : TracksPlaced wid store) :
    TracksPlaced wid (recalculateWorkerCapacity now store workerId requestedBy).2 := by
  intro w' hw' sid
  rw [recalculate_sessions]
  rw [find_recalculate] at hw'
  by_cases hk : wid = workerId
  · rw [if_pos hk, Option.map_eq_some_iff] at hw'
    obtain ⟨w, hw, rfl⟩ := hw'
    rw [recounted_sessionIds, filter_holdsCapacity h hw]
    exact h w hw sid
  · rw [if_neg hk] at hw'
    exact h w' hw' sid

/-- Only the sessions and the workers matter. -/
theorem TracksPlaced.of_eq {store' : Store} (h : TracksPlaced wid store)
    (hworkers : store'.workers = store.workers) (hsessions : store'.sessions = store.sessions) :
    TracksPlaced wid store' := by
  unfold TracksPlaced
  rw [hworkers, hsessions]
  exact h

/-- **Every command keeps it.** -/
theorem tracksPlaced_run (cmd : Command) (h : TracksPlaced wid store) :
    TracksPlaced wid (cmd.run store) := by
  cases cmd with
  | schedule c request => exact tracksPlaced_schedule c request h
  | session command => exact tracksPlaced_session h (sessionCommand_effect store command)
  | recalculate now workerId requestedBy =>
      exact tracksPlaced_recalculate now workerId requestedBy h
  | updateDefinition newId request =>
      rw [Command.run]
      exact h.of_eq rfl rfl

end Tracks

/-! ## §4. The total of a worker. -/

section Counts

variable {wid : String} {store store' : Store} {recorded : String → Resource → Nat}

/-- A release of a session on the worker keeps its total right iff it is covered. -/
theorem countsRecorded_session_iff {now : Int} {released : Option String}
    (h : TracksPlaced wid store) (hcounts : CountsRecorded wid ⟨store, recorded⟩)
    (heffect : SessionEffect store now released store') :
    CountsRecorded wid ⟨store', recorded⟩
      ↔ ∀ w sid, store.workers.find wid = some w → released = some sid → sid ∈ w.sessionIds →
        ∀ r, store.requirement sid r = recorded sid r
          ∨ w.allocatedCapacity.amount r = recorded sid r
            ∧ recorded sid r ≤ store.requirement sid r := by
  cases heffect with
  | refused => exact iff_of_true hcounts fun _ _ _ hnone => nomatch hnone
  | moved found move stays late => exact iff_of_true hcounts fun _ _ _ hnone => nomatch hnone
  | @released session session' dst labRecords found move leaves =>
      -- the release on the worker, with the session's own amounts
      have hrelease : ∀ w, store.workers.find wid = some w → session.workerId = some wid →
          ((w.released now (releaseCommand (store.definitions.find session.definitionId) wid
              session.id)).Balanced recorded
            ↔ (session.id ∈ w.sessionIds → ∀ r,
              store.requirement session.id r = recorded session.id r
                ∨ w.allocatedCapacity.amount r = recorded session.id r
                  ∧ recorded session.id r ≤ store.requirement session.id r)) := by
        intro w hw hworker
        have hiff := balanced_released_iff now
          (releaseCommand (store.definitions.find session.definitionId) wid session.id)
          (hcounts w hw)
        simp only [requirement_of_find found, releaseCommand_sessionId] at hiff
        exact hiff
      constructor
      · -- a tracked session refers to its worker, so the release reaches it
        intro hafter w sid hw hsid hmem
        obtain rfl := Option.some.inj hsid
        have hworker : session.workerId = some wid :=
          ((placedOn_of_find found).mp ((h w hw _).mp hmem)).1
        refine (hrelease w hw hworker).mp ?_ hmem
        refine hafter _ ?_
        show (store.releaseSession now session).find wid = _
        rw [find_releaseSession, hw, Option.map_some, if_pos hworker]
      · intro hcovered w' hw'
        rw [find_releaseSession, Option.map_eq_some_iff] at hw'
        obtain ⟨w, hw, rfl⟩ := hw'
        by_cases hworker : session.workerId = some wid
        · rw [if_pos hworker]
          exact (hrelease w hw hworker).mpr fun hmem => hcovered w _ hw rfl hmem
        · rw [if_neg hworker]
          exact hcounts w hw

/-- A granted allocation is recorded with what it adds. -/
theorem countsRecorded_schedule (c : Clock) (request : ScheduleLabletSessionCommand)
    (h : TracksPlaced wid store) (hcounts : CountsRecorded wid ⟨store, recorded⟩) :
    CountsRecorded wid (ledgerStep wid ⟨store, recorded⟩ (.schedule c request)) := by
  show CountsRecorded wid ⟨(scheduleLabletSession c store request).2,
    if request.workerId = wid ∧ granted (scheduleLabletSession c store request).1 = true then
      fun sid => if sid = request.sessionId then store.requirement sid else recorded sid
    else recorded⟩
  have heffect := schedule_effect c store request
  generalize scheduleLabletSession c store request = answered at heffect ⊢
  cases heffect with
  | @refused answer fails =>
      have hnot : granted answer = false := by
        cases answer with
        | ok answer => cases fails
        | _ => rfl
      simp only [hnot, Bool.false_eq_true, and_false, if_false]
      exact hcounts
  | @placed session session' worker definition answer found pending foundWorker running
      foundDefinition fits refs status allocated =>
      intro w' hw'
      by_cases hwid : request.workerId = wid
      · subst hwid
        obtain ⟨hfresh, hsuccess, hassigned⟩ :=
          allocate_of_placed c.now h found pending foundWorker running fits
        obtain rfl := Option.some.inj (hassigned.symm.trans hw')
        -- the allocation is granted, so the requirements of the session are recorded
        simp only [granted, allocated, hsuccess, and_self, if_true]
        refine balanced_assigned c.now hfresh (hcounts worker foundWorker) ?_ ?_
        · -- the record of the other sessions stays
          intro sid hsid
          refine if_neg ?_
          rintro rfl
          exact hfresh hsid
        · intro r
          rw [if_pos rfl]
          exact requirement_eq found foundDefinition r
      · simp only [hwid, false_and, if_false]
        rw [find_allocateCapacity_ne c.now store.workers
          (allocateCommand definition.resourceRequirements request.workerId request.sessionId)
          rfl (Ne.symm hwid)] at hw'
        exact hcounts w' hw'

/-- A recalculation records what it counts. -/
theorem countsRecorded_recalculate (now : Int) (workerId requestedBy : String)
    (hcounts : CountsRecorded wid ⟨store, recorded⟩) :
    CountsRecorded wid
      (ledgerStep wid ⟨store, recorded⟩ (.recalculate now workerId requestedBy)) := by
  show CountsRecorded wid ⟨(recalculateWorkerCapacity now store workerId requestedBy).2,
    match store.workers.find workerId with
    | none => recorded
    | some worker =>
        if workerId = wid then
          fun sid =>
            if sid ∈ (recalculation store worker.sessionIds).activeSessionIds then
              store.requirement sid
            else recorded sid
        else recorded⟩
  intro w' hw'
  rw [find_recalculate] at hw'
  by_cases hk : wid = workerId
  · subst hk
    rw [if_pos rfl, Option.map_eq_some_iff] at hw'
    obtain ⟨w, hw, rfl⟩ := hw'
    simp only [hw, if_true, recalculation_activeSessionIds]
    intro r
    rw [recounted_amount, recounted_sessionIds]
    refine held_congr fun sid hsid => ?_
    simp only [hsid, if_true]
  · rw [if_neg hk] at hw'
    have hold : w'.Balanced recorded := hcounts w' hw'
    cases store.workers.find workerId with
    | none => exact hold
    | some worker =>
        simp only [Ne.symm hk, if_false]
        exact hold

/-- **One command keeps the total right** iff the release it makes, if any, is covered. -/
theorem countsRecorded_step_iff {t : CapacityLedger} (cmd : Command)
    (h : TracksPlaced wid t.store) (hcounts : CountsRecorded wid t) :
    CountsRecorded wid (ledgerStep wid t cmd) ↔ ReleaseCovered wid t cmd := by
  cases cmd with
  | schedule c request =>
      exact iff_of_true (countsRecorded_schedule c request h hcounts)
        fun _ _ _ hnone => nomatch hnone
  | session command =>
      exact countsRecorded_session_iff h hcounts (sessionCommand_effect t.store command)
  | recalculate now workerId requestedBy =>
      exact iff_of_true (countsRecorded_recalculate now workerId requestedBy hcounts)
        fun _ _ _ hnone => nomatch hnone
  | updateDefinition newId request =>
      refine iff_of_true ?_ fun _ _ _ hnone => nomatch hnone
      unfold CountsRecorded ledgerStep Command.run CapacityLedger.record
      exact hcounts

end Counts

/-! ## §5. Runs. -/

/-- The ledger before the first command: nothing is recorded. -/
def CapacityLedger.start (store : Store) : CapacityLedger :=
  { store := store, recorded := fun _ _ => 0 }

section Runs

variable {wid : String} {store : Store}

theorem tracksPlaced_of_unused (h : Unused wid store) : TracksPlaced wid store := by
  intro w hw sid
  rw [(h.worker w hw).1]
  exact iff_of_false List.not_mem_nil (h.sessions sid)

theorem countsRecorded_of_unused (h : Unused wid store) :
    CountsRecorded wid (CapacityLedger.start store) := by
  intro w hw r
  rw [(h.worker w hw).2 r, (h.worker w hw).1]
  rfl

/-- **Capacity is conserved** in every state of a run, from a worker without sessions, iff
every release of the run is covered where it is made. -/
theorem capacity_conserved_iff (h : Unused wid store) (cmds : List Command) :
    (∀ before, before <+: cmds →
      Conserved wid (replay (ledgerStep wid) (CapacityLedger.start store) before))
      ↔ Meets (ledgerStep wid) (ReleaseCovered wid) (CapacityLedger.start store) cmds := by
  have hkeeps : ∀ (t : CapacityLedger) (cmd : Command), TracksPlaced wid t.store →
      TracksPlaced wid (ledgerStep wid t cmd).store := fun _ cmd ht => tracksPlaced_run cmd ht
  have htracks : ∀ before, TracksPlaced wid
      (replay (ledgerStep wid) (CapacityLedger.start store) before).store := fun before =>
    replay_invariant hkeeps before (tracksPlaced_of_unused h)
  have hiff := always_iff_meets hkeeps
    (fun _ cmd ht hcounts => countsRecorded_step_iff cmd ht hcounts)
    cmds (tracksPlaced_of_unused h) (countsRecorded_of_unused h)
  rw [← hiff]
  exact forall₂_congr fun before _ => and_iff_left (htracks before)

end Runs

/-! ## §6. A definition that grows under its sessions. -/

/-- A small lab that waits for its content. -/
def smallDefinition : LabletDefinitionState where
  id := "d1"
  id_given := d1_given
  status := .pendingSync
  resourceRequirements :=
    { cpuCores := 2
      memoryGb := 4
      storageGb := 20
      cpuCores_pos := by decide
      memoryGb_pos := four_given
      storageGb_pos := by decide }

theorem oneSession_nodup : ["s1"].Nodup := List.nodup_singleton _

/-- A running worker without sessions. -/
def freeWorker : CMLWorkerState where
  id := "w1"
  id_given := by decide
  status := .running
  declaredCapacity := some { cpuCores := 16, memoryGb := 64, storageGb := 500 }

/-- Two pending sessions on the same definition. -/
def twoSessionStore : Store where
  sessions := Repository.ofList [reservedSession, { reservedSession with id := "s2" }]
  workers := Repository.ofList [freeWorker]
  definitions := Repository.ofList [smallDefinition]

theorem twoSessionStore_unused : Unused "w1" twoSessionStore where
  worker := by
    intro w hw
    obtain rfl : freeWorker = w := Option.some.inj hw
    exact ⟨rfl, fun r => WorkerCapacity.amount_zero r⟩
  sessions := by
    rintro sid ⟨session, hfind, hworker, -⟩
    have hentry := (Dict.get?_eq_some_iff twoSessionStore.sessions.docs sid session).mp hfind
    have hentries : twoSessionStore.sessions.docs.entries
        = [("s1", reservedSession), ("s2", { reservedSession with id := "s2" })] := rfl
    rw [hentries] at hentry
    simp only [List.mem_cons, Prod.mk.injEq, List.not_mem_nil, or_false] at hentry
    rcases hentry with ⟨-, rfl⟩ | ⟨-, rfl⟩ <;> cases hworker

/-- Both sessions are scheduled, the definition is updated in place from 2 to 4 cores, and
the first session expires. -/
def growingRun : List Command :=
  [.schedule { now := 10 } { sessionId := "s1", workerId := "w1" },
    .schedule { now := 11 } { sessionId := "s2", workerId := "w1" },
    .updateDefinition ⟨"d2", by decide⟩ { definitionId := "d1", cpuCores := some 4 },
    .session (.startInstantiation { now := 13 } "s1"),
    .session (.expire { now := 3600 } { sessionId := "s1" })]

/-- The equivalence on that run. -/
theorem capacity_conserved_iff_growing :
    (∀ before, before <+: growingRun →
      Conserved "w1" (replay (ledgerStep "w1") (CapacityLedger.start twoSessionStore) before))
      ↔ Meets (ledgerStep "w1") (ReleaseCovered "w1") (CapacityLedger.start twoSessionStore)
        growingRun :=
  capacity_conserved_iff twoSessionStore_unused growingRun

/-- The run takes all four cores back, and the total says 0 while the second session still has
the 2 it was given. -/
theorem capacity_lost_after_update : Unused "w1" twoSessionStore
    ∧ ¬ ∀ before, before <+: growingRun →
      Conserved "w1" (replay (ledgerStep "w1") (CapacityLedger.start twoSessionStore) before) := by
  refine ⟨twoSessionStore_unused, fun h => ?_⟩
  -- 2 and 2 cores given, 4 taken back
  obtain ⟨hcounts, -⟩ := h growingRun List.prefix_rfl
  have hworker : ((replay (ledgerStep "w1") (CapacityLedger.start twoSessionStore)
      growingRun).store.workers.find "w1").map
        (fun w => (w.allocatedCapacity.amount .cpuCores, w.sessionIds)) = some (0, ["s2"]) := by
    decide
  have hrecorded : (replay (ledgerStep "w1") (CapacityLedger.start twoSessionStore)
      growingRun).recorded "s2" .cpuCores = 2 := by
    decide
  obtain ⟨w, hw, hpair⟩ := Option.map_eq_some_iff.mp hworker
  obtain ⟨hcpu, hids⟩ := Prod.mk.inj hpair
  have htotal := hcounts w hw .cpuCores
  rw [hcpu, hids, held_cons, held_nil, hrecorded] at htotal
  cases htotal

end CmlCloudManager.ControlPlane
