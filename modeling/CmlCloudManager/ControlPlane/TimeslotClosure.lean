/-
  CmlCloudManager.ControlPlane.TimeslotClosure
  ────────────────────────────────────────────
  **CLOSING SESSIONS PAST THEIR TIMESLOT.**

  Two components look for sessions whose timeslot has ended, and both send the
  same command:

    • the lablet reconciler — every session that is not stopping or past that,
    • the control plane's enforcement loop — over the query `listPastEnd`, which
      selects SCHEDULED to GRADING.

  Both selections are wider than the table of transitions: a PENDING or SCHEDULED
  session cannot expire, so the command is refused for it every time.  And what the
  worker gives up is what the definition requires by then, which may be less than
  what the ledger has recorded for the session.
-/
import CmlCloudManager.ControlPlane.CapacityConservation

namespace CmlCloudManager.ControlPlane

open CmlCloudManager.Foundation

/-! ## §1. Who is expired. -/

/-- The timeslot check of `LabletReconciler.reconcile`, and the command of `_handle_expired`. -/
def reconcileExpiry (now : Int) (session : LabletSessionState) :
    Option ExpireLabletSessionCommand :=
  if session.status ∉ [LabletSessionStatus.stopping, .stopped, .archived, .terminated]
      ∧ now ≥ session.timeslotEnd then
    some { sessionId := session.id, reason := "timeslot_expired" }
  else none

/-- The statuses `list_past_end_async` selects. -/
def actionableStatuses : List LabletSessionStatus :=
  [.scheduled, .instantiating, .ready, .running, .collecting, .grading]

/-- `list_past_end_async`. -/
def listPastEnd (sessions : LabletSessionRepository) (asOf : Int) : List LabletSessionState :=
  sessions.docs.values.filter fun s => s.status ∈ actionableStatuses ∧ s.timeslotEnd ≤ asOf

/-- The commands of `TimeslotEnforcementService._enforce_timeslots`. -/
def enforcementCommands (sessions : LabletSessionRepository) (now : Int) :
    List ExpireLabletSessionCommand :=
  (listPastEnd sessions now).map fun s =>
    { sessionId := s.id, reason := "timeslot_enforcement_cpa" }

/-- The commands that the two components issue for a session. -/
def issuedCommands (store : Store) (now : Int) (session : LabletSessionState) :
    List ExpireLabletSessionCommand :=
  (reconcileExpiry now session).toList
    ++ (enforcementCommands store.sessions now).filter fun cmd => cmd.sessionId = session.id

/-- The statuses of a session whose timeslot still has to be closed. -/
def openStatuses : List LabletSessionStatus :=
  [.pending, .scheduled, .instantiating, .ready, .running, .collecting, .grading]

/-- **A closed session**: the command is accepted, the session is gone, its lab record is not
bound to it and its worker tracks it no more, with all that was recorded for it off the total. -/
structure Closed (wid : String) (t : CapacityLedger) (sessionId : String)
    (answered : OperationResult ExpireLabletSessionResult × Store) : Prop where
  accepted : answered.1.isSuccess = true
  gone : ∃ session, answered.2.sessions.find sessionId = some session
    ∧ session.status ∈ [LabletSessionStatus.expired, .terminated]
  unbound : ∀ session labRecordId lab, answered.2.sessions.find sessionId = some session →
    session.labRecordId = some labRecordId → answered.2.labRecords.find labRecordId = some lab →
      lab.activeLabletSessionId ≠ some sessionId
  released : ∀ session worker, answered.2.sessions.find sessionId = some session →
    session.workerId = some wid → answered.2.workers.find wid = some worker →
      sessionId ∉ worker.sessionIds
        ∧ ∃ before, t.store.workers.find wid = some before
          ∧ (sessionId ∈ before.sessionIds → ∀ r, worker.allocatedCapacity.amount r
            ≤ before.allocatedCapacity.amount r - t.recorded sessionId r)

/-- **The release covers what was recorded**: of every resource the definition requires at least
what was recorded for the session, or all that the worker has. -/
def CoversRecorded (wid : String) (t : CapacityLedger) (session : LabletSessionState) : Prop :=
  ∀ worker, session.workerId = some wid → t.store.workers.find wid = some worker →
    session.id ∈ worker.sessionIds → ∀ r,
      t.recorded session.id r ≤ t.store.requirement session.id r
        ∨ worker.allocatedCapacity.amount r ≤ t.store.requirement session.id r

/-! ## §2. The lab record. -/

section Lab

variable {labRecords : LabRecordRepository} {labRecordId sessionId : String}

/-- Unbinding by the lab's own binding id clears the binding. -/
theorem unbindFromLablet_active {lab : LabRecordState} (h : lab.activeLabletSessionId.isSome) :
    (lab.unbindFromLablet (lab.activeBindingId.getD "")).activeLabletSessionId = none := by
  obtain ⟨bindingId, hbinding⟩ := Option.isSome_iff_exists.mp (lab.binding h)
  unfold LabRecordState.unbindFromLablet
  rw [hbinding, Option.getD_some, if_pos rfl]

theorem unbindFromLablet_id (lab : LabRecordState) (bindingId : String) :
    (lab.unbindFromLablet bindingId).id = lab.id := by
  unfold LabRecordState.unbindFromLablet
  split <;> rfl

/-- After the unbinding the lab is not bound to the session. -/
theorem find_unbindLabRecord {lab : LabRecordState}
    (h : (unbindLabRecord labRecords labRecordId sessionId).2.find labRecordId = some lab) :
    lab.activeLabletSessionId ≠ some sessionId := by
  unfold unbindLabRecord at h
  cases hfind : labRecords.find labRecordId with
  | none =>
      rw [hfind] at h
      exact absurd (h.symm.trans hfind) (Option.some_ne_none lab)
  | some lab₀ =>
      rw [hfind] at h
      by_cases hbound : lab₀.activeLabletSessionId = some sessionId
      · simp only [hbound, if_true] at h
        have hid : (lab₀.unbindFromLablet (lab₀.activeBindingId.getD "")).id = labRecordId :=
          (unbindFromLablet_id _ _).trans (Repository.id_of_find hfind)
        rw [Repository.find_save_of_id hid, if_pos rfl, Option.some.injEq] at h
        rw [← h, unbindFromLablet_active (by rw [hbound]; rfl)]
        exact nofun
      · simp only [hbound, if_false] at h
        rw [Option.some.inj (h.symm.trans hfind)]
        exact hbound

/-- Queueing a wipe leaves the bindings alone. -/
theorem find_queueWipe {lab : LabRecordState} {k : String}
    (h : (queueWipe labRecords labRecordId).2.find k = some lab) :
    ∃ lab₀, labRecords.find k = some lab₀
      ∧ lab.activeLabletSessionId = lab₀.activeLabletSessionId := by
  unfold queueWipe at h
  cases hfind : labRecords.find labRecordId with
  | none =>
      rw [hfind] at h
      exact ⟨lab, h, rfl⟩
  | some lab₀ =>
      -- a wipe is queued on the same lab record, with its binding as it is
      rw [hfind] at h
      by_cases hready : lab₀.isTerminal = false ∧ givenText lab₀.pendingAction = none
      · simp only [hready, and_self, if_true, wipeLabRecord, hfind, Bool.false_eq_true, if_false]
          at h
        have hid : lab₀.requestWipe.id = labRecordId := by
          show lab₀.id = labRecordId
          exact Repository.id_of_find hfind
        rw [Repository.find_save_of_id hid] at h
        by_cases hk : k = labRecordId
        · rw [if_pos hk, Option.some.injEq] at h
          exact ⟨lab₀, hk ▸ hfind, by rw [← h]; rfl⟩
        · rw [if_neg hk] at h
          exact ⟨lab, h, rfl⟩
      · simp only [hready, if_false] at h
        exact ⟨lab, h, rfl⟩

/-- **After the clean-up** the lab record is not bound to the session. -/
theorem find_cleanUpLabRecord {lab : LabRecordState}
    (h : (cleanUpLabRecord labRecords (some labRecordId) sessionId).2.2.find labRecordId
      = some lab) :
    lab.activeLabletSessionId ≠ some sessionId := by
  unfold cleanUpLabRecord givenText at h
  by_cases hempty : labRecordId = ""
  · -- no lab record is stored under the empty id
    simp only [hempty, if_true] at h
    exact absurd (Repository.id_of_find h) lab.id_given
  · simp only [hempty, if_false] at h
    obtain ⟨lab₀, hfind, hactive⟩ := find_queueWipe h
    rw [hactive]
    exact find_unbindLabRecord hfind

end Lab

/-! ## §3. The expiry of a session. -/

section Expiry

variable {c : Clock} {wid : String} {store : Store} {recorded : String → Resource → Nat}
  {session : LabletSessionState} {request : ExpireLabletSessionCommand}

/-- **The effect of an accepted expiry.** -/
theorem expire_accepted (hfind : store.sessions.find request.sessionId = some session)
    (hallowed : .expired ∈ validTransitions session.status) :
    ∃ session', Moved session session' .expired
      ∧ (expireLabletSession c store request).1.isSuccess = true
      ∧ (expireLabletSession c store request).2
        = { store with
            sessions := store.sessions.save session'
            workers := store.releaseSession c.now session
            labRecords :=
              (cleanUpLabRecord store.labRecords session.labRecordId request.sessionId).2.2 } := by
  have hid : session.id = request.sessionId := Repository.id_of_find hfind
  have hstatus : session.status ≠ .expired := by
    intro h
    rw [h] at hallowed
    revert hallowed
    decide
  obtain ⟨session', hok, hmoved⟩ := (movesTo_expire (c := c) request.reason).ok hallowed
  refine ⟨session', hmoved, ?_⟩
  unfold expireLabletSession Store.releaseSession
  simp only [hfind, hstatus, hok, if_false, givenDefinition_eq, hmoved.workerId,
    hmoved.definitionId, hmoved.labRecordId, hid]
  -- the clean-up and the release are best effort: the answer is ok either way
  cases givenText session.workerId with
  | none => exact ⟨rfl, rfl⟩
  | some workerId => exact ⟨rfl, rfl⟩

/-- A session that cannot expire is refused. -/
theorem expire_refused (hfind : store.sessions.find request.sessionId = some session)
    (hstatus : session.status ≠ .expired)
    (hnot : .expired ∉ validTransitions session.status) :
    (expireLabletSession c store request).1.isSuccess = false := by
  obtain ⟨e, s', herror⟩ := (movesTo_expire (c := c) request.reason).error hnot
  unfold expireLabletSession
  simp only [hfind, hstatus, herror, if_false]
  rfl

/-- A worker that tracks the session gives up what is recorded iff that is covered. -/
theorem releases_recorded_iff (hfind : store.sessions.find session.id = some session)
    {worker : CMLWorkerState} (hmem : session.id ∈ worker.sessionIds) (now : Int) (r : Resource) :
    (worker.released now (releaseCommand (store.definitions.find session.definitionId) wid
        session.id)).allocatedCapacity.amount r
        ≤ worker.allocatedCapacity.amount r - recorded session.id r
      ↔ recorded session.id r ≤ store.requirement session.id r
        ∨ worker.allocatedCapacity.amount r ≤ store.requirement session.id r := by
  rw [released_amount now (by rw [releaseCommand_sessionId]; exact hmem),
    requirement_of_find hfind]
  omega

/-- An expiry that is accepted closes the session iff the release covers what was recorded. -/
theorem closed_of_accepted_iff (hfind : store.sessions.find request.sessionId = some session)
    (hallowed : .expired ∈ validTransitions session.status) :
    Closed wid ⟨store, recorded⟩ request.sessionId (expireLabletSession c store request)
      ↔ CoversRecorded wid ⟨store, recorded⟩ session := by
  have hid : session.id = request.sessionId := Repository.id_of_find hfind
  rw [← hid] at hfind ⊢
  obtain ⟨session', hmoved, hok, hstore⟩ := expire_accepted (c := c) (hid ▸ hfind) hallowed
  have hsaved : (expireLabletSession c store request).2.sessions.find session.id
      = some session' := by
    rw [hstore]
    show (store.sessions.save session').find session.id = some session'
    rw [Repository.find_save_of_id hmoved.id, if_pos rfl]
  -- the worker that is stored afterwards, if it is the session's
  have hworker : session.workerId = some wid →
      (expireLabletSession c store request).2.workers.find wid
        = (store.workers.find wid).map fun w =>
            w.released c.now (releaseCommand (store.definitions.find session.definitionId) wid
              session.id) := by
    intro hwid
    rw [hstore]
    show (store.releaseSession c.now session).find wid = _
    rw [find_releaseSession]
    simp only [hwid, if_true]
  constructor
  · intro hclosed worker hwid hbefore hmem r
    obtain ⟨-, before, hfound, hreleased⟩ := hclosed.released session' _ hsaved
      (hmoved.workerId.trans hwid) ((hworker hwid).trans (congrArg _ hbefore))
    obtain rfl : worker = before := Option.some.inj (hbefore.symm.trans hfound)
    exact (releases_recorded_iff hfind hmem c.now r).mp (hreleased hmem r)
  · intro hcovers
    refine
      { accepted := hok
        gone := ⟨session', hsaved, by rw [hmoved.status]; decide⟩
        unbound := ?_
        released := ?_ }
    · intro s labRecordId lab hs hlab hrecord
      obtain rfl := Option.some.inj (hsaved.symm.trans hs)
      rw [hmoved.labRecordId] at hlab
      rw [hstore] at hrecord
      simp only [hlab, ← hid] at hrecord
      exact find_cleanUpLabRecord hrecord
    · intro s worker hs hwid hfound
      obtain rfl := Option.some.inj (hsaved.symm.trans hs)
      rw [hmoved.workerId] at hwid
      rw [hworker hwid, Option.map_eq_some_iff] at hfound
      obtain ⟨before, hbefore, rfl⟩ := hfound
      refine ⟨?_, before, hbefore, fun hmem r => ?_⟩
      · rw [released_sessionIds, List.mem_filter, releaseCommand_sessionId]
        simp
      · exact (releases_recorded_iff hfind hmem c.now r).mpr (hcovers before hwid hbefore hmem r)

end Expiry

/-! ## §4. Closure. -/

section Closure

variable {wid : String} {t : CapacityLedger} {store : Store} {session : LabletSessionState}
  {now : Int}

/-- The open statuses from which the table lets a session expire. -/
theorem expired_allowed_iff : ∀ status ∈ openStatuses,
    LabletSessionStatus.expired ∈ validTransitions status
      ↔ status ∉ [LabletSessionStatus.pending, .scheduled] := by
  decide

/-- The reconciler issues the command for every overdue session. -/
theorem reconcileExpiry_overdue (hopen : session.status ∈ openStatuses)
    (hoverdue : session.timeslotEnd ≤ now) :
    reconcileExpiry now session
      = some { sessionId := session.id, reason := "timeslot_expired" } := by
  have hearly : ∀ status ∈ openStatuses,
      status ∉ [LabletSessionStatus.stopping, .stopped, .archived, .terminated] := by
    decide
  unfold reconcileExpiry
  rw [if_pos ⟨hearly session.status hopen, hoverdue⟩]

/-- Every command issued for a session is about that session. -/
theorem sessionId_of_issued {cmd : ExpireLabletSessionCommand}
    (h : cmd ∈ issuedCommands store now session) : cmd.sessionId = session.id := by
  unfold issuedCommands at h
  rw [List.mem_append, List.mem_filter, decide_eq_true_iff] at h
  rcases h with h | ⟨-, h⟩
  · -- the reconciler's
    unfold reconcileExpiry at h
    split at h
    · rw [List.mem_singleton.mp h]
    · cases h
  · exact h

/-- **Timeslot closure.**  For an overdue session in an open status a command is issued, and
each command issued for it closes it iff it is neither pending nor scheduled and the release
covers what was recorded for it. -/
theorem timeslot_closed_iff (c : Clock)
    (hfind : t.store.sessions.find session.id = some session)
    (hopen : session.status ∈ openStatuses) (hoverdue : session.timeslotEnd ≤ now) :
    issuedCommands t.store now session ≠ []
      ∧ ∀ cmd ∈ issuedCommands t.store now session,
        Closed wid t session.id (expireLabletSession c t.store cmd)
          ↔ session.status ∉ [LabletSessionStatus.pending, .scheduled]
            ∧ CoversRecorded wid t session := by
  constructor
  · unfold issuedCommands
    rw [reconcileExpiry_overdue hopen hoverdue]
    exact List.cons_ne_nil _ _
  · intro cmd hcmd
    have hid : cmd.sessionId = session.id := sessionId_of_issued hcmd
    have hfound : t.store.sessions.find cmd.sessionId = some session := by
      rw [hid]
      exact hfind
    rw [← expired_allowed_iff session.status hopen, ← hid]
    by_cases hallowed : .expired ∈ validTransitions session.status
    · rw [and_iff_right hallowed]
      exact closed_of_accepted_iff hfound hallowed
    · -- where the table has no EXPIRED the command is refused
      refine iff_of_false (fun hclosed => ?_) fun h => hallowed h.1
      have hstatus : session.status ≠ .expired := by
        intro h
        rw [h] at hopen
        revert hopen
        decide
      have haccepted := hclosed.accepted
      rw [expire_refused hfound hstatus hallowed] at haccepted
      cases haccepted

/-- A running session on its worker and bound to its lab. -/
def runningSession : LabletSessionState :=
  { reservedSession with status := .running, workerId := some "w1", labRecordId := some "l1" }

/-- The database with that session, and what was recorded when it was scheduled. -/
def runningLedger : CapacityLedger where
  store :=
    { sessions := Repository.ofList [runningSession]
      workers := Repository.ofList
        [{ freeWorker with
          allocatedCapacity := { cpuCores := 2, memoryGb := 4, storageGb := 20 }
          sessionIds := ["s1"]
          sessionIds_nodup := oneSession_nodup }]
      definitions := Repository.ofList [smallDefinition]
      labRecords := Repository.ofList [LabRecordState.bindToLablet
        { id := "l1", id_given := by decide } "s1" "s1"] }
  recorded := fun _ => smallDefinition.resourceRequirements.capacity.amount

/-- At the end of its hour it is closed. -/
theorem timeslot_closed_running :
    issuedCommands runningLedger.store 3600 runningSession ≠ []
      ∧ ∀ cmd ∈ issuedCommands runningLedger.store 3600 runningSession,
        Closed "w1" runningLedger "s1"
          (expireLabletSession { now := 3600 } runningLedger.store cmd) := by
  have hclosed := @timeslot_closed_iff "w1" runningLedger runningSession 3600 { now := 3600 } rfl
    (by decide) (by decide)
  refine ⟨hclosed.1, fun cmd hcmd => (hclosed.2 cmd hcmd).mpr ⟨by decide, ?_⟩⟩
  intro worker _ _ _ r
  exact .inl (Nat.le_refl _)

end Closure

/-! ## §5. Sessions that stay open. -/

/-- The first session is scheduled, and nothing more happens to it. -/
def scheduledLedger : CapacityLedger :=
  replay (ledgerStep "w1") (CapacityLedger.start twoSessionStore)
    [.schedule { now := 10 } { sessionId := "s1", workerId := "w1" }]

/-- It is scheduled and instantiated, and in between its definition is updated in place from 2
cores to 1. -/
def shrunkLedger : CapacityLedger :=
  replay (ledgerStep "w1") (CapacityLedger.start twoSessionStore)
    [.schedule { now := 10 } { sessionId := "s1", workerId := "w1" },
      .updateDefinition ⟨"d3", by decide⟩ { definitionId := "d1", cpuCores := some 1 },
      .session (.startInstantiation { now := 13 } "s1")]

/-- The command of the reconciler for the first session. -/
def expiryOfFirst : ExpireLabletSessionCommand :=
  { sessionId := "s1", reason := "timeslot_expired" }

/-- The first session is overdue, and the command that is issued for it does not close it. -/
def StaysOpen (t : CapacityLedger) : Prop :=
  ∃ session, t.store.sessions.find "s1" = some session
    ∧ session.status ∈ openStatuses ∧ session.timeslotEnd ≤ 3600
    ∧ expiryOfFirst ∈ issuedCommands t.store 3600 session
    ∧ ¬ Closed "w1" t "s1" (expireLabletSession { now := 3600 } t.store expiryOfFirst)

/-- The scheduled session is refused, and of the other one a core stays behind. -/
theorem overdue_sessions_not_closed : StaysOpen scheduledLedger ∧ StaysOpen shrunkLedger := by
  constructor
  · refine ⟨_, rfl, by decide, by decide, List.mem_cons_self, fun hclosed => ?_⟩
    have haccepted := hclosed.accepted
    revert haccepted
    decide
  · refine ⟨_, rfl, by decide, by decide, List.mem_cons_self, fun hclosed => ?_⟩
    have hcovers :=
      (@closed_of_accepted_iff _ "w1" _ _ _ expiryOfFirst rfl (by decide)).mp hclosed
    have hcores := hcovers _ rfl rfl (by decide) .cpuCores
    revert hcores
    decide

end CmlCloudManager.ControlPlane
