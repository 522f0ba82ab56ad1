/-
  CmlCloudManager.ControlPlane.CommandEffects
  ───────────────────────────────────────────
  **WHAT A COMMAND DOES TO SESSIONS AND WORKERS.**

  The handlers differ in their arguments, checks and answers; what they do to the
  database has few shapes.  A command on a session does one of three things:

    • `refused`  — nothing,
    • `moved`    — the session goes along the table, its worker is left alone,
    • `released` — the session goes to STOPPING, EXPIRED or TERMINATED, and its
                   worker is asked to release it,

  and which of them is read off the request and the state before
  (`SessionCommand.releases`).  Scheduling is the only way onto a worker.
-/
import CmlCloudManager.Foundation.Ledger
import CmlCloudManager.ControlPlane.SessionCommands

namespace CmlCloudManager.ControlPlane

open CmlCloudManager.Foundation
open CmlCloudManager.Pipeline

/-! ## §1. The commands. -/

/-- A command on one session, with its clock readings. -/
inductive SessionCommand where
  | transition (c : Clock) (request : TransitionLabletSessionCommand)
  | expire (c : Clock) (request : ExpireLabletSessionCommand)
  | terminate (c : Clock) (request : TerminateLabletSessionCommand)
  | startInstantiation (c : Clock) (sessionId : String)
  | markReady (c : Clock) (sessionId userSessionId cmlLabId : String)
  | collectionCompleted (c : Clock) (sessionId gradingSessionId : String)

/-- The database after the command. -/
def SessionCommand.run (store : Store) : SessionCommand → Store
  | .transition c request => (transitionLabletSession c store request).2
  | .expire c request => (expireLabletSession c store request).2
  | .terminate c request => (terminateLabletSession c store request).2
  | .startInstantiation c sessionId => (startInstantiationCommand c store sessionId).2
  | .markReady c sessionId userSessionId cmlLabId =>
      (markSessionReady c store sessionId userSessionId cmlLabId).2
  | .collectionCompleted c sessionId gradingSessionId =>
      assessmentCollectionCompleted c store sessionId gradingSessionId

/-- The clock of the command. -/
def SessionCommand.clock : SessionCommand → Clock
  | .transition c _ => c
  | .expire c _ => c
  | .terminate c _ => c
  | .startInstantiation c _ => c
  | .markReady c _ _ _ => c
  | .collectionCompleted c _ _ => c

/-- The session, when it is there and may move to the status. -/
def Store.movable (store : Store) (sessionId : String) (dst : LabletSessionStatus) :
    Option String :=
  match store.sessions.find sessionId with
  | some session => if dst ∈ validTransitions session.status then some sessionId else none
  | none => none

/-- The session whose worker the command asks to release it. -/
def SessionCommand.releases (store : Store) : SessionCommand → Option String
  | .transition _ request =>
      if LabletSessionStatus.parse request.targetStatus = some .stopping then
        store.movable request.sessionId .stopping
      else none
  | .expire _ request => store.movable request.sessionId .expired
  | .terminate _ request =>
      if strip request.sessionId = "" ∨ strip request.terminatedBy = "" then none
      else store.movable (strip request.sessionId) .terminated
  | _ => none

/-! ## §2. Operations that move a session. -/

/-- What a session refers to. -/
structure SessionRefs where
  id : String
  definitionId : String
  workerId : Option String
  labRecordId : Option String
  deriving DecidableEq

/-- The references of a session. -/
def LabletSessionState.refs (s : LabletSessionState) : SessionRefs :=
  ⟨s.id, s.definitionId, s.workerId, s.labRecordId⟩

/-- The session went to `dst` and refers to what it did before. -/
structure Moved (s s' : LabletSessionState) (dst : LabletSessionStatus) : Prop where
  allowed : dst ∈ validTransitions s.status
  status : s'.status = dst
  refs : s'.refs = s.refs

/-- The operation goes to `dst` where the table allows it, and raises elsewhere. -/
def MovesTo (op : SessionOp Unit) (dst : LabletSessionStatus) : Prop :=
  ∀ s, (∃ s', outcome op s = (.ok (), s') ∧ Moved s s' dst)
    ∨ (∃ e s', outcome op s = (.error e, s') ∧ dst ∉ validTransitions s.status)

section Moves

variable {c : Clock} {s s' : LabletSessionState} {dst : LabletSessionStatus}

theorem Moved.id (h : Moved s s' dst) : s'.id = s.id := congrArg SessionRefs.id h.refs

theorem Moved.definitionId (h : Moved s s' dst) : s'.definitionId = s.definitionId :=
  congrArg SessionRefs.definitionId h.refs

theorem Moved.workerId (h : Moved s s' dst) : s'.workerId = s.workerId :=
  congrArg SessionRefs.workerId h.refs

theorem Moved.labRecordId (h : Moved s s' dst) : s'.labRecordId = s.labRecordId :=
  congrArg SessionRefs.labRecordId h.refs

theorem computeDuration_refs (s : LabletSessionState) : s.computeDuration.refs = s.refs := by
  unfold LabletSessionState.computeDuration
  split <;> rfl

/-- An allowed move ends in the new status. -/
theorem MovesTo.ok {op : SessionOp Unit} (hop : MovesTo op dst)
    (h : dst ∈ validTransitions s.status) :
    ∃ s', outcome op s = (.ok (), s') ∧ Moved s s' dst := by
  rcases hop s with hok | ⟨-, -, -, hnot⟩
  · exact hok
  · exact absurd h hnot

/-- A move that is not allowed raises. -/
theorem MovesTo.error {op : SessionOp Unit} (hop : MovesTo op dst)
    (h : dst ∉ validTransitions s.status) : ∃ e s', outcome op s = (.error e, s') := by
  rcases hop s with ⟨_, _, hmoved⟩ | ⟨e, s', herror, -⟩
  · exact absurd hmoved.allowed h
  · exact ⟨e, s', herror⟩

/-- A guarded transition whose handler keeps the references. -/
theorem movesTo_transitionBy {event : SessionEvent}
    {assign : LabletSessionState → LabletSessionState} {triggeredBy : String}
    {reason : Option String} {metadata : Option Payload}
    (handler : LabletSessionState.on c event
      = applyTransition c assign dst triggeredBy reason metadata)
    (hrefs : ∀ s, (assign s).refs = s.refs) : MovesTo (transitionBy c dst event) dst := by
  intro s
  rw [outcome_transitionBy]
  by_cases h : dst ∈ validTransitions s.status
  · -- the event is applied as it is recorded
    rw [if_pos h, handler, outcome_applyTransition]
    exact .inl ⟨_, rfl, h, rfl, hrefs s⟩
  · rw [if_neg h]
    exact .inr ⟨_, _, rfl, h⟩

theorem movesTo_startInstantiation : MovesTo (startInstantiation c) .instantiating :=
  movesTo_transitionBy rfl fun _ => rfl

/-- The session is ready on the lab it was given. -/
theorem movesTo_markReady (userSessionId cmlLabId : String) :
    MovesTo (markReady c userSessionId cmlLabId) .ready :=
  movesTo_transitionBy rfl fun _ => rfl

theorem movesTo_startGrading (gradingSessionId : String) :
    MovesTo (startGrading c gradingSessionId) .grading :=
  movesTo_transitionBy rfl fun _ => rfl

theorem movesTo_expire (reason : String) : MovesTo (expire c reason) .expired :=
  movesTo_transitionBy rfl fun _ => computeDuration_refs _

theorem movesTo_terminate (terminatedBy : String) (reason : Option String) :
    MovesTo (terminate c terminatedBy reason) .terminated := by
  refine movesTo_transitionBy rfl fun s => ?_
  -- the end and the duration are written only if there is no end yet
  show (if _ then _ else _ : LabletSessionState).refs = s.refs
  split
  · exact computeDuration_refs _
  · rfl

/-- A target status that has an operation is where the operation goes. -/
theorem movesTo_transitionOperation {reason : Option String} {op : SessionOp Unit}
    (h : transitionOperation c reason dst = .ok op) :
    MovesTo op dst ∧ dst ∈ [.running, .collecting, .stopping, .stopped, .archived] := by
  cases dst with
  | running => cases h; exact ⟨movesTo_transitionBy rfl fun _ => rfl, by decide⟩
  | collecting => cases h; exact ⟨movesTo_transitionBy rfl fun _ => rfl, by decide⟩
  | stopping => cases h; exact ⟨movesTo_transitionBy rfl fun _ => rfl, by decide⟩
  | stopped =>
      cases h
      exact ⟨movesTo_transitionBy rfl fun _ => computeDuration_refs _, by decide⟩
  | archived => cases h; exact ⟨movesTo_transitionBy rfl fun _ => rfl, by decide⟩
  -- the other targets have endpoints of their own
  | _ => cases h

/-- Releasing the ports changes nothing but the ports. -/
theorem run_releasePorts (s : LabletSessionState) :
    ∃ s₁, (releasePorts c).run.run s = (.ok (), s₁) ∧ s₁.refs = s.refs
      ∧ s₁.status = s.status := by
  unfold releasePorts
  rw [run_bind]
  show ∃ s₁, (if (givenText s.workerId).isSome ∧ (s.allocatedPorts.bind givenPorts).isSome
    then LabletSessionState.on c .portsReleased else pure () : SessionOp Unit).run.run s
      = (.ok (), s₁) ∧ _
  split
  · exact ⟨{ s with allocatedPorts := none }, rfl, rfl, rfl⟩
  · -- without a worker or ports there is no event
    exact ⟨s, rfl, rfl, rfl⟩

/-- The same, when there may be none. -/
theorem run_releaseAllocatedPorts (s : LabletSessionState) :
    ∃ s₁, (releaseAllocatedPorts c).run.run s = (.ok (), s₁) ∧ s₁.refs = s.refs
      ∧ s₁.status = s.status := by
  unfold releaseAllocatedPorts
  rw [run_bind]
  show ∃ s₁, (if (s.allocatedPorts.bind givenPorts).isSome then releasePorts c else pure ()
    : SessionOp Unit).run.run s = (.ok (), s₁) ∧ _
  split
  · exact run_releasePorts s
  · exact ⟨s, rfl, rfl, rfl⟩

/-- Releasing the ports before the termination does not stop it. -/
theorem movesTo_terminateOperation (terminatedBy : String) (reason : Option String) :
    MovesTo (terminateOperation c terminatedBy reason) .terminated := by
  intro s
  obtain ⟨s₁, hports, hrefs, hstatus⟩ := run_releaseAllocatedPorts (c := c) s
  have houtcome : outcome (terminateOperation c terminatedBy reason) s
      = outcome (terminate c terminatedBy reason) s₁ := by
    unfold outcome terminateOperation
    rw [run_bind, hports]
  rw [houtcome]
  rcases movesTo_terminate terminatedBy reason s₁ with ⟨s', hok, hmoved⟩ | ⟨e, s', herr, hnot⟩
  · exact .inl ⟨s', hok, hstatus ▸ hmoved.allowed, hmoved.status, hmoved.refs.trans hrefs⟩
  · exact .inr ⟨e, s', herr, hstatus ▸ hnot⟩

end Moves

/-! ## §3. The effect of a command on a session. -/

/-- The statuses in which a scheduled session holds its place on the worker. -/
def placedStatuses : List LabletSessionStatus :=
  [.scheduled, .instantiating, .ready, .running, .collecting, .grading]

/-- The statuses that release the capacity when they are entered. -/
def releasingStatuses : List LabletSessionStatus := [.stopping, .expired, .terminated]

/-- The workers after the release of a session. -/
def Store.releaseSession (store : Store) (now : Int) (session : LabletSessionState) :
    WorkerRepository :=
  match givenText session.workerId with
  | none => store.workers
  | some workerId =>
      (releaseCapacity now store.workers
        (releaseCommand (store.definitions.find session.definitionId) workerId session.id)).2

/-- **What a command on a session can do** to the database. -/
inductive SessionEffect (store : Store) (now : Int) : Option String → Store → Prop where
  | refused : SessionEffect store now none store
  | moved {session session' : LabletSessionState} {dst : LabletSessionStatus}
      (found : store.sessions.find session.id = some session) (move : Moved session session' dst)
      (stays : dst ∉ releasingStatuses) (late : dst ≠ .scheduled) :
      SessionEffect store now none { store with sessions := store.sessions.save session' }
  | released {session session' : LabletSessionState} {dst : LabletSessionStatus}
      {labRecords : LabRecordRepository}
      (found : store.sessions.find session.id = some session) (move : Moved session session' dst)
      (leaves : dst ∈ releasingStatuses) :
      SessionEffect store now (some session.id)
        { store with
          sessions := store.sessions.save session'
          workers := store.releaseSession now session
          labRecords := labRecords }

section Effect

variable {store : Store}

/-- No definition is stored under the empty id. -/
theorem givenDefinition_eq (definitions : DefinitionRepository) (definitionId : String) :
    givenDefinition definitions definitionId = definitions.find definitionId := by
  unfold givenDefinition
  split
  next h =>
    cases hfind : definitions.find definitionId with
    | none => rfl
    | some d => exact absurd ((Repository.id_of_find hfind).trans h) d.id_given
  next => rfl

theorem movable_of_find {sessionId : String} {session : LabletSessionState}
    {dst : LabletSessionStatus} (hfind : store.sessions.find sessionId = some session) :
    store.movable sessionId dst
      = if dst ∈ validTransitions session.status then some sessionId else none := by
  unfold Store.movable
  rw [hfind]

theorem movable_none {sessionId : String} {dst : LabletSessionStatus}
    (hfind : store.sessions.find sessionId = none) : store.movable sessionId dst = none := by
  unfold Store.movable
  rw [hfind]

/-- A handler releases by the session after the move, which refers to what the session
before it does. -/
theorem released_effect (now : Int) {session session' : LabletSessionState}
    {dst : LabletSessionStatus} (labRecords : LabRecordRepository)
    (found : store.sessions.find session.id = some session) (move : Moved session session' dst)
    (leaves : dst ∈ releasingStatuses) :
    SessionEffect store now (some session.id)
      { store with
        sessions := store.sessions.save session'
        workers :=
          match givenText session'.workerId with
          | none => store.workers
          | some workerId =>
              (releaseCapacity now store.workers
                (releaseCommand (store.definitions.find session'.definitionId) workerId
                  session.id)).2
        labRecords := labRecords } := by
  rw [move.workerId, move.definitionId]
  exact .released found move leaves

/-- A command that only moves its session. -/
theorem moveSession_effect {now : Int} {sessionId : String} {op : SessionOp Unit}
    {dst : LabletSessionStatus} (hop : MovesTo op dst) (hstays : dst ∉ releasingStatuses)
    (hlate : dst ≠ .scheduled) :
    SessionEffect store now none (moveSession store sessionId op).2 := by
  unfold moveSession
  cases hfind : store.sessions.find sessionId with
  | none => exact .refused
  | some session =>
      obtain rfl : session.id = sessionId := Repository.id_of_find hfind
      rcases hop session with ⟨s', hok, hmoved⟩ | ⟨e, s', herror, -⟩
      · simp only [hok]
        exact .moved hfind hmoved hstays hlate
      · simp only [herror]
        exact .refused

/-- The targets of a transition, STOPPING apart, release nothing and place nothing. -/
theorem transition_targets : ∀ dst ∈ [LabletSessionStatus.running, .collecting, .stopping,
    .stopped, .archived], dst ≠ .stopping → dst ∉ releasingStatuses ∧ dst ≠ .scheduled := by
  decide

theorem transition_effect (c : Clock) (request : TransitionLabletSessionCommand) :
    SessionEffect store c.now
      (if LabletSessionStatus.parse request.targetStatus = some .stopping then
        store.movable request.sessionId .stopping
      else none)
      (transitionLabletSession c store request).2 := by
  unfold transitionLabletSession
  cases hfind : store.sessions.find request.sessionId with
  | none =>
      rw [movable_none hfind]
      simp only [ite_self]
      exact .refused
  | some session =>
      have hid : session.id = request.sessionId := Repository.id_of_find hfind
      have hfound : store.sessions.find session.id = some session := hid ▸ hfind
      rw [movable_of_find hfind]
      cases hparse : LabletSessionStatus.parse request.targetStatus with
      | none => exact .refused
      | some dst =>
          cases hop : transitionOperation c request.reason dst with
          | error message =>
              -- refused before the session is touched
              have hdst : dst ≠ .stopping := by
                rintro rfl
                cases hop
              simp only [hop, Option.some.injEq, hdst, if_false]
              exact .refused
          | ok op =>
              obtain ⟨hmoves, hmem⟩ := movesTo_transitionOperation hop
              rcases hmoves session with ⟨s', hok, hmoved⟩ | ⟨e, s', herror, hnot⟩
              · by_cases hdst : dst = .stopping
                · -- the one target that releases
                  subst hdst
                  rw [if_pos rfl, if_pos hmoved.allowed, ← hid]
                  have heffect := released_effect c.now store.labRecords hfound hmoved
                    (by decide)
                  simp only [hop, hok, ne_eq, not_true_eq_false, if_false, givenDefinition_eq]
                  cases hworker : givenText s'.workerId with
                  | none =>
                      simp only [hworker] at heffect
                      exact heffect
                  | some workerId =>
                      simp only [hworker] at heffect
                      exact heffect
                · simp only [hop, hok, hdst, ne_eq, not_false_eq_true, if_true, Option.some.injEq,
                    if_false]
                  obtain ⟨hstays, hlate⟩ := transition_targets dst hmem hdst
                  exact .moved hfound hmoved hstays hlate
              · simp only [hop, herror]
                have hnone : (if some dst = some LabletSessionStatus.stopping then
                    if LabletSessionStatus.stopping ∈ validTransitions session.status then
                      some request.sessionId else none else none) = none := by
                  split
                  next h =>
                    obtain rfl := Option.some.inj h
                    rw [if_neg hnot]
                  next => rfl
                rw [hnone]
                exact .refused

theorem expire_effect (c : Clock) (request : ExpireLabletSessionCommand) :
    SessionEffect store c.now (store.movable request.sessionId .expired)
      (expireLabletSession c store request).2 := by
  unfold expireLabletSession
  cases hfind : store.sessions.find request.sessionId with
  | none =>
      rw [movable_none hfind]
      exact .refused
  | some session =>
      have hid : session.id = request.sessionId := Repository.id_of_find hfind
      rw [movable_of_find hfind]
      by_cases hexpired : session.status = .expired
      · -- answered with `already_expired`, and nothing is released again
        rw [if_neg (by rw [hexpired]; decide)]
        simp only [hexpired, if_true]
        exact .refused
      · rcases movesTo_expire (c := c) request.reason session with
          ⟨s', hok, hmoved⟩ | ⟨e, s', herror, hnot⟩
        · rw [if_pos hmoved.allowed, ← hid]
          have heffect := released_effect c.now
            (cleanUpLabRecord store.labRecords s'.labRecordId session.id).2.2
            (hid ▸ hfind) hmoved (by decide)
          simp only [hexpired, hok, if_false, givenDefinition_eq]
          cases hworker : givenText s'.workerId with
          | none =>
              simp only [hworker] at heffect
              exact heffect
          | some workerId =>
              simp only [hworker] at heffect
              exact heffect
        · rw [if_neg hnot]
          simp only [hexpired, herror, if_false]
          exact .refused

theorem terminate_effect (c : Clock) (request : TerminateLabletSessionCommand) :
    SessionEffect store c.now
      (if strip request.sessionId = "" ∨ strip request.terminatedBy = "" then none
      else store.movable (strip request.sessionId) .terminated)
      (terminateLabletSession c store request).2 := by
  unfold terminateLabletSession
  by_cases hsession : strip request.sessionId = ""
  · simp only [hsession, if_true, true_or]
    exact .refused
  by_cases hby : strip request.terminatedBy = ""
  · simp only [hsession, hby, if_true, if_false, or_true]
    exact .refused
  simp only [hsession, hby, if_false, or_self]
  cases hfind : store.sessions.find (strip request.sessionId) with
  | none =>
      rw [movable_none hfind]
      exact .refused
  | some session =>
      have hid : session.id = strip request.sessionId := Repository.id_of_find hfind
      rw [movable_of_find hfind]
      by_cases hterminated : session.status = .terminated
      · rw [if_neg (by rw [hterminated]; decide)]
        simp only [hterminated, if_true]
        exact .refused
      by_cases hallowed : LabletSessionStatus.terminated ∈ validTransitions session.status
      · have hcan : session.canBeTerminated = true := by
          simpa [LabletSessionState.canBeTerminated] using hallowed
        obtain ⟨s', hok, hmoved⟩ :=
          (movesTo_terminateOperation (c := c) (strip request.terminatedBy)
            request.reason).ok hallowed
        rw [if_pos hallowed, ← hid]
        -- the session moves, and what it held is released
        have heffect := released_effect c.now
          (cleanUpLabRecord store.labRecords s'.labRecordId s'.id).2.2
          (hid ▸ hfind) hmoved (by decide)
        rw [← hmoved.id] at heffect ⊢
        simp only [hterminated, hcan, hok, if_false, not_true_eq_false]
        exact heffect
      · have hcan : session.canBeTerminated = false := by
          simpa [LabletSessionState.canBeTerminated] using hallowed
        rw [if_neg hallowed]
        simp only [hterminated, hcan, if_false, Bool.false_eq_true, not_false_eq_true, if_true]
        exact .refused

/-- **The effect of every command on a session.** -/
theorem sessionCommand_effect (store : Store) (cmd : SessionCommand) :
    SessionEffect store cmd.clock.now (cmd.releases store) (cmd.run store) := by
  cases cmd with
  | transition c request => exact transition_effect c request
  | expire c request => exact expire_effect c request
  | terminate c request => exact terminate_effect c request
  | startInstantiation c sessionId =>
      exact moveSession_effect movesTo_startInstantiation (by decide) (by decide)
  | markReady c sessionId userSessionId cmlLabId =>
      exact moveSession_effect (movesTo_markReady userSessionId cmlLabId) (by decide) (by decide)
  | collectionCompleted c sessionId gradingSessionId =>
      show SessionEffect store c.now none
        (assessmentCollectionCompleted c store sessionId gradingSessionId)
      unfold assessmentCollectionCompleted
      cases hfind : store.sessions.find sessionId with
      | none => exact .refused
      | some session =>
          show SessionEffect store c.now none (if _ then _ else _)
          split
          · exact .refused
          · exact moveSession_effect (movesTo_startGrading gradingSessionId) (by decide)
              (by decide)

end Effect

/-! ## §4. The effect of scheduling. -/

/-- The answer says that the capacity is allocated. -/
def granted : OperationResult ScheduleLabletSessionResult → Bool
  | .ok answer => answer.capacityAllocated
  | _ => false

/-- **What scheduling can do**: nothing, or place a pending session on a running worker with
room for it and ask for the allocation. -/
inductive ScheduleEffect (c : Clock) (store : Store) (request : ScheduleLabletSessionCommand) :
    OperationResult ScheduleLabletSessionResult × Store → Prop where
  | refused {answer : OperationResult ScheduleLabletSessionResult}
      (fails : answer.isSuccess = false) :
      ScheduleEffect c store request (answer, store)
  | placed {session session' : LabletSessionState} {worker : CMLWorkerState}
      {definition : LabletDefinitionState} {answer : ScheduleLabletSessionResult}
      (found : store.sessions.find request.sessionId = some session)
      (pending : session.status = .pending)
      (foundWorker : store.workers.find request.workerId = some worker)
      (running : worker.status = .running)
      (foundDefinition : store.definitions.find session.definitionId = some definition)
      (fits : worker.canAccommodate definition.resourceRequirements.capacity = true)
      (refs : session'.refs = { session.refs with
        workerId := some request.workerId, labRecordId := some request.labRecordId })
      (status : session'.status = .scheduled)
      (allocated : answer.capacityAllocated
        = (allocateCapacity c.now store.workers (allocateCommand definition.resourceRequirements
            request.workerId request.sessionId)).1.isSuccess) :
      ScheduleEffect c store request (.ok answer,
        { store with
          sessions := store.sessions.save session'
          workers := (allocateCapacity c.now store.workers
            (allocateCommand definition.resourceRequirements request.workerId
              request.sessionId)).2 })

/-- A pending session can be scheduled. -/
theorem outcome_schedule {c : Clock} {s : LabletSessionState} (workerId : String) (ports : Ports)
    (labRecordId scheduledBy : String) (hpending : s.status = .pending) :
    ∃ s', outcome (schedule c workerId ports labRecordId scheduledBy) s = (.ok (), s')
      ∧ s'.refs = { s.refs with workerId := some workerId, labRecordId := some labRecordId }
      ∧ s'.status = .scheduled := by
  unfold schedule
  rw [outcome_transitionBy, if_pos (by rw [hpending]; decide)]
  exact ⟨_, rfl, rfl, rfl⟩

/-- A session is placed where the capacity check passes. -/
theorem placeOn_eq_ok {c : Clock} {request : ScheduleLabletSessionCommand}
    {session session' : LabletSessionState} {worker : CMLWorkerState}
    {requirements : ResourceRequirements} (hpending : session.status = .pending)
    (h : placeOn c request session worker requirements = .ok session') :
    worker.canAccommodate requirements.capacity = true
      ∧ session'.refs = { session.refs with
        workerId := some request.workerId, labRecordId := some request.labRecordId }
      ∧ session'.status = .scheduled := by
  obtain ⟨s', hok, hrefs, hstatus⟩ := outcome_schedule (c := c) request.workerId
    request.allocatedPorts request.labRecordId request.scheduledBy hpending
  unfold placeOn insufficientCapacity at h
  by_cases hfits : worker.canAccommodate requirements.capacity = true
  · simp only [hfits, not_true_eq_false, if_false, hok, Except.ok.injEq] at h
    exact ⟨hfits, h ▸ hrefs, h ▸ hstatus⟩
  · simp only [hfits, not_false_eq_true, if_true, reduceCtorEq] at h

/-- A placement that is refused is not answered with success. -/
theorem placeOn_error {c : Clock} {request : ScheduleLabletSessionCommand}
    {session : LabletSessionState} {worker : CMLWorkerState}
    {requirements : ResourceRequirements} {answer : OperationResult ScheduleLabletSessionResult}
    (h : placeOn c request session worker requirements = .error answer) :
    answer.isSuccess = false := by
  unfold placeOn at h
  split at h
  next => cases h; rfl
  next =>
    split at h
    next => cases h; rfl
    next => cases h

theorem notPending_eq_none {session : LabletSessionState} :
    notPending session = none ↔ session.status = .pending := by
  unfold notPending
  by_cases h : session.status = .pending <;> simp [h]

theorem notRunning_eq_none {workerId : String} {worker : CMLWorkerState} :
    notRunning workerId worker = none ↔ worker.status = .running := by
  unfold notRunning
  by_cases h : worker.status = .running <;> simp [h]

theorem schedule_effect (c : Clock) (store : Store) (request : ScheduleLabletSessionCommand) :
    ScheduleEffect c store request (scheduleLabletSession c store request) := by
  unfold scheduleLabletSession
  split
  next => exact .refused rfl
  next session hfind =>
    split
    next => exact .refused rfl
    next hpending =>
      split
      next => exact .refused rfl
      next worker hworker =>
        split
        next => exact .refused rfl
        next hrunning =>
          split
          next => exact .refused rfl
          next definition hdefinition =>
            split
            next answer hrefused => exact .refused (placeOn_error hrefused)
            next session' hplaced =>
              rw [notPending_eq_none] at hpending
              rw [notRunning_eq_none] at hrunning
              obtain ⟨hfits, hrefs, hstatus⟩ := placeOn_eq_ok hpending hplaced
              exact .placed hfind hpending hworker hrunning hdefinition hfits hrefs hstatus rfl

/-! ## §5. Workers after a release. -/

/-- What a definition asks for; nothing without a definition. -/
def definitionAmount (definition : Option LabletDefinitionState) (r : Resource) : Nat :=
  match definition with
  | none => 0
  | some d => d.resourceRequirements.capacity.amount r

/-- What a session's definition asks for. -/
def Store.requirement (store : Store) (sessionId : String) (r : Resource) : Nat :=
  match store.sessions.find sessionId with
  | none => 0
  | some session => definitionAmount (store.definitions.find session.definitionId) r

@[simp] theorem releaseCommand_workerId (definition : Option LabletDefinitionState)
    (workerId sessionId : String) :
    (releaseCommand definition workerId sessionId).workerId = workerId := by
  cases definition <;> rfl

@[simp] theorem releaseCommand_sessionId (definition : Option LabletDefinitionState)
    (workerId sessionId : String) :
    (releaseCommand definition workerId sessionId).sessionId = sessionId := by
  cases definition <;> rfl

theorem releaseCommand_amount (definition : Option LabletDefinitionState)
    (workerId sessionId : String) (r : Resource) :
    (releaseCommand definition workerId sessionId).capacity.amount r
      = definitionAmount definition r := by
  cases definition <;> cases r <;> rfl

/-- A session requires what its definition asks for. -/
theorem requirement_eq {store : Store} {sessionId : String} {session : LabletSessionState}
    {definition : LabletDefinitionState} (found : store.sessions.find sessionId = some session)
    (foundDefinition : store.definitions.find session.definitionId = some definition)
    (r : Resource) :
    store.requirement sessionId r = definition.resourceRequirements.capacity.amount r := by
  unfold Store.requirement
  simp only [found, foundDefinition]
  rfl

theorem requirement_of_find {store : Store} {session : LabletSessionState}
    (hfind : store.sessions.find session.id = some session) (workerId : String) (r : Resource) :
    (releaseCommand (store.definitions.find session.definitionId) workerId
      session.id).capacity.amount r = store.requirement session.id r := by
  unfold Store.requirement
  rw [hfind]
  exact releaseCommand_amount _ _ _ _

/-- The release of a session concerns the worker it refers to. -/
theorem find_releaseSession (store : Store) (now : Int) (session : LabletSessionState)
    (k : String) :
    (store.releaseSession now session).find k
      = (store.workers.find k).map fun w =>
        if session.workerId = some k then
          w.released now
            (releaseCommand (store.definitions.find session.definitionId) k session.id)
        else w := by
  cases hfind : store.workers.find k with
  | none =>
      unfold Store.releaseSession
      cases givenText session.workerId with
      | none => exact hfind
      | some workerId =>
          simp only [find_releaseCapacity, hfind, Option.map_none, ite_self]
  | some w =>
      -- no worker is stored under the empty id, which counts as none
      have hk : k ≠ "" := Repository.id_of_find hfind ▸ w.id_given
      unfold Store.releaseSession
      cases hworker : session.workerId with
      | none =>
          show store.workers.find k = _
          rw [hfind]
          simp
      | some workerId =>
          by_cases hempty : workerId = ""
          · have hne : ¬ workerId = k := by
              rintro rfl
              exact hk hempty
            simp only [givenText, hempty, if_true]
            rw [hfind]
            simp [hk.symm]
          · simp only [givenText, if_neg hempty, find_releaseCapacity]
            rw [releaseCommand_workerId, hfind]
            by_cases heq : k = workerId
            · simp [heq]
            · simp [heq, Ne.symm heq]

/-! ## §6. Workers counted anew. -/

/-- A visit counts the session's requirements if it holds capacity. -/
theorem visit_amount (store : Store) (acc : Recalculation) (sessionId : String) (r : Resource) :
    (Recalculation.visit store acc sessionId).capacity.amount r
      = acc.capacity.amount r
        + if store.holdsCapacity sessionId then store.requirement sessionId r else 0 := by
  unfold Recalculation.visit Store.holdsCapacity Store.requirement
  cases hfind : store.sessions.find sessionId with
  | none => cases r <;> rfl
  | some session =>
      by_cases hstatus : session.status ∈ capacityHoldingStatuses
      · simp only [hstatus, not_true_eq_false, if_false, decide_true, if_true, givenDefinition_eq]
        cases store.definitions.find session.definitionId with
        | none => cases r <;> rfl
        | some definition => cases r <;> rfl
      · simp only [hstatus, not_false_eq_true, if_true, decide_false, Bool.false_eq_true, if_false]
        cases r <;> rfl

theorem foldl_visit_amount (store : Store) (sessionIds : List String) (acc : Recalculation)
    (r : Resource) :
    (sessionIds.foldl (Recalculation.visit store) acc).capacity.amount r
      = acc.capacity.amount r
        + held (sessionIds.filter store.holdsCapacity) (fun sid => store.requirement sid r) := by
  induction sessionIds generalizing acc with
  | nil => rfl
  | cons sessionId rest ih =>
      rw [List.foldl_cons, ih, visit_amount]
      cases hholds : store.holdsCapacity sessionId with
      | true =>
          rw [List.filter_cons_of_pos hholds, held_cons, if_pos rfl]
          omega
      | false =>
          rw [List.filter_cons_of_neg (by simp [hholds])]
          rfl

/-- **The totals of a recalculation** are the requirements of the active sessions. -/
theorem recalculation_amount (store : Store) (sessionIds : List String) (r : Resource) :
    (recalculation store sessionIds).capacity.amount r
      = held (sessionIds.filter store.holdsCapacity) (fun sid => store.requirement sid r) := by
  unfold recalculation
  rw [foldl_visit_amount]
  have hzero : ({} : Recalculation).capacity.amount r = 0 := by
    cases r <;> rfl
  rw [hzero, Nat.zero_add]

theorem recounted_sessionIds (worker : CMLWorkerState) (store : Store) (now : Int) :
    (worker.recounted store now).sessionIds = worker.sessionIds.filter store.holdsCapacity :=
  recalculation_activeSessionIds store worker.sessionIds

theorem recounted_amount (worker : CMLWorkerState) (store : Store) (now : Int) (r : Resource) :
    (worker.recounted store now).allocatedCapacity.amount r
      = held (worker.sessionIds.filter store.holdsCapacity)
        (fun sid => store.requirement sid r) :=
  recalculation_amount store worker.sessionIds r

/-- A recalculation concerns the worker it is for. -/
theorem find_recalculate (now : Int) (store : Store) (workerId requestedBy k : String) :
    (recalculateWorkerCapacity now store workerId requestedBy).2.workers.find k
      = if k = workerId then (store.workers.find k).map fun w => w.recounted store now
        else store.workers.find k := by
  unfold recalculateWorkerCapacity
  cases hfind : store.workers.find workerId with
  | none =>
      show store.workers.find k = _
      split
      next hk => rw [hk, hfind]; rfl
      next => rfl
  | some worker =>
      have hid : worker.id = workerId := Repository.id_of_find hfind
      show (store.workers.save (worker.recounted store now)).find k = _
      rw [Repository.find_save_of_id (show (worker.recounted store now).id = workerId from hid)]
      split
      next hk => rw [hk, hfind]; rfl
      next => rfl

end CmlCloudManager.ControlPlane
