/-
  CmlCloudManager.ControlPlane.Overcommit
  ───────────────────────────────────────
  **SCHEDULING UNDER INTERLEAVING.**

  Any number of `ScheduleLabletSession` commands run at once.  Each accesses the
  repositories six times, and between two accesses the others may do theirs:

    1. read the session,           4. write the session,
    2. read the worker,            5. read the worker again,
    3. read the definition,        6. write the worker.

  `advance i` is the next access of command `i`; an interleaving is a list of
  command numbers.  The capacity is checked on both copies of the worker, so that
  NO document ever written exceeds the declared capacity.  Whether a placement is
  in the document that remains is up to the repository, and a placement whose
  allocation fails is answered with ok all the same (`untracked_placement`).
  A command that runs alone does what its handler does (`alone_agrees`).
-/
import CmlCloudManager.Foundation.Replay
import CmlCloudManager.Foundation.VersionedStore
import CmlCloudManager.ControlPlane.CapacityConservation

namespace CmlCloudManager.ControlPlane

open CmlCloudManager.Foundation

/-! ## §1. Commands and their accesses. -/

/-- The repository's treatment of stale writes, the database before the first access, and the
commands by number. -/
structure Placements where
  mode : WriteMode
  origin : Store
  clock : Nat → Clock
  request : Nat → ScheduleLabletSessionCommand

/-- Where a command is: what it has read and not used up yet. -/
inductive Point where
  | start
  | sessionRead (session : Versioned LabletSessionState)
  | workerRead (session : Versioned LabletSessionState) (worker : CMLWorkerState)
  | placing (session : Versioned LabletSessionState) (requirements : ResourceRequirements)
  | allocating (session : LabletSessionState) (requirements : ResourceRequirements)
  | saving (session : LabletSessionState) (worker : Versioned CMLWorkerState)
  | done (answer : OperationResult ScheduleLabletSessionResult)
  | raised

/-- The stored documents, and where each command is. -/
structure PlacementState where
  sessions : VersionedStore String LabletSessionState
  workers : VersionedStore String CMLWorkerState
  points : Nat → Point

/-- The documents of the database, and no command started. -/
def Placements.initial (env : Placements) : PlacementState where
  sessions := fun k => (env.origin.sessions.find k).map fun d => ⟨0, d⟩
  workers := fun k => (env.origin.workers.find k).map fun d => ⟨0, d⟩
  points := fun _ => .start

/-- Command `i` goes to a point. -/
def PlacementState.goto (s : PlacementState) (i : Nat) (p : Point) : PlacementState :=
  { s with points := Function.update s.points i p }

section Goto

variable {s : PlacementState} {i : Nat}

@[simp] theorem goto_points (p : Point) : (s.goto i p).points i = p := Function.update_self ..

@[simp] theorem goto_sessions (p : Point) : (s.goto i p).sessions = s.sessions := rfl

@[simp] theorem goto_workers (p : Point) : (s.goto i p).workers = s.workers := rfl

@[simp] theorem goto_goto (p q : Point) : (s.goto i p).goto i q = s.goto i q := by
  simp [PlacementState.goto]

end Goto

/-- **The next access of command `i`**, with what the handler does up to the one after it. -/
def Placements.advance (env : Placements) (s : PlacementState) (i : Nat) : PlacementState :=
  let request := env.request i
  match s.points i with
  | .start =>
      match s.sessions request.sessionId with
      | none => s.goto i (.done (.notFound request.sessionId))
      | some session =>
          match notPending session.doc with
          | some message => s.goto i (.done (.conflict message))
          | none => s.goto i (.sessionRead session)
  | .sessionRead session =>
      match s.workers request.workerId with
      | none => s.goto i (.done (.notFound request.workerId))
      | some worker =>
          match notRunning request.workerId worker.doc with
          | some message => s.goto i (.done (.conflict message))
          | none => s.goto i (.workerRead session worker.doc)
  | .workerRead session worker =>
      -- no command writes definitions, so they are read as they were
      match env.origin.definitions.find session.doc.definitionId with
      | none => s.goto i (.done (.notFound session.doc.definitionId))
      | some definition =>
          match placeOn (env.clock i) request session.doc worker
              definition.resourceRequirements with
          | .error answer => s.goto i (.done answer)
          | .ok scheduled =>
              s.goto i (.placing ⟨session.version, scheduled⟩ definition.resourceRequirements)
  | .placing session requirements =>
      match s.sessions.write env.mode request.sessionId session.version session.doc with
      | none => s.goto i .raised
      | some sessions =>
          { s with sessions := sessions }.goto i (.allocating session.doc requirements)
  | .allocating session requirements =>
      -- the nested command reads the worker anew and checks its capacity again
      match s.workers request.workerId with
      | none => s.goto i (.done (scheduledAnswer request session false))
      | some worker =>
          match allocateOn (env.clock i).now
              (allocateCommand requirements request.workerId request.sessionId) worker.doc with
          | .error _ => s.goto i (.done (scheduledAnswer request session false))
          | .ok (changed, _) => s.goto i (.saving session ⟨worker.version, changed⟩)
  | .saving session worker =>
      match s.workers.write env.mode request.workerId worker.version worker.doc with
      -- the exception of the nested command is caught, the answer is ok
      | none => s.goto i (.done (scheduledAnswer request session false))
      | some workers =>
          { s with workers := workers }.goto i (.done (scheduledAnswer request session true))
  | .done _ => s
  | .raised => s

/-- The command is answered with ok, and with its capacity allocated. -/
def Allocated (s : PlacementState) (i : Nat) : Prop :=
  ∃ answer, s.points i = .done (.ok answer) ∧ answer.capacityAllocated = true

/-- The sessions are placed on the worker by commands that allocated their capacity. -/
def AllocatedOn (env : Placements) (s : PlacementState) (k : String) (sids : List String) : Prop :=
  ∀ sid ∈ sids, ∃ i, (env.request i).workerId = k ∧ (env.request i).sessionId = sid
    ∧ Allocated s i

/-! ## §2. A command alone. -/

/-- The command is answered as by the handler alone, and left the same documents. -/
structure AgreesWith (s : PlacementState) (i : Nat)
    (answered : OperationResult ScheduleLabletSessionResult × Store) : Prop where
  answer : s.points i = .done answered.1
  sessions : ∀ k, (s.sessions k).map Versioned.doc = answered.2.sessions.find k
  workers : ∀ k, (s.workers k).map Versioned.doc = answered.2.workers.find k

section Alone

variable {env : Placements} {s : PlacementState} {i : Nat}

theorem initial_workers (k : String) :
    env.initial.workers k = (env.origin.workers.find k).map fun d => ⟨0, d⟩ := rfl

/-- The documents of the database, as they are stored. -/
theorem initial_docs {α : Type} (found : Option α) :
    (found.map fun d => (⟨0, d⟩ : Versioned α)).map Versioned.doc = found := by
  cases found <;> rfl

theorem agrees_initial (answer : OperationResult ScheduleLabletSessionResult) :
    AgreesWith (env.initial.goto i (.done answer)) i (answer, env.origin) where
  answer := goto_points _
  sessions := fun _ => initial_docs _
  workers := fun _ => initial_docs _

theorem advance_done {answer : OperationResult ScheduleLabletSessionResult} :
    env.advance (s.goto i (.done answer)) i = s.goto i (.done answer) := by
  unfold Placements.advance
  rw [goto_points]

/-- A document written over the one that was read first is what the repository saves. -/
theorem write_found {α : Type} {idOf : α → String} {r : Repository α idOf} {k : String}
    {doc new : α} (mode : WriteMode) (h : r.find k = some doc) (hid : idOf new = k) :
    ∃ store, VersionedStore.write mode (fun k => (r.find k).map fun d => ⟨0, d⟩) k 0 new
        = some store
      ∧ ∀ k', (store k').map Versioned.doc = (r.save new).find k' := by
  unfold VersionedStore.write
  simp only [h, Option.map_some, ne_eq, not_true_eq_false, and_false, if_false]
  refine ⟨_, rfl, fun k' => ?_⟩
  rw [Repository.find_save_of_id hid]
  by_cases hk : k' = k
  · rw [hk, Function.update_self, if_pos rfl]
    rfl
  · rw [Function.update_of_ne hk, if_neg hk]
    exact initial_docs _

theorem advance_placing {session : Versioned LabletSessionState}
    {requirements : ResourceRequirements} {sessions : VersionedStore String LabletSessionState}
    (hwrite : s.sessions.write env.mode (env.request i).sessionId session.version session.doc
      = some sessions) :
    env.advance (s.goto i (.placing session requirements)) i
      = { s with sessions := sessions }.goto i (.allocating session.doc requirements) := by
  unfold Placements.advance
  simp only [goto_points, goto_sessions, hwrite]
  simp [PlacementState.goto]

theorem advance_saving {session : LabletSessionState} {worker : Versioned CMLWorkerState}
    {workers : VersionedStore String CMLWorkerState}
    (hwrite : s.workers.write env.mode (env.request i).workerId worker.version worker.doc
      = some workers) :
    env.advance (s.goto i (.saving session worker)) i
      = { s with workers := workers }.goto i
          (.done (scheduledAnswer (env.request i) session true)) := by
  unfold Placements.advance
  simp only [goto_points, goto_workers, hwrite]
  simp [PlacementState.goto]

/-- The last two accesses of a command alone: they read the worker and save it with the
capacity allocated, as the command they send does. -/
theorem alone_allocates {requirements : ResourceRequirements} {scheduled : LabletSessionState}
    {sessions : VersionedStore String LabletSessionState}
    {saved : Repository LabletSessionState LabletSessionState.id} {worker : CMLWorkerState}
    (hworker : env.origin.workers.find (env.request i).workerId = some worker)
    (hdocs : ∀ k, (sessions k).map Versioned.doc = saved.find k) :
    AgreesWith
      (env.advance (env.advance ({ env.initial with sessions := sessions }.goto i
        (.allocating scheduled requirements)) i) i) i
      (let allocated := allocateCapacity (env.clock i).now env.origin.workers
        (allocateCommand requirements (env.request i).workerId (env.request i).sessionId)
      (scheduledAnswer (env.request i) scheduled allocated.1.isSuccess,
        { env.origin with sessions := saved, workers := allocated.2 })) := by
  cases hgranted : allocateOn (env.clock i).now
      (allocateCommand requirements (env.request i).workerId (env.request i).sessionId)
      worker with
  | error answer =>
      have h5 : env.advance ({ env.initial with sessions := sessions }.goto i
            (.allocating scheduled requirements)) i
          = { env.initial with sessions := sessions }.goto i
              (.done (scheduledAnswer (env.request i) scheduled false)) := by
        simp [Placements.advance, initial_workers, hworker, hgranted]
      have hrefused : allocateCapacity (env.clock i).now env.origin.workers
          (allocateCommand requirements (env.request i).workerId (env.request i).sessionId)
            = (answer, env.origin.workers) := by
        unfold allocateCapacity
        rw [show env.origin.workers.find (allocateCommand _ _ _).workerId = _ from hworker]
        simp only [hgranted]
      -- refused, it has ended one access earlier
      simp only [h5, advance_done, hrefused, allocateOn_error hgranted]
      exact { answer := goto_points _, sessions := hdocs, workers := fun _ => initial_docs _ }
  | ok granted =>
      obtain ⟨hstatus, hfresh, hfits, rfl⟩ := (allocateOn_eq_ok_iff _ _ rfl).mp hgranted
      obtain ⟨hsuccess, hsaved⟩ := allocateCapacity_granted (env.clock i).now _ rfl hworker
        hstatus hfresh hfits
      have hworkerId : (worker.assigned (env.request i).sessionId
            requirements.capacity (env.clock i).now).id = (env.request i).workerId := by
        rw [CMLWorkerState.assigned_id]
        exact Repository.id_of_find hworker
      have h5 : env.advance ({ env.initial with sessions := sessions }.goto i
            (.allocating scheduled requirements)) i
          = { env.initial with sessions := sessions }.goto i
              (.saving scheduled ⟨0, worker.assigned (env.request i).sessionId
                requirements.capacity (env.clock i).now⟩) := by
        simp [Placements.advance, initial_workers, hworker, hgranted]
        rfl
      -- alone, it writes over the version that it read
      obtain ⟨workers, hworkers, hworkerDocs⟩ := write_found env.mode hworker hworkerId
      have h6 : env.advance ({ env.initial with sessions := sessions }.goto i
            (.saving scheduled ⟨0, worker.assigned (env.request i).sessionId
                requirements.capacity (env.clock i).now⟩)) i
          = { env.initial with sessions := sessions, workers := workers }.goto i
              (.done (scheduledAnswer (env.request i) scheduled true)) :=
        advance_saving hworkers
      simp only [h5, h6, hsuccess, hsaved]
      exact { answer := goto_points _, sessions := hdocs, workers := hworkerDocs }

/-- **A command alone** is answered as by its handler, after six accesses at most. -/
theorem alone_agrees (env : Placements) (i : Nat) :
    AgreesWith (replay env.advance env.initial (List.replicate 6 i)) i
      (scheduleLabletSession (env.clock i) env.origin (env.request i)) := by
  show AgreesWith (env.advance (env.advance (env.advance (env.advance (env.advance
    (env.advance env.initial i) i) i) i) i) i) i _
  unfold scheduleLabletSession
  -- case by case as the handler branches: a command that is answered does not move any more
  cases hsession : env.origin.sessions.find (env.request i).sessionId with
  | none =>
      have h1 : env.advance env.initial i
          = env.initial.goto i (.done (.notFound (env.request i).sessionId)) := by
        simp [Placements.advance, hsession, Placements.initial]
      simp only [h1, advance_done]
      exact agrees_initial _
  | some session =>
  cases hpending : notPending session with
  | some message =>
      have h1 : env.advance env.initial i = env.initial.goto i (.done (.conflict message)) := by
        simp [Placements.advance, hsession, hpending, Placements.initial]
      simp only [h1, advance_done, hpending]
      exact agrees_initial _
  | none =>
  have h1 : env.advance env.initial i = env.initial.goto i (.sessionRead ⟨0, session⟩) := by
    simp [Placements.advance, hsession, hpending, Placements.initial]
  simp only [h1, hpending]
  cases hworker : env.origin.workers.find (env.request i).workerId with
  | none =>
      have h2 : env.advance (env.initial.goto i (.sessionRead ⟨0, session⟩)) i
          = env.initial.goto i (.done (.notFound (env.request i).workerId)) := by
        simp [Placements.advance, initial_workers, hworker]
      simp only [h2, advance_done]
      exact agrees_initial _
  | some worker =>
  cases hrunning : notRunning (env.request i).workerId worker with
  | some message =>
      have h2 : env.advance (env.initial.goto i (.sessionRead ⟨0, session⟩)) i
          = env.initial.goto i (.done (.conflict message)) := by
        simp [Placements.advance, initial_workers, hworker, hrunning]
      simp only [h2, advance_done, hrunning]
      exact agrees_initial _
  | none =>
  have h2 : env.advance (env.initial.goto i (.sessionRead ⟨0, session⟩)) i
      = env.initial.goto i (.workerRead ⟨0, session⟩ worker) := by
    simp [Placements.advance, initial_workers, hworker, hrunning]
  simp only [h2, hrunning]
  cases hdefinition : env.origin.definitions.find session.definitionId with
  | none =>
      have h3 : env.advance (env.initial.goto i (.workerRead ⟨0, session⟩ worker)) i
          = env.initial.goto i (.done (.notFound session.definitionId)) := by
        simp [Placements.advance, hdefinition]
      simp only [h3, advance_done]
      exact agrees_initial _
  | some definition =>
  cases hplaced : placeOn (env.clock i) (env.request i) session worker
      definition.resourceRequirements with
  | error answer =>
      have h3 : env.advance (env.initial.goto i (.workerRead ⟨0, session⟩ worker)) i
          = env.initial.goto i (.done answer) := by
        simp [Placements.advance, hdefinition, hplaced]
      simp only [h3, advance_done, hplaced]
      exact agrees_initial _
  | ok scheduled =>
  have h3 : env.advance (env.initial.goto i (.workerRead ⟨0, session⟩ worker)) i
      = env.initial.goto i (.placing ⟨0, scheduled⟩ definition.resourceRequirements) := by
    simp [Placements.advance, hdefinition, hplaced]
  simp only [h3, hplaced]
  have hid : scheduled.id = (env.request i).sessionId := by
    obtain ⟨-, hrefs, -⟩ := placeOn_eq_ok (notPending_eq_none.mp hpending) hplaced
    have hkept : scheduled.id = session.id := congrArg SessionRefs.id hrefs
    exact hkept.trans (Repository.id_of_find hsession)
  obtain ⟨sessions, hsessions, hdocs⟩ := write_found env.mode hsession hid
  have h4 : env.advance (env.initial.goto i
        (.placing ⟨0, scheduled⟩ definition.resourceRequirements)) i
      = { env.initial with sessions := sessions }.goto i
          (.allocating scheduled definition.resourceRequirements) :=
    advance_placing hsessions
  simp only [h4]
  exact alone_allocates hworker hdocs

end Alone

/-! ### What one access does. -/

/-- **What one access does**, by the point that the command is at. -/
inductive AccessOf (env : Placements) (s : PlacementState) (i : Nat) : PlacementState → Prop where
  /-- A command that has ended makes no access. -/
  | ended : AccessOf env s i s
  /-- It is answered, but not with its capacity allocated. -/
  | answered {answer : OperationResult ScheduleLabletSessionResult}
      (hno : ∀ result, answer = .ok result → result.capacityAllocated = false) :
      AccessOf env s i (s.goto i (.done answer))
  | raised : AccessOf env s i (s.goto i .raised)
  | sessionRead {session : Versioned LabletSessionState}
      (hsession : s.sessions (env.request i).sessionId = some session)
      (hpending : session.doc.status = .pending) :
      AccessOf env s i (s.goto i (.sessionRead session))
  | workerRead {session : Versioned LabletSessionState} (worker : CMLWorkerState)
      (hpoint : s.points i = .sessionRead session) :
      AccessOf env s i (s.goto i (.workerRead session worker))
  | placed {session : Versioned LabletSessionState} {worker : CMLWorkerState}
      {definition : LabletDefinitionState} {scheduled : LabletSessionState}
      (hpoint : s.points i = .workerRead session worker)
      (hdefinition : env.origin.definitions.find session.doc.definitionId = some definition)
      (hplaced : placeOn (env.clock i) (env.request i) session.doc worker
        definition.resourceRequirements = .ok scheduled) :
      AccessOf env s i
        (s.goto i (.placing ⟨session.version, scheduled⟩ definition.resourceRequirements))
  | sessionSaved {session : Versioned LabletSessionState} {requirements : ResourceRequirements}
      {sessions : VersionedStore String LabletSessionState}
      (hpoint : s.points i = .placing session requirements)
      (hwrite : s.sessions.write env.mode (env.request i).sessionId session.version session.doc
        = some sessions) :
      AccessOf env s i
        ({ s with sessions := sessions }.goto i (.allocating session.doc requirements))
  | granted {session : LabletSessionState} {requirements : ResourceRequirements}
      {worker : Versioned CMLWorkerState}
      (hpoint : s.points i = .allocating session requirements)
      (hworker : s.workers (env.request i).workerId = some worker)
      (hfresh : (env.request i).sessionId ∉ worker.doc.sessionIds)
      (hfits : worker.doc.canAccommodate requirements.capacity = true) :
      AccessOf env s i (s.goto i (.saving session ⟨worker.version,
        worker.doc.assigned (env.request i).sessionId requirements.capacity (env.clock i).now⟩))
  | workerSaved {session : LabletSessionState} {worker : Versioned CMLWorkerState}
      {workers : VersionedStore String CMLWorkerState}
      (hpoint : s.points i = .saving session worker)
      (hwrite : s.workers.write env.mode (env.request i).workerId worker.version worker.doc
        = some workers) :
      AccessOf env s i ({ s with workers := workers }.goto i
        (.done (scheduledAnswer (env.request i) session true)))

theorem advance_access (env : Placements) (s : PlacementState) (i : Nat) :
    AccessOf env s i (env.advance s i) := by
  -- the last accesses answer without an allocation when they fail
  have unallocated : ∀ session result,
      scheduledAnswer (env.request i) session false = .ok result →
      result.capacityAllocated = false := by
    rintro session result h
    cases h
    rfl
  unfold Placements.advance
  cases hpoint : s.points i with
  | start =>
      simp only
      split
      next => exact .answered nofun
      next session hsession =>
        split
        next => exact .answered nofun
        next hpending => exact .sessionRead hsession (notPending_eq_none.mp hpending)
  | sessionRead session =>
      simp only
      split
      next => exact .answered nofun
      next worker hworker =>
        split
        next => exact .answered nofun
        next => exact .workerRead worker.doc hpoint
  | workerRead session worker =>
      simp only
      split
      next => exact .answered nofun
      next definition hdefinition =>
        split
        next answer hrefused =>
          refine .answered fun result h => ?_
          rw [h] at hrefused
          cases placeOn_error hrefused
        next scheduled hplaced => exact .placed hpoint hdefinition hplaced
  | placing session requirements =>
      simp only
      split
      next => exact .raised
      next sessions hwrite => exact .sessionSaved hpoint hwrite
  | allocating session requirements =>
      simp only
      split
      next => exact .answered (unallocated session)
      next worker hworker =>
        split
        next => exact .answered (unallocated session)
        next changed ports hgranted =>
          obtain ⟨-, hfresh, hfits, heq⟩ := (allocateOn_eq_ok_iff _ _ rfl).mp hgranted
          obtain ⟨rfl, -⟩ := Prod.mk.inj heq
          exact .granted hpoint hworker hfresh hfits
  | saving session worker =>
      simp only
      split
      next => exact .answered (unallocated session)
      next workers hwrite => exact .workerSaved hpoint hwrite
  | done answer => exact .ended
  | raised => exact .ended

/-! ## §3. Workers that grew within their capacity. -/

/-- **The worker grew** from `w₀` by the sessions `added`: it tracks them after the ones it had,
their requirements are added to its total, and the total is within the declared capacity if
any was added. -/
structure GrownBy (origin : Store) (w₀ w : CMLWorkerState) (added : List String) : Prop where
  declared : w.effectiveDeclared = w₀.effectiveDeclared
  sessionIds : w.sessionIds = w₀.sessionIds ++ added
  amounts : ∀ r, w.allocatedCapacity.amount r
    = w₀.allocatedCapacity.amount r + held added (fun sid => origin.requirement sid r)
  within : added ≠ [] → ∃ declared, w₀.effectiveDeclared = some declared
    ∧ ∀ r, w.allocatedCapacity.amount r ≤ declared.amount r

/-- Every stored worker grew from the one in the database before. -/
def AllGrown (env : Placements) (k : String) (w : CMLWorkerState) : Prop :=
  ∃ w₀ added, env.origin.workers.find k = some w₀ ∧ GrownBy env.origin w₀ w added

/-- The stored worker of a command tracks its session as an added one. -/
def CountedFor (env : Placements) (workers : VersionedStore String CMLWorkerState) (i : Nat) :
    Prop :=
  ∃ w₀ stored added, env.origin.workers.find (env.request i).workerId = some w₀
    ∧ workers (env.request i).workerId = some stored
    ∧ GrownBy env.origin w₀ stored.doc added ∧ (env.request i).sessionId ∈ added

section Grown

variable {env : Placements} {origin : Store} {w₀ w : CMLWorkerState} {added : List String}

theorem grownBy_self (origin : Store) (w : CMLWorkerState) : GrownBy origin w w [] where
  declared := rfl
  sessionIds := (List.append_nil _).symm
  amounts := fun _ => rfl
  within := fun h => absurd rfl h

/-- A definition asks for some of everything. -/
theorem capacity_pos (requirements : ResourceRequirements) (r : Resource) :
    0 < requirements.capacity.amount r := by
  cases r with
  | cpuCores => exact requirements.cpuCores_pos
  | memoryGb => exact requirements.memoryGb_pos
  | storageGb => exact requirements.storageGb_pos

/-- An allocation that passes the capacity check lets the worker grow by its session. -/
theorem GrownBy.assigned {sessionId : String} {requirements : ResourceRequirements} (now : Int)
    (h : GrownBy origin w₀ w added) (hfresh : sessionId ∉ w.sessionIds)
    (hfits : w.canAccommodate requirements.capacity = true)
    (hamount : ∀ r, requirements.capacity.amount r = origin.requirement sessionId r) :
    GrownBy origin w₀ (w.assigned sessionId requirements.capacity now) (added ++ [sessionId])
    where
  declared := by rw [CMLWorkerState.assigned_effectiveDeclared, h.declared]
  sessionIds := by
    rw [CMLWorkerState.assigned_sessionIds hfresh, h.sessionIds, List.append_assoc]
  amounts := by
    intro r
    rw [CMLWorkerState.assigned_allocatedCapacity, WorkerCapacity.amount_add, h.amounts r,
      held_snoc, hamount r, Nat.add_assoc]
  within := by
    intro _
    have hsome : ∃ declared, w.effectiveDeclared = some declared := by
      cases hdeclared : w.effectiveDeclared with
      | some declared => exact ⟨declared, rfl⟩
      | none =>
          unfold CMLWorkerState.canAccommodate CMLWorkerState.availableCapacity at hfits
          rw [hdeclared] at hfits
          cases hfits
    obtain ⟨declared, hdeclared⟩ := hsome
    refine ⟨declared, h.declared.symm.trans hdeclared, fun r => ?_⟩
    rw [CMLWorkerState.assigned_allocatedCapacity, WorkerCapacity.amount_add]
    exact CMLWorkerState.amount_le_declared hdeclared hfits r (capacity_pos requirements r)

end Grown

/-! ## §4. The invariant. -/

/-- The document is about the session's definition in the database before. -/
def SameDefinition (env : Placements) (sid : String) (session : LabletSessionState) : Prop :=
  ∃ session₀, env.origin.sessions.find sid = some session₀
    ∧ session.definitionId = session₀.definitionId

/-- The requirements are the ones of the command's session. -/
def Requires (env : Placements) (i : Nat) (requirements : ResourceRequirements) : Prop :=
  ∀ r, requirements.capacity.amount r = env.origin.requirement (env.request i).sessionId r

/-- What holds of a command where it is. -/
def PointOk (env : Placements) (workers : VersionedStore String CMLWorkerState) (i : Nat) :
    Point → Prop
  | .sessionRead session =>
      session.doc.status = .pending ∧ SameDefinition env (env.request i).sessionId session.doc
  | .workerRead session _ =>
      session.doc.status = .pending ∧ SameDefinition env (env.request i).sessionId session.doc
  | .placing session requirements =>
      SameDefinition env (env.request i).sessionId session.doc ∧ Requires env i requirements
  | .allocating _ requirements => Requires env i requirements
  | .saving _ worker =>
      -- the changed copy of a worker that was read
      ∃ read requirements w₀ added,
        workers.ReadFrom (env.request i).workerId ⟨worker.version, read⟩
        ∧ worker.doc = read.assigned (env.request i).sessionId requirements (env.clock i).now
        ∧ (env.request i).sessionId ∉ read.sessionIds
        ∧ env.origin.workers.find (env.request i).workerId = some w₀
        ∧ GrownBy env.origin w₀ worker.doc (added ++ [(env.request i).sessionId])
  | .done (.ok answer) =>
      env.mode = .rejectStale → answer.capacityAllocated = true → CountedFor env workers i
  | _ => True

/-- The invariant of every interleaving. -/
structure PlacementInv (env : Placements) (s : PlacementState) : Prop where
  workers : s.workers.AllDocs (AllGrown env)
  sessions : s.sessions.AllDocs (SameDefinition env)
  points : ∀ i, PointOk env s.workers i (s.points i)

section Invariant

variable {env : Placements} {s : PlacementState} {i : Nat}

theorem placementInv_initial (env : Placements) : PlacementInv env env.initial where
  workers := by
    intro k stored hstored
    obtain ⟨w, hw, rfl⟩ := Option.map_eq_some_iff.mp hstored
    exact ⟨w, [], hw, grownBy_self env.origin w⟩
  sessions := by
    intro k stored hstored
    obtain ⟨session, hsession, rfl⟩ := Option.map_eq_some_iff.mp hstored
    exact ⟨session, hsession, rfl⟩
  points := fun _ => trivial

/-- A command that only reads goes to a point where it is fine. -/
theorem PlacementInv.goto {p : Point} (h : PlacementInv env s) (hp : PointOk env s.workers i p) :
    PlacementInv env (s.goto i p) where
  workers := h.workers
  sessions := h.sessions
  points := by
    intro j
    show PointOk env s.workers j (Function.update s.points i p j)
    by_cases hj : j = i
    · subst hj
      rw [Function.update_self]
      exact hp
    · rw [Function.update_of_ne hj]
      exact h.points j

/-- An answer without an allocation promises nothing. -/
theorem pointOk_unallocated (workers : VersionedStore String CMLWorkerState)
    {answer : OperationResult ScheduleLabletSessionResult}
    (hno : ∀ result, answer = .ok result → result.capacityAllocated = false) :
    PointOk env workers i (.done answer) := by
  cases answer with
  | ok result =>
      intro _ hallocated
      rw [hno result rfl] at hallocated
      cases hallocated
  | _ => trivial

/-- The requirements a command finds are the ones of its session. -/
theorem requires_of_find {session : LabletSessionState} {definition : LabletDefinitionState}
    (hsame : SameDefinition env (env.request i).sessionId session)
    (hfind : env.origin.definitions.find session.definitionId = some definition) :
    Requires env i definition.resourceRequirements := by
  obtain ⟨session₀, hsession, hid⟩ := hsame
  intro r
  exact (requirement_eq hsession (hid ▸ hfind) r).symm

/-- **A write of a worker** keeps what holds of the other commands. -/
theorem pointOk_write {session : LabletSessionState} {worker : Versioned CMLWorkerState}
    {workers' : VersionedStore String CMLWorkerState} (h : PlacementInv env s)
    (hpoint : s.points i = .saving session worker)
    (hwrite : s.workers.write env.mode (env.request i).workerId worker.version worker.doc
      = some workers') (j : Nat) {p : Point} (hp : PointOk env s.workers j p) :
    PointOk env workers' j p := by
  cases p with
  | saving session' worker' =>
      obtain ⟨read, requirements, w₀, added, hread, hrest⟩ := hp
      exact ⟨read, requirements, w₀, added, hread.write hwrite, hrest⟩
  | done answer =>
      cases answer with
      | ok answer =>
          intro hmode hallocated
          obtain ⟨w₀, stored, added, hw₀, hstored, hgrown, hmem⟩ := hp hmode hallocated
          by_cases hk : (env.request j).workerId = (env.request i).workerId
          · -- the write replaces exactly the document that was read, by one that tracks more
            have hi := h.points i
            rw [hpoint] at hi
            obtain ⟨read, requirements, w₁, added', hread, hdoc, hfresh, hw₁, hgrown'⟩ := hi
            rw [hmode] at hwrite
            have hcurrent := hread.current hwrite
            obtain ⟨stored', hstored', hdoc'⟩ := VersionedStore.find_write_self hwrite
            rw [hk] at hstored hw₀
            obtain rfl := Option.some.inj (hw₀.symm.trans hw₁)
            have hmem' : (env.request j).sessionId ∈ added' ++ [(env.request i).sessionId] := by
              have hread_eq : stored.doc = read := by
                rw [Option.some.inj (hstored.symm.trans hcurrent)]
              have hids := hgrown'.sessionIds
              rw [hdoc, CMLWorkerState.assigned_sessionIds hfresh, ← hread_eq,
                hgrown.sessionIds, List.append_assoc, List.append_cancel_left_eq] at hids
              rw [← hids]
              exact List.mem_append_left _ hmem
            refine ⟨w₀, stored', _, hk ▸ hw₀, hk ▸ hstored', ?_, hmem'⟩
            rw [hdoc']
            exact hgrown'
          · refine ⟨w₀, stored, added, hw₀, ?_, hgrown, hmem⟩
            rw [VersionedStore.find_write_ne hwrite hk]
            exact hstored
      | _ => trivial
  | _ => exact hp

/-- **The step lemma.** -/
theorem PlacementInv.access {s' : PlacementState} (h : PlacementInv env s)
    (access : AccessOf env s i s') : PlacementInv env s' := by
  have hi := h.points i
  cases access with
  | ended => exact h
  | answered hno => exact h.goto (pointOk_unallocated s.workers hno)
  | raised => exact h.goto trivial
  | sessionRead hsession hpending => exact h.goto ⟨hpending, h.sessions _ _ hsession⟩
  | workerRead worker hpoint =>
      rw [hpoint] at hi
      exact h.goto hi
  | placed hpoint hdefinition hplaced =>
      rw [hpoint] at hi
      obtain ⟨hpending, session₀, hfind, hsession₀⟩ := hi
      -- what was placed is still about the definition it was read with
      obtain ⟨-, hrefs, -⟩ := placeOn_eq_ok hpending hplaced
      have hid := congrArg SessionRefs.definitionId hrefs
      exact h.goto ⟨⟨session₀, hfind, hid.trans hsession₀⟩,
        requires_of_find ⟨session₀, hfind, hsession₀⟩ hdefinition⟩
  | @sessionSaved session requirements sessions hpoint hwrite =>
      rw [hpoint] at hi
      obtain ⟨hsame, hrequires⟩ := hi
      have hsaved : PlacementInv env { s with sessions := sessions } :=
        { workers := h.workers
          sessions := h.sessions.write hsame hwrite
          points := h.points }
      exact hsaved.goto hrequires
  | @granted session requirements worker hpoint hworker hfresh hfits =>
      rw [hpoint] at hi
      obtain ⟨w₀, added, hw₀, hgrown⟩ := h.workers _ _ hworker
      exact h.goto ⟨worker.doc, requirements.capacity, w₀, added,
        VersionedStore.readFrom_stored hworker, rfl, hfresh, hw₀,
        hgrown.assigned _ hfresh hfits hi⟩
  | @workerSaved session worker workers hpoint hwrite =>
      rw [hpoint] at hi
      obtain ⟨read, requirements, w₀, added, hread, hdoc, hfresh, hw₀, hgrown⟩ := hi
      have hsaved : PlacementInv env { s with workers := workers } :=
        { workers := h.workers.write ⟨w₀, _, hw₀, hgrown⟩ hwrite
          sessions := h.sessions
          points := fun j => pointOk_write h hpoint hwrite j (h.points j) }
      refine hsaved.goto fun _ _ => ?_
      -- the document that was written tracks the session
      obtain ⟨stored, hstored, hstored_doc⟩ := VersionedStore.find_write_self hwrite
      exact ⟨w₀, stored, _, hw₀, hstored, hstored_doc ▸ hgrown,
        List.mem_append_right _ (List.mem_singleton.mpr rfl)⟩

theorem placementInv_run (env : Placements) (interleaving : List Nat) :
    PlacementInv env (replay env.advance env.initial interleaving) := by
  have hstep : ∀ (t : PlacementState) (i : Nat), PlacementInv env t →
      PlacementInv env (env.advance t i) := fun t i h =>
        h.access (advance_access env t i)
  exact replay_invariant hstep interleaving (placementInv_initial env)

theorem not_allocated_goto {p : Point}
    (hp : ∀ answer, p = .done (.ok answer) → answer.capacityAllocated = false) :
    ¬ Allocated (s.goto i p) i := by
  rintro ⟨answer, hpoint, hallocated⟩
  rw [hp answer ((goto_points p).symm.trans hpoint)] at hallocated
  cases hallocated

/-- **Only the write of the worker** answers a command with its capacity allocated. -/
theorem AccessOf.allocates {s' : PlacementState} (access : AccessOf env s i s')
    (hbefore : ¬ Allocated s i) (hafter : Allocated s' i) :
    ∃ session worker workers', s.points i = .saving session worker
      ∧ s.workers.write env.mode (env.request i).workerId worker.version worker.doc
        = some workers'
      ∧ s'.workers = workers' := by
  cases access with
  | ended => exact absurd hafter hbefore
  | answered hno =>
      refine absurd hafter (not_allocated_goto fun answer h => ?_)
      exact hno answer (Point.done.inj h)
  | raised => exact absurd hafter (not_allocated_goto nofun)
  | sessionRead hsession hpending => exact absurd hafter (not_allocated_goto nofun)
  | workerRead worker hpoint => exact absurd hafter (not_allocated_goto nofun)
  | placed hpoint hdefinition hplaced => exact absurd hafter (not_allocated_goto nofun)
  | sessionSaved hpoint hwrite => exact absurd hafter (not_allocated_goto nofun)
  | granted hpoint hworker hfresh hfits => exact absurd hafter (not_allocated_goto nofun)
  | workerSaved hpoint hwrite => exact ⟨_, _, _, hpoint, hwrite, rfl⟩

/-- The document that write leaves counts the session. -/
theorem countedFor_of_allocates (h : PlacementInv env s) (hbefore : ¬ Allocated s i)
    (hafter : Allocated (env.advance s i) i) : CountedFor env (env.advance s i).workers i := by
  obtain ⟨session, worker, workers', hpoint, hwrite, hworkers⟩ :=
    (advance_access env s i).allocates hbefore hafter
  have hi := h.points i
  rw [hpoint] at hi
  obtain ⟨read, requirements, w₀, added, hread, hdoc, hfresh, hw₀, hgrown⟩ := hi
  obtain ⟨stored, hstored, hstored_doc⟩ := VersionedStore.find_write_self hwrite
  rw [hworkers]
  exact ⟨w₀, stored, _, hw₀, hstored, hstored_doc ▸ hgrown,
    List.mem_append_right _ (List.mem_singleton.mpr rfl)⟩

/-- The sessions counted for a worker fit on it, with what it had allocated before. -/
theorem held_le_declared {k : String} {sids : List String} (hnodup : sids.Nodup)
    (hne : sids ≠ [])
    (hcounted : ∀ sid ∈ sids, ∃ i, (env.request i).workerId = k ∧ (env.request i).sessionId = sid
      ∧ CountedFor env s.workers i) :
    ∃ w₀ declared, env.origin.workers.find k = some w₀ ∧ w₀.effectiveDeclared = some declared
      ∧ ∀ r, w₀.allocatedCapacity.amount r + held sids (fun sid => env.origin.requirement sid r)
        ≤ declared.amount r := by
  obtain ⟨sid, hsid⟩ := List.exists_mem_of_ne_nil sids hne
  obtain ⟨i, rfl, rfl, w₀, stored, added, hw₀, hstored, hgrown, hmem⟩ := hcounted sid hsid
  have hsubset : sids ⊆ added := by
    intro sid' hsid'
    obtain ⟨j, hk, rfl, w₁, stored', added', hw₁, hstored', hgrown', hmem'⟩ := hcounted sid' hsid'
    rw [hk] at hw₁ hstored'
    obtain rfl := Option.some.inj (hw₀.symm.trans hw₁)
    obtain rfl := Option.some.inj (hstored.symm.trans hstored')
    -- the document says which sessions were added
    have hadded : added = added' :=
      List.append_cancel_left (hgrown.sessionIds.symm.trans hgrown'.sessionIds)
    exact hadded ▸ hmem'
  obtain ⟨declared, hdeclared, hwithin⟩ := hgrown.within (List.ne_nil_of_mem hmem)
  refine ⟨w₀, declared, hw₀, hdeclared, fun r => ?_⟩
  calc w₀.allocatedCapacity.amount r + held sids (fun sid => env.origin.requirement sid r)
      ≤ w₀.allocatedCapacity.amount r + held added (fun sid => env.origin.requirement sid r) :=
        Nat.add_le_add_left (held_mono hnodup hsubset) _
    _ = stored.doc.allocatedCapacity.amount r := (hgrown.amounts r).symm
    _ ≤ declared.amount r := hwithin r

end Invariant

/-! ## §5. No overcommit. -/

/-- **No overcommit on a worker's document**, under any interleaving of any number of commands:

  • a stored worker tracks, after the sessions it had, the ones added to it, its total grew by
    their requirements, and it is within the declared capacity if any was added,
  • a command answered with its capacity allocated has its session among the added ones right
    after its last access,
  • if the repository rejects stale writes it is among them for good, and all sessions placed
    so on a worker fit within its declared capacity, with what was allocated before. -/
theorem no_overcommit (env : Placements) (interleaving : List Nat) :
    (∀ k stored, (replay env.advance env.initial interleaving).workers k = some stored →
      ∃ w₀ added, env.origin.workers.find k = some w₀ ∧ GrownBy env.origin w₀ stored.doc added)
    ∧ (∀ before i, interleaving = before ++ [i] →
      ¬ Allocated (replay env.advance env.initial before) i →
      Allocated (replay env.advance env.initial interleaving) i →
        CountedFor env (replay env.advance env.initial interleaving).workers i)
    ∧ (env.mode = .rejectStale →
      (∀ i, Allocated (replay env.advance env.initial interleaving) i →
        CountedFor env (replay env.advance env.initial interleaving).workers i)
      ∧ ∀ k sids, sids.Nodup → sids ≠ [] →
        AllocatedOn env (replay env.advance env.initial interleaving) k sids →
          ∃ w₀ declared, env.origin.workers.find k = some w₀
            ∧ w₀.effectiveDeclared = some declared
            ∧ ∀ r, w₀.allocatedCapacity.amount r
                + held sids (fun sid => env.origin.requirement sid r) ≤ declared.amount r) := by
  have hrun := placementInv_run env interleaving
  refine ⟨hrun.workers, ?_, ?_⟩
  · rintro before i rfl hbefore hafter
    rw [replay_snoc] at hafter ⊢
    exact countedFor_of_allocates (placementInv_run env before) hbefore hafter
  · intro hmode
    have hcounted : ∀ i, Allocated (replay env.advance env.initial interleaving) i →
        CountedFor env (replay env.advance env.initial interleaving).workers i := by
      rintro i ⟨answer, hpoint, hallocated⟩
      have hi := hrun.points i
      rw [hpoint] at hi
      exact hi hmode hallocated
    refine ⟨hcounted, fun k sids hnodup hne hplaced => ?_⟩
    refine held_le_declared (s := replay env.advance env.initial interleaving) hnodup hne ?_
    intro sid hsid
    obtain ⟨i, hk, hsession, hallocated⟩ := hplaced sid hsid
    exact ⟨i, hk, hsession, hcounted i hallocated⟩

/-! ## §6. Two sessions race for one worker. -/

/-- Every placement that is answered with ok is tracked by its worker. -/
def TrackedPlacements (env : Placements) (s : PlacementState) : Prop :=
  ∀ i answer, s.points i = .done (.ok answer) →
    ∃ stored, s.workers (env.request i).workerId = some stored
      ∧ (env.request i).sessionId ∈ stored.doc.sessionIds

/-- The sessions scheduled on a worker require no more than it declares. -/
def ScheduledWithin (env : Placements) (s : PlacementState) : Prop :=
  ∀ k worker declared sids, s.workers k = some worker →
    worker.doc.effectiveDeclared = some declared → sids.Nodup →
    (∀ sid ∈ sids, ∃ session, s.sessions sid = some session
      ∧ session.doc.status = .scheduled ∧ session.doc.workerId = some k) →
    ∀ r, held sids (fun sid => env.origin.requirement sid r) ≤ declared.amount r

/-- The answer of a command, if it is ok: whether the capacity is allocated. -/
def Point.allocated : Point → Option Bool
  | .done (.ok answer) => some answer.capacityAllocated
  | _ => none

theorem eq_done_of_allocated {p : Point} {b : Bool} (h : p.allocated = some b) :
    ∃ answer, p = .done (.ok answer) ∧ answer.capacityAllocated = b := by
  unfold Point.allocated at h
  split at h
  next answer => exact ⟨answer, rfl, Option.some.inj h⟩
  next => cases h

/-- Two commands place one session each on the same worker. -/
def racing (mode : WriteMode) (cores : Nat) : Placements where
  mode := mode
  origin :=
    { twoSessionStore with
      workers := Repository.ofList [{ freeWorker with
        declaredCapacity := some { cpuCores := cores, memoryGb := 64, storageGb := 500 } }] }
  clock := fun i => { now := 10 + i }
  request := fun i => { sessionId := if i = 0 then "s1" else "s2", workerId := "w1" }

/-- Both check the capacity before either allocates it. -/
def bothCheck : List Nat := [0, 0, 0, 0, 1, 1, 1, 1, 0, 0, 1, 1]

/-- And both read the worker again before either writes it. -/
def bothRead : List Nat := [0, 0, 0, 0, 1, 1, 1, 1, 0, 1, 0, 1]

/-- Both are counted when the second one reads the worker after the first one has written it. -/
theorem no_overcommit_racing :
    (∀ i, Allocated (replay (racing .rejectStale 16).advance (racing .rejectStale 16).initial
        bothCheck) i →
      CountedFor (racing .rejectStale 16) (replay (racing .rejectStale 16).advance
        (racing .rejectStale 16).initial bothCheck).workers i)
    ∧ ∃ w₀ declared, (racing .rejectStale 16).origin.workers.find "w1" = some w₀
      ∧ w₀.effectiveDeclared = some declared
      ∧ ∀ r, w₀.allocatedCapacity.amount r
          + held ["s1", "s2"] (fun sid => (racing .rejectStale 16).origin.requirement sid r)
        ≤ declared.amount r := by
  obtain ⟨hcounted, hsum⟩ := (no_overcommit (racing .rejectStale 16) bothCheck).2.2 rfl
  refine ⟨hcounted, hsum "w1" ["s1", "s2"] (by decide) (by decide) fun sid hsid => ?_⟩
  rcases List.mem_pair.mp hsid with rfl | rfl
  · exact ⟨0, rfl, rfl, eq_done_of_allocated (by decide)⟩
  · exact ⟨1, rfl, rfl, eq_done_of_allocated (by decide)⟩

section Race

variable {env : Placements} {s : PlacementState}

/-- A placement that the worker's document leaves out. -/
theorem not_tracked (i : Nat) (b : Bool) (ids : List String)
    (hanswer : (s.points i).allocated = some b)
    (hworker : (s.workers (env.request i).workerId).map (fun w => w.doc.sessionIds) = some ids)
    (hmissing : (env.request i).sessionId ∉ ids) : ¬ TrackedPlacements env s := by
  intro h
  obtain ⟨answer, hpoint, -⟩ := eq_done_of_allocated hanswer
  obtain ⟨stored, hstored, hmem⟩ := h i answer hpoint
  rw [hstored] at hworker
  exact hmissing (Option.some.inj hworker ▸ hmem)

/-- Sessions that are scheduled on a worker without room for them. -/
theorem not_within (k : String) (sids : List String) (r : Resource) (room : Nat)
    (hnodup : sids.Nodup)
    (hplaced : ∀ sid ∈ sids, (s.sessions sid).map (fun v => (v.doc.status, v.doc.workerId))
      = some (.scheduled, some k))
    (hworker : (s.workers k).bind (fun w => w.doc.effectiveDeclared.map fun c => c.amount r)
      = some room)
    (hroom : room < held sids (fun sid => env.origin.requirement sid r)) :
    ¬ ScheduledWithin env s := by
  intro h
  obtain ⟨stored, hstored, hmapped⟩ := Option.bind_eq_some_iff.mp hworker
  obtain ⟨declared, hdeclared, rfl⟩ := Option.map_eq_some_iff.mp hmapped
  refine absurd (h k stored declared sids hstored hdeclared hnodup ?_ r) (Nat.not_le.mpr hroom)
  intro sid hsid
  obtain ⟨session, hsession, hpair⟩ := Option.map_eq_some_iff.mp (hplaced sid hsid)
  obtain ⟨hstatus, hworkerId⟩ := Prod.mk.inj hpair
  exact ⟨session, hsession, hstatus, hworkerId⟩

end Race

/-- **Untracked placements**: on three cores, whatever the repository does with stale writes,
both sessions of two cores are scheduled and the second is not tracked.  If the last write
wins, an allocation that is answered as done is lost as well. -/
theorem untracked_placement :
    (¬ TrackedPlacements (racing .rejectStale 3)
        (replay (racing .rejectStale 3).advance (racing .rejectStale 3).initial bothCheck)
      ∧ ¬ ScheduledWithin (racing .rejectStale 3)
        (replay (racing .rejectStale 3).advance (racing .rejectStale 3).initial bothCheck))
    ∧ (¬ TrackedPlacements (racing .lastWriteWins 3)
        (replay (racing .lastWriteWins 3).advance (racing .lastWriteWins 3).initial bothCheck)
      ∧ ¬ ScheduledWithin (racing .lastWriteWins 3)
        (replay (racing .lastWriteWins 3).advance (racing .lastWriteWins 3).initial bothCheck))
    ∧ Allocated
        (replay (racing .lastWriteWins 16).advance (racing .lastWriteWins 16).initial bothRead) 0
      ∧ ¬ TrackedPlacements (racing .lastWriteWins 16)
        (replay (racing .lastWriteWins 16).advance (racing .lastWriteWins 16).initial bothRead)
    := by
  refine ⟨⟨?_, ?_⟩, ⟨?_, ?_⟩, ?_, ?_⟩
  · exact not_tracked 1 false ["s1"] (by decide) (by decide) (by decide)
  · exact not_within "w1" ["s1", "s2"] .cpuCores 3 (by decide) (by decide)
      (by decide) (by decide)
  · exact not_tracked 1 false ["s1"] (by decide) (by decide) (by decide)
  · exact not_within "w1" ["s1", "s2"] .cpuCores 3 (by decide) (by decide)
      (by decide) (by decide)
  · exact eq_done_of_allocated (b := true) (by decide)
  · exact not_tracked 0 true ["s2"] (by decide) (by decide) (by decide)

end CmlCloudManager.ControlPlane
