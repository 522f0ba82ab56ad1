/-
  CmlCloudManager.ControlPlane.CapacityRepair
  ───────────────────────────────────────────
  **THE REPAIR OF A WORKER'S CAPACITY.**

  `RecalculateWorkerCapacity` looks up every session the worker TRACKS, keeps those
  that are there in a status that holds capacity, and replaces the list and the
  total.  Whatever the database was before:

    • the total is the sum over the kept sessions, node counts included,
    • a second recalculation changes nothing,
    • from then on the session commands keep total and list in step, so that the
      total is zero once every kept session is released.

  A session that the worker does not track is not found by it.
-/
import CmlCloudManager.ControlPlane.CapacityConservation

namespace CmlCloudManager.ControlPlane

open CmlCloudManager.Foundation

/-! ## §1. Node counts. -/

/-- The node count of a session's definition. -/
def Store.nodeCount (store : Store) (sessionId : String) : Option Nat :=
  match store.sessions.find sessionId with
  | none => none
  | some session =>
      match store.definitions.find session.definitionId with
      | none => none
      | some definition => definition.nodeCount

/-- The sum of the node counts; unset when no session has one. -/
def totalNodeCount (counts : List Nat) : Option Nat :=
  if counts = [] then none else some counts.sum

/-- The nodes of one visit. -/
theorem visit_totalNodes (store : Store) (acc : Recalculation) (sessionId : String) :
    (Recalculation.visit store acc sessionId).totalNodes
      = if store.holdsCapacity sessionId then
          match store.nodeCount sessionId with
          | some nodes => some (acc.totalNodes.getD 0 + nodes)
          | none => acc.totalNodes
        else acc.totalNodes := by
  unfold Recalculation.visit Store.holdsCapacity Store.nodeCount
  cases store.sessions.find sessionId with
  | none => rfl
  | some session =>
      by_cases hstatus : session.status ∈ capacityHoldingStatuses
      · simp only [hstatus, not_true_eq_false, if_false, decide_true, if_true, givenDefinition_eq]
        cases store.definitions.find session.definitionId with
        | none => rfl
        | some definition => rfl
      · simp only [hstatus, not_false_eq_true, if_true, decide_false, Bool.false_eq_true, if_false]
        rfl

/-- The counts added to a running total. -/
theorem foldl_visit_totalNodes (store : Store) (sessionIds : List String) (acc : Recalculation) :
    (sessionIds.foldl (Recalculation.visit store) acc).totalNodes
      = if (sessionIds.filter store.holdsCapacity).filterMap store.nodeCount = [] then
          acc.totalNodes
        else
          some (acc.totalNodes.getD 0
            + ((sessionIds.filter store.holdsCapacity).filterMap store.nodeCount).sum) := by
  induction sessionIds generalizing acc with
  | nil => rfl
  | cons sessionId rest ih =>
      rw [List.foldl_cons, ih]
      have hvisit := visit_totalNodes store acc sessionId
      cases hholds : store.holdsCapacity sessionId with
      | false =>
          rw [hholds] at hvisit
          rw [List.filter_cons_of_neg (by simp [hholds]), hvisit]
          rfl
      | true =>
          rw [hholds] at hvisit
          rw [List.filter_cons_of_pos hholds, hvisit]
          cases hnodes : store.nodeCount sessionId with
          | none =>
              rw [List.filterMap_cons_none hnodes]
              rfl
          | some nodes =>
              rw [List.filterMap_cons_some hnodes, if_neg (List.cons_ne_nil _ _)]
              simp only [if_true]
              split
              next hrest => rw [hrest, List.sum_cons, List.sum_nil, Nat.add_zero]
              next => rw [List.sum_cons, Option.getD_some, Nat.add_assoc]

theorem recounted_maxNodes (worker : CMLWorkerState) (store : Store) (now : Int) :
    (worker.recounted store now).allocatedCapacity.maxNodes
      = totalNodeCount
        ((worker.sessionIds.filter store.holdsCapacity).filterMap store.nodeCount) := by
  show (recalculation store worker.sessionIds).totalNodes = _
  unfold recalculation totalNodeCount
  rw [foldl_visit_totalNodes]
  simp only [Option.getD_none, Nat.zero_add]

/-! ## §2. A second recalculation. -/

section Twice

variable {store store' : Store}

/-- A recalculation reads the sessions and the definitions. -/
theorem recalculation_congr (hsessions : store'.sessions = store.sessions)
    (hdefinitions : store'.definitions = store.definitions) (sessionIds : List String) :
    recalculation store' sessionIds = recalculation store sessionIds := by
  unfold recalculation
  have hvisit : Recalculation.visit store' = Recalculation.visit store := by
    funext acc sessionId
    unfold Recalculation.visit
    rw [hsessions, hdefinitions]
  rw [hvisit]

theorem capacity_ext {c d : WorkerCapacity} (h : ∀ r, c.amount r = d.amount r)
    (hnodes : c.maxNodes = d.maxNodes) : c = d := by
  cases c
  cases d
  have hcpu := h .cpuCores
  have hmemory := h .memoryGb
  have hstorage := h .storageGb
  simp only [WorkerCapacity.amount] at hcpu hmemory hstorage hnodes
  rw [hcpu, hmemory, hstorage, hnodes]

/-- **Counting twice is counting once**, but for the time stamp. -/
theorem recounted_recounted (worker : CMLWorkerState) (now now' : Int)
    (hsessions : store'.sessions = store.sessions)
    (hdefinitions : store'.definitions = store.definitions) :
    (worker.recounted store now).recounted store' now'
      = { worker.recounted store now with updatedAt := now' } := by
  have hcongr : (worker.recounted store now).recounted store' now'
      = (worker.recounted store now).recounted store now' := by
    unfold CMLWorkerState.recounted CMLWorkerState.recalculated
    simp only [recalculation_congr hsessions hdefinitions]
  -- what is left on the list holds capacity, so nothing is dropped a second time
  have hids : (worker.recounted store now).sessionIds.filter store.holdsCapacity
      = (worker.recounted store now).sessionIds := by
    rw [recounted_sessionIds, List.filter_filter]
    simp only [Bool.and_self]
  have hcapacity : ((worker.recounted store now).recounted store now').allocatedCapacity
      = (worker.recounted store now).allocatedCapacity := by
    refine capacity_ext (fun r => ?_) ?_
    · rw [recounted_amount, hids, recounted_amount, recounted_sessionIds]
    · rw [recounted_maxNodes, hids, recounted_maxNodes, recounted_sessionIds]
  have hsame : ((worker.recounted store now).recounted store now').sessionIds
      = (worker.recounted store now).sessionIds := by
    rw [recounted_sessionIds, hids]
  rw [hcongr]
  generalize hw : worker.recounted store now = w at hcapacity hsame ⊢
  show (⟨w.id, w.id_given, w.status, w.systemInfo, w.declaredCapacity,
    (w.recounted store now').allocatedCapacity, w.portAllocations,
    (w.recounted store now').sessionIds, _, now'⟩ : CMLWorkerState) = _
  simp only [hcapacity, hsame]

end Twice

/-! ## §3. The session commands after a repair. -/

/-- The command is one of the run, and releases the session there. -/
def ReleasedIn (store : Store) (cmds : List SessionCommand) (sid : String) : Prop :=
  ∃ before cmd after, cmds = before ++ cmd :: after
    ∧ SessionCommand.releases (replay SessionCommand.run store before) cmd = some sid

/-- The session refers to the worker. -/
def RefersTo (store : Store) (wid sid : String) : Prop :=
  ∃ session, store.sessions.find sid = some session ∧ session.workerId = some wid

/-- **In step with the repaired worker**: references and definitions are the ones of the repair,
the list only lost sessions, and the total is the sum over those that are left. -/
structure InStep (wid : String) (origin : Store) (sessionIds : List String) (store : Store) :
    Prop where
  refs : ∀ sid, (store.sessions.find sid).map LabletSessionState.refs
    = (origin.sessions.find sid).map LabletSessionState.refs
  definitions : store.definitions = origin.definitions
  sublist : ∀ w, store.workers.find wid = some w → w.sessionIds.Sublist sessionIds
  balanced : ∀ w, store.workers.find wid = some w → w.Balanced origin.requirement

section InStep

variable {wid : String} {origin store store' : Store} {sessionIds : List String}

/-- The requirements are read off the references and the definitions. -/
theorem requirement_congr
    (hrefs : ∀ sid, (store.sessions.find sid).map LabletSessionState.refs
      = (origin.sessions.find sid).map LabletSessionState.refs)
    (hdefinitions : store.definitions = origin.definitions) (sid : String) (r : Resource) :
    store.requirement sid r = origin.requirement sid r := by
  have hfind := hrefs sid
  unfold Store.requirement
  rw [hdefinitions]
  cases hs : store.sessions.find sid with
  | none =>
      rw [hs] at hfind
      rw [Option.map_eq_none_iff.mp hfind.symm]
  | some session =>
      rw [hs] at hfind
      obtain ⟨session₀, hs₀, hrefs₀⟩ := Option.map_eq_some_iff.mp hfind.symm
      rw [hs₀]
      have hid : session₀.definitionId = session.definitionId :=
        congrArg SessionRefs.definitionId hrefs₀
      simp only [hid]

/-- Saving a moved session keeps all references. -/
theorem refs_save {session session' : LabletSessionState} {dst : LabletSessionStatus}
    (found : store.sessions.find session.id = some session) (move : Moved session session' dst)
    (sid : String) :
    ((store.sessions.save session').find sid).map LabletSessionState.refs
      = (store.sessions.find sid).map LabletSessionState.refs := by
  rw [Repository.find_save_of_id move.id]
  by_cases hsid : sid = session.id
  · rw [if_pos hsid, hsid, found, Option.map_some, Option.map_some, move.refs]
  · rw [if_neg hsid]

/-- A session command keeps the step. -/
theorem inStep_session {now : Int} {released : Option String}
    (h : InStep wid origin sessionIds store) (heffect : SessionEffect store now released store') :
    InStep wid origin sessionIds store' := by
  cases heffect with
  | refused => exact h
  | moved found move stays late =>
      exact
        { refs := fun sid => (refs_save found move sid).trans (h.refs sid)
          definitions := h.definitions
          sublist := h.sublist
          balanced := h.balanced }
  | @released session session' dst labRecords found move leaves =>
      refine
        { refs := fun sid => (refs_save found move sid).trans (h.refs sid)
          definitions := h.definitions
          sublist := fun w' hw' => ?_
          balanced := fun w' hw' => ?_ }
      · rw [find_releaseSession, Option.map_eq_some_iff] at hw'
        obtain ⟨w, hw, rfl⟩ := hw'
        split
        next =>
          rw [released_sessionIds]
          exact List.filter_sublist.trans (h.sublist w hw)
        next => exact h.sublist w hw
      · rw [find_releaseSession, Option.map_eq_some_iff] at hw'
        obtain ⟨w, hw, rfl⟩ := hw'
        split
        next =>
          -- the definition asks for what it asked for at the repair
          refine (balanced_released_iff now _ (h.balanced w hw)).mpr fun _ r => .inl ?_
          rw [requirement_of_find found, requirement_congr h.refs h.definitions,
            releaseCommand_sessionId]
        next => exact h.balanced w hw

theorem inStep_run (cmds : List SessionCommand) (h : InStep wid origin sessionIds store) :
    InStep wid origin sessionIds (replay SessionCommand.run store cmds) :=
  replay_invariant (fun t cmd ht => inStep_session ht (sessionCommand_effect t cmd)) cmds h

/-- A released session of the worker is off its list. -/
theorem not_tracked_of_released {now : Int} {sid : String}
    (heffect : SessionEffect store now (some sid) store') (hrefers : RefersTo store wid sid)
    {w' : CMLWorkerState} (hw' : store'.workers.find wid = some w') : sid ∉ w'.sessionIds := by
  cases heffect with
  | @released session session' dst labRecords found move leaves =>
      obtain ⟨s, hfind, hworker⟩ := hrefers
      obtain rfl : session = s := Option.some.inj (found.symm.trans hfind)
      rw [find_releaseSession, Option.map_eq_some_iff] at hw'
      obtain ⟨w, hw, rfl⟩ := hw'
      rw [if_pos hworker, released_sessionIds, List.mem_filter, releaseCommand_sessionId]
      simp

/-- References that are kept are kept. -/
theorem refersTo_iff {sid : String} (h : InStep wid origin sessionIds store) :
    RefersTo store wid sid ↔ RefersTo origin wid sid := by
  have key : ∀ t : Store, RefersTo t wid sid
      ↔ ∃ refs, (t.sessions.find sid).map LabletSessionState.refs = some refs
        ∧ refs.workerId = some wid := by
    intro t
    constructor
    · rintro ⟨session, hfind, hworker⟩
      exact ⟨session.refs, by rw [hfind]; rfl, hworker⟩
    · rintro ⟨refs, hmap, hworker⟩
      obtain ⟨session, hfind, rfl⟩ := Option.map_eq_some_iff.mp hmap
      exact ⟨session, hfind, hworker⟩
  rw [key, key, h.refs sid]

/-- The ids a worker tracks; none without the worker. -/
def trackedIds (store : Store) (wid : String) : List String :=
  match store.workers.find wid with
  | some w => w.sessionIds
  | none => []

/-- The step is kept from the present list on. -/
theorem inStep_trackedIds (h : InStep wid origin sessionIds store) :
    InStep wid origin (trackedIds store wid) store where
  refs := h.refs
  definitions := h.definitions
  sublist := by
    intro w hw
    unfold trackedIds
    rw [hw]
  balanced := h.balanced

/-- **Once released, off the list** for the rest of the run. -/
theorem not_tracked_of_releasedIn {cmds : List SessionCommand} {sid : String}
    (h : InStep wid origin sessionIds store)
    (hreleased : ReleasedIn store cmds sid) (hrefers : RefersTo origin wid sid)
    {w : CMLWorkerState} (hw : (replay SessionCommand.run store cmds).workers.find wid = some w) :
    sid ∉ w.sessionIds := by
  obtain ⟨before, cmd, after, rfl, hcmd⟩ := hreleased
  rw [replay_append, replay_cons] at hw
  have hbefore := inStep_run before h
  have heffect := sessionCommand_effect (replay SessionCommand.run store before) cmd
  rw [hcmd] at heffect
  generalize SessionCommand.run (replay SessionCommand.run store before) cmd = next
    at heffect hw
  have hoff : sid ∉ trackedIds next wid := by
    unfold trackedIds
    cases hfind : next.workers.find wid with
    | none => exact List.not_mem_nil
    | some w' => exact not_tracked_of_released heffect ((refersTo_iff hbefore).mpr hrefers) hfind
  -- from the state after the release on, the list only shrinks
  have hafter := inStep_run after (inStep_trackedIds (inStep_session hbefore heffect))
  exact fun hmem => hoff ((hafter.sublist w hw).subset hmem)

end InStep

/-! ## §4. The repair. -/

/-- **What a repair leaves** of a worker: the tracked sessions that hold capacity, and their
sums. -/
structure Repaired (store : Store) (worker repaired : CMLWorkerState) : Prop where
  sessionIds : repaired.sessionIds = worker.sessionIds.filter store.holdsCapacity
  amounts : ∀ r, repaired.allocatedCapacity.amount r
    = held repaired.sessionIds (fun sid => store.requirement sid r)
  nodes : repaired.allocatedCapacity.maxNodes
    = totalNodeCount (repaired.sessionIds.filterMap store.nodeCount)

theorem repaired_recounted (worker : CMLWorkerState) (store : Store) (now : Int) :
    Repaired store worker (worker.recounted store now) where
  sessionIds := recounted_sessionIds worker store now
  amounts := fun r => by rw [recounted_amount, recounted_sessionIds]
  nodes := by rw [recounted_maxNodes, recounted_sessionIds]

/-- **In every run of session commands**, with the requirements of the repair:

  • the total is the sum over the sessions still tracked, which are among the repaired ones,
  • a session of the worker that is released is tracked no more,
  • when all of them are released the list is empty and the total is zero. -/
def StaysBalanced (wid : String) (origin : Store) (sessionIds : List String) (store : Store) :
    Prop :=
  ∀ cmds w, (replay SessionCommand.run store cmds).workers.find wid = some w →
    (∀ r, w.allocatedCapacity.amount r = held w.sessionIds (fun sid => origin.requirement sid r))
    ∧ w.sessionIds.Sublist sessionIds
    ∧ (∀ sid, RefersTo origin wid sid → ReleasedIn store cmds sid → sid ∉ w.sessionIds)
    ∧ ((∀ sid ∈ sessionIds, RefersTo origin wid sid ∧ ReleasedIn store cmds sid) →
      w.sessionIds = [] ∧ ∀ r, w.allocatedCapacity.amount r = 0)

section Repair

variable {wid : String} {store : Store} {worker : CMLWorkerState}

theorem recalculate_eq (now : Int) (requestedBy : String)
    (hfind : store.workers.find wid = some worker) :
    (recalculateWorkerCapacity now store wid requestedBy).2
      = { store with workers := store.workers.save (worker.recounted store now) } := by
  unfold recalculateWorkerCapacity
  rw [hfind]

/-- The repaired database is in step with itself. -/
theorem inStep_recalculate (now : Int) (requestedBy : String)
    (hfind : store.workers.find wid = some worker) :
    InStep wid store (worker.recounted store now).sessionIds
      (recalculateWorkerCapacity now store wid requestedBy).2 := by
  have hrepaired : ∀ w,
      (recalculateWorkerCapacity now store wid requestedBy).2.workers.find wid = some w →
        w = worker.recounted store now := by
    intro w hw
    rw [find_recalculate, if_pos rfl, hfind, Option.map_some] at hw
    exact (Option.some.inj hw).symm
  exact
    { refs := fun sid => by rw [recalculate_sessions]
      definitions := by rw [recalculate_eq now requestedBy hfind]
      sublist := fun w hw => by rw [hrepaired w hw]
      balanced := fun w hw => by
        rw [hrepaired w hw]
        exact (repaired_recounted worker store now).amounts }

/-- **Capacity repair.**  The repaired worker keeps the tracked sessions that hold capacity,
with the sums of their requirements; a second repair changes a time stamp; and from then on
the session commands keep total and list in step. -/
theorem capacity_repair (now now' : Int) (requestedBy requestedBy' : String)
    (hfind : store.workers.find wid = some worker) :
    ∃ repaired, (recalculateWorkerCapacity now store wid requestedBy).2
        = { store with workers := store.workers.save repaired }
      ∧ Repaired store worker repaired
      ∧ (recalculateWorkerCapacity now'
          (recalculateWorkerCapacity now store wid requestedBy).2 wid requestedBy').2
        = { store with workers := store.workers.save { repaired with updatedAt := now' } }
      ∧ StaysBalanced wid store repaired.sessionIds
        (recalculateWorkerCapacity now store wid requestedBy).2 := by
  have hstart := inStep_recalculate now requestedBy hfind
  have heq := recalculate_eq now requestedBy hfind
  refine ⟨worker.recounted store now, heq, repaired_recounted worker store now, ?_, ?_⟩
  · have hid : (worker.recounted store now).id = wid := by
      show worker.id = wid
      exact Repository.id_of_find hfind
    have hagain : (recalculateWorkerCapacity now store wid requestedBy).2.workers.find wid
        = some (worker.recounted store now) := by
      rw [find_recalculate, if_pos rfl, hfind, Option.map_some]
    rw [recalculate_eq now' requestedBy' hagain,
      recounted_recounted worker now now' (recalculate_sessions now store wid requestedBy)
        hstart.definitions, heq]
    refine congrArg (fun workers => { store with workers := workers }) ?_
    exact Repository.save_save rfl
  · intro cmds w hw
    have hend := inStep_run cmds hstart
    have hoff : ∀ sid, RefersTo store wid sid →
        ReleasedIn (recalculateWorkerCapacity now store wid requestedBy).2 cmds sid →
          sid ∉ w.sessionIds := fun sid hrefers hreleased =>
      not_tracked_of_releasedIn hstart hreleased hrefers hw
    refine ⟨hend.balanced w hw, hend.sublist w hw, hoff, fun hall => ?_⟩
    -- the list only lost ids, and each of them is off it
    have hempty : w.sessionIds = [] := by
      rw [List.eq_nil_iff_forall_not_mem]
      intro sid hmem
      have hkept := (hend.sublist w hw).subset hmem
      exact hoff sid (hall sid hkept).1 (hall sid hkept).2 hmem
    refine ⟨hempty, fun r => ?_⟩
    rw [hend.balanced w hw r, hempty, held_nil]

end Repair

/-! ## §5. What a repair does not find. -/

/-- A session that is placed on the worker. -/
def scheduledSession : LabletSessionState :=
  { reservedSession with status := .scheduled, workerId := some "w1" }

/-- The worker has lost 6 cores to sessions that are gone. -/
def driftedStore : Store where
  sessions := Repository.ofList [scheduledSession]
  workers := Repository.ofList
    [{ freeWorker with
      allocatedCapacity := { cpuCores := 8, memoryGb := 4, storageGb := 20 }
      sessionIds := ["s0", "s1"]
      sessionIds_nodup := by decide }]
  definitions := Repository.ofList [{ smallDefinition with nodeCount := some 5 }]

/-- The repair of the drifted worker, found there. -/
theorem capacity_repair_drifted :
    ∃ worker repaired, driftedStore.workers.find "w1" = some worker
      ∧ (recalculateWorkerCapacity 5 driftedStore "w1" "admin").2
        = { driftedStore with workers := driftedStore.workers.save repaired }
      ∧ Repaired driftedStore worker repaired
      ∧ (recalculateWorkerCapacity 6
          (recalculateWorkerCapacity 5 driftedStore "w1" "admin").2 "w1" "admin").2
        = { driftedStore with
            workers := driftedStore.workers.save { repaired with updatedAt := 6 } }
      ∧ StaysBalanced "w1" driftedStore repaired.sessionIds
        (recalculateWorkerCapacity 5 driftedStore "w1" "admin").2 := by
  have hfind : ∃ worker, driftedStore.workers.find "w1" = some worker := ⟨_, rfl⟩
  obtain ⟨worker, hfind⟩ := hfind
  obtain ⟨repaired, hrest⟩ := capacity_repair 5 6 "admin" "admin" hfind
  exact ⟨worker, repaired, hfind, hrest⟩

/-- The same session, not tracked by its worker. -/
def untrackedStore : Store where
  sessions := Repository.ofList [scheduledSession]
  workers := Repository.ofList [freeWorker]
  definitions := Repository.ofList [smallDefinition]

/-- A stopping session that its worker still tracks. -/
def stoppingStore : Store where
  sessions := Repository.ofList [{ scheduledSession with status := .stopping }]
  workers := Repository.ofList
    [{ freeWorker with sessionIds := ["s1"], sessionIds_nodup := oneSession_nodup }]
  definitions := Repository.ofList [smallDefinition]

/-- A scheduled session its worker does not track is not added; a stopping one, released
already as far as the lifecycle goes, is kept; and the nodes that a repair counted stay on the
worker when its last session is terminated. -/
theorem repair_incomplete :
    (PlacedOn untrackedStore.sessions "w1" "s1"
      ∧ trackedIds (recalculateWorkerCapacity 5 untrackedStore "w1" "admin").2 "w1" = [])
    ∧ trackedIds (recalculateWorkerCapacity 5 stoppingStore "w1" "admin").2 "w1" = ["s1"]
    ∧ ((replay SessionCommand.run (recalculateWorkerCapacity 5 driftedStore "w1" "admin").2
        [.terminate { now := 9 } { sessionId := "s1", terminatedBy := "admin" }]).workers.find
          "w1").map (fun w => (w.sessionIds, w.allocatedCapacity))
      = some ([], { cpuCores := 0, memoryGb := 0, storageGb := 0, maxNodes := some 5 }) := by
  refine ⟨⟨⟨scheduledSession, rfl, rfl, by decide⟩, by decide⟩, by decide, by decide⟩

end CmlCloudManager.ControlPlane
