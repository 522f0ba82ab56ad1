/-
  CmlCloudManager.Worker.WorkerImport
  ───────────────────────────────────
  **THE IMPORT OF DISCOVERED INSTANCES.**

  The worker-controller scans EC2 and hands what it finds to the control plane, which
  brings the workers that it knows up to date and creates the others.  The workers are
  looked up once, before the loop; an instance that is found is looked up again when it
  is added, so that two reports of one instance do not make two workers.

    • `import_unique`    — no two workers get the same instance, whatever the batch and
                           whichever saves fail,
    • `import_reflects`  — after a batch every instance of it has one worker, and that is
                           in the status that EC2 gave,
    • `discovery_forgets` — an address that has changed once is gone: the addresses are
                           written one by one, each write erases all other details, and
                           so does every discovery from then on.
-/
import CmlCloudManager.Foundation.Replay
import CmlCloudManager.Foundation.Repository
import CmlCloudManager.Worker.WorkerCommands

namespace CmlCloudManager.Worker

open CmlCloudManager.Foundation
open CmlCloudManager.ControlPlane (CMLWorkerStatus givenText givenText_eq_some)

/-! ## §1. The import. -/

/-- The worker of an instance that is not registered. -/
def importedWorker (awsRegion source instanceId newId : String) (found : DiscoveredInstance)
    (now : Int) : CMLWorkerState :=
  (CMLWorker.importFromExistingInstance newId
    ((givenText found.name).getD ("worker-" ++ instanceId)) awsRegion instanceId
    { publicIp := found.publicIp
      privateIp := found.privateIp
      instanceType := found.instanceType
      amiId := found.imageId }
    found.state (some source) now).state

/-- The workers of the control plane. -/
abbrev Workers : Type := Repository CMLWorkerState CMLWorkerState.id

/-- An instance of the batch: when it is its turn, the id that a new worker would get, and what
its save raises. -/
structure ImportTurn where
  found : DiscoveredInstance
  now : Int
  newId : String
  raised : Option String := none

/-- The loop of an import. -/
structure Importing where
  workers : Workers
  /-- `existing_workers_map`; its workers are changed in place -/
  known : Dict String CMLWorkerState
  imported : List String := []
  skipped : List (String × String) := []
  updated : List String := []

/-- `find_one({"aws_instance_id": instance_id})`. -/
def findByInstance (workers : Workers) (instanceId : String) : Option CMLWorkerState :=
  workers.all.find? fun d => d.awsInstanceId = some instanceId

/-- An instance that is registered. -/
def Importing.sync (turn : ImportTurn) (instanceId : String) (worker : CMLWorkerState)
    (i : Importing) : Importing :=
  let synced := syncDiscovered turn.found turn.now worker
  let saves := synced.2 && turn.raised.isNone
  { i with
    known := i.known.set instanceId synced.1
    workers := if saves then i.workers.save synced.1 else i.workers
    updated := if saves then i.updated ++ [worker.id] else i.updated
    skipped := i.skipped ++ [(instanceId, "Already registered")] }

/-- An instance that is not; `add_async` gives the worker that has it, if there is one. -/
def Importing.add (awsRegion source : String) (turn : ImportTurn) (instanceId : String)
    (i : Importing) : Importing :=
  if turn.found.state = "terminated" ∨ turn.found.state = "shutting-down" then
    { i with skipped := i.skipped ++ [(instanceId, "Instance state: " ++ turn.found.state)] }
  else
    match turn.raised with
    | some message =>
        { i with skipped := i.skipped ++ [(instanceId, "Import failed: " ++ message)] }
    | none =>
        match findByInstance i.workers instanceId with
        | some existing => { i with imported := i.imported ++ [existing.id] }
        | none =>
            { i with
              workers := i.workers.save
                (importedWorker awsRegion source instanceId turn.newId turn.found turn.now)
              imported := i.imported ++ [turn.newId] }

/-- One instance. -/
def importInstance (awsRegion source : String) (i : Importing) (turn : ImportTurn) : Importing :=
  match givenText turn.found.instanceId with
  | none => i
  | some instanceId =>
      match i.known.get? instanceId with
      | some worker => i.sync turn instanceId worker
      | none => i.add awsRegion source turn instanceId

/-- `{w.state.aws_instance_id: w for w in existing_workers if w.state.aws_instance_id}`. -/
def existingWorkersMap (workers : Workers) : Dict String CMLWorkerState :=
  Dict.ofList (workers.all.filterMap fun w => (givenText w.awsInstanceId).map fun i => (i, w))

/-- `InternalBulkImportWorkersCommandHandler`, for a region that is given. -/
def bulkImport (awsRegion source : String) (turns : List ImportTurn) (workers : Workers) :
    Importing :=
  replay (importInstance awsRegion source)
    { workers := workers, known := existingWorkersMap workers } turns

/-! ## §2. One worker for an instance. -/

/-- No two workers have the same instance. -/
def UniqueInstances (workers : Workers) : Prop :=
  ∀ k k' d d' instanceId, workers.find k = some d → workers.find k' = some d' →
    d.awsInstanceId = some instanceId → d'.awsInstanceId = some instanceId → k = k'

/-- An import changes neither the id nor the instance of a worker. -/
structure SameWorker (s t : CMLWorkerState) : Prop where
  id : t.id = s.id
  awsInstanceId : t.awsInstanceId = s.awsInstanceId

theorem SameWorker.trans {s t u : CMLWorkerState} (h : SameWorker s t) (h' : SameWorker t u) :
    SameWorker s u :=
  ⟨h'.id.trans h.id, h'.awsInstanceId.trans h.awsInstanceId⟩

section Synced

variable (found : DiscoveredInstance) (now : Int)

theorem backfillName_same (s : CMLWorkerState) :
    SameWorker s (backfillName found s) ∧ (backfillName found s).status = s.status := by
  unfold backfillName
  cases givenText found.name with
  | none => exact ⟨⟨rfl, rfl⟩, rfl⟩
  | some name =>
      dsimp only
      split <;> exact ⟨⟨rfl, rfl⟩, rfl⟩

theorem syncAddress_same (ip : Option String) (held : CMLWorkerState → Option String)
    (details : String → Ec2Details) (w : CMLWorker × Bool) :
    SameWorker w.1.state (syncAddress ip held details now w).1.state
      ∧ (syncAddress ip held details now w).1.state.status = w.1.state.status := by
  unfold syncAddress
  cases givenText ip with
  | none => exact ⟨⟨rfl, rfl⟩, rfl⟩
  | some ip =>
      dsimp only
      split <;> exact ⟨⟨rfl, rfl⟩, rfl⟩

theorem syncAddresses_same (w : CMLWorker) :
    SameWorker w.state (syncAddresses found now w).1.state
      ∧ (syncAddresses found now w).1.state.status = w.state.status := by
  obtain ⟨hpublic, hpublicStatus⟩ := syncAddress_same now found.publicIp CMLWorkerState.publicIp
    (fun ip => { publicIp := some ip }) (w, false)
  obtain ⟨hprivate, hprivateStatus⟩ := syncAddress_same now found.privateIp
    CMLWorkerState.privateIp (fun ip => { privateIp := some ip }) (syncAddress found.publicIp
      CMLWorkerState.publicIp (fun ip => { publicIp := some ip }) now (w, false))
  exact ⟨hpublic.trans hprivate, hprivateStatus.trans hpublicStatus⟩

theorem updateStatus_same (w : CMLWorker) (status : CMLWorkerStatus) :
    SameWorker w.state (w.updateStatus status now).state := by
  have h := w.updateStatus_sameSpec status now
  exact ⟨h.id, h.awsInstanceId⟩

theorem updateDesiredStatus_same (w : CMLWorker) (status : CMLWorkerStatus)
    (requestedBy reason : Option String) :
    SameWorker w.state (w.updateDesiredStatus status requestedBy reason now).state := by
  rcases w.updateDesiredStatus_state status requestedBy reason now with h | h <;> rw [h] <;>
    exact ⟨rfl, rfl⟩

theorem syncStatus_same (state : String) (w : CMLWorker) :
    SameWorker w.state (syncStatus state now w).1.state := by
  unfold syncStatus
  split
  next => exact updateStatus_same now w .running
  split
  next =>
    exact (updateStatus_same now w .stopped).trans (updateDesiredStatus_same now _ .stopped _ _)
  split
  next => exact updateStatus_same now w .stopping
  split
  next => exact updateStatus_same now w .shuttingDown
  split
  next =>
    have h := w.terminate_sameSpec (some "system-sync") now
    exact ⟨h.id, h.awsInstanceId⟩
  next => exact ⟨rfl, rfl⟩

theorem reportedStatus_cases {state : String} {status : CMLWorkerStatus}
    (h : reportedStatus state = some status) :
    (state = "running" ∧ status = .running) ∨ (state = "stopped" ∧ status = .stopped)
      ∨ (state = "stopping" ∧ status = .stopping)
      ∨ (state = "shutting-down" ∧ status = .shuttingDown)
      ∨ (state = "terminated" ∧ status = .terminated) := by
  unfold reportedStatus at h
  repeat' split at h
  all_goals simp_all

/-- **The status is the one that EC2 gave**, and nothing is saved only where it was that before. -/
theorem syncStatus_status {state : String} {status : CMLWorkerStatus}
    (h : reportedStatus state = some status) (w : CMLWorker) :
    (syncStatus state now w).1.state.status = status
      ∧ ((syncStatus state now w).2 = false → w.state.status = status) := by
  by_cases hbefore : w.state.status = status
  · have heq : syncStatus state now w = (w, false) := by
      rcases reportedStatus_cases h with
        ⟨rfl, rfl⟩ | ⟨rfl, rfl⟩ | ⟨rfl, rfl⟩ | ⟨rfl, rfl⟩ | ⟨rfl, rfl⟩ <;>
        simp [syncStatus, hbefore]
    rw [heq]
    exact ⟨hbefore, fun _ => hbefore⟩
  · rcases reportedStatus_cases h with
      ⟨rfl, rfl⟩ | ⟨rfl, rfl⟩ | ⟨rfl, rfl⟩ | ⟨rfl, rfl⟩ | ⟨rfl, rfl⟩ <;> simp [syncStatus, hbefore]

/-- What an import makes of a worker: the same worker, in the status that EC2 gave. -/
theorem syncDiscovered_same (s : CMLWorkerState) :
    SameWorker s (syncDiscovered found now s).1 := by
  have hname := (backfillName_same found s).1
  have haddresses := (syncAddresses_same found now (load (backfillName found s))).1
  exact (hname.trans haddresses).trans (syncStatus_same now found.state _)

theorem syncDiscovered_status {status : CMLWorkerStatus}
    (h : reportedStatus found.state = some status) (s : CMLWorkerState) :
    (syncDiscovered found now s).1.status = status
      ∧ ((syncDiscovered found now s).2 = false → s.status = status) := by
  have haddresses := (syncAddresses_same found now (load (backfillName found s))).2
  obtain ⟨hstatus, hkept⟩ :=
    syncStatus_status now h (syncAddresses found now (load (backfillName found s))).1
  refine ⟨hstatus, fun hunsaved => ?_⟩
  rw [← hkept (Bool.or_eq_false_iff.mp hunsaved).1, haddresses]
  exact (backfillName_same found s).2.symm

end Synced

/-! ### One instance. -/

/-- What holds between the instances of a batch: a worker of the map is stored, with the instance
it is found under. -/
structure SoundImport (i : Importing) : Prop where
  unique : UniqueInstances i.workers
  known : ∀ instanceId w, i.known.get? instanceId = some w →
    w.awsInstanceId = some instanceId
      ∧ ∃ d, i.workers.find w.id = some d ∧ d.awsInstanceId = some instanceId

/-- The id that a new worker gets is not in use. -/
def FreshId (i : Importing) (turn : ImportTurn) : Prop := i.workers.find turn.newId = none

/-- `add_async` finds a worker with the instance iff there is one. -/
theorem findByInstance_none {workers : Workers} {instanceId : String}
    (h : findByInstance workers instanceId = none) {k : String} {d : CMLWorkerState}
    (hd : workers.find k = some d) : d.awsInstanceId ≠ some instanceId := by
  have hmem : d ∈ workers.all := by
    rw [Repository.mem_all_iff, Repository.id_of_find hd]
    exact hd
  have hnot := List.find?_eq_none.mp h d hmem
  simpa using hnot

theorem findByInstance_eq_none {workers : Workers} {instanceId : String}
    (h : ∀ k d, workers.find k = some d → d.awsInstanceId ≠ some instanceId) :
    findByInstance workers instanceId = none := by
  refine List.find?_eq_none.mpr fun d hd => ?_
  have hne := h d.id d (Repository.mem_all_iff.mp hd)
  simpa using hne

theorem importedWorker_eq (awsRegion source instanceId newId : String)
    (found : DiscoveredInstance) (now : Int) :
    let w := importedWorker awsRegion source instanceId newId found now
    w.id = newId ∧ w.awsInstanceId = some instanceId
      ∧ w.status = (CMLWorkerState.importedStatuses found.state).1 :=
  ⟨rfl, rfl, rfl⟩

section Turn

variable {awsRegion source : String} {i : Importing} {turn : ImportTurn} {instanceId : String}

/-- What an instance that is registered leaves under an id. -/
theorem find_sync (worker : CMLWorkerState) (k : String) :
    (i.sync turn instanceId worker).workers.find k
      = if ((syncDiscovered turn.found turn.now worker).2 && turn.raised.isNone) = true
          ∧ k = worker.id then
          some (syncDiscovered turn.found turn.now worker).1
        else i.workers.find k := by
  have hid := (syncDiscovered_same turn.found turn.now worker).id
  unfold Importing.sync
  dsimp only
  split
  next h =>
    rw [Repository.find_save_of_id hid]
    simp only [h, true_and]
  next h => rw [if_neg fun hboth => h hboth.1]

theorem sync_instances (hi : SoundImport i) {worker : CMLWorkerState}
    (hworker : i.known.get? instanceId = some worker) (k : String) :
    ((i.sync turn instanceId worker).workers.find k).map CMLWorkerState.awsInstanceId
      = (i.workers.find k).map CMLWorkerState.awsInstanceId := by
  obtain ⟨hinstance, d, hd, hdinstance⟩ := hi.known instanceId worker hworker
  rw [find_sync]
  split
  next h =>
    rw [h.2, hd, Option.map_some, Option.map_some, hdinstance,
      (syncDiscovered_same turn.found turn.now worker).awsInstanceId, hinstance]
  next => rfl

/-- Where the instances are the same, so is their uniqueness. -/
theorem unique_of_instances {workers workers' : Workers}
    (h : ∀ k, (workers'.find k).map CMLWorkerState.awsInstanceId
      = (workers.find k).map CMLWorkerState.awsInstanceId)
    (hunique : UniqueInstances workers) : UniqueInstances workers' := by
  intro k k' d d' instanceId hd hd' hinstance hinstance'
  have hk := h k
  have hk' := h k'
  rw [hd, Option.map_some, hinstance] at hk
  rw [hd', Option.map_some, hinstance'] at hk'
  obtain ⟨e, he, heinstance⟩ := Option.map_eq_some_iff.mp hk.symm
  obtain ⟨e', he', heinstance'⟩ := Option.map_eq_some_iff.mp hk'.symm
  exact hunique k k' e e' instanceId he he' heinstance heinstance'

theorem sync_sound (hi : SoundImport i) {worker : CMLWorkerState}
    (hworker : i.known.get? instanceId = some worker) :
    SoundImport (i.sync turn instanceId worker) := by
  have hinstances := @sync_instances i turn instanceId hi worker hworker
  refine ⟨unique_of_instances hinstances hi.unique, fun j w hw => ?_⟩
  have hknown : w.awsInstanceId = some j ∧ ∃ d, i.workers.find w.id = some d
      ∧ d.awsInstanceId = some j := by
    rcases Dict.get?_set_eq_some hw with ⟨rfl, rfl⟩ | ⟨-, hw⟩
    · have hsame := syncDiscovered_same turn.found turn.now worker
      have hworkerKnown := hi.known j worker hworker
      rw [hsame.id, hsame.awsInstanceId]
      exact hworkerKnown
    · exact hi.known j w hw
  obtain ⟨hinstance, d, hd, hdinstance⟩ := hknown
  have hat := hinstances w.id
  rw [hd, Option.map_some, hdinstance] at hat
  exact ⟨hinstance, Option.map_eq_some_iff.mp hat⟩

theorem add_sound (hi : SoundImport i) (hfresh : FreshId i turn) :
    SoundImport (i.add awsRegion source turn instanceId) := by
  unfold Importing.add
  split
  · exact ⟨hi.unique, hi.known⟩
  cases turn.raised with
  | some message => exact ⟨hi.unique, hi.known⟩
  | none =>
      cases hfind : findByInstance i.workers instanceId with
      | some existing => exact ⟨hi.unique, hi.known⟩
      | none =>
          dsimp only
          obtain ⟨hid, hinstance, -⟩ :=
            importedWorker_eq awsRegion source instanceId turn.newId turn.found turn.now
          refine ⟨?_, fun j w hw => ?_⟩
          · -- nobody else has the instance of the new worker
            have hnew : ∀ k d, i.workers.find k = some d → d.awsInstanceId ≠ some instanceId :=
              fun k d hd => findByInstance_none hfind hd
            intro k k' d d' j hd hd' hj hj'
            rw [Repository.find_save_of_id hid] at hd hd'
            split at hd <;> split at hd'
            next hk hk' => rw [hk, hk']
            next hk hk' =>
              obtain rfl := Option.some.inj hd
              rw [hinstance] at hj
              exact absurd (hj'.trans hj.symm) (hnew k' d' hd')
            next hk hk' =>
              obtain rfl := Option.some.inj hd'
              rw [hinstance] at hj'
              exact absurd (hj.trans hj'.symm) (hnew k d hd)
            next hk hk' => exact hi.unique k k' d d' j hd hd' hj hj'
          · obtain ⟨hwinstance, d, hd, hdinstance⟩ := hi.known j w hw
            refine ⟨hwinstance, d, ?_, hdinstance⟩
            have hne : w.id ≠ turn.newId := by
              intro heq
              rw [heq, hfresh] at hd
              cases hd
            rw [Repository.find_save_of_id hid, if_neg hne]
            exact hd

theorem importInstance_sound (hi : SoundImport i) (hfresh : FreshId i turn) :
    SoundImport (importInstance awsRegion source i turn) := by
  unfold importInstance
  cases givenText turn.found.instanceId with
  | none => exact hi
  | some instanceId =>
      dsimp only
      cases hworker : i.known.get? instanceId with
      | none => exact add_sound hi hfresh
      | some worker => exact sync_sound hi hworker

end Turn

/-- The workers before the first instance. -/
theorem start_sound {workers : Workers} (h : UniqueInstances workers) :
    SoundImport { workers := workers, known := existingWorkersMap workers } := by
  refine ⟨h, fun instanceId w hw => ?_⟩
  obtain ⟨d, hd, hmap⟩ := List.mem_filterMap.mp (Dict.mem_of_get?_ofList hw)
  obtain ⟨j, hj, heq⟩ := Option.map_eq_some_iff.mp hmap
  obtain ⟨rfl, rfl⟩ := Prod.mk.inj heq
  have hinstance := givenText_eq_some hj
  exact ⟨hinstance, d, Repository.mem_all_iff.mp hd, hinstance⟩

/-! ## §3. The status of every instance. -/

/-- The batch has not touched the instance: the map has the worker that is stored, and nothing where
there is none. -/
structure Untouched (instanceId : String) (i : Importing) : Prop where
  known : ∀ w, i.known.get? instanceId = some w → i.workers.find w.id = some w
  unknown : i.known.get? instanceId = none →
    ∀ k d, i.workers.find k = some d → d.awsInstanceId ≠ some instanceId

/-- The workers with an instance are the same. -/
def SameFor (instanceId : String) (workers workers' : Workers) : Prop :=
  ∀ k d, d.awsInstanceId = some instanceId →
    (workers'.find k = some d ↔ workers.find k = some d)

section Frame

variable {awsRegion source : String} {i : Importing} {turn : ImportTurn} {instanceId : String}

/-- **An instance of the batch is nothing to the workers of the others.** -/
theorem importInstance_frame (hi : SoundImport i) (hfresh : FreshId i turn)
    (hother : givenText turn.found.instanceId ≠ some instanceId) :
    SameFor instanceId i.workers (importInstance awsRegion source i turn).workers
      ∧ (importInstance awsRegion source i turn).known.get? instanceId
        = i.known.get? instanceId := by
  unfold importInstance
  cases hgiven : givenText turn.found.instanceId with
  | none => exact ⟨fun _ _ _ => Iff.rfl, rfl⟩
  | some j =>
      have hne : instanceId ≠ j := fun heq => hother (hgiven.trans (congrArg some heq.symm))
      dsimp only
      cases hworker : i.known.get? j with
      | some worker =>
          obtain ⟨hinstance, d₀, hd₀, hinstance₀⟩ := hi.known j worker hworker
          have hsame := syncDiscovered_same turn.found turn.now worker
          refine ⟨fun k d hd => ?_, Dict.get?_set_ne _ _ _ hne⟩
          show (i.sync turn j worker).workers.find k = some d ↔ _
          rw [find_sync]
          split
          next h =>
            -- under this id there is a worker of the other instance, before and after
            rw [h.2, hd₀]
            refine iff_of_false (fun h => ?_) fun h => ?_
            · obtain rfl := Option.some.inj h
              rw [hsame.awsInstanceId, hinstance] at hd
              exact hne (Option.some.inj hd).symm
            · obtain rfl := Option.some.inj h
              rw [hinstance₀] at hd
              exact hne (Option.some.inj hd).symm
          next => exact Iff.rfl
      | none =>
          show SameFor instanceId i.workers (i.add awsRegion source turn j).workers ∧ _
          unfold Importing.add
          split
          · exact ⟨fun _ _ _ => Iff.rfl, rfl⟩
          cases turn.raised with
          | some message => exact ⟨fun _ _ _ => Iff.rfl, rfl⟩
          | none =>
              cases findByInstance i.workers j with
              | some existing => exact ⟨fun _ _ _ => Iff.rfl, rfl⟩
              | none =>
                  obtain ⟨hid, hinstance, -⟩ :=
                    importedWorker_eq awsRegion source j turn.newId turn.found turn.now
                  refine ⟨fun k d hd => ?_, rfl⟩
                  rw [Repository.find_save_of_id hid]
                  split
                  next h =>
                    have hnone : i.workers.find k = none := h ▸ hfresh
                    rw [hnone]
                    refine iff_of_false (fun h => ?_) fun h => by cases h
                    obtain rfl := Option.some.inj h
                    rw [hinstance] at hd
                    exact hne (Option.some.inj hd).symm
                  next => exact Iff.rfl

theorem Untouched.frame {i' : Importing} (h : Untouched instanceId i) (hi : SoundImport i)
    (hsame : SameFor instanceId i.workers i'.workers)
    (hknown : i'.known.get? instanceId = i.known.get? instanceId) :
    Untouched instanceId i' := by
  refine ⟨fun w hw => ?_, fun hnone k d hd hinstance => ?_⟩
  · rw [hknown] at hw
    exact (hsame w.id w (hi.known instanceId w hw).1).mpr (h.known w hw)
  · rw [hknown] at hnone
    exact h.unknown hnone k d ((hsame k d hinstance).mp hd) hinstance

/-- The workers with the instance are in the status, and there is one unless the instance is on
its way out. -/
structure Reflects (instanceId : String) (status : CMLWorkerStatus) (workers : Workers) :
    Prop where
  inStatus : ∀ k d, workers.find k = some d → d.awsInstanceId = some instanceId →
    d.status = status
  exists_worker : status ≠ .shuttingDown → status ≠ .terminated →
    ∃ k d, workers.find k = some d ∧ d.awsInstanceId = some instanceId

theorem Reflects.frame {status : CMLWorkerStatus} {workers workers' : Workers}
    (h : Reflects instanceId status workers) (hsame : SameFor instanceId workers workers') :
    Reflects instanceId status workers' := by
  refine ⟨fun k d hd hinstance => h.inStatus k d ((hsame k d hinstance).mp hd) hinstance,
    fun hdown hover => ?_⟩
  obtain ⟨k, d, hd, hinstance⟩ := h.exists_worker hdown hover
  exact ⟨k, d, (hsame k d hinstance).mpr hd, hinstance⟩

/-- **Its own turn brings the instance up to date.** -/
theorem importInstance_reflects (hi : SoundImport i) (hfresh : FreshId i turn)
    (huntouched : Untouched instanceId i)
    (hgiven : givenText turn.found.instanceId = some instanceId) (hsaves : turn.raised = none)
    {status : CMLWorkerStatus} (hstatus : reportedStatus turn.found.state = some status) :
    Reflects instanceId status (importInstance awsRegion source i turn).workers := by
  have hsound := @importInstance_sound awsRegion source i turn hi hfresh
  revert hsound
  unfold importInstance
  rw [hgiven]
  dsimp only
  cases hworker : i.known.get? instanceId with
  | some worker =>
      intro hsound
      -- the one worker with the instance is the one of the map
      have hstored := huntouched.known worker hworker
      obtain ⟨hafter, hkept⟩ := syncDiscovered_status turn.found turn.now hstatus worker
      have hsame := syncDiscovered_same turn.found turn.now worker
      have hinstance := (hi.known instanceId worker hworker).1
      have hat : ∃ d, (i.sync turn instanceId worker).workers.find worker.id = some d
          ∧ d.awsInstanceId = some instanceId ∧ d.status = status := by
        rw [find_sync, hsaves]
        cases hsaved : (syncDiscovered turn.found turn.now worker).2 with
        | true => exact ⟨_, if_pos ⟨rfl, rfl⟩, hsame.awsInstanceId.trans hinstance, hafter⟩
        | false =>
            refine ⟨worker, ?_, hinstance, hkept hsaved⟩
            rw [if_neg fun h => Bool.false_ne_true h.1]
            exact hstored
      obtain ⟨d₀, hd₀, hinstance₀, hstatus₀⟩ := hat
      refine ⟨fun k d hd hdinstance => ?_, fun _ _ => ⟨worker.id, d₀, hd₀, hinstance₀⟩⟩
      have hk := hsound.unique k worker.id d d₀ instanceId hd hd₀ hdinstance hinstance₀
      rw [hk, hd₀] at hd
      rw [← Option.some.inj hd]
      exact hstatus₀
  | none =>
      intro _
      have hnobody := huntouched.unknown hworker
      show Reflects instanceId status (i.add awsRegion source turn instanceId).workers
      unfold Importing.add
      split
      next hgone =>
        refine ⟨fun k d hd hinstance => absurd hinstance (hnobody k d hd), fun hdown hover => ?_⟩
        rcases reportedStatus_cases hstatus with ⟨h, -⟩ | ⟨h, -⟩ | ⟨h, -⟩ | ⟨-, h⟩ | ⟨-, h⟩
        · rcases hgone with hgone | hgone <;> simp [h] at hgone
        · rcases hgone with hgone | hgone <;> simp [h] at hgone
        · rcases hgone with hgone | hgone <;> simp [h] at hgone
        · exact absurd h hdown
        · exact absurd h hover
      next hthere =>
        rw [hsaves, findByInstance_eq_none hnobody]
        dsimp only
        obtain ⟨hid, hinstance, himported⟩ :=
          importedWorker_eq awsRegion source instanceId turn.newId turn.found turn.now
        have hnew : (importedWorker awsRegion source instanceId turn.newId turn.found
            turn.now).status = status := by
          rw [himported]
          rcases reportedStatus_cases hstatus with ⟨h, rfl⟩ | ⟨h, rfl⟩ | ⟨h, rfl⟩ | ⟨h, -⟩ | ⟨h, -⟩
          · rw [h]
            rfl
          · rw [h]
            rfl
          · rw [h]
            rfl
          · exact absurd (.inr h) hthere
          · exact absurd (.inl h) hthere
        refine ⟨fun k d hd hdinstance => ?_, fun _ _ => ⟨turn.newId, _, ?_, hinstance⟩⟩
        · rw [Repository.find_save_of_id hid] at hd
          split at hd
          next =>
            rw [← Option.some.inj hd]
            exact hnew
          next => exact absurd hdinstance (hnobody k d hd)
        · rw [Repository.find_save_of_id hid, if_pos rfl]

end Frame

section Batch

variable {awsRegion source : String} {turns : List ImportTurn} {workers : Workers}

/-- **No two workers get the same instance**, also if an instance is reported twice and whichever
saves fail. -/
theorem import_unique (h : UniqueInstances workers)
    (hfresh : Meets (importInstance awsRegion source) FreshId
      { workers := workers, known := existingWorkersMap workers } turns) :
    UniqueInstances (bulkImport awsRegion source turns workers).workers :=
  (hfresh.invariant (fun _ _ hi hfresh => importInstance_sound hi hfresh) (start_sound h)).unique

/-- The instances before and after one of the batch leave its workers alone. -/
theorem replay_frame {instanceId : String} :
    ∀ {turns : List ImportTurn} {i : Importing}, SoundImport i →
      Meets (importInstance awsRegion source) FreshId i turns →
      (∀ turn ∈ turns, givenText turn.found.instanceId ≠ some instanceId) →
      let i' := replay (importInstance awsRegion source) i turns
      SoundImport i' ∧ (Untouched instanceId i → Untouched instanceId i')
        ∧ ∀ status, Reflects instanceId status i.workers → Reflects instanceId status i'.workers
  | [], _, hi, _, _ => ⟨hi, id, fun _ => id⟩
  | turn :: rest, i, hi, ⟨hfresh, hmeets⟩, hother => by
      obtain ⟨hthis, hrest⟩ := List.forall_mem_cons.mp hother
      obtain ⟨hsame, hknown⟩ := @importInstance_frame awsRegion source i turn instanceId hi hfresh
        hthis
      obtain ⟨hsound, huntouched, hreflects⟩ :=
        replay_frame (importInstance_sound hi hfresh) hmeets hrest
      exact ⟨hsound, fun h => huntouched (h.frame hi hsame hknown),
        fun status h => hreflects status (h.frame hsame)⟩

theorem start_untouched {instanceId : String}
    (hgiven : givenText (some instanceId) = some instanceId) :
    Untouched instanceId { workers := workers, known := existingWorkersMap workers } := by
  refine ⟨fun w hw => ?_, fun hnone k d hd hinstance => ?_⟩
  · obtain ⟨d, hd, hmap⟩ := List.mem_filterMap.mp (Dict.mem_of_get?_ofList hw)
    obtain ⟨j, -, heq⟩ := Option.map_eq_some_iff.mp hmap
    obtain ⟨-, rfl⟩ := Prod.mk.inj heq
    exact Repository.mem_all_iff.mp hd
  · have hmem : d ∈ workers.all := by
      rw [Repository.mem_all_iff, Repository.id_of_find hd]
      exact hd
    have hentry : (instanceId, d) ∈ workers.all.filterMap fun w =>
        (givenText w.awsInstanceId).map fun i => (i, w) := by
      refine List.mem_filterMap.mpr ⟨d, hmem, ?_⟩
      rw [hinstance, hgiven]
      rfl
    obtain ⟨v, hv⟩ := Dict.exists_get?_ofList (List.mem_map_of_mem hentry)
    exact absurd (hnone.symm.trans hv) (Option.some_ne_none v).symm

/-- **After a batch every instance of it has its worker**, in the status that EC2 gave. -/
theorem import_reflects (h : UniqueInstances workers)
    (hfresh : Meets (importInstance awsRegion source) FreshId
      { workers := workers, known := existingWorkersMap workers } turns)
    (hdistinct : (turns.filterMap fun turn => givenText turn.found.instanceId).Nodup)
    (hsaves : ∀ turn ∈ turns, turn.raised = none) {turn : ImportTurn} (hturn : turn ∈ turns)
    {instanceId : String} (hgiven : givenText turn.found.instanceId = some instanceId)
    {status : CMLWorkerStatus} (hstatus : reportedStatus turn.found.state = some status) :
    Reflects instanceId status (bulkImport awsRegion source turns workers).workers := by
  have hsaved := hsaves turn hturn
  obtain ⟨before, after, rfl⟩ := List.append_of_mem hturn
  -- the instance is reported once
  rw [List.filterMap_append,
    List.filterMap_cons_some (f := fun turn : ImportTurn => givenText turn.found.instanceId) hgiven,
    List.nodup_middle, List.nodup_cons, List.mem_append, not_or] at hdistinct
  obtain ⟨⟨hnotBefore, hnotAfter⟩, -⟩ := hdistinct
  have hbefore : ∀ t ∈ before, givenText t.found.instanceId ≠ some instanceId :=
    fun t ht heq => hnotBefore (List.mem_filterMap.mpr ⟨t, ht, heq⟩)
  have hafter : ∀ t ∈ after, givenText t.found.instanceId ≠ some instanceId :=
    fun t ht heq => hnotAfter (List.mem_filterMap.mpr ⟨t, ht, heq⟩)
  obtain ⟨hfreshBefore, hfreshTurn, hfreshAfter⟩ := (meets_append before _ _).mp hfresh
  have hstart : givenText (some instanceId) = some instanceId := by
    have hsome := givenText_eq_some hgiven
    rw [hsome] at hgiven
    exact hgiven
  obtain ⟨hsound, huntouched, -⟩ := replay_frame (start_sound h) hfreshBefore hbefore
  obtain ⟨-, -, hreflects⟩ :=
    replay_frame (importInstance_sound hsound hfreshTurn) hfreshAfter hafter
  unfold bulkImport
  rw [replay_append, replay_cons]
  exact hreflects status (importInstance_reflects hsound hfreshTurn
    (huntouched (start_untouched hstart)) hgiven hsaved hstatus)

end Batch

/-- A batch of two instances, of which one is registered. -/
def batchOfTwo : List ImportTurn :=
  [{ found := { instanceId := some "i-1", state := "running" }, now := 5, newId := "w-2" },
    { found := { instanceId := some "i-2", state := "stopping" }, now := 5, newId := "w-3" }]

/-- The one worker before the batch. -/
def oneWorker : Workers :=
  Repository.empty.save
    { id := "w-1", createdAt := 0, updatedAt := 0, awsInstanceId := some "i-1", status := .stopped }

theorem oneWorker_unique : UniqueInstances oneWorker := by
  intro k k' d d' instanceId hd hd' _ _
  unfold oneWorker at hd hd'
  rw [Repository.find_save] at hd hd'
  split at hd
  next hk =>
    split at hd'
    next hk' => rw [hk, hk']
    next => cases hd'
  next => cases hd

theorem batchOfTwo_fresh : Meets (importInstance "us-east-1" "discovery") FreshId
    { workers := oneWorker, known := existingWorkersMap oneWorker } batchOfTwo :=
  ⟨rfl, rfl, trivial⟩

theorem import_unique_two :
    UniqueInstances (bulkImport "us-east-1" "discovery" batchOfTwo oneWorker).workers :=
  import_unique oneWorker_unique batchOfTwo_fresh

theorem import_reflects_two :
    Reflects "i-2" .stopping
      (bulkImport "us-east-1" "discovery" batchOfTwo oneWorker).workers :=
  import_reflects oneWorker_unique batchOfTwo_fresh (by decide) (by simp [batchOfTwo])
    (List.mem_cons_of_mem _ (List.mem_singleton_self _)) rfl rfl

/-! ## §4. The addresses. -/

/-- The worker after a discovery of its instance. -/
def discoverStep (s : CMLWorkerState) (d : Int × DiscoveredInstance) : CMLWorkerState :=
  (syncRegistered d.2 d.1 s).after s

/-- Of the details of the instance at most the private address is left. -/
structure Erased (s : CMLWorkerState) : Prop where
  publicIp : s.publicIp = none
  instanceType : s.instanceType = none
  amiId : s.amiId = none
  amiName : s.amiName = none

theorem updateStatus_erased {w : CMLWorker} (h : Erased w.state) (status : CMLWorkerStatus)
    (now : Int) : Erased (w.updateStatus status now).state := by
  unfold CMLWorker.updateStatus
  split
  next => exact h
  next =>
    cases status with
    | stopped => exact ⟨rfl, h.instanceType, h.amiId, h.amiName⟩
    | _ => exact ⟨h.publicIp, h.instanceType, h.amiId, h.amiName⟩

theorem terminate_erased {w : CMLWorker} (h : Erased w.state) (terminatedBy : Option String)
    (now : Int) : Erased (w.terminate terminatedBy now).state := by
  unfold CMLWorker.terminate
  simp only [CMLWorker.raise_state, CMLWorkerState.on, CMLWorkerState.computeDuration]
  split <;> exact ⟨h.publicIp, h.instanceType, h.amiId, h.amiName⟩

/-- The status that is set after the addresses brings no detail back. -/
theorem syncStatus_erased {w : CMLWorker} (h : Erased w.state) (state : String) (now : Int) :
    Erased (syncStatus state now w).1.state := by
  unfold syncStatus
  split
  next => exact updateStatus_erased h .running now
  split
  next =>
    have hstopped := updateStatus_erased h .stopped now
    rcases (w.updateStatus .stopped now).updateDesiredStatus_state .stopped (some "system-sync")
      (some "Aligned with actual EC2 stopped state detected during discovery") now with heq | heq
    · rw [heq]
      exact hstopped
    · rw [heq]
      exact ⟨hstopped.publicIp, hstopped.instanceType, hstopped.amiId, hstopped.amiName⟩
  split
  next => exact updateStatus_erased h .stopping now
  split
  next => exact updateStatus_erased h .shuttingDown now
  split
  next => exact terminate_erased h (some "system-sync") now
  next => exact h

/-- The instance is found with both its addresses. -/
def HasAddresses (found : DiscoveredInstance) : Prop :=
  ∃ publicIp privateIp, (publicIp ≠ "" ∧ privateIp ≠ "")
    ∧ found.publicIp = some publicIp ∧ found.privateIp = some privateIp

/-- One of them is not the recorded one. -/
def Differs (found : DiscoveredInstance) (s : CMLWorkerState) : Prop :=
  s.publicIp ≠ found.publicIp ∨ s.privateIp ≠ found.privateIp

theorem syncAddress_held {ip : String} {held : CMLWorkerState → Option String}
    {details : String → Ec2Details} {now : Int} {w : CMLWorker × Bool} (hip : ip ≠ "")
    (h : held w.1.state = some ip) : syncAddress (some ip) held details now w = w := by
  unfold syncAddress
  rw [ControlPlane.givenText_some hip]
  exact if_pos h

theorem syncAddress_other {ip : String} {held : CMLWorkerState → Option String}
    {details : String → Ec2Details} {now : Int} {w : CMLWorker × Bool} (hip : ip ≠ "")
    (h : held w.1.state ≠ some ip) :
    syncAddress (some ip) held details now w
      = (w.1.updateEc2InstanceDetails (details ip) now, true) := by
  unfold syncAddress
  rw [ControlPlane.givenText_some hip]
  exact if_neg h

/-- The second address that is written erases the first one. -/
theorem syncAddresses_erases {found : DiscoveredInstance} (hfound : HasAddresses found)
    {w : CMLWorker} (hdiffers : Differs found w.state) (now : Int) :
    (syncAddresses found now w).2 = true ∧ Erased (syncAddresses found now w).1.state := by
  obtain ⟨publicIp, privateIp, ⟨hpublic, hprivate⟩, hpublicIp, hprivateIp⟩ := hfound
  unfold Differs at hdiffers
  unfold syncAddresses
  rw [hpublicIp, hprivateIp] at hdiffers ⊢
  by_cases hsame : w.state.publicIp = some publicIp
  · have hother := hdiffers.resolve_left fun h => h hsame
    rw [syncAddress_held hpublic hsame, syncAddress_other hprivate hother]
    exact ⟨rfl, rfl, rfl, rfl, rfl⟩
  · -- with the public address the private one was erased, so that it is written in turn
    rw [syncAddress_other hpublic hsame,
      syncAddress_other hprivate (Option.some_ne_none privateIp).symm]
    exact ⟨rfl, rfl, rfl, rfl, rfl⟩

/-- **A discovery that writes an address erases the details**, the public address too. -/
theorem discoverStep_erases {s : CMLWorkerState} {d : Int × DiscoveredInstance}
    (hfound : HasAddresses d.2) (hdiffers : Differs d.2 s) : Erased (discoverStep s d) := by
  have hname : (backfillName d.2 s).publicIp = s.publicIp
      ∧ (backfillName d.2 s).privateIp = s.privateIp := by
    unfold backfillName
    cases givenText d.2.name with
    | none => exact ⟨rfl, rfl⟩
    | some name =>
        dsimp only
        split <;> exact ⟨rfl, rfl⟩
  unfold Differs at hdiffers
  rw [← hname.1, ← hname.2] at hdiffers
  obtain ⟨hchanged, herased⟩ :=
    @syncAddresses_erases d.2 hfound (load (backfillName d.2 s)) hdiffers d.1
  unfold discoverStep syncRegistered syncDiscovered
  simp only [hchanged, Bool.or_true, if_true]
  exact syncStatus_erased herased d.2.state d.1

/-- **An address that has changed is gone for good**: from the first discovery that finds another
one the worker has no public address after any discovery, whatever addresses and states EC2
gives. -/
theorem discovery_forgets {s : CMLWorkerState} {first : Int × DiscoveredInstance}
    {rest : List (Int × DiscoveredInstance)} (hdiffers : Differs first.2 s)
    (hfound : ∀ d ∈ first :: rest, HasAddresses d.2) :
    Erased (replay discoverStep s (first :: rest)) := by
  induction rest generalizing s first with
  | nil => exact discoverStep_erases (hfound first List.mem_cons_self) hdiffers
  | cons next rest ih =>
      obtain ⟨hfirst, hrest⟩ := List.forall_mem_cons.mp hfound
      have herased := discoverStep_erases hfirst hdiffers
      obtain ⟨publicIp, -, -, hpublicIp, -⟩ := hrest next List.mem_cons_self
      rw [replay_cons]
      refine ih (.inl ?_) hrest
      rw [herased.publicIp, hpublicIp]
      exact (Option.some_ne_none publicIp).symm

/-- The worker was stopped and started twice, and runs under other public addresses. -/
theorem discovery_forgets_restarted :
    let s : CMLWorkerState :=
      { createdAt := 0, updatedAt := 0, status := .running, awsInstanceId := some "i-1",
        publicIp := some "3.0.0.1", privateIp := some "10.0.0.1", amiId := some "ami-1" }
    let found : DiscoveredInstance :=
      { instanceId := some "i-1", state := "running", publicIp := some "3.0.0.2",
        privateIp := some "10.0.0.1" }
    let later : DiscoveredInstance := { found with publicIp := some "3.0.0.3" }
    Erased (replay discoverStep s [(5, found), (305, found), (605, later)]) := by
  intro s found later
  have haddresses : ∀ publicIp, publicIp ≠ "" →
      HasAddresses { found with publicIp := some publicIp } := fun publicIp hpublic =>
    ⟨publicIp, "10.0.0.1", ⟨hpublic, by decide⟩, rfl, rfl⟩
  refine discovery_forgets (.inl (by decide)) fun d hd => ?_
  simp only [List.mem_cons, List.not_mem_nil, or_false] at hd
  rcases hd with rfl | rfl | rfl
  · exact haddresses "3.0.0.2" (by decide)
  · exact haddresses "3.0.0.2" (by decide)
  · exact haddresses "3.0.0.3" (by decide)

end CmlCloudManager.Worker
