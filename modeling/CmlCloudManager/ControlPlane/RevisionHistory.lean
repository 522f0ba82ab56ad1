/-
  CmlCloudManager.ControlPlane.RevisionHistory
  ────────────────────────────────────────────
  **THE TOPOLOGY REVISIONS OF A LAB.**

  A lab keeps the number of its topology revision and a history of the revisions it
  had.  Two handlers write them: a topology that differs from the last entry is
  appended under the next number, and an import starts a history of its own at
  number one.

  Main results:
    • `revised_effect`         — what one update makes of the number and the history,
    • `Revisions.revised`      — every update keeps the history in order,
    • `revision_history_iff`   — the number never falls iff no import is accepted for
      a lab that is past its first revision.
-/
import CmlCloudManager.ControlPlane.DiscoveryFreshness

namespace CmlCloudManager.ControlPlane

open CmlCloudManager.Foundation CmlCloudManager.Pipeline

/-! ## §1. Updates of a record. -/

/-- What can happen to a record: an operation, or an entry of a scan. -/
inductive LabUpdate where
  | operation (now : Int) (operation : LabOperation)
  | discovery (now : Int) (data : Payload)

namespace LabRecord

/-- The record in memory after an update: what was done before it raised stays. -/
def revised (py : PythonLibrary) (lab : LabRecord) : LabUpdate → LabRecord
  | .operation now operation => (lab.perform py now operation).lab
  | .discovery now data => (lab.updateExistingRecord py now data).lab

/-- A record that was just made. -/
inductive Created : LabRecord → Prop where
  | create {newId : NewId} {now : Int} {labId workerId : String} {cml : CmlLab}
      {cmlCreatedAt : Option Int} {lab : LabRecord}
      (made : LabRecord.create newId now labId workerId cml cmlCreatedAt = .ok lab) : Created lab
  | discover {newId : NewId} {now : Int} {labId workerId : String}
      {title description state ownerUsername nodeCount linkCount notes workerIp
        basedOnDefinitionId : Value} {lab : LabRecord}
      (made : LabRecord.discover newId now labId workerId title description state ownerUsername
        nodeCount linkCount notes workerIp basedOnDefinitionId = .ok lab) : Created lab
  | scan {newId : NewId} {now : Int} {workerId : String} {data : Payload} {lab : LabRecord}
      (made : createDiscoveredRecord newId now workerId data = .ok lab) : Created lab
  | clone {newId : NewId} {now : Int} {cloneLabId : NewId} {title : Option String}
      {source lab : LabRecord}
      (made : LabRecord.clone newId now cloneLabId title source = .ok lab) : Created lab

/-- The import is one that the record accepts. -/
def AcceptsImport (lab : LabRecord) (labId workerId topologyChecksum : String) : Prop :=
  .defined ∈ labRecordValidTransitions lab.status ∧ workerId ≠ "" ∧ labId ≠ ""
    ∧ topologyChecksum ≠ ""

/-- **When an update does not take a revision back**: it is no import, or the import is refused,
or the lab is at its first revision. -/
def KeepsRevision (lab : LabRecord) : LabUpdate → Prop
  | .operation _ (.markImported labId workerId _ topologyChecksum _) =>
      lab.AcceptsImport labId workerId topologyChecksum → lab.revision ≤ 1
  | _ => True

/-- **A history in order**: the numbers go up by one, no two neighbours have one checksum, and the
last number is the one of the record. -/
structure Revisions (lab : LabRecord) : Prop where
  consecutive : lab.revisionHistory.IsChain fun before after =>
    after.revision = before.revision + 1
  distinct : lab.revisionHistory.IsChain fun before after =>
    before.topologyChecksum ≠ after.topologyChecksum
  last : ∀ entry, lab.revisionHistory.getLast? = some entry → entry.revision = lab.revision

/-! ## §2. What an update makes of number and history. -/

/-- Number and history are the same. -/
structure Unrevised (lab lab' : LabRecord) : Prop where
  revision : lab'.revision = lab.revision
  history : lab'.revisionHistory = lab.revisionHistory

/-- A revision was appended, and its checksum is a new one. -/
structure Appended (lab lab' : LabRecord) (entry : LabRevision) : Prop where
  history : lab'.revisionHistory = lab.revisionHistory ++ [entry]
  revision : lab'.revision = lab.revision + 1
  number : entry.revision = lab.revision + 1
  changed : lab.revisionHistory.getLast?.map LabRevision.topologyChecksum
    ≠ some entry.topologyChecksum

/-- The history was started anew. -/
structure Restarted (lab' : LabRecord) (entry : LabRevision) : Prop where
  history : lab'.revisionHistory = [entry]
  revision : lab'.revision = 1
  number : entry.revision = 1

variable {py : PythonLibrary} {now : Int} {lab lab' lab'' : LabRecord}

theorem Unrevised.refl (lab : LabRecord) : Unrevised lab lab := ⟨rfl, rfl⟩

theorem Unrevised.trans (h : Unrevised lab lab') (h' : Unrevised lab' lab'') :
    Unrevised lab lab'' :=
  ⟨h'.revision.trans h.revision, h'.history.trans h.history⟩

/-- A topology that was kept is one with its revisions. -/
theorem Unrevised.of_topology (h : lab'.topology = lab.topology) : Unrevised lab lab' :=
  ⟨congrArg LabTopology.revision h, congrArg LabTopology.revisionHistory h⟩

/-- What an update does to the revisions. -/
inductive RevisionEffect (lab lab' : LabRecord) : Prop where
  | kept (unrevised : Unrevised lab lab')
  | appended {entry : LabRevision} (appended : Appended lab lab' entry)

theorem Unrevised.effect (h : Unrevised lab lab') (h' : RevisionEffect lab' lab'') :
    RevisionEffect lab lab'' := by
  cases h' with
  | kept unrevised => exact .kept (h.trans unrevised)
  | @appended entry appended =>
      refine @RevisionEffect.appended _ _ entry ⟨?_, ?_, ?_, ?_⟩
      · rw [appended.history, h.history]
      · rw [appended.revision, h.revision]
      · rw [appended.number, h.revision]
      · rw [← h.history]
        exact appended.changed

theorem RevisionEffect.unrevised (h : RevisionEffect lab lab') (h' : Unrevised lab' lab'') :
    RevisionEffect lab lab'' := by
  cases h with
  | kept unrevised => exact .kept (unrevised.trans h')
  | appended appended =>
      exact .appended ⟨h'.history.trans appended.history, h'.revision.trans appended.revision,
        appended.number, appended.changed⟩

/-- `update_topology` appends a revision exactly when the checksum is not the last one. -/
theorem updateTopology_effect (py : PythonLibrary) (lab : LabRecord) (now : Int)
    (spec : LabTopologySpec) (changeSummary : Option String) :
    RevisionEffect lab (lab.updateTopology py now spec changeSummary) := by
  unfold updateTopology
  dsimp only
  split
  next => exact .kept ⟨rfl, rfl⟩
  next hnew => exact .appended ⟨rfl, rfl, rfl, hnew⟩

/-! ### A synchronisation. -/

theorem syncStatus_unrevised (lab : LabRecord) (now : Int) (target : Option LabRecordStatus)
    (reason : String) : Unrevised lab (lab.syncStatus now target reason) := by
  unfold syncStatus
  split <;> exact ⟨rfl, rfl⟩

theorem onLabStateChanged_unrevised (lab : LabRecord) (now : Int) (newState : Value) :
    Unrevised lab (lab.onLabStateChanged now newState).lab := by
  have hchanged : Unrevised lab { lab with state := newState } := ⟨rfl, rfl⟩
  unfold onLabStateChanged
  cases mappedStatus newState with
  | error e => exact hchanged
  | ok target => exact hchanged.trans (syncStatus_unrevised ..)

theorem onLabRecordUpdated_unrevised (lab : LabRecord) (now : Int) (cml : CmlLab) :
    Unrevised lab (lab.onLabRecordUpdated now cml).lab := by
  have hupdated : Unrevised lab (lab.withCml now cml) := ⟨rfl, rfl⟩
  unfold onLabRecordUpdated
  cases mappedStatus cml.state with
  | error e => exact hupdated
  | ok target => exact hupdated.trans (syncStatus_unrevised ..)

theorem applyCml_unrevised (lab : LabRecord) (now : Int) (cml : CmlLab) :
    Unrevised lab (lab.applyCml now cml).lab := by
  have hchanged := onLabStateChanged_unrevised lab now cml.state
  unfold applyCml Attempt.andThen
  split
  next =>
    split
    next => exact hchanged
    next => exact hchanged.trans (onLabRecordUpdated_unrevised ..)
  next => exact onLabRecordUpdated_unrevised ..

theorem updateFromCml_unrevised (lab : LabRecord) (now : Int) (cml : CmlLab) :
    Unrevised lab (lab.updateFromCml now cml).lab := by
  have hip : Unrevised lab (lab.withWorkerIp cml.workerIp) := by
    cases cml.workerIp <;> exact ⟨rfl, rfl⟩
  unfold updateFromCml
  split
  next => exact Unrevised.refl lab
  next => exact hip.trans (applyCml_unrevised ..)

/-! ### An entry of a scan. -/

theorem applyYaml_effect (py : PythonLibrary) (now : Int) (lab : LabRecord) (data : Payload) :
    RevisionEffect lab (lab.applyYaml py now data) := by
  unfold applyYaml
  split
  next => exact .kept (Unrevised.refl lab)
  next => exact updateTopology_effect ..

theorem applyTopologyFromDiscovery_unrevised (lab : LabRecord) (data : Payload) :
    Unrevised lab (lab.applyTopologyFromDiscovery data) := by
  unfold applyTopologyFromDiscovery
  split <;> exact ⟨rfl, rfl⟩

theorem settleScan_effect (py : PythonLibrary) (now : Int) (lab : LabRecord) (data : Payload) :
    RevisionEffect lab (lab.settleScan py now data).lab := by
  unfold settleScan
  cases mappedStatus (data.getD "state" (.str "")) with
  | error e => exact .kept (Unrevised.refl lab)
  | ok mapped =>
      dsimp only
      have hstatus := Unrevised.of_topology (setMappedStatus_sameCml lab mapped).2
      have hnodes := applyTopologyFromDiscovery_unrevised (lab.setMappedStatus mapped) data
      exact ((hstatus.trans hnodes).effect (applyYaml_effect ..)).unrevised
        (.of_topology (unorphan_sameCml _).2)

theorem updateExistingRecord_revisions (py : PythonLibrary) (now : Int) (lab : LabRecord)
    (data : Payload) : RevisionEffect lab (lab.updateExistingRecord py now data).lab := by
  unfold updateExistingRecord
  dsimp only
  have hlinked := Unrevised.of_topology
    (linkToDefinition_sameCml lab (data.get "based_on_definition_id")).2
  cases parseModifiedAt py now data with
  | error e => exact .kept hlinked
  | ok cmlModifiedAt =>
      dsimp only
      have hsynced := hlinked.trans (updateFromCml_unrevised _ now (.ofScan data cmlModifiedAt))
      unfold Attempt.andThen
      split
      next => exact .kept hsynced
      next => exact hsynced.effect (settleScan_effect ..)

/-! ### An import. -/

/-- An import that is accepted starts the history anew, and any other leaves it alone. -/
theorem markImported_revisions (lab : LabRecord) (now : Int)
    (labId workerId : String) (title : Value) (topologyChecksum importedBy : String) :
    (¬ lab.AcceptsImport labId workerId topologyChecksum
        ∧ Unrevised lab
          (lab.markImported now labId workerId title topologyChecksum importedBy).lab)
      ∨ lab.AcceptsImport labId workerId topologyChecksum
        ∧ ∃ entry, Restarted
          (lab.markImported now labId workerId title topologyChecksum importedBy).lab entry := by
  unfold markImported AcceptsImport
  by_cases hmem : .defined ∈ labRecordValidTransitions lab.status
  · rw [validateTransition_ok hmem]
    dsimp only
    unfold onLabRecordImported
    dsimp only
    split
    next e hrefused =>
      refine .inl ⟨?_, rfl, rfl⟩
      rintro ⟨-, hworker, hlab, -⟩
      exact (forCml_refused hrefused).elim hworker hlab
    next u hbound =>
      obtain ⟨hworker, hlab⟩ := forCml_given hbound
      split
      next hempty => exact .inl ⟨fun h => h.2.2.2 hempty, rfl, rfl⟩
      next hgiven => exact .inr ⟨⟨hmem, hworker, hlab, hgiven⟩, _, rfl, rfl, rfl⟩
  · obtain ⟨e, he⟩ := validateTransition_error hmem
    rw [he]
    exact .inl ⟨fun h => hmem h.1, Unrevised.refl lab⟩

/-! ### Any update. -/

theorem unbindFromLablet_unrevised (lab : LabRecord) (bindingId : String) :
    Unrevised lab (lab.unbindFromLablet bindingId) := by
  unfold unbindFromLablet
  exact ⟨rfl, rfl⟩

theorem dropPendingAction_unrevised (lab : LabRecord) (error : Option String) :
    Unrevised lab (lab.dropPendingAction error) := by
  unfold dropPendingAction
  split <;> exact ⟨rfl, rfl⟩

/-- A guarded transition that leaves the revisions alone. -/
theorem guarded_unrevised {target : LabRecordStatus} {prepared : LabRecord}
    (hprepared : Unrevised lab prepared) :
    Unrevised lab (lab.orRaise (lab.guarded target (.ok prepared))).lab := by
  unfold guarded
  by_cases hmem : target ∈ labRecordValidTransitions lab.status
  · rw [validateTransition_ok hmem]
    exact hprepared
  · obtain ⟨e, he⟩ := validateTransition_error hmem
    rw [he]
    exact Unrevised.refl lab

/-- The update is an import that the record accepts. -/
def IsImport (lab : LabRecord) : LabUpdate → Prop
  | .operation _ (.markImported labId workerId _ topologyChecksum _) =>
      lab.AcceptsImport labId workerId topologyChecksum
  | _ => False

theorem keepsRevision_iff (lab : LabRecord) (update : LabUpdate) :
    lab.KeepsRevision update ↔ (lab.IsImport update → lab.revision ≤ 1) := by
  unfold KeepsRevision IsImport
  split
  next => exact Iff.rfl
  next => exact iff_of_true trivial False.elim

/-- **What one update makes of the revisions**: an import that is accepted starts them anew, and
any other update leaves them alone or appends one. -/
theorem revised_effect (py : PythonLibrary) (lab : LabRecord) (update : LabUpdate) :
    (¬ lab.IsImport update ∧ RevisionEffect lab (lab.revised py update))
      ∨ lab.IsImport update ∧ ∃ entry, Restarted (lab.revised py update) entry := by
  cases update with
  | discovery now data => exact .inl ⟨id, updateExistingRecord_revisions ..⟩
  | operation now operation =>
      cases operation with
      | updateFromCml cml => exact .inl ⟨id, .kept (updateFromCml_unrevised ..)⟩
      | markImported labId workerId title topologyChecksum importedBy =>
          rcases lab.markImported_revisions now labId workerId title topologyChecksum importedBy
            with ⟨hno, hunrevised⟩ | ⟨hyes, hrestarted⟩
          · exact .inl ⟨hno, .kept hunrevised⟩
          · exact .inr ⟨hyes, hrestarted⟩
      | markStarted
      | markStopped
      | markWiped
      | markDeleted
      | markArchived
      | markError errorMessage
      | markOrphaned => exact .inl ⟨id, .kept (guarded_unrevised ⟨rfl, rfl⟩)⟩
      | updateTopology spec changeSummary => exact .inl ⟨id, updateTopology_effect ..⟩
      | unbindFromLablet bindingId => exact .inl ⟨id, .kept (unbindFromLablet_unrevised ..)⟩
      | completePendingAction
      | failPendingAction errorMessage
      | clearPendingAction => exact .inl ⟨id, .kept (dropPendingAction_unrevised ..)⟩
      | setExternalInterfaces interfaces
      | allocatePorts allocatedPorts
      | bindToLablet labletSessionId bindingId
      | recordRun run
      | appendPipelineRun pipelineRun
      | requestStart
      | requestStop
      | requestWipe
      | requestDelete => exact .inl ⟨id, .kept ⟨rfl, rfl⟩⟩

/-! ## §3. One step. -/

theorem Revisions.unrevised (h : lab.Revisions) (h' : Unrevised lab lab') : lab'.Revisions := by
  refine ⟨?_, ?_, ?_⟩
  · rw [h'.history]
    exact h.consecutive
  · rw [h'.history]
    exact h.distinct
  · rw [h'.history, h'.revision]
    exact h.last

/-- A revision that is appended goes on where the last one stopped. -/
theorem Revisions.appended {entry : LabRevision} (h : lab.Revisions)
    (h' : Appended lab lab' entry) : lab'.Revisions := by
  refine ⟨?_, ?_, ?_⟩
  · rw [h'.history]
    refine h.consecutive.append (List.isChain_singleton _) fun before hbefore after hafter => ?_
    obtain rfl : entry = after := Option.some.inj hafter
    rw [h.last before hbefore]
    exact h'.number
  · rw [h'.history]
    refine h.distinct.append (List.isChain_singleton _) fun before hbefore after hafter => ?_
    obtain rfl : entry = after := Option.some.inj hafter
    intro hsame
    apply h'.changed
    rw [hbefore, ← hsame]
    rfl
  · intro last hlast
    rw [h'.history, List.getLast?_concat] at hlast
    obtain rfl : entry = last := Option.some.inj hlast
    rw [h'.number, h'.revision]

theorem Revisions.restarted {entry : LabRevision} (h : Restarted lab entry) : lab.Revisions := by
  refine ⟨?_, ?_, ?_⟩
  · rw [h.history]
    exact List.isChain_singleton _
  · rw [h.history]
    exact List.isChain_singleton _
  · intro last hlast
    rw [h.history] at hlast
    obtain rfl : entry = last := Option.some.inj hlast
    rw [h.number, h.revision]

/-- **The step lemma**: every update keeps the history in order. -/
theorem Revisions.revised (h : lab.Revisions) (update : LabUpdate) :
    (lab.revised py update).Revisions := by
  rcases lab.revised_effect py update with ⟨-, heffect⟩ | ⟨-, entry, hrestarted⟩
  · cases heffect with
    | kept unrevised => exact h.unrevised unrevised
    | appended appended => exact h.appended appended
  · exact .restarted hrestarted

/-- The number does not fall iff the update does not take a revision back. -/
theorem revision_le_iff (py : PythonLibrary) (lab : LabRecord) (update : LabUpdate) :
    lab.revision ≤ (lab.revised py update).revision ↔ lab.KeepsRevision update := by
  rw [keepsRevision_iff]
  rcases lab.revised_effect py update with ⟨hno, heffect⟩ | ⟨hyes, entry, hrestarted⟩
  · have hle : lab.revision ≤ (lab.revised py update).revision := by
      cases heffect with
      | kept unrevised => exact unrevised.revision.ge
      | appended appended => exact (Nat.le_succ _).trans appended.revision.ge
    exact iff_of_true hle fun himport => absurd himport hno
  · rw [hrestarted.revision]
    exact ⟨fun hfirst _ => hfirst, fun h => h hyes⟩

/-! ## §4. Any sequence of updates. -/

/-- No revision and no run. -/
structure Blank (lab : LabRecord) : Prop where
  revisionHistory : lab.revisionHistory = []
  runHistory : lab.runHistory = []

theorem discover_blank {newId : NewId} {labId workerId : String}
    {title description state ownerUsername nodeCount linkCount notes workerIp
      basedOnDefinitionId : Value}
    (made : LabRecord.discover newId now labId workerId title description state ownerUsername
      nodeCount linkCount notes workerIp basedOnDefinitionId = .ok lab) : lab.Blank := by
  unfold LabRecord.discover at made
  split at made
  next => cases made
  next =>
    obtain rfl := Except.ok.inj made
    exact ⟨rfl, rfl⟩

theorem applyTopologyFromDiscovery_blank (h : lab.Blank) (data : Payload) :
    (lab.applyTopologyFromDiscovery data).Blank := by
  unfold applyTopologyFromDiscovery
  split
  next => exact h
  next => exact ⟨h.revisionHistory, h.runHistory⟩

/-- A record that was just made has no history. -/
theorem Created.blank (h : lab.Created) : lab.Blank := by
  cases h with
  | create made =>
      unfold LabRecord.create at made
      split at made
      next => cases made
      next =>
        split at made
        next => cases made
        next =>
          obtain rfl := Except.ok.inj made
          exact ⟨rfl, rfl⟩
  | discover made => exact discover_blank made
  | scan made =>
      unfold createDiscoveredRecord at made
      split at made
      next => cases made
      next record hrecord =>
        obtain rfl := Except.ok.inj made
        exact applyTopologyFromDiscovery_blank (discover_blank hrecord) _
  | clone made =>
      unfold LabRecord.clone at made
      split at made
      next => cases made
      next =>
        dsimp only at made
        split at made
        next => cases made
        next clone hclone =>
          have hblank : clone.Blank := discover_blank hclone
          obtain rfl := Except.ok.inj made
          exact ⟨hblank.revisionHistory, hblank.runHistory⟩

theorem Created.revisions (h : lab.Created) : lab.Revisions := by
  have hempty := h.blank.revisionHistory
  refine ⟨?_, ?_, ?_⟩
  · rw [hempty]
    exact List.isChain_nil
  · rw [hempty]
    exact List.isChain_nil
  · intro entry hentry
    rw [hempty] at hentry
    cases hentry

/-- **A revision history**: after any of the updates it is in order, and of two points in time the
later one has no lower number. -/
structure RevisionHistory (py : PythonLibrary) (lab : LabRecord) (updates : List LabUpdate) :
    Prop where
  ordered : ∀ before, before <+: updates → (replay (revised py) lab before).Revisions
  monotone : ∀ before between after, updates = before ++ (between ++ after) →
    (replay (revised py) lab before).revision
      ≤ (replay (revised py) lab (before ++ between)).revision

/-- The history is in order after any updates of a record. -/
theorem ordered_after (py : PythonLibrary) (hcreated : lab.Created) (updates : List LabUpdate) :
    (replay (revised py) lab updates).Revisions :=
  replay_invariant (fun _ update h => h.revised update) updates hcreated.revisions

/-- **Revision history**: whatever happens to a record after it was made, its history is in order;
and its number never falls iff no import is accepted past the first revision. -/
theorem revision_history_iff (py : PythonLibrary) (lab : LabRecord) (hcreated : lab.Created)
    (updates : List LabUpdate) :
    lab.RevisionHistory py updates
      ↔ Meets (revised py) KeepsRevision lab updates := by
  have hmeets : Meets (revised py) KeepsRevision lab updates
      ↔ Meets (revised py) (fun lab update => lab.revision ≤ (lab.revised py update).revision) lab
        updates :=
    @meets_congr _ _ _ _ _ (fun _ => True) (fun _ _ _ => trivial)
      (fun lab update _ => (revision_le_iff py lab update).symm) updates lab trivial
  rw [hmeets, ← @related_iff_meets _ _ _ (fun lab lab' : LabRecord => lab.revision ≤ lab'.revision)
    (fun _ => le_rfl) (fun _ _ _ => le_trans)]
  constructor
  · exact RevisionHistory.monotone
  · exact fun hmonotone => ⟨fun before _ => ordered_after py hcreated before, hmonotone⟩

/-! ## §5. A lab that is imported again. -/

/-- A lab that a scan reported. -/
def foundLab : LabRecord where
  id := "lab-record-1"
  id_given := labRecord1_given
  labId := "lab-1"
  workerId := "worker-1"
  status := .discovered
  title := .str "Routing"
  state := .str "STOPPED"
  firstSeenAt := some 0
  lastSyncedAt := some 0
  stateHistory := [⟨none, .discovered, 0, "system", some "Lab discovered on worker"⟩]

theorem foundLab_created : foundLab.Created := by
  have made : LabRecord.discover ⟨"lab-record-1", labRecord1_given⟩ 0 "lab-1" "worker-1"
      (.str "Routing") .none (.str "STOPPED") .none (.int 0) (.int 0) .none .none .none
    = .ok foundLab := rfl
  exact .discover made

/-- A lab is imported and its topology changes; the change fails, and the lab is imported again. -/
def importedTwice : List LabUpdate :=
  [.operation 1 (.markImported "lab-1" "worker-1" (.str "Routing") "9f86d0" "admin"),
    .operation 2 (.updateTopology {} (some "Changed")),
    .operation 3 (.markError "Import failed"),
    .operation 4 (.markImported "lab-1" "worker-1" (.str "Routing") "60303a" "admin")]

/-- The import that comes last takes the number back to one. -/
theorem import_takes_revision_back :
    ¬ ∀ (py : PythonLibrary) (lab : LabRecord), lab.Created → ∀ updates : List LabUpdate,
      lab.RevisionHistory py updates := by
  intro h
  have hhistory := h plainPython foundLab foundLab_created importedTwice
  have hfell := hhistory.monotone (importedTwice.take 3) (importedTwice.drop 3) [] rfl
  revert hfell
  decide +kernel

/-- An import that raises has made the lab a defined one, so that it can fail and be imported. -/
example :
    let updates : List LabUpdate :=
      [.operation 1 (.updateTopology {} (some "Changed")),
        .operation 2 (.markImported "lab-1" "" (.str "Routing") "9f86d0" "admin"),
        .operation 3 (.markError "Import failed"),
        .operation 4 .markStarted,
        .operation 5 (.markImported "lab-1" "worker-1" (.str "Routing") "9f86d0" "admin")]
    updates.inits.map (fun before => (replay (revised plainPython) foundLab before).revision)
      = [1, 2, 2, 2, 2, 1] := by
  decide +kernel

/-- The first import of a lab is one that keeps its history. -/
theorem first_import_kept :
    foundLab.RevisionHistory plainPython (importedTwice.take 3) :=
  (revision_history_iff plainPython foundLab foundLab_created (importedTwice.take 3)).mpr
    ⟨fun _ => Nat.le_refl 1, trivial, trivial, trivial⟩

end LabRecord

end CmlCloudManager.ControlPlane
