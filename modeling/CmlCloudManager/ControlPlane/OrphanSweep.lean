/-
  CmlCloudManager.ControlPlane.OrphanSweep
  ────────────────────────────────────────
  **A FULL SCAN OF A WORKER, RUN ALONE.**

  When a scan has been processed, the orphans among the records of the worker should
  be those whose lab it did not report, the terminal ones apart.  Two passes see to
  that: an entry that goes through leaves its record with a status that is not
  ORPHANED, and the sweep marks the records that no entry was about.

  `updateExistingRecord` may raise and leave an orphan as it was, and both passes
  work on one record for each lab id: of two records of a lab the earlier one is
  reached by neither.  `inStep_iff` says that nothing else goes wrong.
-/
import CmlCloudManager.ControlPlane.LabRecordLifecycle

namespace CmlCloudManager.ControlPlane

open CmlCloudManager.Foundation CmlCloudManager.Pipeline

/-! ## §1. Which lab a record is of. -/

namespace LabRecord

/-- The same record, of the same lab on the same worker. -/
structure SameLab (lab lab' : LabRecord) : Prop where
  id : lab'.id = lab.id
  labId : lab'.labId = lab.labId
  workerId : lab'.workerId = lab.workerId

variable {lab lab' lab'' : LabRecord} {now : Int}

theorem SameLab.refl (lab : LabRecord) : lab.SameLab lab := ⟨rfl, rfl, rfl⟩

theorem SameLab.trans (h : lab.SameLab lab') (h' : lab'.SameLab lab'') : lab.SameLab lab'' :=
  ⟨h'.id.trans h.id, h'.labId.trans h.labId, h'.workerId.trans h.workerId⟩

theorem SameLab.andThen {α β : Type} {a : Attempt α} {next : LabRecord → α → Attempt β}
    (h : lab.SameLab a.lab) (hnext : ∀ (lab' : LabRecord) x, lab'.SameLab (next lab' x).lab) :
    lab.SameLab (a.andThen next).lab := by
  unfold Attempt.andThen
  split
  next => exact h
  next x _ => exact h.trans (hnext a.lab x)

theorem linkToDefinition_sameLab (lab : LabRecord) (incoming : Value) :
    lab.SameLab (lab.linkToDefinition incoming) := by
  unfold linkToDefinition
  split <;> exact ⟨rfl, rfl, rfl⟩

theorem syncStatus_sameLab (lab : LabRecord) (now : Int) (target : Option LabRecordStatus)
    (reason : String) : lab.SameLab (lab.syncStatus now target reason) := by
  unfold syncStatus
  split <;> exact ⟨rfl, rfl, rfl⟩

theorem onLabStateChanged_sameLab (lab : LabRecord) (now : Int) (newState : Value) :
    lab.SameLab (lab.onLabStateChanged now newState).lab := by
  have hchanged : lab.SameLab { lab with state := newState } := ⟨rfl, rfl, rfl⟩
  unfold onLabStateChanged
  cases mappedStatus newState with
  | error e => exact hchanged
  | ok target => exact hchanged.trans (syncStatus_sameLab ..)

theorem onLabRecordUpdated_sameLab (lab : LabRecord) (now : Int) (cml : CmlLab) :
    lab.SameLab (lab.onLabRecordUpdated now cml).lab := by
  have hupdated : lab.SameLab (lab.withCml now cml) := ⟨rfl, rfl, rfl⟩
  unfold onLabRecordUpdated
  cases mappedStatus cml.state with
  | error e => exact hupdated
  | ok target => exact hupdated.trans (syncStatus_sameLab ..)

theorem withWorkerIp_sameLab (lab : LabRecord) (workerIp : Value) :
    lab.SameLab (lab.withWorkerIp workerIp) := by
  cases workerIp <;> exact ⟨rfl, rfl, rfl⟩

theorem updateFromCml_sameLab (lab : LabRecord) (now : Int) (cml : CmlLab) :
    lab.SameLab (lab.updateFromCml now cml).lab := by
  unfold updateFromCml applyCml
  split
  next => exact SameLab.refl lab
  next =>
    refine (withWorkerIp_sameLab lab cml.workerIp).trans ?_
    -- with a new raw state there are two events, otherwise one
    split
    next =>
      exact (onLabStateChanged_sameLab ..).andThen fun lab' _ => onLabRecordUpdated_sameLab ..
    next => exact onLabRecordUpdated_sameLab ..

theorem setMappedStatus_sameLab (lab : LabRecord) (mapped : Option LabRecordStatus) :
    lab.SameLab (lab.setMappedStatus mapped) := by
  cases mapped with
  | none => exact SameLab.refl lab
  | some mapped =>
      unfold setMappedStatus
      dsimp only
      split <;> exact ⟨rfl, rfl, rfl⟩

theorem applyTopologyFromDiscovery_sameLab (lab : LabRecord) (data : Payload) :
    lab.SameLab (lab.applyTopologyFromDiscovery data) := by
  unfold applyTopologyFromDiscovery
  split <;> exact ⟨rfl, rfl, rfl⟩

theorem applyYaml_sameLab (py : PythonLibrary) (now : Int) (lab : LabRecord) (data : Payload) :
    lab.SameLab (lab.applyYaml py now data) := by
  unfold applyYaml
  split
  next => exact SameLab.refl lab
  next =>
    unfold updateTopology
    dsimp only
    split <;> exact ⟨rfl, rfl, rfl⟩

theorem unorphan_sameLab (lab : LabRecord) : lab.SameLab lab.unorphan := by
  unfold unorphan
  split <;> exact ⟨rfl, rfl, rfl⟩

theorem settleScan_sameLab (py : PythonLibrary) (now : Int) (lab : LabRecord) (data : Payload) :
    lab.SameLab (lab.settleScan py now data).lab := by
  unfold settleScan
  split
  next => exact SameLab.refl lab
  next mapped _ =>
    exact (((setMappedStatus_sameLab lab mapped).trans
      (applyTopologyFromDiscovery_sameLab ..)).trans (applyYaml_sameLab ..)).trans
      (unorphan_sameLab _)

/-- An entry of a scan leaves its record one of the same lab, whether it raises or not. -/
theorem updateExistingRecord_sameLab (py : PythonLibrary) (now : Int) (lab : LabRecord)
    (data : Payload) : lab.SameLab (lab.updateExistingRecord py now data).lab := by
  have hlinked := lab.linkToDefinition_sameLab (data.get "based_on_definition_id")
  unfold updateExistingRecord
  dsimp only
  cases parseModifiedAt py now data with
  | error e => exact hlinked
  | ok modified =>
      exact (hlinked.trans (updateFromCml_sameLab ..)).andThen fun lab' _ =>
        settleScan_sameLab py now lab' data

/-- Every status that is not final may become ORPHANED. -/
theorem markOrphaned_ok (now : Int) (hterminal : lab.isTerminal = false)
    (hstatus : lab.status ≠ .orphaned) :
    ∃ lab', lab.markOrphaned now = .ok lab' ∧ lab.SameLab lab' ∧ lab'.status = .orphaned := by
  have hmem : .orphaned ∈ labRecordValidTransitions lab.status := by
    unfold LabRecordState.isTerminal at hterminal
    cases hcase : lab.status <;> rw [hcase] at hterminal hstatus <;> revert hterminal hstatus <;>
      decide
  unfold markOrphaned guarded
  rw [validateTransition_ok hmem]
  exact ⟨_, rfl, ⟨rfl, rfl, rfl⟩, rfl⟩

end LabRecord

/-! ## §2. What one entry of a scan does. -/

namespace ScannedLab

/-- The key of the lab, if it is given and has a hash. -/
def key (lab : ScannedLab) : Option Value.HashKey :=
  if (lab.data.get "id").truthy then (lab.data.get "id").hashKey.toOption else none

/-- The entry is about the lab. -/
def isOf (lab : ScannedLab) (labId : String) : Prop := lab.key = some (.text labId)

/-- Nothing that an update takes from the entry raises. -/
def readable (py : PythonLibrary) (lab : ScannedLab) : Bool :=
  (parseModifiedAt py lab.now lab.data).isOk
    && (mappedStatus (lab.data.getD "state" (.str ""))).isOk

/-- An id that is given is a text. -/
def IdText (lab : ScannedLab) : Prop :=
  (lab.data.get "id").truthy = true → ∃ labId, lab.data.get "id" = .str labId

end ScannedLab

/-- An update goes through iff the entry is readable, and leaves no orphan then. -/
theorem updateExistingRecord_readable (py : PythonLibrary) (lab : ScannedLab)
    (existing : LabRecord) :
    (∃ e, (existing.updateExistingRecord py lab.now lab.data).result = .error e
        ∧ lab.readable py = false)
      ∨ ∃ created, (existing.updateExistingRecord py lab.now lab.data).result = .ok created
        ∧ lab.readable py = true
        ∧ (existing.updateExistingRecord py lab.now lab.data).lab.status ≠ .orphaned := by
  unfold ScannedLab.readable
  cases updateExistingRecord_effect py lab.now existing lab.data with
  | refused raised cause unmoved =>
      refine .inl ⟨_, raised, ?_⟩
      rcases cause with ⟨e, h⟩ | ⟨e, h⟩
      · rw [h]
        rfl
      · rw [h]
        exact Bool.and_false _
  | unmapped done parsed mapped restated =>
      refine .inr ⟨_, done, by rw [parsed, mapped]; rfl, ?_⟩
      rw [restated.status]
      split
      next => exact LabRecordStatus.noConfusion
      next hne => exact hne
  | fresh done parsed fresh mapped synced =>
      refine .inr ⟨_, done, by rw [parsed, mapped]; rfl, ?_⟩
      rw [synced.status]
      exact (mappedStatus_some mapped).2
  | stale done parsed stale mapped restated =>
      refine .inr ⟨_, done, by rw [parsed, mapped]; rfl, ?_⟩
      rw [restated.status]
      exact (mappedStatus_some mapped).2

/-- A record that was just made. -/
theorem createDiscoveredRecord_ok {newId : NewId} {now : Int} {workerId : String} {data : Payload}
    {record : LabRecord} (h : createDiscoveredRecord newId now workerId data = .ok record) :
    record.labId = (data.get "id").pyStr ∧ record.workerId = workerId
      ∧ record.status = .discovered := by
  unfold createDiscoveredRecord at h
  split at h
  next => cases h
  next discovered hdiscovered =>
    obtain rfl := Except.ok.inj h
    have hsame := discovered.applyTopologyFromDiscovery_sameLab data
    have hunmoved := discovered.applyTopologyFromDiscovery_unmoved data
    rw [hsame.labId, hsame.workerId, hunmoved.status]
    refine ⟨?_, ?_, (LabRecord.discover_audited hdiscovered).2⟩ <;>
    · unfold LabRecord.discover at hdiscovered
      split at hdiscovered
      next => cases hdiscovered
      next =>
        obtain rfl := Except.ok.inj hdiscovered
        rfl

/-- What a discovery that goes on has stored, has in memory and has seen. -/
structure Discovery.Holds (d : Discovery) (db : LabRecords)
    (existing : Dict Value.HashKey LabRecord) (seen : List Value.HashKey) : Prop where
  db : d.db = db
  existing : d.existingByLabId = existing
  seen : d.seenLabIds = seen
  raised : d.raised = none

/-- **What an entry of a scan does.** -/
inductive EntryEffect (py : PythonLibrary) (workerId : String) (lab : ScannedLab)
    (d d' : Discovery) : Prop where
  | nameless (name : lab.key = none)
      (holds : d'.Holds d.db d.existingByLabId d.seenLabIds)
  | halted (given : (lab.data.get "id").truthy = true)
      (unhashable : ∃ e, (lab.data.get "id").hashKey = .error e) (db : d'.db = d.db)
      (existing : d'.existingByLabId = d.existingByLabId) (raised : d'.raised.isSome = true)
  | kept {key : Value.HashKey} {existing left : LabRecord} (name : lab.key = some key)
      (known : d.existingByLabId.get? key = some existing) (same : existing.SameLab left)
      (unread : lab.readable py = false)
      (holds : d'.Holds d.db (d.existingByLabId.set key left) (key :: d.seenLabIds))
  | updated {key : Value.HashKey} {existing left : LabRecord} (name : lab.key = some key)
      (known : d.existingByLabId.get? key = some existing) (same : existing.SameLab left)
      (read : lab.readable py = true) (found : left.status ≠ .orphaned)
      (holds : d'.Holds (d.db.save left true) (d.existingByLabId.set key left)
        (key :: d.seenLabIds))
  | unmade {key : Value.HashKey} (name : lab.key = some key)
      (unknown : d.existingByLabId.get? key = none)
      (refused : ∀ record,
        createDiscoveredRecord lab.newId lab.now workerId lab.data = .ok record →
          ∃ other, d.db.store.find record.id = some other)
      (holds : d'.Holds d.db d.existingByLabId (key :: d.seenLabIds))
  | made {key : Value.HashKey} {record : LabRecord} (name : lab.key = some key)
      (unknown : d.existingByLabId.get? key = none)
      (created : createDiscoveredRecord lab.newId lab.now workerId lab.data = .ok record)
      (new : d.db.store.find record.id = none)
      (holds : d'.Holds (d.db.save record false) d.existingByLabId (key :: d.seenLabIds))

section Entry

variable {py : PythonLibrary} {workerId : String} {lab : ScannedLab} {d : Discovery}

theorem processExisting_effect {key : Value.HashKey} {existing : LabRecord}
    (hraised : d.raised = none) (hname : lab.key = some key)
    (hknown : d.existingByLabId.get? key = some existing) :
    EntryEffect py workerId lab d ((d.saw key).processExisting py lab key existing) := by
  have hsame := existing.updateExistingRecord_sameLab py lab.now lab.data
  have hread := updateExistingRecord_readable py lab existing
  unfold Discovery.processExisting
  dsimp only
  generalize existing.updateExistingRecord py lab.now lab.data = update at hsame hread ⊢
  rcases hread with ⟨e, hresult, hunread⟩ | ⟨created, hresult, hread, hfound⟩
  · rw [hresult]
    exact .kept hname hknown hsame hunread ⟨rfl, rfl, rfl, hraised⟩
  · rw [hresult]
    exact .updated hname hknown hsame hread hfound ⟨rfl, rfl, rfl, hraised⟩

theorem processNew_effect {key : Value.HashKey} (hraised : d.raised = none)
    (hname : lab.key = some key) (hunknown : d.existingByLabId.get? key = none) :
    EntryEffect py workerId lab d ((d.saw key).processNew workerId lab) := by
  unfold Discovery.processNew
  cases hcreated : createDiscoveredRecord lab.newId lab.now workerId lab.data with
  | error e =>
      refine .unmade hname hunknown (fun record hrecord => ?_) ⟨rfl, rfl, rfl, hraised⟩
      rw [hcreated] at hrecord
      cases hrecord
  | ok record =>
      dsimp only [Except.bind]
      unfold LabRecords.add
      cases hfind : (d.saw key).db.store.find record.id with
      | some other =>
          refine .unmade hname hunknown (fun record' hrecord => ⟨other, ?_⟩)
            ⟨rfl, rfl, rfl, hraised⟩
          rw [hcreated] at hrecord
          obtain rfl := Except.ok.inj hrecord
          exact hfind
      | none => exact .made hname hunknown hcreated hfind ⟨rfl, rfl, rfl, hraised⟩

/-- **The inversion lemma** of an entry. -/
theorem processLab_effect (py : PythonLibrary) (workerId : String) (lab : ScannedLab)
    (hraised : d.raised = none) : EntryEffect py workerId lab d (d.processLab py workerId lab) := by
  unfold Discovery.processLab
  rw [hraised, Option.isSome_none, if_neg Bool.false_ne_true]
  cases hgiven : (lab.data.get "id").truthy with
  | false => exact .nameless (by rw [ScannedLab.key, hgiven]; rfl) ⟨rfl, rfl, rfl, hraised⟩
  | true =>
      rw [Bool.not_true, if_neg Bool.false_ne_true]
      cases hhash : (lab.data.get "id").hashKey with
      | error e => exact .halted hgiven ⟨e, hhash⟩ rfl rfl rfl
      | ok key =>
          have hname : lab.key = some key := by
            rw [ScannedLab.key, hgiven, if_pos rfl, hhash]
            rfl
          dsimp only
          cases hknown : d.existingByLabId.get? key with
          | none => exact processNew_effect hraised hname hknown
          | some existing => exact processExisting_effect hraised hname hknown

end Entry

/-! ## §3. The entries of a scan, one after the other. -/

/-- One of the entries is about the lab. -/
def ScanReports (labs : List ScannedLab) (labId : String) : Prop := ∃ lab ∈ labs, lab.isOf labId

/-- The record is the one that is read for its lab. -/
def LabRecords.Reads (db : LabRecords) (workerId : String) (record : LabRecord) : Prop :=
  (Discovery.start db workerId).existingByLabId.get? (.text record.labId) = some record

/-- The record is read, and so is an entry about its lab. -/
def Refreshed (py : PythonLibrary) (db : LabRecords) (workerId : String) (labs : List ScannedLab)
    (record : LabRecord) : Prop :=
  db.Reads workerId record ∧ ∃ lab ∈ labs, lab.isOf record.labId ∧ lab.readable py = true

/-- **What the entries of a scan have done so far** to the collection and to the records in
memory. -/
structure Scanned (py : PythonLibrary) (db : LabRecords) (workerId : String)
    (done : List ScannedLab) (d : Discovery) : Prop where
  raised : d.raised = none
  seen : ∀ labId, .text labId ∈ d.seenLabIds ↔ ScanReports done labId
  memory : ∀ key left, d.existingByLabId.get? key = some left →
    ∃ record, (Discovery.start db workerId).existingByLabId.get? key = some record
      ∧ record.SameLab left ∧ (key ∉ d.seenLabIds → left = record)
  keys : ∀ key record, (Discovery.start db workerId).existingByLabId.get? key = some record →
    ∃ left, d.existingByLabId.get? key = some left
  made : ∀ id stored, d.db.store.find id = some stored → db.store.find id = none →
    stored.status ≠ .orphaned ∧ ScanReports done stored.labId
  refreshed : ∀ id record, db.store.find id = some record →
    Refreshed py db workerId done record →
      ∃ stored, d.db.store.find id = some stored ∧ record.SameLab stored
        ∧ stored.status ≠ .orphaned
  untouched : ∀ id record, db.store.find id = some record →
    ¬ Refreshed py db workerId done record → d.db.store.find id = some record

section Scan

variable {py : PythonLibrary} {db : LabRecords} {workerId : String} {done : List ScannedLab}
  {d d' : Discovery} {lab : ScannedLab} {key : Value.HashKey} {existing left : LabRecord}

theorem scanReports_snoc_iff (done : List ScannedLab) (lab : ScannedLab) (labId : String) :
    ScanReports (done ++ [lab]) labId ↔ ScanReports done labId ∨ lab.isOf labId := by
  unfold ScanReports
  simp only [List.mem_append, List.mem_singleton, or_and_right, exists_or, exists_eq_left]

theorem refreshed_snoc_iff (record : LabRecord) :
    Refreshed py db workerId (done ++ [lab]) record
      ↔ Refreshed py db workerId done record
        ∨ (db.Reads workerId record ∧ lab.isOf record.labId ∧ lab.readable py = true) := by
  unfold Refreshed
  rw [← and_or_left]
  simp only [List.mem_append, List.mem_singleton, or_and_right, exists_or, exists_eq_left]

/-- Nothing is read before the first entry. -/
theorem scanned_nil (py : PythonLibrary) (db : LabRecords) (workerId : String) :
    Scanned py db workerId [] (Discovery.start db workerId) where
  raised := rfl
  seen := fun _ => iff_of_false List.not_mem_nil fun ⟨_, hmem, _⟩ => List.not_mem_nil hmem
  memory := fun _ record hget => ⟨record, hget, LabRecord.SameLab.refl record, fun _ => rfl⟩
  keys := fun _ record hget => ⟨record, hget⟩
  made := fun _ _ hfind hnone => absurd (hfind.symm.trans hnone) (Option.some_ne_none _)
  refreshed := fun _ _ _ h => absurd h.2 fun ⟨_, hmem, _⟩ => List.not_mem_nil hmem
  untouched := fun _ _ hfind _ => hfind

/-- An entry that names a lab has seen it. -/
theorem Scanned.seen_cons (h : Scanned py db workerId done d) (name : lab.key = some key)
    (labId : String) :
    .text labId ∈ key :: d.seenLabIds ↔ ScanReports (done ++ [lab]) labId := by
  have hof : lab.isOf labId ↔ .text labId = key := by
    unfold ScannedLab.isOf
    rw [name, Option.some.injEq]
    exact eq_comm
  rw [List.mem_cons, h.seen, scanReports_snoc_iff, hof]
  exact or_comm

theorem Scanned.memory_cons (h : Scanned py db workerId done d) (key : Value.HashKey) :
    ∀ key' left, d.existingByLabId.get? key' = some left →
      ∃ record, (Discovery.start db workerId).existingByLabId.get? key' = some record
        ∧ record.SameLab left ∧ (key' ∉ key :: d.seenLabIds → left = record) := by
  intro key' left hget
  obtain ⟨record, hrecord, hsame, hunseen⟩ := h.memory key' left hget
  exact ⟨record, hrecord, hsame, fun hnot => hunseen fun hmem =>
    hnot (List.mem_cons_of_mem key hmem)⟩

theorem Scanned.memory_set (h : Scanned py db workerId done d)
    (known : d.existingByLabId.get? key = some existing) (same : existing.SameLab left) :
    ∀ key' left', (d.existingByLabId.set key left).get? key' = some left' →
      ∃ record, (Discovery.start db workerId).existingByLabId.get? key' = some record
        ∧ record.SameLab left' ∧ (key' ∉ key :: d.seenLabIds → left' = record) := by
  intro key' left' hget
  rcases Dict.get?_set_eq_some hget with ⟨rfl, rfl⟩ | ⟨-, hget⟩
  · obtain ⟨record, hrecord, hsame, -⟩ := h.memory key' existing known
    exact ⟨record, hrecord, hsame.trans same, fun hnot => absurd List.mem_cons_self hnot⟩
  · exact h.memory_cons key key' left' hget

theorem Scanned.keys_set (h : Scanned py db workerId done d) (key : Value.HashKey)
    (left : LabRecord) :
    ∀ key' record, (Discovery.start db workerId).existingByLabId.get? key' = some record →
      ∃ left', (d.existingByLabId.set key left).get? key' = some left' := by
  intro key' record hget
  obtain ⟨left', hleft⟩ := h.keys key' record hget
  by_cases hkey : key' = key
  · subst hkey
    exact ⟨left, Dict.get?_set_self ..⟩
  · exact ⟨left', (Dict.get?_set_ne _ _ _ hkey).trans hleft⟩

theorem Scanned.made_snoc (h : Scanned py db workerId done d) (lab : ScannedLab) :
    ∀ id stored, d.db.store.find id = some stored → db.store.find id = none →
      stored.status ≠ .orphaned ∧ ScanReports (done ++ [lab]) stored.labId := by
  intro id stored hfind hnone
  obtain ⟨hstatus, hreports⟩ := h.made id stored hfind hnone
  exact ⟨hstatus, (scanReports_snoc_iff ..).mpr (.inl hreports)⟩

/-- What was stored at the start is stored. -/
theorem Scanned.exists_find (h : Scanned py db workerId done d) {id : String} {record : LabRecord}
    (hfind : db.store.find id = some record) : ∃ stored, d.db.store.find id = some stored := by
  by_cases hrefreshed : Refreshed py db workerId done record
  · obtain ⟨stored, hstored, -⟩ := h.refreshed id record hfind hrefreshed
    exact ⟨stored, hstored⟩
  · exact ⟨record, h.untouched id record hfind hrefreshed⟩

/-- An entry that refreshes nothing and stores nothing. -/
theorem Scanned.unchanged (h : Scanned py db workerId done d)
    (hidle : ∀ record, db.Reads workerId record → lab.isOf record.labId →
      lab.readable py = false)
    (raised : d'.raised = none) (hdb : d'.db = d.db)
    (seen : ∀ labId, .text labId ∈ d'.seenLabIds ↔ ScanReports (done ++ [lab]) labId)
    (memory : ∀ key left, d'.existingByLabId.get? key = some left →
      ∃ record, (Discovery.start db workerId).existingByLabId.get? key = some record
        ∧ record.SameLab left ∧ (key ∉ d'.seenLabIds → left = record))
    (keys : ∀ key record, (Discovery.start db workerId).existingByLabId.get? key = some record →
      ∃ left, d'.existingByLabId.get? key = some left) :
    Scanned py db workerId (done ++ [lab]) d' := by
  have hsame : ∀ record, Refreshed py db workerId (done ++ [lab]) record
      ↔ Refreshed py db workerId done record := by
    intro record
    rw [refreshed_snoc_iff]
    refine or_iff_left ?_
    rintro ⟨hreads, hof, hread⟩
    rw [hidle record hreads hof] at hread
    cases hread
  refine ⟨raised, seen, memory, keys, ?_, ?_, ?_⟩
  · rw [hdb]
    exact h.made_snoc lab
  · intro id record hfind hrefreshed
    rw [hdb]
    exact h.refreshed id record hfind ((hsame record).mp hrefreshed)
  · intro id record hfind hnot
    rw [hdb]
    exact h.untouched id record hfind fun hrefreshed => hnot ((hsame record).mpr hrefreshed)

/-- An entry that is read, about a record that is known. -/
theorem Scanned.updated (h : Scanned py db workerId done d) (name : lab.key = some key)
    (known : d.existingByLabId.get? key = some existing) (same : existing.SameLab left)
    (read : lab.readable py = true) (found : left.status ≠ .orphaned)
    (holds : d'.Holds (d.db.save left true) (d.existingByLabId.set key left)
      (key :: d.seenLabIds)) : Scanned py db workerId (done ++ [lab]) d' := by
  obtain ⟨record, hrecord, hsame, -⟩ := h.memory key existing known
  obtain ⟨rfl, hstored, -⟩ := start_read hrecord
  have hleft : record.SameLab left := hsame.trans same
  have hself : (d.db.save left true).store.find record.id = some left := by
    rw [← hleft.id]
    exact d.db.find_save_self left true
  have hother : ∀ id, id ≠ record.id → (d.db.save left true).store.find id = d.db.store.find id :=
    fun id hne => d.db.find_save_ne left true (hleft.id ▸ hne)
  have hrefreshed : Refreshed py db workerId (done ++ [lab]) record :=
    (refreshed_snoc_iff record).mpr (.inr ⟨hrecord, name, read⟩)
  obtain ⟨hdb, hexisting, hseen, hraised⟩ := holds
  refine ⟨hraised, ?_, ?_, ?_, ?_, ?_, ?_⟩
  · rw [hseen]
    exact h.seen_cons name
  · rw [hexisting, hseen]
    exact h.memory_set known same
  · rw [hexisting]
    exact h.keys_set _ left
  · rw [hdb]
    intro id stored hfind hnone
    have hne : id ≠ record.id := by
      rintro rfl
      rw [hstored] at hnone
      cases hnone
    exact h.made_snoc lab id stored ((hother id hne).symm.trans hfind) hnone
  · -- the record that was refreshed is `record`, or another one was before
    rw [hdb]
    intro id other hfind hother'
    by_cases hid : id = record.id
    · subst hid
      obtain rfl := Option.some.inj (hstored.symm.trans hfind)
      exact ⟨left, hself, hleft, found⟩
    · rw [hother id hid]
      refine h.refreshed id other hfind (((refreshed_snoc_iff other).mp hother').resolve_right ?_)
      -- the entry is about the lab of `record`, and `record` is the one that is read for it
      rintro ⟨hreads, hof, -⟩
      have hkey := Option.some.inj (name.symm.trans hof)
      rw [LabRecords.Reads, ← hkey, hrecord] at hreads
      obtain rfl := Option.some.inj hreads
      exact hid (db.id_of_find hfind).symm
  · rw [hdb]
    intro id other hfind hnot
    have hne : id ≠ record.id := by
      rintro rfl
      obtain rfl := Option.some.inj (hstored.symm.trans hfind)
      exact hnot hrefreshed
    rw [hother id hne]
    exact h.untouched id other hfind fun hrefreshed =>
      hnot ((refreshed_snoc_iff other).mpr (.inl hrefreshed))

/-- An entry about a lab of which no record was read. -/
theorem Scanned.made_new (h : Scanned py db workerId done d) (name : lab.key = some key)
    (unknown : d.existingByLabId.get? key = none) {record : LabRecord}
    (new : d.db.store.find record.id = none) (status : record.status ≠ .orphaned)
    (about : lab.isOf record.labId)
    (holds : d'.Holds (d.db.save record false) d.existingByLabId (key :: d.seenLabIds)) :
    Scanned py db workerId (done ++ [lab]) d' := by
  obtain ⟨hdb, hexisting, hseen, hraised⟩ := holds
  have hother : ∀ id, id ≠ record.id →
      (d.db.save record false).store.find id = d.db.store.find id :=
    fun id hne => d.db.find_save_ne record false hne
  have hstored : ∀ id other, db.store.find id = some other → id ≠ record.id := by
    rintro id other hfind rfl
    obtain ⟨stored, hstored⟩ := h.exists_find hfind
    rw [new] at hstored
    cases hstored
  -- a record that was read for the lab would be in memory
  have hidle : ∀ other, db.Reads workerId other → ¬ lab.isOf other.labId := by
    intro other hreads hof
    obtain rfl := Option.some.inj (name.symm.trans hof)
    obtain ⟨left, hleft⟩ := h.keys _ other hreads
    rw [unknown] at hleft
    cases hleft
  refine ⟨hraised, ?_, ?_, ?_, ?_, ?_, ?_⟩
  · rw [hseen]
    exact h.seen_cons name
  · rw [hexisting, hseen]
    exact h.memory_cons key
  · rw [hexisting]
    exact h.keys
  · rw [hdb]
    intro id stored hfind hnone
    by_cases hid : id = record.id
    · subst hid
      rw [d.db.find_save_self record false] at hfind
      obtain rfl := Option.some.inj hfind
      exact ⟨status, (scanReports_snoc_iff ..).mpr (.inr about)⟩
    · exact h.made_snoc lab id stored ((hother id hid).symm.trans hfind) hnone
  · rw [hdb]
    intro id other hfind hrefreshed
    rw [hother id (hstored id other hfind)]
    refine h.refreshed id other hfind (((refreshed_snoc_iff other).mp hrefreshed).resolve_right ?_)
    exact fun h => hidle other h.1 h.2.1
  · rw [hdb]
    intro id other hfind hnot
    rw [hother id (hstored id other hfind)]
    exact h.untouched id other hfind fun hrefreshed =>
      hnot ((refreshed_snoc_iff other).mpr (.inl hrefreshed))

/-- An id that is a text is the key of the lab. -/
theorem ScannedLab.IdText.key_eq (h : lab.IdText) (name : lab.key = some key) :
    ∃ labId, key = .text labId ∧ (lab.data.get "id").pyStr = labId := by
  unfold ScannedLab.key at name
  split at name
  next hgiven =>
    obtain ⟨labId, hid⟩ := h hgiven
    rw [hid] at name ⊢
    exact ⟨labId, (Option.some.inj name).symm, rfl⟩
  next => cases name

/-- **The step lemma** of a scan whose ids are texts. -/
theorem Scanned.processLab (h : Scanned py db workerId done d) (hid : lab.IdText) :
    Scanned py db workerId (done ++ [lab]) (d.processLab py workerId lab) := by
  cases processLab_effect py workerId lab h.raised with
  | nameless name holds =>
      obtain ⟨hdb, hexisting, hseen, hraised⟩ := holds
      have hof : ∀ labId, ¬ lab.isOf labId := by
        intro labId hof
        rw [ScannedLab.isOf, name] at hof
        cases hof
      refine h.unchanged (fun record _ hof' => absurd hof' (hof _)) hraised hdb ?_ ?_ ?_
      · intro labId
        rw [hseen, h.seen, scanReports_snoc_iff]
        exact (or_iff_left (hof labId)).symm
      · rw [hexisting, hseen]
        exact h.memory
      · rw [hexisting]
        exact h.keys
  | halted given unhashable db existing raised =>
      -- a text has a hash
      obtain ⟨labId, htext⟩ := hid given
      obtain ⟨e, he⟩ := unhashable
      rw [htext] at he
      cases he
  | kept name known same unread holds =>
      obtain ⟨hdb, hexisting, hseen, hraised⟩ := holds
      refine h.unchanged (fun _ _ _ => unread) hraised hdb ?_ ?_ ?_
      · rw [hseen]
        exact h.seen_cons name
      · rw [hexisting, hseen]
        exact h.memory_set known same
      · rw [hexisting]
        exact h.keys_set _ _
  | updated name known same read found holds => exact h.updated name known same read found holds
  | unmade name unknown refused holds =>
      obtain ⟨hdb, hexisting, hseen, hraised⟩ := holds
      refine h.unchanged ?_ hraised hdb ?_ ?_ ?_
      · intro record hreads hof
        obtain rfl := Option.some.inj (name.symm.trans hof)
        obtain ⟨left, hleft⟩ := h.keys _ record hreads
        rw [unknown] at hleft
        cases hleft
      · rw [hseen]
        exact h.seen_cons name
      · rw [hexisting, hseen]
        exact h.memory_cons _
      · rw [hexisting]
        exact h.keys
  | made name unknown created new holds =>
      obtain ⟨hlabId, -, hstatus⟩ := createDiscoveredRecord_ok created
      obtain ⟨labId, rfl, hname⟩ := hid.key_eq name
      refine h.made_new name unknown new ?_ ?_ holds
      · rw [hstatus]
        decide
      · rw [hlabId, hname]
        exact name

/-- **The run lemma** of a scan. -/
theorem Scanned.processLabs (h : Scanned py db workerId done d) :
    ∀ labs : List ScannedLab, (∀ lab ∈ labs, lab.IdText) →
      Scanned py db workerId (done ++ labs) (labs.foldl (Discovery.processLab py workerId) d) := by
  intro labs
  induction labs generalizing done d with
  | nil =>
      intro _
      rw [List.append_nil]
      exact h
  | cons lab labs ih =>
      intro hid
      obtain ⟨hhead, htail⟩ := List.forall_mem_cons.mp hid
      have hrest := ih (h.processLab hhead) htail
      rw [List.append_assoc] at hrest
      exact hrest

end Scan

/-! ## §4. The orphan sweep. -/

/-- The sweep orphans the record. -/
def Orphans (seen : List Value.HashKey) (entry : Value.HashKey × LabRecord) : Prop :=
  entry.1 ∉ seen ∧ entry.2.isTerminal = false ∧ entry.2.status ≠ .orphaned

section Sweep

variable {now : Int} {d : Discovery} {entry : Value.HashKey × LabRecord}

/-- The sweep passes a record by. -/
theorem sweepLab_of_not (h : ¬ Orphans d.seenLabIds entry) : d.sweepLab now entry = d := by
  unfold Discovery.sweepLab
  split
  next => rfl
  next hunseen =>
    split
    next => rfl
    next hlive =>
      rw [Bool.or_eq_true, not_or, Bool.not_eq_true, beq_iff_eq] at hlive
      exact absurd ⟨hunseen, hlive⟩ h

theorem sweepLab_of_orphans (now : Int) (h : Orphans d.seenLabIds entry) :
    ∃ orphaned, entry.2.SameLab orphaned ∧ orphaned.status = .orphaned
      ∧ (d.sweepLab now entry).db = d.db.save orphaned false := by
  obtain ⟨hunseen, hterminal, hstatus⟩ := h
  obtain ⟨orphaned, hmarked, hsame, horphaned⟩ :=
    entry.2.markOrphaned_ok now hterminal hstatus
  refine ⟨orphaned, hsame, horphaned, ?_⟩
  have hlive : ¬ (entry.2.isTerminal || entry.2.status == .orphaned) = true := by
    rw [Bool.or_eq_true, not_or, Bool.not_eq_true, beq_iff_eq]
    exact ⟨hterminal, hstatus⟩
  unfold Discovery.sweepLab
  rw [if_neg hunseen, if_neg hlive, hmarked]

theorem sweepLab_seen (now : Int) (d : Discovery) (entry : Value.HashKey × LabRecord) :
    (d.sweepLab now entry).seenLabIds = d.seenLabIds := by
  unfold Discovery.sweepLab
  split
  next => rfl
  next =>
    split
    next => rfl
    next => cases entry.2.markOrphaned now <;> rfl

theorem sweepLab_find_ne {id : String} (h : id ≠ entry.2.id) :
    (d.sweepLab now entry).db.store.find id = d.db.store.find id := by
  by_cases horphans : Orphans d.seenLabIds entry
  · obtain ⟨orphaned, hsame, -, hdb⟩ := sweepLab_of_orphans now horphans
    rw [hdb]
    exact d.db.find_save_ne orphaned false (hsame.id ▸ h)
  · rw [sweepLab_of_not horphans]

/-- What the sweep does not orphan it leaves alone. -/
theorem sweepLabs_untouched {id : String} :
    ∀ (entries : List (Value.HashKey × LabRecord)) (d : Discovery),
      (∀ entry ∈ entries, entry.2.id = id → ¬ Orphans d.seenLabIds entry) →
      (entries.foldl (Discovery.sweepLab now) d).db.store.find id = d.db.store.find id
  | [], _, _ => rfl
  | entry :: rest, d, h => by
      obtain ⟨hhead, htail⟩ := List.forall_mem_cons.mp h
      rw [List.foldl_cons, sweepLabs_untouched rest]
      · by_cases hid : entry.2.id = id
        · rw [sweepLab_of_not (hhead hid)]
        · exact sweepLab_find_ne (Ne.symm hid)
      · rw [sweepLab_seen]
        exact htail

/-- What it orphans is an orphan at the end. -/
theorem sweepLabs_orphaned :
    ∀ (entries : List (Value.HashKey × LabRecord)) (d : Discovery), entry ∈ entries →
      Orphans d.seenLabIds entry → entries.Pairwise (fun e f => e.2.id ≠ f.2.id) →
      ∃ orphaned, (entries.foldl (Discovery.sweepLab now) d).db.store.find entry.2.id
        = some orphaned ∧ entry.2.SameLab orphaned ∧ orphaned.status = .orphaned
  | e :: rest, d, hmem, horphans, hpairwise => by
      obtain ⟨hhead, htail⟩ := List.pairwise_cons.mp hpairwise
      rw [List.foldl_cons]
      rcases List.mem_cons.mp hmem with rfl | hmem
      · obtain ⟨orphaned, hsame, hstatus, hdb⟩ := sweepLab_of_orphans now horphans
        refine ⟨orphaned, ?_, hsame, hstatus⟩
        -- no later entry is about the record
        rw [sweepLabs_untouched rest _ fun f hf hid => absurd hid (hhead f hf).symm, hdb,
          ← hsame.id]
        exact d.db.find_save_self orphaned false
      · refine sweepLabs_orphaned rest _ hmem ?_ htail
        rw [sweepLab_seen]
        exact horphans

end Sweep

/-! ## §5. The store after a full scan. -/

namespace DiscoverLabRecordsCommand

/-- The ids that the scan gives are texts. -/
def IdTexts (command : DiscoverLabRecordsCommand) : Prop := ∀ lab ∈ command.labs, lab.IdText

/-- **In step**: of the records of the worker those are orphans whose lab was not reported,
unless they had been terminal. -/
def InStep (command : DiscoverLabRecordsCommand) (db db' : LabRecords) : Prop :=
  ∀ id stored, db'.store.find id = some stored → stored.workerId = command.workerId →
    (stored.status = .orphaned ↔ ¬ ScanReports command.labs stored.labId
      ∧ ∀ record, db.store.find id = some record → record.isTerminal = false)

/-- The discovery reaches the record: it is the one that is read for its lab, and if the scan
reports that lab, then with an entry that can be read. -/
def Reaches (py : PythonLibrary) (db : LabRecords) (command : DiscoverLabRecordsCommand)
    (record : LabRecord) : Prop :=
  db.Reads command.workerId record ∧ (ScanReports command.labs record.labId →
    ∃ lab ∈ command.labs, lab.isOf record.labId ∧ lab.readable py = true)

/-- The record is an orphan already, or none, as the scan has it. -/
def Settled (command : DiscoverLabRecordsCommand) (record : LabRecord) : Prop :=
  record.status = .orphaned ↔ ¬ ScanReports command.labs record.labId ∧ record.isTerminal = false

end DiscoverLabRecordsCommand

section FullScan

variable {py : PythonLibrary} {now : Int} {db : LabRecords} {command : DiscoverLabRecordsCommand}
  {d : Discovery} {id : String} {record : LabRecord}

/-- What is in memory of a record that is stored. -/
theorem Scanned.memory_id {entry : Value.HashKey × LabRecord}
    (h : Scanned py db command.workerId command.labs d)
    (hmem : entry ∈ d.existingByLabId.entries) (hid : entry.2.id = id)
    (hfind : db.store.find id = some record) :
    entry.1 = .text record.labId ∧ db.Reads command.workerId record
      ∧ (entry.1 ∉ d.seenLabIds → entry.2 = record) := by
  obtain ⟨other, hother, hsame, hunseen⟩ :=
    h.memory entry.1 entry.2 ((Dict.get?_eq_some_iff _ _ _).mpr hmem)
  obtain ⟨hkey, hstored, -⟩ := start_read hother
  rw [← hsame.id, hid, hfind] at hstored
  obtain rfl := Option.some.inj hstored
  rw [hkey] at hother
  exact ⟨hkey, hother, hunseen⟩

theorem Scanned.memory_distinct (h : Scanned py db command.workerId command.labs d) :
    d.existingByLabId.entries.Pairwise fun e f => e.2.id ≠ f.2.id := by
  have hkeys : d.existingByLabId.entries.Pairwise fun e f => e.1 ≠ f.1 :=
    List.pairwise_map.mp d.existingByLabId.nodup
  refine hkeys.imp_of_mem fun {e f} he hf hne hid => hne ?_
  obtain ⟨other, hother, hsame, -⟩ :=
    h.memory e.1 e.2 ((Dict.get?_eq_some_iff _ _ _).mpr he)
  obtain ⟨-, hstored, -⟩ := start_read hother
  rw [(h.memory_id he hsame.id hstored).1]
  exact (h.memory_id hf (hid.symm.trans hsame.id) hstored).1.symm

/-- A record that was not stored before. -/
theorem Scanned.swept_new (h : Scanned py db command.workerId command.labs d)
    (hnone : db.store.find id = none) {stored : LabRecord}
    (hfind : (d.sweep now false).db.store.find id = some stored) :
    stored.status ≠ .orphaned ∧ ScanReports command.labs stored.labId := by
  refine h.made id stored ?_ hnone
  rw [← hfind]
  refine (sweepLabs_untouched _ d fun entry hmem hid => ?_).symm
  obtain ⟨other, hother, hsame, -⟩ :=
    h.memory entry.1 entry.2 ((Dict.get?_eq_some_iff _ _ _).mpr hmem)
  obtain ⟨-, hstored, -⟩ := start_read hother
  rw [← hsame.id, hid, hnone] at hstored
  cases hstored

/-- A record that the discovery does not reach stays as it is. -/
theorem Scanned.swept_unreached (h : Scanned py db command.workerId command.labs d)
    (hfind : db.store.find id = some record) (hnot : ¬ command.Reaches py db record) :
    (d.sweep now false).db.store.find id = some record := by
  have huntouched : d.db.store.find id = some record :=
    h.untouched id record hfind fun hrefreshed =>
      hnot ⟨hrefreshed.1, fun _ => hrefreshed.2⟩
  rw [← huntouched]
  refine sweepLabs_untouched _ d fun entry hmem hid horphans => ?_
  obtain ⟨hkey, hreads, -⟩ := h.memory_id hmem hid hfind
  -- the record is read, so that its lab is reported
  refine hnot ⟨hreads, fun hreports => ?_⟩
  rw [← h.seen, ← hkey] at hreports
  exact absurd hreports horphans.1

/-- A record that it reaches is as it should be. -/
theorem Scanned.swept_reached (h : Scanned py db command.workerId command.labs d)
    (hfind : db.store.find id = some record) (hreaches : command.Reaches py db record) :
    ∃ stored, (d.sweep now false).db.store.find id = some stored ∧ record.SameLab stored
      ∧ (stored.status = .orphaned
        ↔ ¬ ScanReports command.labs record.labId ∧ record.isTerminal = false) := by
  obtain ⟨hreads, hread⟩ := hreaches
  by_cases hreports : ScanReports command.labs record.labId
  · -- an entry has taken the orphan back, and the sweep passes it by
    obtain ⟨stored, hstored, hsame, hstatus⟩ :=
      h.refreshed id record hfind ⟨hreads, hread hreports⟩
    refine ⟨stored, ?_, hsame, iff_of_false hstatus fun hnot => hnot.1 hreports⟩
    rw [← hstored]
    refine sweepLabs_untouched _ d fun entry hmem hid horphans => ?_
    obtain ⟨hkey, -, -⟩ := h.memory_id hmem hid hfind
    rw [← h.seen, ← hkey] at hreports
    exact horphans.1 hreports
  · have hunseen : .text record.labId ∉ d.seenLabIds := (h.seen _).not.mpr hreports
    -- no entry was about the record, so that it is stored as it was
    have huntouched : d.db.store.find id = some record :=
      h.untouched id record hfind fun ⟨_, lab, hmem, hof, _⟩ => hreports ⟨lab, hmem, hof⟩
    by_cases hlive : record.isTerminal = false ∧ record.status ≠ .orphaned
    · -- the record in memory is the stored one, and the sweep marks it
      obtain ⟨left, hleft⟩ := h.keys _ record hreads
      obtain ⟨other, hother, -, hsame⟩ := h.memory _ left hleft
      obtain rfl := Option.some.inj (hreads.symm.trans hother)
      obtain rfl := hsame hunseen
      obtain ⟨orphaned, hstored, hsame, hstatus⟩ := @sweepLabs_orphaned now (_, left) _ d
        ((Dict.get?_eq_some_iff _ _ _).mp hleft) ⟨hunseen, hlive⟩ h.memory_distinct
      rw [db.id_of_find hfind] at hstored
      exact ⟨orphaned, hstored, hsame, iff_of_true hstatus ⟨hreports, hlive.1⟩⟩
    · refine ⟨record, ?_, LabRecord.SameLab.refl record, ?_⟩
      · rw [← huntouched]
        refine sweepLabs_untouched _ d fun entry hmem hid horphans => ?_
        obtain ⟨-, -, hsame⟩ := h.memory_id hmem hid hfind
        have horphans' := horphans.2
        rw [hsame horphans.1] at horphans'
        exact hlive horphans'
      · rw [and_iff_right hreports]
        constructor
        · intro hstatus
          unfold LabRecordState.isTerminal
          rw [hstatus]
          rfl
        · exact fun hterminal => not_not.mp fun hne => hlive ⟨hterminal, hne⟩

/-- The entries of a scan whose ids are texts, and the sweep. -/
theorem discoverLabRecords_full (now : Int) (hworker : command.workerId ≠ "")
    (hfull : command.partialScan = false) (hids : command.IdTexts) :
    ∃ d, Scanned py db command.workerId command.labs d
      ∧ (discoverLabRecords py now db command).2 = (d.sweep now false).db := by
  have hscanned := (scanned_nil py db command.workerId).processLabs command.labs hids
  rw [List.nil_append] at hscanned
  refine ⟨_, hscanned, ?_⟩
  unfold discoverLabRecords
  rw [if_neg hworker]
  dsimp only
  rw [hscanned.raised, hfull]

/-- **A full scan leaves the store in step** iff each record of the worker is reached by the
discovery or is settled without it. -/
theorem inStep_iff (now : Int) (hworker : command.workerId ≠ "")
    (hfull : command.partialScan = false) (hids : command.IdTexts) :
    command.InStep db (discoverLabRecords py now db command).2
      ↔ ∀ id record, db.store.find id = some record → record.workerId = command.workerId →
        command.Reaches py db record ∨ command.Settled record := by
  obtain ⟨d, hscanned, hdb⟩ := @discoverLabRecords_full py db command now hworker hfull hids
  rw [hdb]
  constructor
  · intro h id record hfind hof
    by_cases hreaches : command.Reaches py db record
    · exact .inl hreaches
    · refine .inr ?_
      have hstep := h id record (hscanned.swept_unreached hfind hreaches) hof
      simp only [hfind, Option.some.injEq, forall_eq'] at hstep
      exact hstep
  · intro h id stored hstored hof
    cases hfind : db.store.find id with
    | none =>
        obtain ⟨hstatus, hreports⟩ := hscanned.swept_new hfind hstored
        exact iff_of_false hstatus fun hnot => hnot.1 hreports
    | some record =>
        simp only [Option.some.injEq, forall_eq']
        by_cases hreaches : command.Reaches py db record
        · obtain ⟨left, hleft, hsame, hstep⟩ := @Scanned.swept_reached py now _ _ _ _ _ hscanned
            hfind hreaches
          obtain rfl := Option.some.inj (hleft.symm.trans hstored)
          rw [hsame.labId]
          exact hstep
        · have hkept := @Scanned.swept_unreached py now _ _ _ _ _ hscanned hfind hreaches
          obtain rfl := Option.some.inj (hkept.symm.trans hstored)
          exact (h id record hfind hof).resolve_left hreaches

end FullScan

end CmlCloudManager.ControlPlane
