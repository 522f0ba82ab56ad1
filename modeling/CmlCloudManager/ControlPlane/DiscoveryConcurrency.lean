/-
  CmlCloudManager.ControlPlane.DiscoveryConcurrency
  ─────────────────────────────────────────────────
  **DISCOVERIES THAT GET IN EACH OTHER'S WAY.**

  A discovery reads the records of its worker once and then goes through its entries
  with one write each, so that any number of discoveries (full scans, scans of one
  lab by a pipeline) take turns at the collection.  An entry is new when its lab was
  not among the records that were read: nothing checks again before the insert, and
  the unique index that would refuse a second record is never created.

    • `advance_alone`   — a discovery that is alone does what the handler does,
    • `StoreEffect`     — what one write of a discovery does to the collection,
    • `unique_iff`      — there is one record of each lab all along iff no discovery
                          adds a lab that was added since it read the records.
-/
import CmlCloudManager.ControlPlane.OrphanSweep

namespace CmlCloudManager.ControlPlane

open CmlCloudManager.Foundation CmlCloudManager.Pipeline

/-! ## §1. Discoveries under way. -/

namespace Discovery

/-- The discovery finds the collection as the others have left it. -/
def on (d : Discovery) (records : LabRecords) : Discovery := { d with db := records }

/-- The repository refused to save: the record in memory stays as it is, and an error is kept. -/
def refused (before after : Discovery) (message : String) : Discovery :=
  -- an access that had nothing to save cannot be refused
  if after.db.writes.length = before.db.writes.length then after
  else
    { before with
      existingByLabId := after.existingByLabId
      seenLabIds := after.seenLabIds
      errors := before.errors ++ [message] }

/-- What an access leaves, with what the repository raised, if it raised anything. -/
def settle (refusal : Option String) (failure : String) (before after : Discovery) : Discovery :=
  match refusal with
  | none => after
  | some e => before.refused after (failure ++ ": " ++ e)

/-- The result that is returned. -/
def result (command : DiscoverLabRecordsCommand) (d : Discovery) : DiscoverLabRecordsResult where
  synced := command.labs.length
  discovered := d.discoveredCount
  updated := d.updatedCount
  orphaned := d.orphanedCount
  revisionsCreated := d.revisionsCreatedCount
  errors := d.errors

end Discovery

/-- What a discovery has left to do. -/
inductive DiscoveryPhase where
  | reading
  | scanning (d : Discovery) (labs : List ScannedLab)
  | sweeping (d : Discovery) (entries : List (Value.HashKey × LabRecord))
  | answered (answer : Except String (OperationResult DiscoverLabRecordsResult))

/-- A command under way, with how much had been written when it read the records. -/
structure DiscoveryTask where
  command : DiscoverLabRecordsCommand
  readAt : Nat := 0
  phase : DiscoveryPhase := .reading

/-- The next access of a discovery to the collection. -/
def DiscoveryTask.advance (py : PythonLibrary) (now : Int) (refusal : Option String)
    (records : LabRecords) (task : DiscoveryTask) : LabRecords × DiscoveryTask :=
  match task.phase with
  | .reading =>
      if task.command.workerId = "" then
        (records, { task with phase := .answered (.ok (.badRequest "worker_id is required")) })
      else
        match refusal with
        | some e => (records, { task with phase := .answered (.error e) })
        | none =>
            -- the only time the discovery reads
            (records,
              { task with
                readAt := records.writes.length
                phase := .scanning (Discovery.start records task.command.workerId)
                  task.command.labs })
  | .scanning d [] =>
      (records,
        { task with
          phase :=
            if task.command.partialScan then .answered (.ok (.ok (d.result task.command)))
            else .sweeping d d.existingByLabId.entries })
  | .scanning d (lab :: labs) =>
      let after := (d.on records).settle refusal
        ("Failed to process lab " ++ (lab.data.get "id").pyStr)
        ((d.on records).processLab py task.command.workerId lab)
      match after.raised with
      -- an id without a hash ends the command, and there is no sweep
      | some e => (after.db, { task with phase := .answered (.error e) })
      | none => (after.db, { task with phase := .scanning after labs })
  | .sweeping d [] =>
      (records, { task with phase := .answered (.ok (.ok (d.result task.command))) })
  | .sweeping d (entry :: entries) =>
      let after := (d.on records).settle refusal ("Failed to orphan lab " ++ entry.2.labId)
        ((d.on records).sweepLab now entry)
      (after.db, { task with phase := .sweeping after entries })
  | .answered _ => (records, task)

/-- The collection, and the discoveries that have been asked for. -/
structure DiscoveryWorld where
  records : LabRecords
  tasks : List DiscoveryTask

/-- Another discovery, or an access of one that is under way. -/
inductive DiscoveryAction where
  | submit (command : DiscoverLabRecordsCommand)
  | access (k : Nat) (now : Int) (refusal : Option String)

/-- One step. -/
def discoveryStep (py : PythonLibrary) (w : DiscoveryWorld) : DiscoveryAction → DiscoveryWorld
  | .submit command => { w with tasks := w.tasks ++ [{ command := command }] }
  | .access k now refusal =>
      match w.tasks[k]? with
      | none => w
      | some task =>
          let (records, task) := task.advance py now refusal w.records
          ⟨records, w.tasks.set k task⟩

/-- Stored records, and no discovery yet. -/
def DiscoveryWorld.start (store : LabStore) : DiscoveryWorld := ⟨⟨store, []⟩, []⟩

/-! ## §2. One record of each lab. -/

/-- **Unique**: of two records of one lab on one worker, both are the same. -/
def LabRecords.Unique (db : LabRecords) : Prop :=
  ∀ id id' lab lab', db.store.find id = some lab → db.store.find id' = some lab' →
    lab.workerId = lab'.workerId → lab.labId = lab'.labId → id = id'

/-- The record that an entry adds, if it adds one. -/
def Discovery.adds (workerId : String) (d : Discovery) (lab : ScannedLab) : Option LabRecord :=
  match lab.key with
  | none => none
  | some key =>
      match d.existingByLabId.get? key with
      | some _ => none
      | none =>
          match createDiscoveredRecord lab.newId lab.now workerId lab.data with
          | .error _ => none
          | .ok record =>
              match d.db.store.find record.id with
              | some _ => none
              | none => some record

/-- The lab was added since the records were read. -/
def LabRecords.addedSince (db : LabRecords) (readAt : Nat) (workerId labId : String) : Bool :=
  (db.writes.drop readAt).any fun write =>
    write.previous.isNone && write.record.workerId == workerId && write.record.labId == labId

/-- The record that the next access adds, if it adds one. -/
def DiscoveryTask.adds (records : LabRecords) (refusal : Option String) (task : DiscoveryTask) :
    Option LabRecord :=
  match task.phase, refusal with
  | .scanning d (lab :: _), none => (d.on records).adds task.command.workerId lab
  | _, _ => none

/-- A record was read for the lab id. -/
def DiscoveryTask.read (task : DiscoveryTask) (labId : String) : Bool :=
  match task.phase with
  | .scanning d _ => d.existingByLabId.contains (.text labId)
  | _ => false

/-- **The access adds a lab again**: one that was added since the records were read, or one that
was read under an id that is not the one the entry gives. -/
def DiscoveryTask.repeats (records : LabRecords) (refusal : Option String)
    (task : DiscoveryTask) : Bool :=
  match task.adds records refusal with
  | none => false
  | some record =>
      task.read record.labId
        || records.addedSince task.readAt task.command.workerId record.labId

/-- The step adds a lab again. -/
def DiscoveryWorld.repeats (w : DiscoveryWorld) : DiscoveryAction → Bool
  | .submit _ => false
  | .access k _ refusal =>
      match w.tasks[k]? with
      | none => false
      | some task => task.repeats w.records refusal

/-! ## §3. What one access does to the collection. -/

/-- **What an access does to the collection**, and which record it adds. -/
inductive StoreEffect (db : LabRecords) (added : Option LabRecord) (db' : LabRecords) : Prop where
  | same (nothing : added = none) (eq : db' = db)
  | rewritten {stored left : LabRecord} {sync : Bool} (nothing : added = none)
      (find : db.store.find left.id = some stored) (same : stored.SameLab left)
      (eq : db' = db.save left sync)
  | inserted {record : LabRecord} (new : added = some record)
      (find : db.store.find record.id = none) (eq : db' = db.save record false)

/-- The same labs are in memory. -/
structure SameMemory (existing existing' : Dict Value.HashKey LabRecord) : Prop where
  back : ∀ key left, existing'.get? key = some left →
    ∃ record, existing.get? key = some record ∧ record.SameLab left
  forth : ∀ key record, existing.get? key = some record → ∃ left, existing'.get? key = some left

/-- What is in memory is stored. -/
def Stored (db : LabRecords) (lab : LabRecord) : Prop :=
  ∃ stored, db.store.find lab.id = some stored ∧ stored.SameLab lab

section Effect

variable {py : PythonLibrary} {workerId : String} {now : Int} {db db' : LabRecords}
  {added : Option LabRecord} {d before after : Discovery} {lab : ScannedLab}
  {existing existing' : Dict Value.HashKey LabRecord}

theorem SameMemory.refl (existing : Dict Value.HashKey LabRecord) : SameMemory existing existing :=
  ⟨fun _ record h => ⟨record, h, LabRecord.SameLab.refl record⟩, fun _ record h => ⟨record, h⟩⟩

theorem SameMemory.set {key : Value.HashKey} {record left : LabRecord}
    (known : existing.get? key = some record) (same : record.SameLab left) :
    SameMemory existing (existing.set key left) := by
  refine ⟨?_, ?_⟩
  · intro key' left' h
    rcases Dict.get?_set_eq_some h with ⟨rfl, rfl⟩ | ⟨-, h⟩
    · exact ⟨record, known, same⟩
    · exact ⟨left', h, LabRecord.SameLab.refl left'⟩
  · intro key' record' h
    by_cases hkey : key' = key
    · subst hkey
      exact ⟨left, Dict.get?_set_self ..⟩
    · exact ⟨record', (Dict.get?_set_ne _ _ _ hkey).trans h⟩

theorem StoreEffect.rewrite {record left : LabRecord} {sync : Bool} (hstored : Stored db record)
    (same : record.SameLab left) (nothing : added = none) :
    StoreEffect db added (db.save left sync) := by
  obtain ⟨stored, hfind, hsame⟩ := hstored
  refine .rewritten nothing ?_ (hsame.trans same) rfl
  rw [same.id]
  exact hfind

/-- An entry whose lab is known adds nothing, nor does one without a name. -/
theorem Discovery.adds_known {key : Value.HashKey} {record : LabRecord}
    (name : lab.key = some key) (known : d.existingByLabId.get? key = some record) :
    d.adds workerId lab = none := by
  unfold Discovery.adds
  rw [name]
  dsimp only
  rw [known]

/-- One entry of a scan. -/
theorem processLab_outcome (py : PythonLibrary) (workerId : String) (lab : ScannedLab)
    (hraised : d.raised = none)
    (hstored : ∀ key record, d.existingByLabId.get? key = some record → Stored d.db record) :
    SameMemory d.existingByLabId (d.processLab py workerId lab).existingByLabId
      ∧ StoreEffect d.db (d.adds workerId lab) (d.processLab py workerId lab).db := by
  cases processLab_effect py workerId lab hraised with
  | nameless name holds =>
      have hadds : d.adds workerId lab = none := by
        unfold Discovery.adds
        rw [name]
      rw [holds.existing]
      exact ⟨SameMemory.refl _, .same hadds holds.db⟩
  | halted given unhashable db existing raised =>
      obtain ⟨e, he⟩ := unhashable
      have hadds : d.adds workerId lab = none := by
        unfold Discovery.adds ScannedLab.key
        rw [given, if_pos rfl, he]
        rfl
      rw [existing]
      exact ⟨SameMemory.refl _, .same hadds db⟩
  -- a lab that is known adds nothing, whether its details were read or not
  | kept name known same unread holds =>
      rw [holds.existing]
      exact ⟨SameMemory.set known same, .same (Discovery.adds_known name known) holds.db⟩
  | updated name known same read found holds =>
      rw [holds.existing, holds.db]
      exact ⟨SameMemory.set known same,
        .rewrite (hstored _ _ known) same (Discovery.adds_known name known)⟩
  | unmade name unknown refused holds =>
      have hadds : d.adds workerId lab = none := by
        unfold Discovery.adds
        rw [name]
        dsimp only
        rw [unknown]
        dsimp only
        split
        next => rfl
        next record hcreated =>
          obtain ⟨other, hother⟩ := refused record hcreated
          rw [hother]
      rw [holds.existing]
      exact ⟨SameMemory.refl _, .same hadds holds.db⟩
  | @made key record name unknown created new holds =>
      have hadds : d.adds workerId lab = some record := by
        unfold Discovery.adds
        rw [name]
        dsimp only
        rw [unknown]
        dsimp only
        rw [created]
        dsimp only
        rw [new]
      rw [holds.existing]
      exact ⟨SameMemory.refl _, .inserted hadds new holds.db⟩

/-- A known lab that the sweep comes to. -/
theorem sweepLab_outcome (now : Int) {entry : Value.HashKey × LabRecord}
    (hstored : Stored d.db entry.2) : StoreEffect d.db none (d.sweepLab now entry).db := by
  by_cases horphans : Orphans d.seenLabIds entry
  · obtain ⟨orphaned, hsame, -, hdb⟩ := sweepLab_of_orphans now horphans
    rw [hdb]
    exact .rewrite hstored hsame rfl
  · rw [sweepLab_of_not horphans]
    exact .same rfl rfl

/-- Nothing is stored when the repository refuses. -/
theorem settle_refused (e failure : String) (heffect : StoreEffect before.db added after.db) :
    (before.settle (some e) failure after).db = before.db := by
  unfold Discovery.settle Discovery.refused
  dsimp only
  split
  next hlength =>
    -- every write enters the log, so that with a log as long as before nothing was written
    cases heffect with
    | same nothing eq => exact eq
    | rewritten nothing find same eq | inserted new find eq =>
        rw [eq, LabRecords.save, List.length_append] at hlength
        exact absurd hlength (Nat.succ_ne_self _)
  next => rfl

theorem settle_memory (before after : Discovery) (refusal : Option String) (failure : String) :
    (before.settle refusal failure after).existingByLabId = after.existingByLabId := by
  unfold Discovery.settle Discovery.refused
  cases refusal with
  | none => rfl
  | some e =>
      dsimp only
      split <;> rfl

/-- What is stored stays stored, as a record of its lab. -/
theorem StoreEffect.keeps (h : StoreEffect db added db') {id : String} {stored : LabRecord}
    (hfind : db.store.find id = some stored) :
    ∃ stored', db'.store.find id = some stored' ∧ stored.SameLab stored' := by
  cases h with
  | same nothing eq => exact ⟨stored, eq ▸ hfind, LabRecord.SameLab.refl stored⟩
  | @rewritten old left sync nothing find same eq =>
      rw [eq]
      -- the copy that is saved may be an old one, but it is a copy of the same record
      by_cases hid : id = left.id
      · subst hid
        obtain rfl := Option.some.inj (find.symm.trans hfind)
        exact ⟨left, db.find_save_self left sync, same⟩
      · exact ⟨stored, (db.find_save_ne left sync hid).trans hfind, LabRecord.SameLab.refl stored⟩
  | @inserted record new find eq =>
      rw [eq]
      have hid : id ≠ record.id := by
        rintro rfl
        rw [find] at hfind
        cases hfind
      exact ⟨stored, (db.find_save_ne record false hid).trans hfind, LabRecord.SameLab.refl stored⟩

/-- What is stored was stored, as a record of its lab, or it is the record that was added. -/
theorem StoreEffect.back (h : StoreEffect db added db') {id : String} {stored : LabRecord}
    (hfind : db'.store.find id = some stored) :
    (∃ old, db.store.find id = some old ∧ old.SameLab stored) ∨ added = some stored := by
  cases h with
  | same nothing eq => exact .inl ⟨stored, eq ▸ hfind, LabRecord.SameLab.refl stored⟩
  | @rewritten old left sync nothing find same eq =>
      rw [eq] at hfind
      by_cases hid : id = left.id
      · subst hid
        rw [db.find_save_self left sync] at hfind
        obtain rfl := Option.some.inj hfind
        exact .inl ⟨old, find, same⟩
      · rw [db.find_save_ne left sync hid] at hfind
        exact .inl ⟨stored, hfind, LabRecord.SameLab.refl stored⟩
  | @inserted record new find eq =>
      rw [eq] at hfind
      by_cases hid : id = record.id
      · subst hid
        rw [db.find_save_self record false] at hfind
        exact .inr (new.trans hfind)
      · rw [db.find_save_ne record false hid] at hfind
        exact .inl ⟨stored, hfind, LabRecord.SameLab.refl stored⟩

/-- The log grows, and an insert is entered as one. -/
theorem StoreEffect.writes (h : StoreEffect db added db') :
    ∃ more, db'.writes = db.writes ++ more
      ∧ (∀ record, added = some record → more = [⟨none, record, false⟩])
      ∧ ∀ write ∈ more, db'.store.find write.record.id = some write.record := by
  cases h with
  | same nothing eq =>
      refine ⟨[], by rw [eq, List.append_nil], ?_, fun write h => absurd h List.not_mem_nil⟩
      intro record hnew
      rw [nothing] at hnew
      cases hnew
  | @rewritten old left sync nothing find same eq =>
      refine ⟨[⟨db.store.find left.id, left, sync⟩], by rw [eq]; rfl, ?_, ?_⟩
      · intro record hnew
        rw [nothing] at hnew
        cases hnew
      · intro write hmem
        obtain rfl := List.mem_singleton.mp hmem
        rw [eq]
        exact db.find_save_self left sync
  | @inserted record new find eq =>
      refine ⟨[⟨db.store.find record.id, record, false⟩], by rw [eq]; rfl, ?_, ?_⟩
      · intro record' hnew
        obtain rfl := Option.some.inj (new.symm.trans hnew)
        rw [find]
      · intro write hmem
        obtain rfl := List.mem_singleton.mp hmem
        rw [eq]
        exact db.find_save_self record false

/-- **The records are unique after an access** iff they were, and the lab that it adds was not
stored. -/
theorem StoreEffect.unique_iff (h : StoreEffect db added db') :
    db'.Unique ↔ db.Unique ∧ ∀ record, added = some record →
      ∀ id stored, db.store.find id = some stored → stored.workerId = record.workerId →
        stored.labId ≠ record.labId := by
  constructor
  · intro hunique
    refine ⟨?_, ?_⟩
    · intro id id' lab lab' hfind hfind' hworker hlab
      obtain ⟨left, hleft, hsame⟩ := h.keeps hfind
      obtain ⟨left', hleft', hsame'⟩ := h.keeps hfind'
      refine hunique id id' left left' hleft hleft' ?_ ?_
      · rw [hsame.workerId, hsame'.workerId, hworker]
      · rw [hsame.labId, hsame'.labId, hlab]
    · intro record hnew id stored hfind hworker hlab
      cases h with
      | same nothing eq | rewritten nothing find same eq =>
          rw [nothing] at hnew
          cases hnew
      | inserted new find eq =>
          obtain rfl := Option.some.inj (hnew.symm.trans new)
          -- the new record and the stored one are two of one lab
          have hid : id ≠ record.id := by
            rintro rfl
            rw [find] at hfind
            cases hfind
          rw [eq] at hunique
          exact hid (hunique id record.id stored record
            ((db.find_save_ne record false hid).trans hfind)
            (db.find_save_self record false) hworker hlab)
  · rintro ⟨hunique, hnew⟩ id id' lab lab' hfind hfind' hworker hlab
    rcases h.back hfind with ⟨old, hold, hsame⟩ | hadded
    · rcases h.back hfind' with ⟨old', hold', hsame'⟩ | hadded'
      · refine hunique id id' old old' hold hold' ?_ ?_
        · rw [← hsame.workerId, ← hsame'.workerId, hworker]
        · rw [← hsame.labId, ← hsame'.labId, hlab]
      · exact absurd (hsame.labId.symm.trans hlab)
          (hnew lab' hadded' id old hold (hsame.workerId.symm.trans hworker))
    · rcases h.back hfind' with ⟨old', hold', hsame'⟩ | hadded'
      · exact absurd (hsame'.labId.symm.trans hlab.symm)
          (hnew lab hadded id' old' hold' (hsame'.workerId.symm.trans hworker.symm))
      · -- both are the record that was added
        obtain rfl := Option.some.inj (hadded.symm.trans hadded')
        rw [← db'.id_of_find hfind, ← db'.id_of_find hfind']

end Effect

/-! ## §4. What a discovery knows of the collection. -/

/-- **What was read is still known**: the records in memory are stored, and a record that is stored
was read or has been added since. -/
structure Knows (db : LabRecords) (readAt : Nat) (workerId : String)
    (existing : Dict Value.HashKey LabRecord) : Prop where
  past : readAt ≤ db.writes.length
  memory : ∀ key left, existing.get? key = some left →
    key = .text left.labId ∧ left.workerId = workerId ∧ Stored db left
  covers : ∀ id stored, db.store.find id = some stored → stored.workerId = workerId →
    existing.contains (.text stored.labId) = true
      ∨ db.addedSince readAt workerId stored.labId = true

/-- What holds of a discovery under way. -/
def DiscoveryTask.Tracks (db : LabRecords) (task : DiscoveryTask) : Prop :=
  match task.phase with
  | .scanning d _ =>
      d.raised = none ∧ Knows db task.readAt task.command.workerId d.existingByLabId
  | .sweeping _ entries => ∀ entry ∈ entries, Stored db entry.2
  | _ => True

/-- What holds of all of them; what was written is stored, as a record of its lab. -/
structure DiscoveryWorld.Tracked (w : DiscoveryWorld) : Prop where
  logged : ∀ write ∈ w.records.writes, ∃ stored,
    w.records.store.find write.record.id = some stored ∧ write.record.SameLab stored
  tasks : ∀ task ∈ w.tasks, task.Tracks w.records

section Track

variable {py : PythonLibrary} {now : Int} {refusal : Option String} {readAt : Nat}
  {workerId : String} {db db' : LabRecords} {added : Option LabRecord}
  {existing existing' : Dict Value.HashKey LabRecord} {task : DiscoveryTask}
  {w : DiscoveryWorld}

theorem Stored.keep {lab : LabRecord} (h : Stored db lab) (heffect : StoreEffect db added db') :
    Stored db' lab := by
  obtain ⟨stored, hfind, hsame⟩ := h
  obtain ⟨stored', hfind', hsame'⟩ := heffect.keeps hfind
  exact ⟨stored', hfind', ⟨hsame.id.trans hsame'.id.symm, hsame.labId.trans hsame'.labId.symm,
    hsame.workerId.trans hsame'.workerId.symm⟩⟩

theorem LabRecords.addedSince_iff {labId : String} :
    db.addedSince readAt workerId labId = true
      ↔ ∃ write ∈ db.writes.drop readAt, write.previous = none
        ∧ write.record.workerId = workerId ∧ write.record.labId = labId := by
  unfold LabRecords.addedSince
  simp only [List.any_eq_true, Bool.and_eq_true, Option.isNone_iff_eq_none, beq_iff_eq, and_assoc]

/-- What was read is known after an access of any discovery. -/
theorem Knows.keep (h : Knows db readAt workerId existing) (heffect : StoreEffect db added db') :
    Knows db' readAt workerId existing := by
  obtain ⟨more, hwrites, hmore, -⟩ := heffect.writes
  have hdrop : db'.writes.drop readAt = db.writes.drop readAt ++ more := by
    rw [hwrites, List.drop_append_of_le_length h.past]
  refine ⟨?_, ?_, ?_⟩
  · rw [hwrites, List.length_append]
    exact h.past.trans (Nat.le_add_right ..)
  · intro key left hget
    obtain ⟨hkey, hworker, hstored⟩ := h.memory key left hget
    exact ⟨hkey, hworker, hstored.keep heffect⟩
  · intro id stored hfind hworker
    rcases heffect.back hfind with ⟨old, hold, hsame⟩ | hadded
    · rw [hsame.labId]
      refine (h.covers id old hold (hsame.workerId.symm.trans hworker)).imp_right fun hsince => ?_
      obtain ⟨write, hmem, hwrite⟩ := LabRecords.addedSince_iff.mp hsince
      refine LabRecords.addedSince_iff.mpr ⟨write, ?_, hwrite⟩
      rw [hdrop]
      exact List.mem_append_left more hmem
    · -- the record is the one that was just added
      refine .inr (LabRecords.addedSince_iff.mpr ⟨⟨none, stored, false⟩, ?_, rfl, hworker, rfl⟩)
      rw [hdrop, hmore stored hadded]
      exact List.mem_append_right _ (List.mem_singleton_self _)

theorem Knows.sameMemory (h : Knows db readAt workerId existing)
    (hmemory : SameMemory existing existing') : Knows db readAt workerId existing' := by
  refine ⟨h.past, ?_, ?_⟩
  · intro key left hget
    obtain ⟨record, hrecord, hsame⟩ := hmemory.back key left hget
    obtain ⟨hkey, hworker, stored, hfind, hstored⟩ := h.memory key record hrecord
    refine ⟨?_, hsame.workerId.trans hworker, stored, ?_, hstored.trans hsame⟩
    · rw [hsame.labId]
      exact hkey
    · rw [hsame.id]
      exact hfind
  · intro id stored hfind hworker
    refine (h.covers id stored hfind hworker).imp_left fun hread => ?_
    rw [Dict.contains_iff_mem_keys, Dict.mem_keys_iff] at hread ⊢
    obtain ⟨record, hrecord⟩ := hread
    exact hmemory.forth _ record hrecord

/-- The records as they are read. -/
theorem knows_start (db : LabRecords) (workerId : String) :
    Knows db db.writes.length workerId (Discovery.start db workerId).existingByLabId := by
  refine ⟨le_rfl, ?_, ?_⟩
  · intro key left hget
    obtain ⟨hkey, hfind, hworker⟩ := start_read hget
    exact ⟨hkey, hworker, left, hfind, LabRecord.SameLab.refl left⟩
  · intro id stored hfind hworker
    refine .inl ?_
    rw [Dict.contains_iff_mem_keys, Dict.mem_keys_iff]
    have hmem : stored ∈ db.allByWorker workerId := by
      rw [LabRecords.mem_allByWorker, db.id_of_find hfind]
      exact ⟨hfind, hworker⟩
    exact Dict.exists_get?_ofList (List.mem_map.mpr ⟨_, List.mem_map.mpr ⟨stored, hmem, rfl⟩, rfl⟩)

theorem DiscoveryTask.Tracks.keep (h : task.Tracks db) (heffect : StoreEffect db added db') :
    task.Tracks db' := by
  unfold DiscoveryTask.Tracks at h ⊢
  split at h
  next => exact ⟨h.1, h.2.keep heffect⟩
  next => exact fun entry hmem => (h entry hmem).keep heffect
  next => trivial

/-- **The step lemma** of a discovery. -/
theorem advance_effect (py : PythonLibrary) (now : Int) (refusal : Option String)
    (h : task.Tracks db) :
    StoreEffect db (task.adds db refusal) (task.advance py now refusal db).1
      ∧ (task.advance py now refusal db).2.Tracks (task.advance py now refusal db).1 := by
  obtain ⟨command, readAt, phase⟩ := task
  cases phase with
  | reading =>
      unfold DiscoveryTask.advance
      dsimp only
      split
      next => exact ⟨.same rfl rfl, trivial⟩
      next =>
        cases refusal with
        | some e => exact ⟨.same rfl rfl, trivial⟩
        | none => exact ⟨.same rfl rfl, rfl, knows_start db command.workerId⟩
  | scanning d labs =>
      obtain ⟨hraised, hknows⟩ := h
      cases labs with
      | nil =>
          -- the scan is through: what is in memory is what the sweep goes over
          refine ⟨.same (by cases refusal <;> rfl) rfl, ?_⟩
          unfold DiscoveryTask.advance DiscoveryTask.Tracks
          dsimp only
          cases command.partialScan with
          | true => trivial
          | false =>
              intro entry hmem
              exact (hknows.memory entry.1 entry.2 ((Dict.get?_eq_some_iff _ _ _).mpr hmem)).2.2
      | cons lab labs =>
          have houtcome := @processLab_outcome (d.on db) py command.workerId lab hraised
            fun key record hget => (hknows.memory key record hget).2.2
          unfold DiscoveryTask.advance
          dsimp only
          generalize (d.on db).processLab py command.workerId lab = after at houtcome ⊢
          obtain ⟨hmemory, heffect⟩ := houtcome
          cases refusal with
          | none =>
              dsimp only [Discovery.settle]
              split
              next => exact ⟨heffect, trivial⟩
              next hgoes => exact ⟨heffect, hgoes, (hknows.keep heffect).sameMemory hmemory⟩
          | some e =>
              have hdb := settle_refused e
                ("Failed to process lab " ++ (lab.data.get "id").pyStr) heffect
              rw [← settle_memory (d.on db) after (some e)
                ("Failed to process lab " ++ (lab.data.get "id").pyStr)] at hmemory
              generalize (d.on db).settle (some e) _ after = settled at hmemory hdb ⊢
              have hsame : StoreEffect db none settled.db := .same rfl hdb
              split
              next => exact ⟨hsame, trivial⟩
              next hgoes => exact ⟨hsame, hgoes, (hknows.keep hsame).sameMemory hmemory⟩
  | sweeping d entries =>
      cases entries with
      | nil => exact ⟨.same rfl rfl, trivial⟩
      | cons entry entries =>
          obtain ⟨hhead, htail⟩ := List.forall_mem_cons.mp h
          have heffect := @sweepLab_outcome (d.on db) now entry hhead
          unfold DiscoveryTask.advance DiscoveryTask.Tracks
          dsimp only
          generalize (d.on db).sweepLab now entry = after at heffect ⊢
          cases refusal with
          | none => exact ⟨heffect, fun other hmem => (htail other hmem).keep heffect⟩
          | some e =>
              have hsame : StoreEffect db none
                  ((d.on db).settle (some e) ("Failed to orphan lab " ++ entry.2.labId) after).db :=
                .same rfl (settle_refused e _ heffect)
              exact ⟨hsame, fun other hmem => (htail other hmem).keep hsame⟩
  | answered answer => exact ⟨.same rfl rfl, trivial⟩

/-- **The step lemma** of the system. -/
theorem DiscoveryWorld.Tracked.step (h : w.Tracked) (py : PythonLibrary)
    (action : DiscoveryAction) : (discoveryStep py w action).Tracked := by
  cases action with
  | submit command =>
      refine ⟨h.logged, fun task hmem => ?_⟩
      rcases List.mem_append.mp hmem with hmem | hmem
      · exact h.tasks task hmem
      · obtain rfl := List.mem_singleton.mp hmem
        trivial
  | access k now refusal =>
      unfold discoveryStep
      dsimp only
      split
      next => exact h
      next task htask =>
        obtain ⟨heffect, htracks⟩ :=
          advance_effect py now refusal (h.tasks task (List.mem_of_getElem? htask))
        refine ⟨fun write hmem => ?_, fun other hmem => ?_⟩
        · -- what was written before is stored under its id, what is written now as it is
          obtain ⟨more, hwrites, -, hmore⟩ := heffect.writes
          dsimp only at hmem ⊢
          rw [hwrites] at hmem
          rcases List.mem_append.mp hmem with hmem | hmem
          · obtain ⟨stored, hfind, hsame⟩ := h.logged write hmem
            obtain ⟨stored', hfind', hsame'⟩ := heffect.keeps hfind
            exact ⟨stored', hfind', hsame.trans hsame'⟩
          · exact ⟨write.record, hmore write hmem, LabRecord.SameLab.refl _⟩
        · rcases List.mem_or_eq_of_mem_set hmem with hmem | rfl
          · exact (h.tasks other hmem).keep heffect
          · exact htracks

theorem tracked_start (store : LabStore) : (DiscoveryWorld.start store).Tracked :=
  ⟨fun _ hmem => absurd hmem List.not_mem_nil, fun _ hmem => absurd hmem List.not_mem_nil⟩

/-! ## §5. When a lab is added again. -/

theorem Discovery.adds_some {d : Discovery} {lab : ScannedLab} {record : LabRecord}
    (h : d.adds workerId lab = some record) : record.workerId = workerId := by
  unfold Discovery.adds at h
  split at h
  next => cases h
  next =>
    split at h
    next => cases h
    next =>
      split at h
      next => cases h
      next made hmade =>
        split at h
        next => cases h
        next =>
          obtain rfl := Option.some.inj h
          exact (createDiscoveredRecord_ok hmade).2.1

/-- **An access does not add a lab again** iff the lab of what it adds is not stored. -/
theorem repeats_iff (h : task.Tracks w.records) (hlogged : w.Tracked) :
    task.repeats w.records refusal = false
      ↔ ∀ record, task.adds w.records refusal = some record →
        ∀ id stored, w.records.store.find id = some stored →
          stored.workerId = record.workerId → stored.labId ≠ record.labId := by
  unfold DiscoveryTask.repeats
  cases hadds : task.adds w.records refusal with
  | none => exact iff_of_true rfl fun record hnone => absurd hnone (Option.some_ne_none _).symm
  | some record =>
      simp only [Option.some.injEq, forall_eq', Bool.or_eq_false_iff]
      obtain ⟨command, readAt, phase⟩ := task
      unfold DiscoveryTask.adds at hadds
      split at hadds
      next d lab labs hphase =>
        dsimp only at hphase
        subst hphase
        obtain ⟨hraised, hknows⟩ := h
        have hworker : record.workerId = command.workerId := Discovery.adds_some hadds
        dsimp only [DiscoveryTask.read] at hknows ⊢
        constructor
        · -- a stored record was read or has been added since, and the access repeats neither
          rintro ⟨hunread, hnew⟩ id stored hfind hof hlab
          rcases hknows.covers id stored hfind (hof.trans hworker) with hread | hsince
          · rw [hlab, hunread] at hread
            cases hread
          · rw [hlab, hnew] at hsince
            cases hsince
        · -- what was read or was added since is stored
          intro hfresh
          refine ⟨Bool.eq_false_iff.mpr fun hread => ?_, Bool.eq_false_iff.mpr fun hsince => ?_⟩
          · rw [Dict.contains_iff_mem_keys, Dict.mem_keys_iff] at hread
            obtain ⟨left, hleft⟩ := hread
            obtain ⟨hkey, hof, stored, hfind, hsame⟩ := hknows.memory _ left hleft
            refine hfresh left.id stored hfind ?_ ?_
            · rw [← hsame.workerId, hof, hworker]
            · rw [← hsame.labId]
              exact (Value.HashKey.text.inj hkey).symm
          · obtain ⟨write, hmem, -, hof, hlab⟩ := LabRecords.addedSince_iff.mp hsince
            obtain ⟨stored, hfind, hsame⟩ := hlogged.logged write (List.mem_of_mem_drop hmem)
            exact hfresh write.record.id stored hfind
              (hsame.workerId.trans (hof.trans hworker.symm)) (hsame.labId.trans hlab)
      next => cases hadds

/-- **The step lemma**, for records that are unique. -/
theorem step_unique_iff (h : w.Tracked) (hunique : w.records.Unique) (action : DiscoveryAction) :
    (discoveryStep py w action).records.Unique ↔ w.repeats action = false := by
  cases action with
  | submit command => exact iff_of_true hunique rfl
  | access k now refusal =>
      unfold discoveryStep DiscoveryWorld.repeats
      dsimp only
      cases htask : w.tasks[k]? with
      | none => exact iff_of_true hunique rfl
      | some task =>
          have htracks := h.tasks task (List.mem_of_getElem? htask)
          have heffect := (advance_effect py now refusal htracks).1
          dsimp only
          rw [heffect.unique_iff, and_iff_right hunique]
          exact (repeats_iff htracks h).symm

/-- **One record of each lab** all along, iff the records are unique at the start and no access
adds a lab again. -/
theorem unique_iff (py : PythonLibrary) (store : LabStore) (actions : List DiscoveryAction) :
    (∀ before, before <+: actions →
        (replay (discoveryStep py) (DiscoveryWorld.start store) before).records.Unique)
      ↔ (DiscoveryWorld.start store).records.Unique
        ∧ Meets (discoveryStep py) (fun w action => w.repeats action = false)
          (DiscoveryWorld.start store) actions := by
  have hsteps : (DiscoveryWorld.start store).records.Unique →
      ((∀ before, before <+: actions →
          (replay (discoveryStep py) (DiscoveryWorld.start store) before).records.Unique)
        ↔ Meets (discoveryStep py) (fun w action => w.repeats action = false)
          (DiscoveryWorld.start store) actions) :=
    fun hunique => @always_iff_meets _ _ _ _ DiscoveryWorld.Tracked (fun w => w.records.Unique)
      (fun w action hw => hw.step py action)
      (fun w action hw hgood => step_unique_iff hw hgood action) actions _
      (tracked_start store) hunique
  constructor
  · intro h
    have hunique := h [] List.nil_prefix
    exact ⟨hunique, (hsteps hunique).mp h⟩
  · rintro ⟨hunique, hmeets⟩
    exact (hsteps hunique).mpr hmeets

end Track

/-! ## §6. A discovery that is alone. -/

/-- So many accesses of a discovery that has the collection to itself. -/
def DiscoveryTask.steps (py : PythonLibrary) (now : Int) :
    Nat → LabRecords × DiscoveryTask → LabRecords × DiscoveryTask
  | 0, p => p
  | n + 1, p => DiscoveryTask.steps py now n (p.2.advance py now none p.1)

section Alone

variable {py : PythonLibrary} {now : Int} {command : DiscoverLabRecordsCommand} {readAt : Nat}

/-- What is raised ends the scan. -/
theorem processLabs_raised {e : String} :
    ∀ (labs : List ScannedLab) {d : Discovery}, d.raised = some e →
      labs.foldl (Discovery.processLab py command.workerId) d = d
  | [], _, _ => rfl
  | lab :: labs, d, h => by
      have hstays : d.processLab py command.workerId lab = d := by
        unfold Discovery.processLab
        rw [h]
        rfl
      rw [List.foldl_cons, hstays]
      exact processLabs_raised labs h

theorem steps_sweeping :
    ∀ (entries : List (Value.HashKey × LabRecord)) (d : Discovery),
      DiscoveryTask.steps py now (entries.length + 1) (d.db, ⟨command, readAt, .sweeping d entries⟩)
        = ((entries.foldl (Discovery.sweepLab now) d).db, ⟨command, readAt,
            .answered (.ok (.ok ((entries.foldl (Discovery.sweepLab now) d).result command)))⟩)
  | [], _ => rfl
  | entry :: entries, d => steps_sweeping entries (d.sweepLab now entry)

/-- The rest of a scan, with the sweep. -/
theorem steps_scanning :
    ∀ (labs : List ScannedLab) (d : Discovery), d.raised = none →
      ∃ n, DiscoveryTask.steps py now n (d.db, ⟨command, readAt, .scanning d labs⟩)
        = match (labs.foldl (Discovery.processLab py command.workerId) d).raised with
          | some e =>
              ((labs.foldl (Discovery.processLab py command.workerId) d).db,
                ⟨command, readAt, .answered (.error e)⟩)
          | none =>
              let swept := (labs.foldl (Discovery.processLab py command.workerId) d).sweep now
                command.partialScan
              (swept.db, ⟨command, readAt, .answered (.ok (.ok (swept.result command)))⟩)
  | [], d, hraised => by
      rw [List.foldl_nil, hraised]
      dsimp only
      unfold Discovery.sweep
      -- a full scan goes on with the sweep, one turn for each record it had
      cases hscan : command.partialScan with
      | true =>
          refine ⟨0 + 1, ?_⟩
          show DiscoveryTask.steps py now 0 (DiscoveryTask.advance py now none d.db _) = _
          unfold DiscoveryTask.advance
          dsimp only
          rw [hscan]
          rfl
      | false =>
          refine ⟨d.existingByLabId.entries.length + 1 + 1, ?_⟩
          rw [if_neg Bool.false_ne_true, ← steps_sweeping]
          show DiscoveryTask.steps py now _ (DiscoveryTask.advance py now none d.db _) = _
          unfold DiscoveryTask.advance
          dsimp only
          rw [hscan]
          rfl
  | lab :: labs, d, hraised => by
      rw [List.foldl_cons]
      -- one lab a turn; the rest is by induction, unless the lab raises
      cases hnext : (d.processLab py command.workerId lab).raised with
      | some e =>
          refine ⟨0 + 1, ?_⟩
          rw [processLabs_raised labs hnext, hnext]
          show DiscoveryTask.steps py now 0 (DiscoveryTask.advance py now none d.db _) = _
          unfold DiscoveryTask.advance
          dsimp only [Discovery.settle, Discovery.on]
          rw [hnext]
          rfl
      | none =>
          obtain ⟨n, hn⟩ := steps_scanning labs (d.processLab py command.workerId lab) hnext
          refine ⟨n + 1, ?_⟩
          rw [← hn]
          show DiscoveryTask.steps py now n (DiscoveryTask.advance py now none d.db _) = _
          unfold DiscoveryTask.advance
          dsimp only [Discovery.settle, Discovery.on]
          rw [hnext]

/-- **A discovery that is alone** does what the handler does. -/
theorem advance_alone (py : PythonLibrary) (now : Int) (db : LabRecords)
    (command : DiscoverLabRecordsCommand) :
    ∃ n readAt, DiscoveryTask.steps py now n (db, { command := command })
      = ((discoverLabRecords py now db command).2,
          ⟨command, readAt, .answered (discoverLabRecords py now db command).1⟩) := by
  unfold discoverLabRecords
  split
  next hempty =>
    refine ⟨0 + 1, 0, ?_⟩
    show DiscoveryTask.steps py now 0 (DiscoveryTask.advance py now none db _) = _
    unfold DiscoveryTask.advance
    dsimp only
    rw [if_pos hempty]
    rfl
  next hworker =>
    obtain ⟨n, hn⟩ := @steps_scanning py now command db.writes.length command.labs
      (Discovery.start db command.workerId) rfl
    refine ⟨n + 1, db.writes.length, ?_⟩
    have hread : DiscoveryTask.advance py now none db { command := command }
        = (db, ⟨command, db.writes.length,
          .scanning (Discovery.start db command.workerId) command.labs⟩) := by
      unfold DiscoveryTask.advance
      dsimp only
      rw [if_neg hworker]
    show DiscoveryTask.steps py now n (DiscoveryTask.advance py now none db _) = _
    rw [hread]
    refine hn.trans ?_
    dsimp only
    cases (command.labs.foldl (Discovery.processLab py command.workerId)
      (Discovery.start db command.workerId)).raised <;> rfl

end Alone

/-! ## §7. Discovery as a whole. -/

/-- **Discovery keeps the store in step**: there is one record of each lab all along, iff there is
at the start and no access adds a lab again; and a full scan that is alone leaves the orphans it
should, iff each record of the worker is reached or is settled without it. -/
theorem discovery_in_step_iff (py : PythonLibrary) :
    (∀ (store : LabStore) (actions : List DiscoveryAction),
      (∀ before, before <+: actions →
          (replay (discoveryStep py) (DiscoveryWorld.start store) before).records.Unique)
        ↔ (DiscoveryWorld.start store).records.Unique
          ∧ Meets (discoveryStep py) (fun w action => w.repeats action = false)
            (DiscoveryWorld.start store) actions)
    ∧ ∀ (now : Int) (db : LabRecords) (command : DiscoverLabRecordsCommand),
      command.workerId ≠ "" → command.partialScan = false → command.IdTexts →
        (command.InStep db (discoverLabRecords py now db command).2
          ↔ ∀ id record, db.store.find id = some record → record.workerId = command.workerId →
            command.Reaches py db record ∨ command.Settled record) :=
  ⟨unique_iff py, fun now _ _ hworker hfull hids => inStep_iff now hworker hfull hids⟩

/-- An entry of a scan that gives an id. -/
def labEntry (labId : String) (newId : NewId) : ScannedLab where
  data := Dict.ofList [("id", .str labId), ("state", .str "STOPPED")]
  now := 0
  newId := newId

/-- A scan of the worker that reports these labs. -/
def workerScan (labs : List ScannedLab) : DiscoverLabRecordsCommand where
  workerId := "worker-1"
  labs := labs

/-- Two scans at the same time report two labs. -/
def twoScans : List DiscoveryAction :=
  [.submit (workerScan [labEntry "lab-1" ⟨"lab-record-1", labRecord1_given⟩]),
    .submit (workerScan [labEntry "lab-2" ⟨"lab-record-2", by decide⟩]),
    .access 0 0 none, .access 1 0 none, .access 0 0 none, .access 1 0 none]

/-- A record of a lab that is gone. -/
def goneLab : LabRecord where
  id := "lab-record-2"
  id_given := by decide
  labId := "lab-2"
  workerId := "worker-1"
  status := .stopped

/-- The collection with this record. -/
def goneLabRecords : LabRecords := ⟨Repository.empty.save goneLab, []⟩

theorem goneLabRecords_find {id : String} {record : LabRecord}
    (h : goneLabRecords.store.find id = some record) : record = goneLab := by
  unfold goneLabRecords at h
  rw [Repository.find_save] at h
  split at h
  next => exact (Option.some.inj h).symm
  next => cases h

theorem workerScan_idTexts :
    (workerScan [labEntry "lab-1" ⟨"lab-record-1", by decide⟩]).IdTexts := by
  intro lab hmem _
  obtain rfl := List.mem_singleton.mp hmem
  exact ⟨"lab-1", rfl⟩

/-- Two labs are recorded, and the one that is gone is an orphan. -/
theorem discovery_in_step_apart :
    (∀ before, before <+: twoScans →
        (replay (discoveryStep plainPython) (DiscoveryWorld.start Repository.empty)
          before).records.Unique)
      ∧ (workerScan [labEntry "lab-1" ⟨"lab-record-1", by decide⟩]).InStep goneLabRecords
        (discoverLabRecords plainPython 0 goneLabRecords
          (workerScan [labEntry "lab-1" ⟨"lab-record-1", by decide⟩])).2 := by
  obtain ⟨hunique, hfull⟩ := discovery_in_step_iff plainPython
  refine ⟨(hunique Repository.empty twoScans).mpr ⟨?_, ?_⟩,
    (hfull 0 goneLabRecords _ (by decide) rfl workerScan_idTexts).mpr ?_⟩
  · intro id id' lab lab' hfind
    cases hfind
  · exact ⟨by decide +kernel, by decide +kernel, by decide +kernel, by decide +kernel,
      by decide +kernel, by decide +kernel, trivial⟩
  · intro id record hfind _
    obtain rfl := goneLabRecords_find hfind
    refine .inl ⟨rfl, ?_⟩
    rintro ⟨lab, hmem, hof⟩
    obtain rfl := List.mem_singleton.mp hmem
    revert hof
    unfold ScannedLab.isOf
    decide +kernel

/-- One scan reports a lab twice. -/
def doubleScan : List DiscoveryAction :=
  [.submit (workerScan [labEntry "lab-1" ⟨"lab-record-1", labRecord1_given⟩,
      labEntry "lab-1" ⟨"lab-record-2", by decide⟩]),
    .access 0 0 none, .access 0 0 none, .access 0 0 none]

/-- Two scans at the same time report one lab. -/
example :
    (replay (discoveryStep plainPython) (DiscoveryWorld.start Repository.empty)
      [.submit (workerScan [labEntry "lab-1" ⟨"lab-record-1", by decide⟩]),
        .submit (workerScan [labEntry "lab-1" ⟨"lab-record-2", by decide⟩]),
        .access 0 0 none, .access 1 0 none, .access 0 0 none,
        .access 1 0 none]).records.store.all.map (fun lab => (lab.id, lab.labId))
      = [("lab-record-1", "lab-1"), ("lab-record-2", "lab-1")] := by
  decide +kernel

/-- The lab has two records then. -/
theorem lab_recorded_twice :
    ¬ ∀ (py : PythonLibrary) (store : LabStore) (actions : List DiscoveryAction),
      (DiscoveryWorld.start store).records.Unique →
        (replay (discoveryStep py) (DiscoveryWorld.start store) actions).records.Unique := by
  intro h
  have hunique := h plainPython Repository.empty doubleScan fun id id' lab lab' hfind => by
    cases hfind
  obtain ⟨records, hrecords⟩ : ∃ records,
      (replay (discoveryStep plainPython) (DiscoveryWorld.start Repository.empty)
        doubleScan).records = records := ⟨_, rfl⟩
  have hlabs : (records.store.find "lab-record-1").map (fun lab => (lab.workerId, lab.labId))
        = some ("worker-1", "lab-1")
      ∧ (records.store.find "lab-record-2").map (fun lab => (lab.workerId, lab.labId))
        = some ("worker-1", "lab-1") := by
    rw [← hrecords]
    decide +kernel
  rw [hrecords] at hunique
  obtain ⟨hfirst, hsecond⟩ := hlabs
  obtain ⟨lab, hlab, hname⟩ := Option.map_eq_some_iff.mp hfirst
  obtain ⟨lab', hlab', hname'⟩ := Option.map_eq_some_iff.mp hsecond
  obtain ⟨hworker, hid⟩ := Prod.mk.inj (hname.trans hname'.symm)
  exact absurd (hunique _ _ lab lab' hlab hlab' hworker hid) (by decide)

end CmlCloudManager.ControlPlane
