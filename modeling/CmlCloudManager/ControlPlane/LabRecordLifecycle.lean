/-
  CmlCloudManager.ControlPlane.LabRecordLifecycle
  ───────────────────────────────────────────────
  **THE LIFECYCLE OF A LAB RECORD.**

  Every version of a record that is written should keep a terminal status, change
  any other status by the transition table unless CML is the source, and carry the
  trail of its status as history.

  The guarded operations do all of this, but for an import that raises: it has set
  the status by then, and leaves no entry.  Synchronisation does not: it takes a lab
  that was archived or deleted back to life, and the two places of the discovery
  that write the status themselves, after `update_from_cml` has declined or found
  nothing to map, leave no entry.  `LifecycleSafe` says of a request that no import
  and no synchronisation in it does one or the other, and `lab_lifecycle_iff` that
  these are the only ways to lose the lifecycle.
-/
import CmlCloudManager.Foundation.Replay
import CmlCloudManager.ControlPlane.LabDiscovery

namespace CmlCloudManager.ControlPlane

open CmlCloudManager.Foundation CmlCloudManager.Pipeline

/-! ## §1. What one entry of a scan does to status and history. -/

namespace LabRecord

variable {py : PythonLibrary} {now : Int} {lab lab' : LabRecord} {data : Payload}

theorem linkToDefinition_unmoved (lab : LabRecord) (incoming : Value) :
    lab.Unmoved (lab.linkToDefinition incoming) := by
  unfold linkToDefinition
  split <;> exact ⟨rfl, rfl, rfl⟩

theorem linkToDefinition_modifiedAt (lab : LabRecord) (incoming : Value) :
    (lab.linkToDefinition incoming).modifiedAt = lab.modifiedAt := by
  unfold linkToDefinition
  split <;> rfl

theorem isStale_linkToDefinition (lab : LabRecord) (incoming : Value)
    (cmlModifiedAt : Option Int) :
    (lab.linkToDefinition incoming).isStale cmlModifiedAt = lab.isStale cmlModifiedAt := by
  unfold isStale
  rw [linkToDefinition_modifiedAt]

theorem applyTopologyFromDiscovery_unmoved (lab : LabRecord) (data : Payload) :
    lab.Unmoved (lab.applyTopologyFromDiscovery data) := by
  unfold applyTopologyFromDiscovery
  split <;> exact ⟨rfl, rfl, rfl⟩

theorem applyYaml_unmoved (py : PythonLibrary) (now : Int) (lab : LabRecord) (data : Payload) :
    lab.Unmoved (lab.applyYaml py now data) := by
  unfold applyYaml
  split
  next => exact Unmoved.refl lab
  next => exact updateTopology_unmoved ..

theorem withCmlState_unmoved (lab : LabRecord) (cmlState : Option String) :
    lab.Unmoved (lab.withCmlState cmlState) := by
  unfold withCmlState
  split <;> exact ⟨rfl, rfl, rfl⟩

theorem recordActionRun_unmoved (lab : LabRecord) (newRunId : NewId) (action : String)
    (targetStatus : Option LabRecordStatus) :
    lab.Unmoved (lab.recordActionRun now newRunId action targetStatus).1 := by
  unfold recordActionRun closeActiveRun
  split
  next => split <;> exact ⟨rfl, rfl, rfl⟩
  next =>
    split
    next => split <;> exact ⟨rfl, rfl, rfl⟩
    next => exact Unmoved.refl lab

theorem Restated.unmoved_iff {status : LabRecordStatus} (h : Restated lab lab' status) :
    lab.Unmoved lab' ↔ status = lab.status :=
  ⟨fun h' => h.status.symm.trans h'.status, fun heq => ⟨h.id, h.status.trans heq, h.history⟩⟩

theorem Unmoved.restated {status : LabRecordStatus} {lab'' : LabRecord} (h : lab.Unmoved lab')
    (h' : lab'.Restated lab'' status) : lab.Restated lab'' status :=
  ⟨h'.id.trans h.id, h'.status, h'.history.trans h.history⟩

theorem setMappedStatus_restated (lab : LabRecord) (mapped : LabRecordStatus) :
    lab.Restated (lab.setMappedStatus (some mapped)) mapped := by
  unfold setMappedStatus
  dsimp only
  split
  next => exact ⟨rfl, rfl, rfl⟩
  next heq => exact ⟨rfl, (not_not.mp heq).symm, rfl⟩

theorem unorphan_restated (lab : LabRecord) :
    lab.Restated lab.unorphan (if lab.status = .orphaned then .discovered else lab.status) := by
  unfold unorphan
  split <;> exact ⟨rfl, rfl, rfl⟩

end LabRecord

/-- **What an entry of a scan does to status and history** of the record it is about. -/
inductive ScanEffect (py : PythonLibrary) (now : Int) (lab : LabRecord) (data : Payload) :
    Attempt Bool → Prop where
  | refused {a : Attempt Bool} {e : String} (raised : a.result = .error e)
      (cause : (∃ e, parseModifiedAt py now data = .error e)
        ∨ ∃ e, mappedStatus (data.getD "state" (.str "")) = .error e)
      (unmoved : lab.Unmoved a.lab) : ScanEffect py now lab data a
  | unmapped {a : Attempt Bool} {created : Bool} {modified : Option Int}
      (done : a.result = .ok created) (parsed : parseModifiedAt py now data = .ok modified)
      (mapped : mappedStatus (data.getD "state" (.str "")) = .ok none)
      (restated : lab.Restated a.lab
        (if lab.status = .orphaned then .discovered else lab.status)) :
      ScanEffect py now lab data a
  | fresh {a : Attempt Bool} {created : Bool} {modified : Option Int} {target : LabRecordStatus}
      (done : a.result = .ok created) (parsed : parseModifiedAt py now data = .ok modified)
      (fresh : lab.isStale modified = false)
      (mapped : mappedStatus (data.getD "state" (.str "")) = .ok (some target))
      (synced : lab.Synced a.lab (some target)) : ScanEffect py now lab data a
  | stale {a : Attempt Bool} {created : Bool} {modified : Option Int} {target : LabRecordStatus}
      (done : a.result = .ok created) (parsed : parseModifiedAt py now data = .ok modified)
      (stale : lab.isStale modified = true)
      (mapped : mappedStatus (data.getD "state" (.str "")) = .ok (some target))
      (restated : lab.Restated a.lab target) : ScanEffect py now lab data a

section Scan

variable {py : PythonLibrary} {now : Int} {lab lab' : LabRecord} {data : Payload}

theorem LabRecord.settleScan_error {e : String}
    (h : mappedStatus (data.getD "state" (.str "")) = .error e) :
    lab.settleScan py now data = ⟨lab, .error e⟩ := by
  unfold LabRecord.settleScan
  rw [h]

theorem LabRecord.settleScan_ok (py : PythonLibrary) (now : Int) (lab : LabRecord)
    {mapped : Option LabRecordStatus}
    (h : mappedStatus (data.getD "state" (.str "")) = .ok mapped) :
    (∃ created, (lab.settleScan py now data).result = .ok created)
      ∧ (lab.setMappedStatus mapped).Restated (lab.settleScan py now data).lab
        (if (lab.setMappedStatus mapped).status = .orphaned then .discovered
          else (lab.setMappedStatus mapped).status) := by
  unfold LabRecord.settleScan
  rw [h]
  dsimp only
  refine ⟨⟨_, rfl⟩, ?_⟩
  generalize lab.setMappedStatus mapped = settled
  have hunmoved :
      settled.Unmoved ((settled.applyTopologyFromDiscovery data).applyYaml py now data) :=
    (LabRecord.applyTopologyFromDiscovery_unmoved ..).trans (LabRecord.applyYaml_unmoved ..)
  generalize (settled.applyTopologyFromDiscovery data).applyYaml py now data = updated at hunmoved
  have hrestated := updated.unorphan_restated
  rw [hunmoved.status] at hrestated
  exact hunmoved.restated hrestated

/-- With a state that CML does not know, an orphan is an orphan no longer. -/
theorem LabRecord.Unmoved.settleScan (h : lab.Unmoved lab')
    (hmapped : mappedStatus (data.getD "state" (.str "")) = .ok none) :
    lab.Restated (lab'.settleScan py now data).lab
      (if lab.status = .orphaned then .discovered else lab.status) := by
  have hsettled := (LabRecord.settleScan_ok py now lab' hmapped).2
  have hnone : lab'.setMappedStatus none = lab' := rfl
  rw [hnone, h.status] at hsettled
  exact h.restated hsettled

/-- With a state that CML knows, the status is the mapped one. -/
theorem LabRecord.settleScan_target (py : PythonLibrary) (now : Int) (lab : LabRecord)
    {target : LabRecordStatus}
    (h : mappedStatus (data.getD "state" (.str "")) = .ok (some target)) :
    lab.Restated (lab.settleScan py now data).lab target := by
  have hsettled := (LabRecord.settleScan_ok py now lab h).2
  have htarget := lab.setMappedStatus_restated target
  rw [htarget.status, if_neg (mappedStatus_some h).2] at hsettled
  exact ⟨hsettled.id.trans htarget.id, hsettled.status, hsettled.history.trans htarget.history⟩

theorem updateExistingRecord_effect (py : PythonLibrary) (now : Int) (lab : LabRecord)
    (data : Payload) : ScanEffect py now lab data (lab.updateExistingRecord py now data) := by
  have hlinked := lab.linkToDefinition_unmoved (data.get "based_on_definition_id")
  have hstale := lab.isStale_linkToDefinition (data.get "based_on_definition_id")
  unfold LabRecord.updateExistingRecord
  dsimp only
  generalize lab.linkToDefinition (data.get "based_on_definition_id") = linked at hlinked hstale ⊢
  cases hparsed : parseModifiedAt py now data with
  | error e => exact .refused rfl (.inl ⟨e, hparsed⟩) hlinked
  | ok modified =>
      dsimp only
      cases hguard : linked.isStale modified with
      | true =>
          rw [LabRecord.updateFromCml_stale hguard]
          dsimp only [Attempt.andThen]
          cases hmapped : mappedStatus (data.getD "state" (.str "")) with
          | error e =>
              rw [LabRecord.settleScan_error hmapped]
              exact .refused rfl (.inr ⟨e, hmapped⟩) hlinked
          | ok mapped =>
              obtain ⟨created, hdone⟩ :=
                (LabRecord.settleScan_ok py now linked hmapped).1
              cases mapped with
              | none => exact .unmapped hdone hparsed hmapped (hlinked.settleScan hmapped)
              | some target =>
                  exact .stale hdone hparsed ((hstale modified).symm.trans hguard) hmapped
                    (hlinked.restated (LabRecord.settleScan_target py now linked hmapped))
      | false =>
          have hsyncs :=
            LabRecord.updateFromCml_fresh now (CmlLab.ofScan data modified) hguard
          generalize linked.updateFromCml now (CmlLab.ofScan data modified) = update at hsyncs ⊢
          unfold LabRecord.Syncs at hsyncs
          dsimp only [CmlLab.ofScan] at hsyncs
          cases hmapped : mappedStatus (data.getD "state" (.str "")) with
          | error e =>
              rw [hmapped] at hsyncs
              obtain ⟨hunmoved, hraised⟩ := hsyncs
              unfold Attempt.andThen
              rw [hraised]
              exact .refused rfl (.inr ⟨e, hmapped⟩) (hlinked.trans hunmoved)
          | ok mapped =>
              rw [hmapped] at hsyncs
              obtain ⟨hsynced, hdone⟩ := hsyncs
              unfold Attempt.andThen
              rw [hdone]
              dsimp only
              obtain ⟨created, hsettled⟩ :=
                (LabRecord.settleScan_ok py now update.lab hmapped).1
              cases mapped with
              | none =>
                  have hunmoved := hlinked.trans (LabRecord.synced_none.mp hsynced)
                  exact .unmapped hsettled hparsed hmapped (hunmoved.settleScan hmapped)
              | some target =>
                  -- the lab is in step already: the direct write finds nothing to do
                  have htarget : target = update.lab.status := hsynced.status.symm
                  have hunmoved :=
                    (LabRecord.settleScan_target py now update.lab hmapped).unmoved_iff.mpr htarget
                  exact .fresh hsettled hparsed ((hstale modified).symm.trans hguard) hmapped
                    ((hlinked.synced hsynced).unmoved hunmoved)

end Scan

/-! ## §2. What may be written. -/

/-- **A lawful version**: a terminal status stays, any other is left for one that the table allows
unless CML says so, and the history is the trail of the status. -/
structure LabWrite.Lawful (w : LabWrite) : Prop where
  terminal : ∀ previous, w.previous = some previous → previous.status.isTerminal = true →
    w.record.status = previous.status
  allowed : ∀ previous, w.previous = some previous → w.record.status ≠ previous.status →
    w.sync = true ∨ w.record.status ∈ labRecordValidTransitions previous.status
  trail : w.record.Audited

/-- Every version that was written is lawful. -/
def LabRecords.Lawful (db : LabRecords) : Prop := ∀ w ∈ db.writes, w.Lawful

/-- What is stored was written. -/
def LabRecords.Logged (db : LabRecords) : Prop :=
  ∀ id lab, db.store.find id = some lab → ∃ w ∈ db.writes, w.record = lab

section Lawful

variable {lab lab' : LabRecord} {sync : Bool}

theorem lawful_new (h : lab.Audited) : LabWrite.Lawful ⟨none, lab, sync⟩ := by
  refine ⟨?_, ?_, h⟩
  · intro previous hprevious
    exact absurd hprevious.symm (Option.some_ne_none previous)
  · intro previous hprevious
    exact absurd hprevious.symm (Option.some_ne_none previous)

theorem LabRecord.Unmoved.lawful (h : lab.Unmoved lab') (ha : lab.Audited) :
    LabWrite.Lawful ⟨some lab, lab', sync⟩ := by
  refine ⟨?_, ?_, h.audited ha⟩
  · rintro previous hprevious -
    obtain rfl := Option.some.inj hprevious
    exact h.status
  · rintro previous hprevious hne
    obtain rfl := Option.some.inj hprevious
    exact absurd h.status hne

theorem LabRecord.Entered.lawful {target : LabRecordStatus} (h : lab.Entered lab' target)
    (hmem : target ∈ labRecordValidTransitions lab.status) (ha : lab.Audited) :
    LabWrite.Lawful ⟨some lab, lab', sync⟩ := by
  refine ⟨?_, ?_, h.audited ha⟩
  · rintro previous hprevious hterminal
    obtain rfl := Option.some.inj hprevious
    rw [(isTerminal_iff lab.status).mp hterminal] at hmem
    cases hmem
  · rintro previous hprevious -
    obtain rfl := Option.some.inj hprevious
    rw [h.status]
    exact .inr hmem

/-- A synchronisation with a state CML knows is lawful unless the lab was done with. -/
theorem LabRecord.Synced.lawful_iff {state : Value} {target : LabRecordStatus}
    (h : lab.Synced lab' (some target)) (hmapped : mappedStatus state = .ok (some target))
    (ha : lab.Audited) :
    LabWrite.Lawful ⟨some lab, lab', true⟩ ↔ lab.status.isTerminal = false := by
  constructor
  · intro hlawful
    cases hterminal : lab.status.isTerminal with
    | false => rfl
    | true =>
        have hstatus : lab'.status = lab.status := hlawful.terminal lab rfl hterminal
        have htarget : lab'.status = target := h.status
        rw [← hterminal, ← hstatus, htarget]
        exact (mappedStatus_some hmapped).1
  · intro hterminal
    refine ⟨?_, fun _ _ _ => .inl rfl, h.audited ha⟩
    rintro previous hprevious habsurd
    obtain rfl := Option.some.inj hprevious
    rw [hterminal] at habsurd
    cases habsurd

/-- A status without an entry is lawful only if it is the old one. -/
theorem LabRecord.Restated.lawful_iff {status : LabRecordStatus} (h : lab.Restated lab' status)
    (ha : lab.Audited) : LabWrite.Lawful ⟨some lab, lab', sync⟩ ↔ status = lab.status := by
  constructor
  · intro hlawful
    have htrail : lab'.Audited := hlawful.trail
    unfold LabRecord.Audited at htrail
    rw [h.history, h.status] at htrail
    exact Trail.status_eq ha htrail
  · exact fun heq => (h.unmoved_iff.mpr heq).lawful ha

theorem LabRecords.save_lawful_iff {db : LabRecords} :
    (db.save lab sync).Lawful
      ↔ db.Lawful ∧ LabWrite.Lawful ⟨db.store.find lab.id, lab, sync⟩ := by
  unfold LabRecords.Lawful LabRecords.save
  rw [List.forall_mem_append]
  simp only [List.mem_singleton, forall_eq]

theorem LabRecords.Logged.save {db : LabRecords} (h : db.Logged) (lab : LabRecord) (sync : Bool) :
    (db.save lab sync).Logged := by
  intro id found hfind
  have hfind' : (db.store.save lab).find id = some found := hfind
  rw [Repository.find_save] at hfind'
  split at hfind'
  next =>
    obtain rfl := Option.some.inj hfind'
    exact ⟨_, List.mem_append_right _ (List.mem_singleton_self _), rfl⟩
  next =>
    obtain ⟨w, hw, hrecord⟩ := h id found hfind'
    exact ⟨w, List.mem_append_left _ hw, hrecord⟩

theorem LabRecords.audited_of_find {db : LabRecords} (hlawful : db.Lawful) (hlogged : db.Logged)
    {id : String} (h : db.store.find id = some lab) : lab.Audited := by
  obtain ⟨w, hw, rfl⟩ := hlogged id lab h
  exact (hlawful w hw).trail

end Lawful

/-! ## §3. Synchronisations that keep to the lifecycle. -/

/-- An update keeps to the lifecycle: it is stale, the lab is not done with, or CML has no status
for the state. -/
def LabRecord.SyncSafe (lab : LabRecord) (cml : CmlLab) : Prop :=
  lab.isStale cml.cmlModifiedAt = true ∨ lab.status.isTerminal = false
    ∨ ∀ target, mappedStatus cml.state ≠ .ok (some target)

/-- An import keeps to the lifecycle: it is refused at once, or its texts are given. -/
def LabRecord.ImportSafe (lab : LabRecord) (labId workerId topologyChecksum : String) : Prop :=
  .defined ∈ labRecordValidTransitions lab.status →
    LabRecord.ImportGiven labId workerId topologyChecksum

/-- An operation keeps to the lifecycle. -/
def LabRecord.OperationSafe (lab : LabRecord) : LabOperation → Prop
  | .updateFromCml cml => lab.SyncSafe cml
  | .markImported labId workerId _ topologyChecksum _ =>
      lab.ImportSafe labId workerId topologyChecksum
  | _ => True

/-- An entry of a scan keeps to the lifecycle: with a state CML has a status for, the lab has it
already or is neither newer nor done with; with another state, the lab is no orphan. -/
def LabRecord.ScanSafe (py : PythonLibrary) (now : Int) (lab : LabRecord) (data : Payload) : Prop :=
  match parseModifiedAt py now data, mappedStatus (data.getD "state" (.str "")) with
  | .ok modified, .ok (some target) =>
      if lab.isStale modified = true then target = lab.status else lab.status.isTerminal = false
  | .ok _, .ok none => lab.status ≠ .orphaned
  | _, _ => True

/-- The record that the discovery has for an entry. -/
def Discovery.known (d : Discovery) (data : Payload) : Option LabRecord :=
  match (data.get "id").hashKey with
  | .ok key => if (data.get "id").truthy then d.existingByLabId.get? key else none
  | .error _ => none

/-- The entry keeps to the lifecycle, if it is processed and its lab is known. -/
def Discovery.Safe (py : PythonLibrary) (d : Discovery) (lab : ScannedLab) : Prop :=
  d.raised = none → ∀ existing, d.known lab.data = some existing →
    existing.ScanSafe py lab.now lab.data

section Step

variable {py : PythonLibrary} {now : Int} {stored lab lab' : LabRecord}

/-- The version that an entry writes. -/
theorem ScanEffect.lawful_iff {data : Payload} {a : Attempt Bool} {created : Bool}
    (heffect : ScanEffect py now lab data a) (hdone : a.result = .ok created)
    (hstored : stored.Unmoved lab) (ha : stored.Audited) :
    LabWrite.Lawful ⟨some stored, a.lab, true⟩ ↔ lab.ScanSafe py now data := by
  unfold LabRecord.ScanSafe
  cases heffect with
  | refused raised cause unmoved =>
      rw [raised] at hdone
      cases hdone
  | unmapped done parsed mapped restated =>
      rw [parsed, mapped, (hstored.restated restated).lawful_iff ha, hstored.status]
      dsimp only
      split
      next horphaned =>
        rw [horphaned]
        decide
      next hne => exact iff_of_true rfl hne
  | fresh done parsed fresh mapped synced =>
      rw [parsed, mapped]
      dsimp only
      rw [fresh, if_neg Bool.false_ne_true, (hstored.synced synced).lawful_iff mapped ha,
        hstored.status]
  | stale done parsed stale mapped restated =>
      rw [parsed, mapped]
      dsimp only
      rw [if_pos stale, (hstored.restated restated).lawful_iff ha, hstored.status]

/-- An entry that raises keeps to the lifecycle. -/
theorem ScanEffect.safe_of_raised {data : Payload} {a : Attempt Bool} {e : String}
    (heffect : ScanEffect py now lab data a) (hraised : a.result = .error e) :
    lab.ScanSafe py now data ∧ lab.Unmoved a.lab := by
  cases heffect with
  | refused raised cause unmoved =>
      refine ⟨?_, unmoved⟩
      unfold LabRecord.ScanSafe
      rcases cause with ⟨e, hparse⟩ | ⟨e, hmapped⟩
      · rw [hparse]
        trivial
      · rw [hmapped]
        split
        next h => cases h
        next h => cases h
        next => trivial
  | unmapped done _ _ _ | fresh done _ _ _ _ | stale done _ _ _ _ =>
      rw [done] at hraised
      cases hraised

theorem ScanEffect.id_eq {data : Payload} {a : Attempt Bool}
    (heffect : ScanEffect py now lab data a) : a.lab.id = lab.id := by
  cases heffect with
  | refused raised cause unmoved => exact unmoved.id
  | unmapped done parsed mapped restated => exact restated.id
  | fresh done parsed fresh mapped synced => exact synced.id
  | stale done parsed stale mapped restated => exact restated.id

end Step

/-! ## §4. A discovery. -/

/-- The records in memory are the stored ones as far as status and history go, each under one
key. -/
structure Loaded (existing : Dict Value.HashKey LabRecord) (store : LabStore) : Prop where
  stored : ∀ key lab, existing.get? key = some lab →
    ∃ stored, store.find lab.id = some stored ∧ stored.Unmoved lab
  distinct : ∀ key key' lab lab', existing.get? key = some lab →
    existing.get? key' = some lab' → lab.id = lab'.id → key = key'

/-- What a discovery rests on. -/
def Discovery.Sound (d : Discovery) : Prop := Loaded d.existingByLabId d.db.store ∧ d.db.Logged

section Loaded

variable {existing : Dict Value.HashKey LabRecord} {store store' : LabStore}

theorem Loaded.set {key : Value.HashKey} {lab updated : LabRecord} (h : Loaded existing store)
    (hget : existing.get? key = some lab) (hid : updated.id = lab.id)
    (hstored : ∃ stored, store'.find updated.id = some stored ∧ stored.Unmoved updated)
    (hother : ∀ id, id ≠ updated.id → store'.find id = store.find id) :
    Loaded (existing.set key updated) store' := by
  have hback : ∀ k m, (existing.set key updated).get? k = some m →
      ∃ m', existing.get? k = some m' ∧ m'.id = m.id := by
    intro k m hm
    rcases Dict.get?_set_eq_some hm with ⟨rfl, rfl⟩ | ⟨-, hm⟩
    · exact ⟨lab, hget, hid.symm⟩
    · exact ⟨m, hm, rfl⟩
  refine ⟨?_, ?_⟩
  · intro k m hm
    rcases Dict.get?_set_eq_some hm with ⟨rfl, rfl⟩ | ⟨hne, hm⟩
    · exact hstored
    · have hids : m.id ≠ updated.id := fun heq =>
        hne (h.distinct k key m lab hm hget (heq.trans hid))
      obtain ⟨stored, hfind, hunmoved⟩ := h.stored k m hm
      exact ⟨stored, (hother m.id hids).trans hfind, hunmoved⟩
  · intro k k' m m' hm hm' hids
    obtain ⟨n, hn, hnid⟩ := hback k m hm
    obtain ⟨n', hn', hnid'⟩ := hback k' m' hm'
    exact h.distinct k k' n n' hn hn' (hnid.trans (hids.trans hnid'.symm))

theorem LabRecords.id_of_find (db : LabRecords) {id : String} {lab : LabRecord}
    (h : db.store.find id = some lab) : lab.id = id :=
  db.store.keyed id lab h

theorem LabRecords.find_save_self (db : LabRecords) (lab : LabRecord) (sync : Bool) :
    (db.save lab sync).store.find lab.id = some lab :=
  Repository.find_save_self db.store lab

theorem LabRecords.find_save_ne (db : LabRecords) (lab : LabRecord) (sync : Bool) {id : String}
    (h : id ≠ lab.id) : (db.save lab sync).store.find id = db.store.find id :=
  Repository.find_save_ne db.store lab h

theorem Loaded.save_new {db : LabRecords} {lab : LabRecord} {sync : Bool}
    (h : Loaded existing db.store) (hnew : db.store.find lab.id = none) :
    Loaded existing (db.save lab sync).store := by
  refine ⟨?_, h.distinct⟩
  intro k m hm
  obtain ⟨stored, hfind, hunmoved⟩ := h.stored k m hm
  have hne : m.id ≠ lab.id := by
    intro heq
    rw [heq, hnew] at hfind
    cases hfind
  exact ⟨stored, (db.find_save_ne lab sync hne).trans hfind, hunmoved⟩

end Loaded

section Discovery

variable {py : PythonLibrary} {workerId : String} {d : Discovery} {lab : ScannedLab}

/-- **The step lemma**, for an entry whose lab is known. -/
theorem processExisting_iff {key : Value.HashKey} {existing : LabRecord} (h : d.Sound)
    (hget : d.existingByLabId.get? key = some existing) :
    (d.processExisting py lab key existing).Sound
      ∧ ((d.processExisting py lab key existing).db.Lawful
        ↔ d.db.Lawful ∧ existing.ScanSafe py lab.now lab.data) := by
  obtain ⟨hloaded, hlogged⟩ := h
  obtain ⟨stored, hfind, hunmoved⟩ := hloaded.stored key existing hget
  have heffect := updateExistingRecord_effect py lab.now existing lab.data
  unfold Discovery.processExisting Discovery.Sound
  dsimp only
  generalize existing.updateExistingRecord py lab.now lab.data = update at heffect ⊢
  cases hresult : update.result with
  | error e =>
      obtain ⟨hsafe, hkept⟩ := heffect.safe_of_raised hresult
      refine ⟨⟨?_, hlogged⟩, (and_iff_left hsafe).symm⟩
      refine hloaded.set hget hkept.id ⟨stored, ?_, hunmoved.trans hkept⟩ fun _ _ => rfl
      rw [hkept.id]
      exact hfind
  | ok created =>
      have hid : update.lab.id = existing.id := heffect.id_eq
      dsimp only
      refine ⟨⟨?_, hlogged.save _ _⟩, ?_⟩
      · exact hloaded.set hget hid
          ⟨update.lab, d.db.find_save_self update.lab true, LabRecord.Unmoved.refl _⟩
          fun id hne => d.db.find_save_ne update.lab true hne
      · rw [LabRecords.save_lawful_iff, hid, hfind]
        refine and_congr_right fun hlawful => ?_
        exact heffect.lawful_iff hresult hunmoved
          (LabRecords.audited_of_find hlawful hlogged hfind)

theorem LabRecords.add_ok {db db' : LabRecords} {record : LabRecord} (h : db.add record = .ok db') :
    db.store.find record.id = none ∧ db' = db.save record false := by
  unfold LabRecords.add at h
  split at h
  next => cases h
  next hnew => exact ⟨hnew, (Except.ok.inj h).symm⟩

/-- A new record has the trail of its creation. -/
theorem LabRecord.discover_audited {newId : NewId} {now : Int} {labId : String}
    {title description state ownerUsername nodeCount linkCount notes workerIp
      basedOnDefinitionId : Value} {record : LabRecord}
    (h : LabRecord.discover newId now labId workerId title description state ownerUsername
      nodeCount linkCount notes workerIp basedOnDefinitionId = .ok record) :
    record.Audited ∧ record.status = .discovered := by
  unfold LabRecord.discover at h
  split at h
  next => cases h
  next =>
    obtain rfl := Except.ok.inj h
    exact ⟨Trail.singleton rfl, rfl⟩

theorem createDiscoveredRecord_audited {newId : NewId} {now : Int} {data : Payload}
    {record : LabRecord} (h : createDiscoveredRecord newId now workerId data = .ok record) :
    record.Audited := by
  unfold createDiscoveredRecord at h
  split at h
  next => cases h
  next discovered hdiscovered =>
    obtain rfl := Except.ok.inj h
    exact (LabRecord.applyTopologyFromDiscovery_unmoved ..).audited
      (LabRecord.discover_audited hdiscovered).1

/-- What was added is lawful. -/
theorem LabRecords.add_lawful {db db' : LabRecords} {record : LabRecord}
    (h : db.add record = .ok db') (haudited : record.Audited) (hlogged : db.Logged) :
    db'.Logged ∧ (db'.Lawful ↔ db.Lawful) := by
  obtain ⟨hnew, rfl⟩ := LabRecords.add_ok h
  refine ⟨hlogged.save _ _, ?_⟩
  rw [LabRecords.save_lawful_iff, hnew]
  exact and_iff_left (lawful_new haudited)

theorem processNew_iff (workerId : String) (lab : ScannedLab) (h : d.Sound) :
    (d.processNew workerId lab).Sound ∧ ((d.processNew workerId lab).db.Lawful ↔ d.db.Lawful) := by
  unfold Discovery.processNew
  cases hcreated : createDiscoveredRecord lab.newId lab.now workerId lab.data with
  | error e => exact ⟨h, Iff.rfl⟩
  | ok record =>
      dsimp only [Except.bind]
      cases hadd : d.db.add record with
      | error e => exact ⟨h, Iff.rfl⟩
      | ok db =>
          obtain ⟨hlogged, hiff⟩ :=
            LabRecords.add_lawful hadd (createDiscoveredRecord_audited hcreated) h.2
          obtain ⟨hnew, rfl⟩ := LabRecords.add_ok hadd
          exact ⟨⟨h.1.save_new hnew, hlogged⟩, hiff⟩

theorem Discovery.safe_of_unknown (h : d.known lab.data = none) : d.Safe py lab := by
  intro _ existing hknown
  rw [h] at hknown
  exact absurd hknown.symm (Option.some_ne_none existing)

theorem Discovery.safe_iff {existing : LabRecord} (hraised : d.raised = none)
    (h : d.known lab.data = some existing) :
    d.Safe py lab ↔ existing.ScanSafe py lab.now lab.data := by
  constructor
  · exact fun hsafe => hsafe hraised existing h
  · intro hsafe _ existing' hknown
    obtain rfl := Option.some.inj (h.symm.trans hknown)
    exact hsafe

/-- **The step lemma**, for every entry. -/
theorem processLab_iff (py : PythonLibrary) (workerId : String) (lab : ScannedLab) (h : d.Sound) :
    (d.processLab py workerId lab).Sound
      ∧ ((d.processLab py workerId lab).db.Lawful ↔ d.db.Lawful ∧ d.Safe py lab) := by
  unfold Discovery.processLab
  cases hraised : d.raised with
  | some e =>
      -- an error ends the scan, so that nothing more is asked of it
      have hsafe : d.Safe py lab := by
        intro hnone
        rw [hraised] at hnone
        cases hnone
      exact ⟨h, (and_iff_left hsafe).symm⟩
  | none =>
      cases htruthy : (lab.data.get "id").truthy with
      | false =>
          have hknown : d.known lab.data = none := by
            unfold Discovery.known
            rw [htruthy]
            split <;> rfl
          exact ⟨h, (and_iff_left (Discovery.safe_of_unknown hknown)).symm⟩
      | true =>
          cases hkey : (lab.data.get "id").hashKey with
          | error e =>
              have hknown : d.known lab.data = none := by
                unfold Discovery.known
                rw [hkey]
              exact ⟨h, (and_iff_left (Discovery.safe_of_unknown hknown)).symm⟩
          | ok key =>
              have hknown : d.known lab.data = d.existingByLabId.get? key := by
                unfold Discovery.known
                rw [hkey, htruthy]
                rfl
              have hsaw : (d.saw key).Sound := h
              dsimp only
              cases hget : d.existingByLabId.get? key with
              | none =>
                  obtain ⟨hsound, hiff⟩ := processNew_iff workerId lab hsaw
                  have hsafe : d.Safe py lab := Discovery.safe_of_unknown (hknown.trans hget)
                  exact ⟨hsound, hiff.trans (and_iff_left hsafe).symm⟩
              | some existing =>
                  rw [Discovery.safe_iff hraised (hknown.trans hget)]
                  exact processExisting_iff hsaw hget

/-- **The run lemma**: a scan writes only lawful versions iff each of its entries keeps to the
lifecycle. -/
theorem processLabs_iff (py : PythonLibrary) (workerId : String) (labs : List ScannedLab)
    (h : d.Sound) :
    (replay (Discovery.processLab py workerId) d labs).Sound
      ∧ ((replay (Discovery.processLab py workerId) d labs).db.Lawful
        ↔ d.db.Lawful
          ∧ Meets (Discovery.processLab py workerId) (Discovery.Safe py) d labs) := by
  refine ⟨?_, ?_⟩
  · exact @replay_invariant _ _ _ Discovery.Sound
      (fun d lab hd => (processLab_iff py workerId lab hd).1) labs d h
  exact @replay_iff_meets _ _ _ _ Discovery.Sound (fun d => d.db.Lawful)
    (fun d lab hd => (processLab_iff py workerId lab hd).1)
    (fun d lab hd => (processLab_iff py workerId lab hd).2) labs d h

/-- A known lab that the scan missed is orphaned by the table. -/
theorem sweepLab_iff (now : Int) (entry : Value.HashKey × LabRecord) (hlogged : d.db.Logged)
    (hstored : ∃ stored, d.db.store.find entry.2.id = some stored ∧ stored.Unmoved entry.2) :
    (d.sweepLab now entry).db.Logged ∧ ((d.sweepLab now entry).db.Lawful ↔ d.db.Lawful)
      ∧ ∀ id, id ≠ entry.2.id →
        (d.sweepLab now entry).db.store.find id = d.db.store.find id := by
  unfold Discovery.sweepLab
  split
  next => exact ⟨hlogged, Iff.rfl, fun _ _ => rfl⟩
  next =>
    split
    next => exact ⟨hlogged, Iff.rfl, fun _ _ => rfl⟩
    next =>
      cases horphaned : entry.2.markOrphaned now with
      | error e => exact ⟨hlogged, Iff.rfl, fun _ _ => rfl⟩
      | ok orphaned =>
          obtain ⟨hmem, hentered⟩ := LabRecord.guarded_moveTo horphaned ⟨rfl, rfl, rfl⟩
          obtain ⟨stored, hfind, hunmoved⟩ := hstored
          refine ⟨hlogged.save _ _, ?_, ?_⟩
          · dsimp only
            rw [LabRecords.save_lawful_iff, hentered.id, hfind]
            refine and_iff_left_of_imp fun hlawful => ?_
            rw [hunmoved.status] at hmem
            exact (hunmoved.entered hentered).lawful hmem
              (LabRecords.audited_of_find hlawful hlogged hfind)
          · intro id hne
            exact d.db.find_save_ne orphaned false (hentered.id ▸ hne)

/-- The sweep, over records that are stored under ids of their own. -/
theorem sweepLabs_iff {now : Int} :
    ∀ (entries : List (Value.HashKey × LabRecord)) (d : Discovery), d.db.Logged →
      (∀ e ∈ entries, ∃ stored, d.db.store.find e.2.id = some stored ∧ stored.Unmoved e.2) →
      entries.Pairwise (fun e f => e.2.id ≠ f.2.id) →
      (entries.foldl (Discovery.sweepLab now) d).db.Logged
        ∧ ((entries.foldl (Discovery.sweepLab now) d).db.Lawful ↔ d.db.Lawful)
  | [], _, hlogged, _, _ => ⟨hlogged, Iff.rfl⟩
  | e :: rest, d, hlogged, hstored, hpairwise => by
      obtain ⟨hhead, htail⟩ := List.pairwise_cons.mp hpairwise
      obtain ⟨hlogged', hiff, hother⟩ :=
        sweepLab_iff now e hlogged (hstored e List.mem_cons_self)
      have hstored' : ∀ f ∈ rest, ∃ stored,
          (d.sweepLab now e).db.store.find f.2.id = some stored ∧ stored.Unmoved f.2 := by
        intro f hf
        obtain ⟨stored, hfind, hunmoved⟩ := hstored f (List.mem_cons_of_mem _ hf)
        exact ⟨stored, (hother f.2.id (hhead f hf).symm).trans hfind, hunmoved⟩
      obtain ⟨hlogged'', hiff'⟩ := sweepLabs_iff rest _ hlogged' hstored' htail
      exact ⟨hlogged'', hiff'.trans hiff⟩

theorem sweep_iff (now : Int) (partialScan : Bool) (h : d.Sound) :
    (d.sweep now partialScan).db.Logged
      ∧ ((d.sweep now partialScan).db.Lawful ↔ d.db.Lawful) := by
  obtain ⟨hloaded, hlogged⟩ := h
  unfold Discovery.sweep
  split
  next => exact ⟨hlogged, Iff.rfl⟩
  next =>
    have hget : ∀ e ∈ d.existingByLabId.entries, d.existingByLabId.get? e.1 = some e.2 :=
      fun e he => (Dict.get?_eq_some_iff _ _ _).mpr he
    refine sweepLabs_iff _ d hlogged (fun e he => hloaded.stored e.1 e.2 (hget e he)) ?_
    have hkeys : d.existingByLabId.entries.Pairwise fun e f => e.1 ≠ f.1 :=
      List.pairwise_map.mp d.existingByLabId.nodup
    refine hkeys.imp_of_mem fun he hf hne hid => ?_
    exact hne (hloaded.distinct _ _ _ _ (hget _ he) (hget _ hf) hid)

theorem LabRecords.mem_allByWorker {db : LabRecords} {workerId : String} {lab : LabRecord} :
    lab ∈ db.allByWorker workerId
      ↔ db.store.find lab.id = some lab ∧ lab.workerId = workerId := by
  unfold LabRecords.allByWorker
  rw [List.mem_filter, beq_iff_eq]
  exact and_congr_left fun _ => Repository.mem_all_iff

/-- A record is read as it is stored, and under its lab id. -/
theorem start_read {db : LabRecords} {workerId : String} {key : Value.HashKey} {lab : LabRecord}
    (h : (Discovery.start db workerId).existingByLabId.get? key = some lab) :
    key = .text lab.labId ∧ db.store.find lab.id = some lab ∧ lab.workerId = workerId := by
  obtain ⟨lab', hmem, heq⟩ := List.mem_map.mp (Dict.mem_of_get?_ofList h)
  obtain ⟨rfl, rfl⟩ := Prod.mk.inj heq
  exact ⟨rfl, LabRecords.mem_allByWorker.mp hmem⟩

theorem start_sound {db : LabRecords} (workerId : String) (h : db.Logged) :
    (Discovery.start db workerId).Sound := by
  refine ⟨⟨?_, ?_⟩, h⟩
  · intro key lab hget
    exact ⟨lab, (start_read hget).2.1, LabRecord.Unmoved.refl lab⟩
  · intro key key' lab lab' hget hget' hid
    obtain ⟨rfl, hfind, -⟩ := start_read hget
    obtain ⟨rfl, hfind', -⟩ := start_read hget'
    rw [hid, hfind'] at hfind
    rw [Option.some.inj hfind]

/-- **A discovery keeps to the lifecycle** iff each entry of the scan does. -/
theorem discoverLabRecords_iff (py : PythonLibrary) (now : Int) {db : LabRecords}
    (command : DiscoverLabRecordsCommand) (h : db.Logged) :
    (discoverLabRecords py now db command).2.Logged
      ∧ ((discoverLabRecords py now db command).2.Lawful ↔ db.Lawful
        ∧ (command.workerId ≠ "" →
          Meets (Discovery.processLab py command.workerId) (Discovery.Safe py)
            (Discovery.start db command.workerId) command.labs)) := by
  unfold discoverLabRecords
  split
  next hempty => exact ⟨h, (and_iff_left fun hne => absurd hempty hne).symm⟩
  next hworker =>
    obtain ⟨hsound, hiff⟩ := processLabs_iff py command.workerId command.labs
      (start_sound command.workerId h)
    rw [forall_prop_of_true hworker]
    unfold replay at hsound hiff
    dsimp only
    generalize command.labs.foldl (Discovery.processLab py command.workerId)
      (Discovery.start db command.workerId) = d at hsound hiff ⊢
    cases d.raised with
    | some e => exact ⟨hsound.2, hiff⟩
    | none =>
        obtain ⟨hlogged, hsweep⟩ := sweep_iff now command.partialScan hsound
        exact ⟨hlogged, hsweep.trans hiff⟩

end Discovery

/-! ## §5. Runs. -/

/-- The factories, the operations and the commands, with their arguments. -/
inductive LabRequest where
  | create (newId : NewId) (labId workerId : String) (cml : CmlLab) (cmlCreatedAt : Option Int)
  | clone (newId cloneLabId : NewId) (sourceLabRecordId : String) (title : Option String)
  | operate (labRecordId : String) (operation : LabOperation)
  | discoverLabRecords (command : DiscoverLabRecordsCommand)
  | updateLabRecordStatus (command : UpdateLabRecordStatusCommand)
  | completeLabAction (newRunId : NewId) (command : CompleteLabActionCommand)

/-- A request, with the time it is handled at. -/
structure LabInput where
  now : Int
  request : LabRequest

/-- Add a record, if there is one and its id is new. -/
def LabRecords.addMade (db : LabRecords) (made : Except String LabRecord) : LabRecords :=
  match made.bind db.add with
  | .error _ => db
  | .ok db => db

/-- Handle a request; what an operation did before it raised stays. -/
def labStep (py : PythonLibrary) (db : LabRecords) (input : LabInput) : LabRecords :=
  match input.request with
  | .create newId labId workerId cml cmlCreatedAt =>
      db.addMade (LabRecord.create newId input.now labId workerId cml cmlCreatedAt)
  | .clone newId cloneLabId sourceLabRecordId title =>
      match db.store.find sourceLabRecordId with
      | none => db
      | some source => db.addMade (LabRecord.clone newId input.now cloneLabId title source)
  | .operate labRecordId operation =>
      match db.store.find labRecordId with
      | none => db
      | some lab => db.save (lab.perform py input.now operation).lab operation.isSync
  | .discoverLabRecords command => (discoverLabRecords py input.now db command).2
  | .updateLabRecordStatus command => (updateLabRecordStatus input.now db command).2
  | .completeLabAction newRunId command => (completeLabAction input.now newRunId db command).2

/-- **When a request keeps to the lifecycle**: every import and every synchronisation in it
does. -/
def LifecycleSafe (py : PythonLibrary) (db : LabRecords) (input : LabInput) : Prop :=
  match input.request with
  | .operate labRecordId operation =>
      ∀ lab, db.store.find labRecordId = some lab → lab.OperationSafe operation
  | .discoverLabRecords command =>
      command.workerId ≠ "" →
        Meets (Discovery.processLab py command.workerId) (Discovery.Safe py)
          (Discovery.start db command.workerId) command.labs
  | _ => True

section Run

variable {py : PythonLibrary} {now : Int} {db : LabRecords} {lab lab' : LabRecord}

theorem addMade_iff {made : Except String LabRecord}
    (haudited : ∀ record, made = .ok record → record.Audited) (h : db.Logged) :
    (db.addMade made).Logged ∧ ((db.addMade made).Lawful ↔ db.Lawful) := by
  unfold LabRecords.addMade
  cases hmade : made with
  | error e => exact ⟨h, Iff.rfl⟩
  | ok record =>
      dsimp only [Except.bind]
      cases hadd : db.add record with
      | error e => exact ⟨h, Iff.rfl⟩
      | ok db' => exact LabRecords.add_lawful hadd (haudited record hmade) h

theorem create_audited {newId : NewId} {labId workerId : String} {cml : CmlLab}
    {cmlCreatedAt : Option Int}
    (h : LabRecord.create newId now labId workerId cml cmlCreatedAt = .ok lab) : lab.Audited := by
  unfold LabRecord.create at h
  split at h
  next => cases h
  next =>
    split at h
    next => cases h
    next =>
      obtain rfl := Except.ok.inj h
      exact Trail.singleton rfl

theorem clone_audited {newId cloneLabId : NewId} {title : Option String}
    (h : LabRecord.clone newId now cloneLabId title lab = .ok lab') : lab'.Audited := by
  unfold LabRecord.clone at h
  split at h
  next => cases h
  next =>
    dsimp only at h
    split at h
    next => cases h
    next discovered hdiscovered =>
      obtain rfl := Except.ok.inj h
      have hentered : discovered.Entered (discovered.onLabRecordCloned now) .defined :=
        ⟨rfl, rfl, _, rfl, rfl, rfl⟩
      exact hentered.audited (LabRecord.discover_audited hdiscovered).1

/-- A change that the table allows, or none. -/
def LabRecord.Moves (lab lab' : LabRecord) : Prop :=
  lab.Unmoved lab' ∨ ∃ target ∈ labRecordValidTransitions lab.status, lab.Entered lab' target

theorem LabRecord.Moves.unmoved {lab'' : LabRecord} (h : lab.Moves lab')
    (h' : lab'.Unmoved lab'') : lab.Moves lab'' := by
  rcases h with h | ⟨target, hmem, h⟩
  · exact .inl (h.trans h')
  · exact .inr ⟨target, hmem, h.unmoved h'⟩

theorem LabRecord.Unmoved.moves {lab'' : LabRecord} (h : lab.Unmoved lab')
    (h' : lab'.Moves lab'') : lab.Moves lab'' := by
  rcases h' with h' | ⟨target, hmem, h'⟩
  · exact .inl (h.trans h')
  · rw [h.status] at hmem
    exact .inr ⟨target, hmem, h.entered h'⟩

/-- Saving a record that a guarded change was made to. -/
theorem LabRecord.Moves.save_iff {id : String} (h : lab.Moves lab') (sync : Bool)
    (hlogged : db.Logged) (hfind : db.store.find id = some lab) :
    (db.save lab' sync).Logged ∧ ((db.save lab' sync).Lawful ↔ db.Lawful) := by
  refine ⟨hlogged.save _ _, ?_⟩
  have hid : lab'.id = id := by
    rw [← db.id_of_find hfind]
    rcases h with h | ⟨target, hmem, h⟩
    · exact h.id
    · exact h.id
  rw [LabRecords.save_lawful_iff, hid, hfind]
  refine and_iff_left_of_imp fun hlawful => ?_
  have ha := LabRecords.audited_of_find hlawful hlogged hfind
  rcases h with h | ⟨target, hmem, h⟩
  · exact h.lawful ha
  · exact h.lawful hmem ha

theorem applyStatusTransition_moves {target : LabRecordStatus} {errorMessage : Option String}
    (h : applyStatusTransition now lab target errorMessage = .ok lab') : lab.Moves lab' := by
  unfold applyStatusTransition at h
  split at h
  case h_8 => cases h
  all_goals
    obtain ⟨hmem, hentered⟩ := LabRecord.guarded_moveTo h ⟨rfl, rfl, rfl⟩
    exact .inr ⟨_, hmem, hentered⟩

theorem applyActionTransition_moves {target : Option LabRecordStatus}
    (h : applyActionTransition now lab target = .ok lab') : lab.Moves lab' := by
  unfold applyActionTransition at h
  split at h
  case h_5 => exact .inl (Except.ok.inj h ▸ LabRecord.Unmoved.refl lab)
  all_goals
    obtain ⟨hmem, hentered⟩ := LabRecord.guarded_moveTo h ⟨rfl, rfl, rfl⟩
    exact .inr ⟨_, hmem, hentered⟩

theorem updateLabRecordStatus_iff (request : UpdateLabRecordStatusCommand) (h : db.Logged) :
    (updateLabRecordStatus now db request).2.Logged
      ∧ ((updateLabRecordStatus now db request).2.Lawful ↔ db.Lawful) := by
  unfold updateLabRecordStatus
  cases hfind : db.store.find request.labRecordId with
  | none => exact ⟨h, Iff.rfl⟩
  | some lab =>
      dsimp only
      cases resolveStatus request.newStatus request.cmlState with
      | none => exact ⟨h, Iff.rfl⟩
      | some target =>
          dsimp only
          split
          next => exact ⟨h, Iff.rfl⟩
          next =>
            cases hmoved : applyStatusTransition now lab target request.errorMessage with
            | error e => exact ⟨h, Iff.rfl⟩
            | ok moved =>
                exact ((applyStatusTransition_moves hmoved).unmoved
                  (moved.withCmlState_unmoved request.cmlState)).save_iff false h hfind

/-- A transition that is refused leaves the record as it is. -/
theorem transitioned_moves {cleared : LabRecord} {target : Option LabRecordStatus} :
    cleared.Moves
      (match applyActionTransition now cleared target with
        | .ok moved => moved
        | .error _ => cleared) := by
  cases hmoved : applyActionTransition now cleared target with
  | error e => exact .inl (LabRecord.Unmoved.refl cleared)
  | ok moved => exact applyActionTransition_moves hmoved

theorem completeLabAction_iff (newRunId : NewId) (request : CompleteLabActionCommand)
    (h : db.Logged) :
    (completeLabAction now newRunId db request).2.Logged
      ∧ ((completeLabAction now newRunId db request).2.Lawful ↔ db.Lawful) := by
  unfold completeLabAction
  cases hfind : db.store.find request.labRecordId with
  | none => exact ⟨h, Iff.rfl⟩
  | some lab =>
      dsimp only
      cases (givenText request.action).or (givenText lab.pendingAction) with
      | none => exact ⟨h, Iff.rfl⟩
      | some action =>
          dsimp only
          have hcleared : lab.Unmoved lab.completePendingAction :=
            lab.dropPendingAction_unmoved none
          generalize lab.completePendingAction = cleared at hcleared ⊢
          exact ((hcleared.moves transitioned_moves).unmoved
            ((LabRecord.recordActionRun_unmoved ..).trans
              (LabRecord.withCmlState_unmoved ..))).save_iff false h hfind

theorem LabEffect.id_eq {operation : LabOperation} (heffect : LabEffect lab lab' operation) :
    lab'.id = lab.id := by
  cases heffect with
  | kept plain unmoved => exact unmoved.id
  | moved plain allowed entered => exact entered.id
  | stale stale unmoved => exact unmoved.id
  | unmapped unmapped unmoved => exact unmoved.id
  | synced fresh mapped synced => exact synced.id
  | refused refused unmoved => exact unmoved.id
  | begun allowed missing restated => exact restated.id
  | imported allowed given entered => exact entered.id

theorem operationSafe_of_plain {operation : LabOperation} (h : operation.isPlain = true) :
    lab.OperationSafe operation := by
  cases operation
  case updateFromCml => cases h
  case markImported => cases h
  all_goals trivial

/-- The version that an operation writes. -/
theorem LabEffect.lawful_iff {operation : LabOperation} (heffect : LabEffect lab lab' operation)
    (ha : lab.Audited) :
    LabWrite.Lawful ⟨some lab, lab', operation.isSync⟩ ↔ lab.OperationSafe operation := by
  cases heffect with
  | kept plain unmoved => exact iff_of_true (unmoved.lawful ha) (operationSafe_of_plain plain)
  | moved plain allowed entered =>
      exact iff_of_true (entered.lawful allowed ha) (operationSafe_of_plain plain)
  | stale stale unmoved => exact iff_of_true (unmoved.lawful ha) (.inl stale)
  | unmapped unmapped unmoved =>
      refine iff_of_true (unmoved.lawful ha) (.inr (.inr fun target hmapped => ?_))
      rw [unmapped] at hmapped
      cases hmapped
  | @synced cml target fresh mapped synced =>
      -- of the operations only a sync may leave the status machine
      unfold LabRecord.OperationSafe LabRecord.SyncSafe
      dsimp only
      rw [fresh, mapped]
      cases target with
      | none =>
          have hunmoved : lab.Unmoved lab' := LabRecord.synced_none.mp synced
          exact iff_of_true (hunmoved.lawful ha) (.inr (.inr fun target h => by cases h))
      | some target =>
          refine (synced.lawful_iff mapped ha).trans ?_
          simp
  | refused refused unmoved =>
      exact iff_of_true (unmoved.lawful ha) fun hmem => absurd hmem refused
  | begun allowed missing restated =>
      refine iff_of_false (fun hlawful => ?_) fun hsafe => missing (hsafe allowed)
      -- the table leads from no status to itself, so that the status has changed unseen
      have hsame := (restated.lawful_iff ha).mp hlawful
      rw [← hsame] at allowed
      exact absurd allowed (by decide)
  | imported allowed given entered =>
      exact iff_of_true (entered.lawful allowed ha) fun _ => given

theorem operate_iff {labRecordId : String} {operation : LabOperation} (h : db.Logged) :
    (labStep py db ⟨now, .operate labRecordId operation⟩).Logged
      ∧ ((labStep py db ⟨now, .operate labRecordId operation⟩).Lawful ↔ db.Lawful
        ∧ ∀ lab, db.store.find labRecordId = some lab → lab.OperationSafe operation) := by
  unfold labStep
  dsimp only
  cases hfind : db.store.find labRecordId with
  | none =>
      refine ⟨h, (and_iff_left fun lab hnone => ?_).symm⟩
      exact absurd hnone.symm (Option.some_ne_none lab)
  | some lab =>
      have hall : (∀ found, some lab = some found → found.OperationSafe operation)
          ↔ lab.OperationSafe operation := by
        simp
      have heffect := lab.perform_effect py now operation
      have hid := heffect.id_eq.trans (db.id_of_find hfind)
      rw [hall]
      dsimp only
      refine ⟨h.save _ _, ?_⟩
      rw [LabRecords.save_lawful_iff, hid, hfind]
      exact and_congr_right fun hlawful =>
        heffect.lawful_iff (LabRecords.audited_of_find hlawful h hfind)

/-- **The step lemma**: a request writes only lawful versions iff it keeps to the lifecycle. -/
theorem labStep_iff (py : PythonLibrary) (db : LabRecords) (input : LabInput) (h : db.Logged) :
    (labStep py db input).Logged
      ∧ ((labStep py db input).Lawful ↔ db.Lawful ∧ LifecycleSafe py db input) := by
  obtain ⟨now, request⟩ := input
  cases request with
  | create newId labId workerId cml cmlCreatedAt =>
      obtain ⟨hlogged, hiff⟩ := addMade_iff (fun record hmade => create_audited hmade) h
      exact ⟨hlogged, hiff.trans (and_iff_left trivial).symm⟩
  | clone newId cloneLabId sourceLabRecordId title =>
      unfold labStep
      dsimp only
      cases db.store.find sourceLabRecordId with
      | none => exact ⟨h, (and_iff_left trivial).symm⟩
      | some source =>
          obtain ⟨hlogged, hiff⟩ := addMade_iff (fun record hmade => clone_audited hmade) h
          exact ⟨hlogged, hiff.trans (and_iff_left trivial).symm⟩
  | operate labRecordId operation => exact operate_iff h
  | discoverLabRecords command => exact discoverLabRecords_iff py now command h
  | updateLabRecordStatus command =>
      obtain ⟨hlogged, hiff⟩ := updateLabRecordStatus_iff command h
      exact ⟨hlogged, hiff.trans (and_iff_left trivial).symm⟩
  | completeLabAction newRunId command =>
      obtain ⟨hlogged, hiff⟩ := completeLabAction_iff newRunId command h
      exact ⟨hlogged, hiff.trans (and_iff_left trivial).symm⟩

end Run

theorem empty_logged : LabRecords.empty.Logged := by
  intro id lab hfind
  cases hfind

/-- **The lifecycle of the lab records**: in a run from the empty collection, every version that is
written keeps a terminal status, changes any other by the table or for CML, and has the trail of
its status as history, iff every synchronisation in the run keeps to the lifecycle. -/
theorem lab_lifecycle_iff (py : PythonLibrary) (inputs : List LabInput) :
    (∀ w ∈ (replay (labStep py) LabRecords.empty inputs).writes, w.Lawful)
      ↔ Meets (labStep py) (LifecycleSafe py) LabRecords.empty inputs := by
  have hrun := @replay_iff_meets _ _ (labStep py) (LifecycleSafe py) LabRecords.Logged
    LabRecords.Lawful (fun db input h => (labStep_iff py db input h).1)
    (fun db input h => (labStep_iff py db input h).2) inputs LabRecords.empty empty_logged
  exact hrun.trans (and_iff_right fun w hw => by cases hw)

/-! ## §6. A lab that comes back. -/

/-- A library that reads no dates and digests everything to one text. -/
def plainPython : PythonLibrary where
  fromIsoFormat := fun _ => none
  sha256 := fun _ => ⟨"e3b0c442", by decide⟩

/-- A scan that reports one lab in a state. -/
def scanOf (now : Int) (state : String) : LabInput where
  now := now
  request := .discoverLabRecords
    { workerId := "worker-1"
      labs := [{
        data := Dict.ofList [("id", .str "lab-1"), ("state", .str state)]
        now := now
        newId := ⟨"lab-record-1", labRecord1_given⟩ }] }

/-- An orphan that is found in a state CML has no status for is discovered again, and its last entry
still says that it is orphaned. -/
example :
    ((replay (labStep plainPython) LabRecords.empty
      [scanOf 0 "STOPPED",
        ⟨1, .updateLabRecordStatus { labRecordId := "lab-record-1", newStatus := some "orphaned" }⟩,
        scanOf 2 "PAUSED"]).writes.map fun w =>
          (w.record.status, w.record.stateHistory.getLast?.map LabTransition.toState))
      = [(.discovered, some .discovered), (.orphaned, some .orphaned),
          (.discovered, some .orphaned)] := by
  decide +kernel

/-- An import without a worker raises, and the lab is defined with no entry that says so. -/
example :
    ((replay (labStep plainPython) LabRecords.empty
      [scanOf 0 "STOPPED",
        ⟨1, .operate "lab-record-1"
          (.markImported "lab-1" "" (.str "Routing") "9f86d0" "admin")⟩]).writes.map fun w =>
          (w.record.status, w.record.stateHistory.getLast?.map LabTransition.toState))
      = [(.discovered, some .discovered), (.defined, some .discovered)] := by
  decide +kernel

/-- A stopped lab is discovered and archived, and then it is started on the worker. -/
def archivedAndStarted : List LabInput :=
  [scanOf 0 "STOPPED", scanOf 1 "STOPPED",
    ⟨2, .updateLabRecordStatus { labRecordId := "lab-record-1", newStatus := some "archived" }⟩,
    scanOf 3 "STARTED"]

/-- The version is of a lab that was archived and is booted now. -/
def bootedFromArchive (w : LabWrite) : Bool :=
  match w.previous with
  | some previous => previous.status == .archived && w.record.status == .booted
  | none => false

/-- The next scan boots the archived lab again. -/
theorem archived_lab_boots_again :
    ¬ ∀ (py : PythonLibrary) (inputs : List LabInput),
      ∀ w ∈ (replay (labStep py) LabRecords.empty inputs).writes, w.Lawful := by
  intro h
  have hany : (replay (labStep plainPython) LabRecords.empty archivedAndStarted).writes.any
      bootedFromArchive = true := by decide +kernel
  obtain ⟨w, hw, hbooted⟩ := List.any_eq_true.mp hany
  have hlawful := h plainPython archivedAndStarted w hw
  unfold bootedFromArchive at hbooted
  cases hprevious : w.previous with
  | none =>
      rw [hprevious] at hbooted
      cases hbooted
  | some previous =>
      rw [hprevious] at hbooted
      simp only [Bool.and_eq_true, beq_iff_eq] at hbooted
      obtain ⟨harchived, hbooted⟩ := hbooted
      have hkept := hlawful.terminal previous hprevious (by rw [harchived]; rfl)
      rw [harchived, hbooted] at hkept
      cases hkept

end CmlCloudManager.ControlPlane
