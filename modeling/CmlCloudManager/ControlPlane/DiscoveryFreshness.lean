/-
  CmlCloudManager.ControlPlane.DiscoveryFreshness
  ───────────────────────────────────────────────
  **STALE SCANS OF A LAB.**

  Scans of one lab can arrive in any order.  `update_from_cml` declines one that was
  modified no later than what is stored, and the record should then stay as it is:
  its status, its title, its raw CML state and its topology.  And the time that is
  stored should only ever move forward.

  `_update_existing_record` goes on after the guard, with the status, with the
  topology of the nodes and links, with the one of the YAML and with the orphans;
  and what has no time passes the guard and takes the stored time away.
  `FreshnessSafe` says when none of this makes a difference.
-/
import CmlCloudManager.ControlPlane.LabRecordLifecycle

namespace CmlCloudManager.ControlPlane

open CmlCloudManager.Foundation CmlCloudManager.Pipeline

/-! ## §1. What a scan makes of the stored record. -/

/-- The topology of a record, with its revisions. -/
structure LabTopology where
  spec : Option LabTopologySpec
  nodeCount : Value
  linkCount : Value
  revision : Nat
  revisionHistory : List LabRevision

/-- What a stale scan should leave alone. -/
structure LabView where
  status : LabRecordStatus
  title : Value
  state : Value
  topology : LabTopology

/-- What one scan says about the lab, and when it is processed. -/
structure LabScan where
  now : Int
  data : Payload

/-- The topology is the one the scan describes, if it describes one; a YAML has neither nodes nor
links. -/
def LabTopology.Settled (py : PythonLibrary) (topology : LabTopology) (data : Payload) : Prop :=
  match discoveredYaml data with
  | some rawYaml =>
      topology.spec = some { rawYaml := rawYaml } ∧ topology.nodeCount = .int 0
        ∧ topology.linkCount = .int 0
        ∧ topology.revisionHistory.getLast?.map LabRevision.topologyChecksum
          = some (LabTopologySpec.checksum py { rawYaml := rawYaml })
  | none => ∀ spec, discoveredTopology data = some spec → topology.spec = some spec

namespace LabRecord

/-- The topology of the record. -/
def topology (lab : LabRecord) : LabTopology :=
  ⟨lab.topologySpec, lab.nodeCount, lab.linkCount, lab.revision, lab.revisionHistory⟩

/-- Status, title, raw CML state and topology. -/
def view (lab : LabRecord) : LabView := ⟨lab.status, lab.title, lab.state, lab.topology⟩

/-- The stored record after a scan: what raises is not saved. -/
def rescanned (py : PythonLibrary) (lab : LabRecord) (scan : LabScan) : LabRecord :=
  match (lab.updateExistingRecord py scan.now scan.data).result with
  | .error _ => lab
  | .ok _ => (lab.updateExistingRecord py scan.now scan.data).lab

/-- The scan is no later than what is stored. -/
def NoLater (py : PythonLibrary) (lab : LabRecord) (scan : LabScan) : Prop :=
  ∃ modified stored, parseModifiedAt py scan.now scan.data = .ok (some modified)
    ∧ lab.modifiedAt = some stored ∧ modified ≤ stored

/-- The stored time has not moved back. -/
def Forward (lab lab' : LabRecord) : Prop :=
  ∀ stored, lab.modifiedAt = some stored →
    ∃ stored', lab'.modifiedAt = some stored' ∧ stored ≤ stored'

/-! ## §2. When a scan does no harm. -/

/-- The status is the one that CML implies, or CML implies none and the lab is no orphan. -/
def StatusSettled (lab : LabRecord) : Option LabRecordStatus → Prop
  | some mapped => lab.status = mapped
  | none => lab.status ≠ .orphaned

/-- **When a scan does no harm**: it raises; or it is stale, and the record has the status and the
topology it describes already; or it has a time, unless none is stored. -/
def FreshnessSafe (py : PythonLibrary) (lab : LabRecord) (scan : LabScan) : Prop :=
  match parseModifiedAt py scan.now scan.data, mappedStatus (scan.data.getD "state" (.str "")) with
  | .ok modified, .ok mapped =>
      if lab.isStale modified = true then
        lab.StatusSettled mapped ∧ lab.topology.Settled py scan.data
      else lab.modifiedAt = none ∨ modified ≠ none
  | _, _ => True

/-! ## §3. The fields that each part of an update leaves alone. -/

/-- Title, raw state and time are the same. -/
structure SameCml (lab lab' : LabRecord) : Prop where
  title : lab'.title = lab.title
  state : lab'.state = lab.state
  modifiedAt : lab'.modifiedAt = lab.modifiedAt

variable {py : PythonLibrary} {now : Int} {lab lab' lab'' : LabRecord} {data : Payload}

theorem SameCml.trans (h : SameCml lab lab') (h' : SameCml lab' lab'') : SameCml lab lab'' :=
  ⟨h'.title.trans h.title, h'.state.trans h.state, h'.modifiedAt.trans h.modifiedAt⟩

theorem Forward.refl (lab : LabRecord) : lab.Forward lab := fun stored h => ⟨stored, h, le_rfl⟩

theorem Forward.trans (h : lab.Forward lab') (h' : lab'.Forward lab'') : lab.Forward lab'' := by
  intro stored hstored
  obtain ⟨stored', hstored', hle⟩ := h stored hstored
  obtain ⟨stored'', hstored'', hle'⟩ := h' stored' hstored'
  exact ⟨stored'', hstored'', hle.trans hle'⟩

theorem linkToDefinition_sameCml (lab : LabRecord) (incoming : Value) :
    lab.SameCml (lab.linkToDefinition incoming)
      ∧ (lab.linkToDefinition incoming).topology = lab.topology := by
  unfold linkToDefinition
  split <;> exact ⟨⟨rfl, rfl, rfl⟩, rfl⟩

theorem setMappedStatus_sameCml (lab : LabRecord) (mapped : Option LabRecordStatus) :
    lab.SameCml (lab.setMappedStatus mapped)
      ∧ (lab.setMappedStatus mapped).topology = lab.topology := by
  cases mapped with
  | none => exact ⟨⟨rfl, rfl, rfl⟩, rfl⟩
  | some mapped =>
      unfold setMappedStatus
      dsimp only
      split <;> exact ⟨⟨rfl, rfl, rfl⟩, rfl⟩

theorem unorphan_sameCml (lab : LabRecord) :
    lab.SameCml lab.unorphan ∧ lab.unorphan.topology = lab.topology := by
  unfold unorphan
  split <;> exact ⟨⟨rfl, rfl, rfl⟩, rfl⟩

theorem applyTopologyFromDiscovery_sameCml (lab : LabRecord) (data : Payload) :
    lab.SameCml (lab.applyTopologyFromDiscovery data) := by
  unfold applyTopologyFromDiscovery
  split <;> exact ⟨rfl, rfl, rfl⟩

theorem applyYaml_sameCml (py : PythonLibrary) (now : Int) (lab : LabRecord) (data : Payload) :
    lab.SameCml (lab.applyYaml py now data) := by
  unfold applyYaml
  split
  next => exact ⟨rfl, rfl, rfl⟩
  next =>
    unfold updateTopology
    dsimp only
    split <;> exact ⟨rfl, rfl, rfl⟩

/-! ## §4. What is left of a stale scan. -/

/-- A new topology that changes nothing. -/
theorem updateTopology_topology_iff (py : PythonLibrary) (now : Int) (lab : LabRecord)
    (spec : LabTopologySpec) (changeSummary : Option String) :
    (lab.updateTopology py now spec changeSummary).topology = lab.topology
      ↔ lab.topologySpec = some spec ∧ lab.nodeCount = .int spec.nodeCount
        ∧ lab.linkCount = .int spec.linkCount
        ∧ lab.revisionHistory.getLast?.map LabRevision.topologyChecksum
          = some (spec.checksum py) := by
  unfold updateTopology topology
  dsimp only
  split
  next hsame =>
    rw [hsame]
    simp only [LabTopology.mk.injEq, and_true]
    constructor
    · rintro ⟨hspec, hnodes, hlinks⟩
      exact ⟨hspec.symm, hnodes.symm, hlinks.symm⟩
    · rintro ⟨hspec, hnodes, hlinks⟩
      exact ⟨hspec.symm, hnodes.symm, hlinks.symm⟩
  next hnew =>
    refine iff_of_false ?_ fun h => hnew h.2.2.2
    intro h
    -- a revision that is new has a number of its own
    have hrevision := congrArg LabTopology.revision h
    exact Nat.succ_ne_self _ hrevision

/-- The new topology does not depend on the nodes and links that were found before. -/
theorem updateTopology_applyTopologyFromDiscovery (spec : LabTopologySpec)
    (changeSummary : Option String) :
    ((lab.applyTopologyFromDiscovery data).updateTopology py now spec changeSummary).topology
      = (lab.updateTopology py now spec changeSummary).topology := by
  unfold applyTopologyFromDiscovery
  split <;> rfl

theorem applyTopologyFromDiscovery_topology_iff (lab : LabRecord) (data : Payload) :
    (lab.applyTopologyFromDiscovery data).topology = lab.topology
      ↔ ∀ spec, discoveredTopology data = some spec → lab.topologySpec = some spec := by
  unfold applyTopologyFromDiscovery
  cases discoveredTopology data with
  | none => exact iff_of_true rfl fun spec h => by cases h
  | some spec =>
      unfold topology
      simp only [LabTopology.mk.injEq, and_true, Option.some.injEq, forall_eq']
      exact eq_comm

theorem applied_topology_iff (py : PythonLibrary) (now : Int) (lab : LabRecord) (data : Payload) :
    ((lab.applyTopologyFromDiscovery data).applyYaml py now data).topology = lab.topology
      ↔ lab.topology.Settled py data := by
  unfold applyYaml LabTopology.Settled
  cases discoveredYaml data with
  | none => exact applyTopologyFromDiscovery_topology_iff lab data
  | some rawYaml =>
      dsimp only
      rw [updateTopology_applyTopologyFromDiscovery]
      exact updateTopology_topology_iff py now lab { rawYaml := rawYaml } _

/-- The title, the raw state and the time of a record are not touched after the guard. -/
theorem settleScan_sameCml {mapped : Option LabRecordStatus}
    (h : mappedStatus (data.getD "state" (.str "")) = .ok mapped) :
    lab.SameCml (lab.settleScan py now data).lab := by
  unfold settleScan
  rw [h]
  dsimp only
  exact (((lab.setMappedStatus_sameCml mapped).1.trans
    (applyTopologyFromDiscovery_sameCml ..)).trans (applyYaml_sameCml ..)).trans
    (unorphan_sameCml _).1

theorem settleScan_topology_iff (py : PythonLibrary) (now : Int) (lab : LabRecord)
    {mapped : Option LabRecordStatus}
    (h : mappedStatus (data.getD "state" (.str "")) = .ok mapped) :
    (lab.settleScan py now data).lab.topology = lab.topology ↔ lab.topology.Settled py data := by
  unfold settleScan
  rw [h]
  dsimp only
  rw [(unorphan_sameCml _).2, ← (lab.setMappedStatus_sameCml mapped).2]
  exact applied_topology_iff py now _ data

theorem settleScan_status_iff (py : PythonLibrary) (now : Int) (lab : LabRecord)
    {mapped : Option LabRecordStatus}
    (h : mappedStatus (data.getD "state" (.str "")) = .ok mapped) :
    (lab.settleScan py now data).lab.status = lab.status ↔ lab.StatusSettled mapped := by
  cases mapped with
  | none =>
      have hrestated : lab.Restated (lab.settleScan py now data).lab _ :=
        (Unmoved.refl lab).settleScan h
      rw [hrestated.status]
      unfold StatusSettled
      split
      next horphaned =>
        rw [horphaned]
        decide
      next hne => exact iff_of_true rfl hne
  | some target =>
      rw [(settleScan_target py now lab h).status]
      exact eq_comm

/-- What is left of a scan after the guard has declined it. -/
theorem settleScan_view_iff {mapped : Option LabRecordStatus}
    (h : mappedStatus (data.getD "state" (.str "")) = .ok mapped) :
    (lab.settleScan py now data).lab.view = lab.view
      ↔ lab.StatusSettled mapped ∧ lab.topology.Settled py data := by
  have hsame : lab.SameCml (lab.settleScan py now data).lab := settleScan_sameCml h
  rw [← settleScan_status_iff py now lab h, ← settleScan_topology_iff py now lab h]
  unfold view
  rw [LabView.mk.injEq, hsame.title, hsame.state]
  simp only [true_and]

/-! ## §5. One scan. -/

theorem noLater_iff {scan : LabScan} {modified : Option Int}
    (h : parseModifiedAt py scan.now scan.data = .ok modified) :
    lab.NoLater py scan ↔ lab.isStale modified = true := by
  unfold NoLater isStale
  rw [h]
  cases modified with
  | none => simp
  | some modified =>
      cases lab.modifiedAt with
      | none => simp
      | some stored => simp

theorem syncStatus_modifiedAt (lab : LabRecord) (target : Option LabRecordStatus)
    (reason : String) : (lab.syncStatus now target reason).modifiedAt = lab.modifiedAt := by
  unfold syncStatus
  split <;> rfl

theorem onLabRecordUpdated_modifiedAt (lab : LabRecord) (cml : CmlLab) :
    (lab.onLabRecordUpdated now cml).lab.modifiedAt = cml.cmlModifiedAt := by
  unfold onLabRecordUpdated
  cases mappedStatus cml.state with
  | error e => rfl
  | ok target => exact syncStatus_modifiedAt ..

/-- An update that goes through brings its time along. -/
theorem applyCml_modifiedAt {cml : CmlLab} {u : Unit}
    (hdone : (lab.applyCml now cml).result = .ok u) :
    (lab.applyCml now cml).lab.modifiedAt = cml.cmlModifiedAt := by
  unfold applyCml at hdone ⊢
  split at hdone
  next hchanged =>
    obtain ⟨_, -, hupdated⟩ := Attempt.andThen_ok hdone
    rw [if_pos hchanged, hupdated]
    exact onLabRecordUpdated_modifiedAt ..
  next hsame =>
    rw [if_neg hsame]
    exact onLabRecordUpdated_modifiedAt ..

theorem updateFromCml_modifiedAt {cml : CmlLab} (hfresh : lab.isStale cml.cmlModifiedAt = false)
    {u : Unit} (hdone : (lab.updateFromCml now cml).result = .ok u) :
    (lab.updateFromCml now cml).lab.modifiedAt = cml.cmlModifiedAt := by
  unfold updateFromCml at hdone ⊢
  rw [hfresh, if_neg Bool.false_ne_true] at hdone ⊢
  exact applyCml_modifiedAt hdone

/-- A scan that is declined. -/
theorem updateExistingRecord_stale {modified : Option Int}
    (hparsed : parseModifiedAt py now data = .ok modified) (hstale : lab.isStale modified = true) :
    lab.updateExistingRecord py now data
      = (lab.linkToDefinition (data.get "based_on_definition_id")).settleScan py now data := by
  unfold updateExistingRecord
  rw [hparsed]
  dsimp only
  rw [← isStale_linkToDefinition lab (data.get "based_on_definition_id")] at hstale
  rw [updateFromCml_stale hstale]
  rfl

/-- A fresh scan that goes through brings its time along. -/
theorem updateExistingRecord_fresh {modified : Option Int} {created : Bool}
    (hparsed : parseModifiedAt py now data = .ok modified) (hfresh : lab.isStale modified = false)
    (hdone : (lab.updateExistingRecord py now data).result = .ok created) :
    (lab.updateExistingRecord py now data).lab.modifiedAt = modified := by
  unfold updateExistingRecord at hdone ⊢
  rw [hparsed] at hdone ⊢
  dsimp only at hdone ⊢
  rw [← isStale_linkToDefinition lab (data.get "based_on_definition_id")] at hfresh
  obtain ⟨u, hupdated, hsettle⟩ := Attempt.andThen_ok hdone
  rw [hsettle] at hdone ⊢
  have htime := updateFromCml_modifiedAt hfresh hupdated
  cases hmapped : mappedStatus (data.getD "state" (.str "")) with
  | error e =>
      rw [settleScan_error hmapped] at hdone
      cases hdone
  | ok mapped => exact (settleScan_sameCml hmapped).modifiedAt.trans htime

/-- The link to a definition is none of what a stale scan should leave alone. -/
theorem linkToDefinition_view (lab : LabRecord) (incoming : Value) :
    (lab.linkToDefinition incoming).view = lab.view := by
  unfold linkToDefinition
  split <;> rfl

/-- **The step lemma**, for a scan that is declined. -/
theorem rescanned_stale {scan : LabScan} {modified : Option Int} {mapped : Option LabRecordStatus}
    (hparsed : parseModifiedAt py scan.now scan.data = .ok modified)
    (hmapped : mappedStatus (scan.data.getD "state" (.str "")) = .ok mapped)
    (hstale : lab.isStale modified = true) :
    ((lab.rescanned py scan).view = lab.view
        ↔ lab.StatusSettled mapped ∧ lab.topology.Settled py scan.data)
      ∧ (lab.rescanned py scan).modifiedAt = lab.modifiedAt := by
  obtain ⟨hlinked, htopology⟩ :=
    lab.linkToDefinition_sameCml (scan.data.get "based_on_definition_id")
  have hview := lab.linkToDefinition_view (scan.data.get "based_on_definition_id")
  have hstatus := (lab.linkToDefinition_unmoved (scan.data.get "based_on_definition_id")).status
  unfold rescanned
  rw [updateExistingRecord_stale hparsed hstale]
  generalize lab.linkToDefinition (scan.data.get "based_on_definition_id") = linked
    at hlinked htopology hview hstatus ⊢
  obtain ⟨created, hdone⟩ := (settleScan_ok py scan.now linked hmapped).1
  rw [hdone]
  dsimp only
  refine ⟨?_, (settleScan_sameCml hmapped).modifiedAt.trans hlinked.modifiedAt⟩
  have hsettled : linked.StatusSettled mapped ↔ lab.StatusSettled mapped := by
    unfold StatusSettled
    rw [hstatus]
  rw [← hview, settleScan_view_iff hmapped, htopology, hsettled]

/-- What raises is not saved. -/
theorem rescanned_raised {scan : LabScan}
    (hcause : (∃ e, parseModifiedAt py scan.now scan.data = .error e)
      ∨ ∃ e, mappedStatus (scan.data.getD "state" (.str "")) = .error e) :
    lab.rescanned py scan = lab := by
  unfold rescanned
  cases updateExistingRecord_effect py scan.now lab scan.data with
  | refused raised cause unmoved => rw [raised]
  | unmapped done parsed mapped _ | fresh done parsed _ mapped _ | stale done parsed _ mapped _ =>
      rw [parsed, mapped] at hcause
      rcases hcause with ⟨e, h⟩ | ⟨e, h⟩ <;> cases h

/-- A fresh scan brings its time along. -/
theorem rescanned_fresh {scan : LabScan} {modified : Option Int} {mapped : Option LabRecordStatus}
    (hparsed : parseModifiedAt py scan.now scan.data = .ok modified)
    (hmapped : mappedStatus (scan.data.getD "state" (.str "")) = .ok mapped)
    (hfresh : lab.isStale modified = false) : (lab.rescanned py scan).modifiedAt = modified := by
  have hdone : ∃ created,
      (lab.updateExistingRecord py scan.now scan.data).result = .ok created := by
    cases updateExistingRecord_effect py scan.now lab scan.data with
    | refused raised cause unmoved =>
        rw [hparsed, hmapped] at cause
        rcases cause with ⟨e, h⟩ | ⟨e, h⟩ <;> cases h
    | unmapped done _ _ _ | fresh done _ _ _ _ | stale done _ _ _ _ => exact ⟨_, done⟩
  obtain ⟨created, hdone⟩ := hdone
  unfold rescanned
  rw [hdone]
  exact updateExistingRecord_fresh hparsed hfresh hdone

/-- A fresh time is a later one, unless it is missing. -/
theorem forward_iff {modified : Option Int} (htime : lab'.modifiedAt = modified)
    (hfresh : lab.isStale modified = false) :
    lab.Forward lab' ↔ lab.modifiedAt = none ∨ modified ≠ none := by
  unfold Forward
  rw [htime]
  unfold isStale at hfresh
  cases hstored : lab.modifiedAt with
  | none => simp
  | some stored =>
      cases modified with
      | none => simp
      | some incoming =>
          rw [hstored] at hfresh
          have hlater : stored < incoming := not_le.mp (of_decide_eq_false hfresh)
          simp [hlater.le]

/-- **The step lemma**: a scan leaves a record that is as recent alone, and does not take its time
back, iff it does no harm. -/
theorem rescanned_iff (py : PythonLibrary) (lab : LabRecord) (scan : LabScan) :
    ((lab.NoLater py scan → (lab.rescanned py scan).view = lab.view)
        ∧ lab.Forward (lab.rescanned py scan))
      ↔ lab.FreshnessSafe py scan := by
  unfold FreshnessSafe
  cases hparsed : parseModifiedAt py scan.now scan.data with
  | error e =>
      rw [rescanned_raised (.inl ⟨e, hparsed⟩)]
      exact iff_of_true ⟨fun _ => rfl, Forward.refl lab⟩ trivial
  | ok modified =>
      cases hmapped : mappedStatus (scan.data.getD "state" (.str "")) with
      | error e =>
          rw [rescanned_raised (.inr ⟨e, hmapped⟩)]
          exact iff_of_true ⟨fun _ => rfl, Forward.refl lab⟩ trivial
      | ok mapped =>
          dsimp only
          rw [noLater_iff hparsed]
          cases hstale : lab.isStale modified with
          | true =>
              obtain ⟨hview, htime⟩ := rescanned_stale hparsed hmapped hstale
              have hforward : lab.Forward (lab.rescanned py scan) := fun stored hstored =>
                ⟨stored, htime.trans hstored, le_rfl⟩
              rw [if_pos rfl, hview, and_iff_left hforward]
              exact forall_prop_of_true rfl
          | false =>
              have htime := rescanned_fresh hparsed hmapped hstale
              rw [if_neg Bool.false_ne_true, forward_iff htime hstale]
              exact and_iff_right fun h => absurd h Bool.false_ne_true

/-! ## §6. Any sequence of scans. -/

/-- **Freshness**: a scan that is no later than what is stored leaves status, title, raw state and
topology alone, and of two points in time the later one has the later time, if the earlier one has
a time at all. -/
structure Fresh (py : PythonLibrary) (lab : LabRecord) (scans : List LabScan) : Prop where
  stale : ∀ before scan after, scans = before ++ scan :: after →
    (replay (rescanned py) lab before).NoLater py scan →
      (replay (rescanned py) lab (before ++ [scan])).view = (replay (rescanned py) lab before).view
  forward : ∀ before between after, scans = before ++ (between ++ after) →
    (replay (rescanned py) lab before).Forward (replay (rescanned py) lab (before ++ between))

/-- **Discovery freshness**: any scans of a lab, in any order, keep the record fresh iff each of
them does no harm to the record it finds. -/
theorem discovery_fresh_iff (py : PythonLibrary) (lab : LabRecord) (scans : List LabScan) :
    lab.Fresh py scans ↔ Meets (rescanned py) (FreshnessSafe py) lab scans := by
  have hsteps : Meets (rescanned py) (FreshnessSafe py) lab scans
      ↔ Meets (rescanned py) (fun lab scan =>
          lab.NoLater py scan → (lab.rescanned py scan).view = lab.view) lab scans
        ∧ Meets (rescanned py) (fun lab scan => lab.Forward (lab.rescanned py scan)) lab scans := by
    rw [← meets_and]
    exact @meets_congr _ _ _ _ _ (fun _ => True) (fun _ _ _ => trivial)
      (fun lab scan _ => (rescanned_iff py lab scan).symm) scans lab trivial
  rw [hsteps, meets_iff, ← related_iff_meets Forward.refl fun _ _ _ => Forward.trans]
  constructor
  · intro h
    refine ⟨fun before scan after hsplit hlater => ?_, h.forward⟩
    have hview := h.stale before scan after hsplit hlater
    rwa [replay_snoc] at hview
  · rintro ⟨hstale, hforward⟩
    refine ⟨fun before scan after hsplit hlater => ?_, hforward⟩
    rw [replay_snoc]
    exact hstale before scan after hsplit hlater

end LabRecord

/-- What the discovery stores for a lab it knows, when it has not touched the record before. -/
theorem processExisting_stores {py : PythonLibrary} {d : Discovery} {lab : ScannedLab}
    {key : Value.HashKey} {existing : LabRecord}
    (hfind : d.db.store.find existing.id = some existing) :
    (d.processExisting py lab key existing).db.store.find existing.id
      = some (existing.rescanned py ⟨lab.now, lab.data⟩) := by
  have hid : (existing.updateExistingRecord py lab.now lab.data).lab.id = existing.id :=
    (updateExistingRecord_effect py lab.now existing lab.data).id_eq
  unfold Discovery.processExisting LabRecord.rescanned
  dsimp only
  generalize existing.updateExistingRecord py lab.now lab.data = update at hid ⊢
  cases update.result with
  | error e => exact hfind
  | ok created =>
      have hsaved := d.db.find_save_self update.lab true
      rw [hid] at hsaved
      exact hsaved

/-! ## §7. A late scan. -/

/-- The library, as far as two dates go. -/
def datedPython : PythonLibrary where
  fromIsoFormat := fun raw =>
    if raw = "2026-03-01T12:00:00+00:00" then some 1772366400
    else if raw = "2026-03-02T12:00:00+00:00" then some 1772452800
    else none
  sha256 := plainPython.sha256

/-- A lab that was just discovered. -/
def discoveredLab : LabRecord where
  id := "lab-record-1"
  id_given := labRecord1_given
  labId := "lab-1"
  workerId := "worker-1"
  status := .discovered
  title := .str "Routing"
  state := .str "STOPPED"
  stateHistory := [⟨none, .discovered, 0, "system", some "Lab discovered on worker"⟩]

/-- A scan that says when the lab was modified and which state it is in. -/
def datedScan (now : Int) (modifiedAt state : String) : LabScan where
  now := now
  data := Dict.ofList [("id", .str "lab-1"), ("title", .str "Routing"), ("state", .str state),
    ("modified_at", .str modifiedAt)]

/-- A scan without a time takes the stored one away. -/
example :
    (replay (LabRecord.rescanned datedPython) discoveredLab
      [datedScan 1772460000 "2026-03-02T12:00:00+00:00" "STOPPED",
        ⟨1772460001, Dict.ofList [("id", .str "lab-1")]⟩]).modifiedAt = none := by
  decide +kernel

/-- The scan of the day before arrives late, and the lab is booted again. -/
theorem late_scan_boots_lab :
    ¬ ∀ (py : PythonLibrary) (lab : LabRecord) (scans : List LabScan), lab.Fresh py scans := by
  intro h
  have hfresh := h datedPython discoveredLab
    [datedScan 1772460000 "2026-03-02T12:00:00+00:00" "STOPPED",
      datedScan 1772460001 "2026-03-01T12:00:00+00:00" "BOOTED"]
  have hview := hfresh.stale [datedScan 1772460000 "2026-03-02T12:00:00+00:00" "STOPPED"] _ [] rfl
    ⟨1772366400, 1772452800, rfl, rfl, by decide⟩
  have hstatus := congrArg LabView.status hview
  revert hstatus
  decide +kernel

end CmlCloudManager.ControlPlane
