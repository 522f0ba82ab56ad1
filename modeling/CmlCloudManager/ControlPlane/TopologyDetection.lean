/-
  CmlCloudManager.ControlPlane.TopologyDetection
  ──────────────────────────────────────────────
  **WHETHER A SCAN NOTICES A NEW TOPOLOGY.**

  An entry of a scan can carry the topology of its lab as YAML.  A topology that
  differs from the one of the last revision should become a revision, one that does
  not should not, and the counts of the record should be those of the topology.

  The discovery passes the YAML on unread: the specification it checks has neither
  nodes nor links nor a version, so all of them have one checksum.  What the YAML
  describes is known to this development only (`read` stands for a reader of it),
  and `TopologyWatch` remembers what the last revision was made for.

  Main results:
    • `rescanned_yaml`           — the topology of a record after an entry with YAML,
    • `detected_iff`             — one entry is noticed for what it is iff it is safe,
    • `topology_detection_iff`   — and so is every entry of a sequence.
-/
import CmlCloudManager.ControlPlane.RevisionHistory
import CmlCloudManager.ControlPlane.TopologyChecksum

namespace CmlCloudManager.ControlPlane

open CmlCloudManager.Foundation CmlCloudManager.Pipeline

/-! ## §1. Entries with a topology. -/

/-- An entry of a scan that carries a YAML. -/
structure YamlScan extends LabScan where
  rawYaml : Value
  carried : discoveredYaml data = some rawYaml

/-- A record, and the topology its last revision was made for. -/
structure TopologyWatch where
  lab : LabRecord
  recorded : Option LabTopologySpec

section Detection

variable (read : Payload → LabTopologySpec) (py : PythonLibrary)

/-- A scan, and whether a revision was made for its topology. -/
def TopologyWatch.scanned (w : TopologyWatch) (scan : YamlScan) : TopologyWatch where
  lab := w.lab.rescanned py scan.toLabScan
  recorded :=
    if w.lab.revisionHistory.length < (w.lab.rescanned py scan.toLabScan).revisionHistory.length
    then some (read scan.data) else w.recorded

/-- The topology of the entry is the one of the last revision. -/
def TopologyWatch.Recorded (w : TopologyWatch) (scan : YamlScan) : Prop :=
  ∃ topology, w.recorded = some topology ∧ (read scan.data).Same topology

/-- **The entry is noticed for what it is**: one revision more for a new topology, none for the one
that is recorded, and the counts of what was received. -/
structure TopologyWatch.Detected (w w' : TopologyWatch) (scan : YamlScan) : Prop where
  changed : ¬ w.Recorded read scan → ∃ entry,
    w'.lab.revisionHistory = w.lab.revisionHistory ++ [entry]
      ∧ w'.lab.revision = w.lab.revision + 1
  unchanged : w.Recorded read scan →
    w'.lab.revisionHistory = w.lab.revisionHistory ∧ w'.lab.revision = w.lab.revision
  nodeCount : w'.lab.nodeCount = .int (read scan.data).nodeCount
  linkCount : w'.lab.linkCount = .int (read scan.data).linkCount

/-- The entry does not raise: its time and its state can be read. -/
def LabScan.Processed (scan : LabScan) : Prop :=
  (∃ modified, parseModifiedAt py scan.now scan.data = .ok modified)
    ∧ ∃ mapped, mappedStatus (scan.data.getD "state" (.str "")) = .ok mapped

/-- **When an entry is noticed for what it is**: it is the first that is processed, or its topology
is the one that is recorded; and it is empty, or, if the entry raises, has the stored counts. -/
structure TopologyWatch.DetectionSafe (w : TopologyWatch) (scan : YamlScan) : Prop where
  known : w.Recorded read scan ∨ w.recorded = none ∧ scan.Processed py
  empty : scan.Processed py → (read scan.data).nodes = [] ∧ (read scan.data).links = []
  counted : ¬ scan.Processed py →
    w.lab.nodeCount = .int (read scan.data).nodeCount
      ∧ w.lab.linkCount = .int (read scan.data).linkCount

end Detection

/-! ## §2. What an entry makes of the topology. -/

namespace LabRecord

variable {py : PythonLibrary} {lab : LabRecord} {scan : YamlScan}

/-- A synchronisation with a state that can be read goes through. -/
theorem updateFromCml_done {now : Int} {cml : CmlLab} {mapped : Option LabRecordStatus}
    (h : mappedStatus cml.state = .ok mapped) : (lab.updateFromCml now cml).result = .ok () := by
  cases hstale : lab.isStale cml.cmlModifiedAt with
  | true => rw [updateFromCml_stale hstale]
  | false =>
      have hsyncs := updateFromCml_fresh now cml hstale
      unfold Syncs at hsyncs
      rw [h] at hsyncs
      exact hsyncs.2

/-- An entry with YAML that is processed: in the end its topology is the YAML's. -/
theorem rescanned_yaml (hprocessed : scan.Processed py) :
    ∃ prior, Unrevised lab prior
      ∧ (lab.rescanned py scan.toLabScan).topology
        = (prior.updateTopology py scan.now { rawYaml := scan.rawYaml }
            (some "Discovery sync")).topology := by
  obtain ⟨⟨modified, hparsed⟩, mapped, hmapped⟩ := hprocessed
  have hlinked := Unrevised.of_topology
    (linkToDefinition_sameCml lab (scan.data.get "based_on_definition_id")).2
  have hsynced := hlinked.trans (updateFromCml_unrevised _ scan.now (.ofScan scan.data modified))
  have hdone : ((lab.linkToDefinition (scan.data.get "based_on_definition_id")).updateFromCml
      scan.now (.ofScan scan.data modified)).result = .ok () := updateFromCml_done hmapped
  unfold rescanned updateExistingRecord
  rw [hparsed]
  dsimp only
  unfold Attempt.andThen
  rw [hdone]
  generalize ((lab.linkToDefinition (scan.data.get "based_on_definition_id")).updateFromCml
    scan.now (.ofScan scan.data modified)).lab = synced at hsynced ⊢
  dsimp only
  unfold settleScan
  rw [hmapped]
  dsimp only
  have hstatus := Unrevised.of_topology (setMappedStatus_sameCml synced mapped).2
  have hnodes := applyTopologyFromDiscovery_unrevised (synced.setMappedStatus mapped) scan.data
  refine ⟨_, (hsynced.trans hstatus).trans hnodes, ?_⟩
  rw [(unorphan_sameCml _).2]
  unfold applyYaml
  rw [scan.carried]

/-- The entry is processed, or the record stays as it is. -/
theorem rescanned_unprocessed (h : ¬ scan.Processed py) :
    lab.rescanned py scan.toLabScan = lab := by
  refine rescanned_raised ?_
  cases hparsed : parseModifiedAt py scan.now scan.data with
  | error e => exact .inl ⟨e, rfl⟩
  | ok modified =>
      cases hmapped : mappedStatus (scan.data.getD "state" (.str "")) with
      | error e => exact .inr ⟨e, rfl⟩
      | ok mapped => exact absurd ⟨⟨modified, hparsed⟩, mapped, hmapped⟩ h

/-- The checksum of the last revision. -/
def lastChecksum (lab : LabRecord) : Option String :=
  lab.revisionHistory.getLast?.map LabRevision.topologyChecksum

/-- **What an entry with YAML makes of the record**: both counts are zero, and a revision was made
iff the last one is none of such an entry. -/
structure YamlApplied (py : PythonLibrary) (lab lab' : LabRecord) : Prop where
  nodeCount : lab'.nodeCount = .int 0
  linkCount : lab'.linkCount = .int 0
  last : lab'.lastChecksum = some (LabTopologySpec.checksum py {})
  kept : lab.lastChecksum = some (LabTopologySpec.checksum py {}) → Unrevised lab lab'
  made : lab.lastChecksum ≠ some (LabTopologySpec.checksum py {}) →
    ∃ entry, Appended lab lab' entry

theorem updateTopology_applied (py : PythonLibrary) (lab : LabRecord) (now : Int)
    (rawYaml : Value) (changeSummary : Option String) :
    YamlApplied py lab (lab.updateTopology py now { rawYaml := rawYaml } changeSummary) := by
  unfold updateTopology
  dsimp only
  split
  next hsame => exact ⟨rfl, rfl, hsame, fun _ => ⟨rfl, rfl⟩, fun hnew => absurd hsame hnew⟩
  next hnew =>
    refine ⟨rfl, rfl, ?_, fun hsame => absurd hsame hnew, fun _ => ⟨_, rfl, rfl, rfl, hnew⟩⟩
    unfold lastChecksum
    rw [List.getLast?_concat]
    rfl

/-- It only matters what revisions there were and which topology there is. -/
theorem YamlApplied.of_prior {prior updated lab' : LabRecord} (h : YamlApplied py prior updated)
    (hprior : Unrevised lab prior) (htopology : lab'.topology = updated.topology) :
    YamlApplied py lab lab' := by
  have hupdated : Unrevised updated lab' := .of_topology htopology
  have hlast : prior.lastChecksum = lab.lastChecksum := by
    unfold lastChecksum
    rw [hprior.history]
  refine ⟨?_, ?_, ?_, ?_, ?_⟩
  · exact (congrArg LabTopology.nodeCount htopology).trans h.nodeCount
  · exact (congrArg LabTopology.linkCount htopology).trans h.linkCount
  · unfold lastChecksum
    rw [hupdated.history]
    exact h.last
  · intro hsame
    exact (hprior.trans (h.kept (hlast.trans hsame))).trans hupdated
  · intro hnew
    obtain ⟨entry, hmade⟩ := h.made fun hsame => hnew (hlast.symm.trans hsame)
    refine ⟨entry, ?_, ?_, ?_, ?_⟩
    · rw [hupdated.history, hmade.history, hprior.history]
    · rw [hupdated.revision, hmade.revision, hprior.revision]
    · rw [hmade.number, hprior.revision]
    · rw [← hprior.history]
      exact hmade.changed

theorem rescanned_applied (lab : LabRecord) (h : scan.Processed py) :
    YamlApplied py lab (lab.rescanned py scan.toLabScan) := by
  obtain ⟨prior, hprior, htopology⟩ := @rescanned_yaml py lab scan h
  exact (updateTopology_applied ..).of_prior hprior htopology

end LabRecord

/-! ## §3. One entry. -/

namespace TopologyWatch

variable {read : Payload → LabTopologySpec} {py : PythonLibrary}

/-- **The invariant**: nothing was recorded and there is no revision, or the last revision is one of
an entry with YAML. -/
def Consistent (py : PythonLibrary) (w : TopologyWatch) : Prop :=
  w.recorded = none ∧ w.lab.revisionHistory = []
    ∨ w.recorded ≠ none ∧ w.lab.lastChecksum = some (LabTopologySpec.checksum py {})

theorem Consistent.lastChecksum_iff {w : TopologyWatch} (h : w.Consistent py) :
    w.lab.lastChecksum = some (LabTopologySpec.checksum py {}) ↔ w.recorded ≠ none := by
  rcases h with ⟨hnone, hempty⟩ | ⟨hsome, hlast⟩
  · refine iff_of_false ?_ fun hne => hne hnone
    unfold LabRecord.lastChecksum
    rw [hempty]
    intro h
    cases h
  · exact iff_of_true hlast hsome

/-- What is remembered after an entry that is processed. -/
theorem scanned_recorded {w : TopologyWatch} {scan : YamlScan} (hw : w.Consistent py)
    (h : scan.Processed py) :
    (w.scanned read py scan).recorded
      = if w.recorded = none then some (read scan.data) else w.recorded := by
  have happlied := w.lab.rescanned_applied h
  show (if _ < _ then some (read scan.data) else w.recorded) = _
  by_cases hnone : w.recorded = none
  · obtain ⟨entry, hmade⟩ := happlied.made fun hsame => hw.lastChecksum_iff.mp hsame hnone
    rw [if_pos hnone, hmade.history, List.length_append]
    exact if_pos (Nat.lt_succ_self _)
  · have hkept := happlied.kept (hw.lastChecksum_iff.mpr hnone)
    rw [if_neg hnone, hkept.history]
    exact if_neg (Nat.lt_irrefl _)

theorem scanned_unprocessed {w : TopologyWatch} {scan : YamlScan} (h : ¬ scan.Processed py) :
    w.scanned read py scan = w := by
  unfold scanned
  rw [LabRecord.rescanned_unprocessed h, if_neg (Nat.lt_irrefl _)]

theorem Consistent.scanned {w : TopologyWatch} (hw : w.Consistent py) (scan : YamlScan) :
    (w.scanned read py scan).Consistent py := by
  by_cases h : scan.Processed py
  · refine .inr ⟨?_, (w.lab.rescanned_applied h).last⟩
    rw [scanned_recorded hw h]
    split
    next => exact Option.some_ne_none _
    next hsome => exact hsome
  · rw [scanned_unprocessed h]
    exact hw

/-- The counts of an empty topology. -/
theorem counts_zero_iff (topology : LabTopologySpec) :
    (Value.int 0 = .int topology.nodeCount ∧ Value.int 0 = .int topology.linkCount)
      ↔ topology.nodes = [] ∧ topology.links = [] := by
  unfold LabTopologySpec.nodeCount LabTopologySpec.linkCount
  rw [Value.int.injEq, Value.int.injEq, ← List.length_eq_zero_iff, ← List.length_eq_zero_iff]
  omega

/-- **The step lemma**: an entry is noticed for what it is iff it is safe. -/
theorem detected_iff {w : TopologyWatch} (hw : w.Consistent py) (scan : YamlScan) :
    w.Detected read (w.scanned read py scan) scan ↔ w.DetectionSafe read py scan := by
  by_cases h : scan.Processed py
  · have happlied := w.lab.rescanned_applied h
    constructor
    · intro hdetected
      refine ⟨?_, fun _ => ?_, fun hraised => absurd h hraised⟩
      · by_cases hnone : w.recorded = none
        · exact .inr ⟨hnone, h⟩
        · -- no revision is made, so the topology is one that was recorded
          by_contra hunknown
          have hkept := happlied.kept (hw.lastChecksum_iff.mpr hnone)
          obtain ⟨entry, hentry, -⟩ := hdetected.changed fun hrecorded => hunknown (.inl hrecorded)
          have hlength := congrArg List.length (hkept.history.symm.trans hentry)
          rw [List.length_append] at hlength
          exact absurd hlength (by simp)
      · exact (counts_zero_iff _).mp ⟨happlied.nodeCount.symm.trans hdetected.nodeCount,
          happlied.linkCount.symm.trans hdetected.linkCount⟩
    · intro hsafe
      obtain ⟨hnodes, hlinks⟩ := (counts_zero_iff _).mpr (hsafe.empty h)
      refine ⟨fun hunknown => ?_, fun hrecorded => ?_, happlied.nodeCount.trans hnodes,
        happlied.linkCount.trans hlinks⟩
      · obtain ⟨hnone, -⟩ := hsafe.known.resolve_left hunknown
        obtain ⟨entry, hmade⟩ := happlied.made fun hsame => hw.lastChecksum_iff.mp hsame hnone
        exact ⟨entry, hmade.history, hmade.revision⟩
      · obtain ⟨topology, hsome, -⟩ := hrecorded
        have hkept := happlied.kept (hw.lastChecksum_iff.mpr (by
          rw [hsome]
          exact Option.some_ne_none _))
        exact ⟨hkept.history, hkept.revision⟩
  · rw [scanned_unprocessed h]
    constructor
    · intro hdetected
      refine ⟨.inl ?_, fun hprocessed => absurd hprocessed h,
        fun _ => ⟨hdetected.nodeCount, hdetected.linkCount⟩⟩
      by_contra hunknown
      obtain ⟨entry, hentry, -⟩ := hdetected.changed hunknown
      have hlength := congrArg List.length hentry
      rw [List.length_append] at hlength
      exact absurd hlength (by simp)
    · intro hsafe
      have hrecorded := hsafe.known.resolve_right fun hfirst => h hfirst.2
      exact ⟨fun hunknown => absurd hrecorded hunknown, fun _ => ⟨rfl, rfl⟩,
        (hsafe.counted h).1, (hsafe.counted h).2⟩

end TopologyWatch

/-! ## §4. Any sequence of entries. -/

/-- A record that was just made, with nothing recorded. -/
def watched (lab : LabRecord) : TopologyWatch where
  lab := lab
  recorded := none

/-- **Topology change detection**: every entry that a record gets is noticed for what it is iff each
of them is safe where it comes. -/
theorem topology_detection_iff (read : Payload → LabTopologySpec) (py : PythonLibrary)
    (lab : LabRecord) (hcreated : lab.Created) (scans : List YamlScan) :
    (∀ before scan after, scans = before ++ scan :: after →
        (replay (TopologyWatch.scanned read py) (watched lab) before).Detected read
          (replay (TopologyWatch.scanned read py) (watched lab) (before ++ [scan])) scan)
      ↔ Meets (TopologyWatch.scanned read py) (TopologyWatch.DetectionSafe read py) (watched lab)
          scans := by
  have hconsistent : (watched lab).Consistent py := .inl ⟨rfl, hcreated.blank.revisionHistory⟩
  have hcongr := @meets_congr _ _ (TopologyWatch.scanned read py)
    (fun w scan => w.Detected read (w.scanned read py scan) scan)
    (TopologyWatch.DetectionSafe read py) (TopologyWatch.Consistent py)
    (fun w scan hw => hw.scanned scan) (fun w scan hw => TopologyWatch.detected_iff hw scan) scans
    (watched lab) hconsistent
  rw [← hcongr, meets_iff]
  simp only [replay_snoc]

/-! ## §5. A lab with a new router. -/

/-- An entry that carries a YAML text. -/
def yamlScan (now : Int) (text : String) (h : discoveredYaml (Dict.ofList [("id", .str "lab-1"),
    ("state", .str "STOPPED"), ("topology_yaml", .str text)]) = some (.str text)) : YamlScan where
  now := now
  data := Dict.ofList [("id", .str "lab-1"), ("state", .str "STOPPED"),
    ("topology_yaml", .str text)]
  rawYaml := .str text
  carried := h

/-- A reader of three texts. -/
def readYaml (data : Payload) : LabTopologySpec :=
  match data.get "topology_yaml" with
  | .str "nodes: [r1]" => untaggedLab [("r1", "iosv")]
  | .str "nodes: [r1, r2]" => untaggedLab [("r1", "iosv"), ("r2", "iosv")]
  | _ => {}

/-- Two entries, the second of which has one router more. -/
def routerAdded : List YamlScan :=
  [yamlScan 1 "nodes: [r1]" (by rfl), yamlScan 2 "nodes: [r1, r2]" (by rfl)]

/-- The new router makes no revision. -/
theorem new_router_unnoticed :
    ¬ ∀ (read : Payload → LabTopologySpec) (py : PythonLibrary) (lab : LabRecord), lab.Created →
      ∀ scans : List YamlScan, ∀ before scan after, scans = before ++ scan :: after →
        (replay (TopologyWatch.scanned read py) (watched lab) before).Detected read
          (replay (TopologyWatch.scanned read py) (watched lab) (before ++ [scan])) scan := by
  intro h
  have hdetected := h readYaml plainPython LabRecord.foundLab LabRecord.foundLab_created routerAdded
    [yamlScan 1 "nodes: [r1]" (by rfl)] _ [] rfl
  have hunknown : ¬ TopologyWatch.Recorded readYaml
      (replay (TopologyWatch.scanned readYaml plainPython) (watched LabRecord.foundLab)
        [yamlScan 1 "nodes: [r1]" (by rfl)]) (yamlScan 2 "nodes: [r1, r2]" (by rfl)) := by
    rintro ⟨topology, hrecorded, hsame⟩
    have hfirst : some topology = some (untaggedLab [("r1", "iosv")]) := hrecorded.symm.trans rfl
    obtain rfl := Option.some.inj hfirst
    exact absurd hsame.nodes.length_eq (by decide)
  obtain ⟨entry, hentry, hrevision⟩ := hdetected.changed hunknown
  revert hrevision
  decide +kernel

/-- An entry whose YAML describes an empty lab. -/
def emptyScan (now : Int) : YamlScan := yamlScan now "nodes: []" (by rfl)

/-- The second entry of an empty lab makes no revision. -/
theorem empty_lab_noticed :
    (replay (TopologyWatch.scanned readYaml plainPython) (watched LabRecord.foundLab)
        [emptyScan 1]).Detected readYaml
      (replay (TopologyWatch.scanned readYaml plainPython) (watched LabRecord.foundLab)
        ([emptyScan 1] ++ [emptyScan 2])) (emptyScan 2) := by
  have hprocessed : ∀ now, (emptyScan now).Processed plainPython := fun now =>
    ⟨⟨none, rfl⟩, some .stopped, rfl⟩
  have hfirst : TopologyWatch.DetectionSafe readYaml plainPython (watched LabRecord.foundLab)
      (emptyScan 1) :=
    ⟨.inr ⟨rfl, hprocessed 1⟩, fun _ => ⟨rfl, rfl⟩, fun h => absurd (hprocessed 1) h⟩
  have hsecond : TopologyWatch.DetectionSafe readYaml plainPython
      ((watched LabRecord.foundLab).scanned readYaml plainPython (emptyScan 1)) (emptyScan 2) :=
    ⟨.inl ⟨{}, rfl, ⟨rfl, List.Perm.refl _, List.Perm.refl _⟩⟩, fun _ => ⟨rfl, rfl⟩,
      fun h => absurd (hprocessed 2) h⟩
  exact (topology_detection_iff readYaml plainPython LabRecord.foundLab LabRecord.foundLab_created
    [emptyScan 1, emptyScan 2]).mpr ⟨hfirst, hsecond, trivial⟩ [emptyScan 1] (emptyScan 2) [] rfl

end CmlCloudManager.ControlPlane
