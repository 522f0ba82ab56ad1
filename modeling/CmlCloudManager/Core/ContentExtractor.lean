/-
  CmlCloudManager.Core.ContentExtractor
  ─────────────────────────────────────
  **WHAT IS EXTRACTED FROM A CONTENT PACKAGE.**

  `ContentExtractor` reads the `PAv1/` tree of a zip into typed fields.  The YAML files of
  five directories become the entries of one dictionary each, under their stems: the name
  without its directories and its suffix.  Two files of one stem share an entry, and the
  later one has it.

    • `loadMembers_eq_ok_iff` — the members of a directory, one assignment each,
    • `extractSync_eq_ok_iff` — the packages that are extracted, and what they give,
    • `extraction_lossless_iff` — every document that is not empty has an entry of its own
                                iff no other document of its directory and stem follows it.

  The copy of the tree on disk, which no field depends on, is left out.
-/
import CmlCloudManager.Core.PodType
import CmlCloudManager.Foundation.Fallible
import CmlCloudManager.Foundation.Overwriting

namespace CmlCloudManager.Core.ContentExtractor

open CmlCloudManager.Foundation
open CmlCloudManager.Pipeline

/-! ## §1. The package and its members. -/

/-- A `dict[str, Any]` as it was read. -/
abbrev Mapping : Type := List (String × Value)

/-- An opened zip: its names, in order, and what the documents under a name read as, or the
text of the error. -/
structure Archive where
  namelist : List String
  yaml : String → Except String Value
  json : String → Except String Value

/-- `PAv1ValidationError`. -/
structure PAv1ValidationError where
  path : String
  errors : List String
  deriving DecidableEq

/-- `_MANIFEST_MEMBER`. -/
def manifestMember : String := "PAv1/manifest.yaml"

/-- `_LIFECYCLE_MEMBER`. -/
def lifecycleMember : String := "PAv1/lifecycle.yaml"

/-- The directories whose YAML files become entries. -/
inductive Subtree where
  | topology
  | scenarios
  | grading
  | reports
  | restore
  deriving DecidableEq

/-- `_TOPOLOGY_PREFIX` and its siblings. -/
def Subtree.directory : Subtree → String
  | .topology => "PAv1/topology/"
  | .scenarios => "PAv1/scenarios/"
  | .grading => "PAv1/grading/"
  | .reports => "PAv1/reports/"
  | .restore => "PAv1/restore/"

/-- `value.startswith(start)`. -/
def startsWith (value start : String) : Bool := start.toList.isPrefixOf value.toList

/-- `value.endswith(suffix)`. -/
def endsWith (value suffix : List Char) : Bool := suffix.isSuffixOf value

/-- `member.rsplit("/", 1)[-1]`. -/
def fileName (member : List Char) : List Char := (member.reverse.takeWhile (· ≠ '/')).reverse

/-- `_stem`. -/
def stem (member : String) : String :=
  let name := fileName member.toList
  match [".yaml", ".yml", ".json"].find? fun suffix => endsWith name suffix.toList with
  | some suffix => String.ofList (name.take (name.length - suffix.toList.length))
  | none => String.ofList name

/-- The member is one of the directory's YAML files. -/
def isYamlMember (directory member : String) : Bool :=
  startsWith member directory
    && (endsWith member.toList ".yaml".toList || endsWith member.toList ".yml".toList)

/-! ## §2. The loaders. -/

/-- `isinstance(data, dict)`, or the error that names what the data is. -/
def requireObject (path : String) : Value → Except PAv1ValidationError Mapping
  | .dict kvs => .ok kvs
  | data => .error ⟨path, ["<root>: expected an object, got " ++ data.typeName]⟩

namespace Archive

variable (archive : Archive)

/-- `_load_yaml`. -/
def loadYaml (path : String) : Except PAv1ValidationError Value :=
  match archive.yaml path with
  | .ok data => .ok data
  | .error text => .error ⟨path, ["<root>: invalid YAML: " ++ text]⟩

/-- `_load_json`. -/
def loadJson (path : String) : Except PAv1ValidationError Value :=
  match archive.json path with
  | .ok data => .ok data
  | .error text => .error ⟨path, ["<root>: invalid JSON: " ++ text]⟩

/-- The package as the detector sees it. -/
def package : Package where
  has := archive.namelist.contains
  yaml path := (archive.yaml path).toOption

/-- `_safe_detect`. -/
def safeDetect : Option PodType :=
  match detect archive.package with
  | .ok (podType, _) => some podType
  | .error _ => none

/-- `_load_manifest`. -/
def loadManifest (detectedPodType : Option PodType) : Except PAv1ValidationError Mapping :=
  if manifestMember ∉ archive.namelist then
    let hint := match detectedPodType with
      | some podType => "detected_pod_type=" ++ podType.value
      | none => "detected_pod_type=unknown"
    .error ⟨manifestMember, ["<root>: required manifest.yaml is missing (" ++ hint ++ ")"]⟩
  else do
    let data ← archive.loadYaml manifestMember
    requireObject manifestMember data

/-- The loop of `_load_topology` and `_load_mapping_dir`. -/
def loadMembers (directory : String) :
    List String → Dict String Mapping → Except PAv1ValidationError (Dict String Mapping)
  | [], out => .ok out
  | member :: rest, out =>
      if isYamlMember directory member then
        match archive.loadYaml member with
        | .error e => .error e
        -- an empty document
        | .ok .none => loadMembers directory rest out
        | .ok data =>
            match requireObject member data with
            | .error e => .error e
            | .ok kvs => loadMembers directory rest (out.set (stem member) kvs)
      else loadMembers directory rest out

/-- `_load_mapping_dir`: `out or None`. -/
def loadMappingDir (tree : Subtree) : Except PAv1ValidationError (Option (Dict String Mapping)) :=
  match archive.loadMembers tree.directory archive.namelist .empty with
  | .ok out => .ok (if out.isEmpty then none else some out)
  | .error e => .error e

/-- `_load_topology`, which does the same. -/
def loadTopology : Except PAv1ValidationError (Option (Dict String Mapping)) :=
  archive.loadMappingDir .topology

/-- The places of `_load_devices`, in their order. -/
def deviceCandidates : List String := ["PAv1/topology/devices.json", "PAv1/devices.json"]

/-- `_load_devices`. -/
def loadDevices : Except PAv1ValidationError (Option (List Value)) :=
  match deviceCandidates.find? archive.namelist.contains with
  | none => .ok none
  | some candidate =>
      match archive.loadJson candidate with
      | .error e => .error e
      | .ok (.list items) => .ok (some items)
      | .ok data => .error ⟨candidate, ["<root>: expected an array, got " ++ data.typeName]⟩

/-- `_load_lifecycle`: the phases, if the document has such a mapping. -/
def loadLifecycle : Except PAv1ValidationError (Option Mapping) :=
  if lifecycleMember ∉ archive.namelist then .ok none
  else
    match archive.loadYaml lifecycleMember with
    | .error e => .error e
    | .ok .none => .ok none
    | .ok data =>
        match requireObject lifecycleMember data with
        | .error e => .error e
        | .ok kvs =>
            match Dict.lookup "phases" kvs with
            | some (.dict phases) => .ok (some phases)
            | _ => .ok (some kvs)

end Archive

/-- `ExtractedContent`. -/
structure ExtractedContent where
  manifest : Mapping := []
  topology : Option (Dict String Mapping) := none
  devices : Option (List Value) := none
  lifecyclePhases : Option Mapping := none
  scenarios : Option (Dict String Mapping) := none
  gradingRules : Option (Dict String Mapping) := none
  reports : Option (Dict String Mapping) := none
  restoreRules : Option (Dict String Mapping) := none
  contentHash : Option String := none
  localPath : Option String := none
  detectedPodType : Option PodType := none

/-- The field that belongs to a directory. -/
def ExtractedContent.field (content : ExtractedContent) :
    Subtree → Option (Dict String Mapping)
  | .topology => content.topology
  | .scenarios => content.scenarios
  | .grading => content.gradingRules
  | .reports => content.reports
  | .restore => content.restoreRules

/-- `_extract_sync`. -/
def Archive.extractSync (archive : Archive) (targetDir : String) :
    Except PAv1ValidationError ExtractedContent := do
  let detectedPodType := archive.safeDetect
  let manifest ← archive.loadManifest detectedPodType
  let topology ← archive.loadTopology
  let devices ← archive.loadDevices
  let lifecyclePhases ← archive.loadLifecycle
  let scenarios ← archive.loadMappingDir .scenarios
  let gradingRules ← archive.loadMappingDir .grading
  let reports ← archive.loadMappingDir .reports
  let restoreRules ← archive.loadMappingDir .restore
  .ok
    { manifest, topology, devices, lifecyclePhases, scenarios, gradingRules, reports, restoreRules
      localPath := some targetDir
      detectedPodType }

/-! ## §3. The packages that are extracted. -/

namespace Archive

/-- What the member reads as is empty, or a mapping. -/
def Readable (archive : Archive) (member : String) : Prop :=
  archive.yaml member = .ok .none ∨ ∃ kvs, archive.yaml member = .ok (.dict kvs)

/-- The mapping that a member reads as. -/
def mapping? (archive : Archive) (member : String) : Option Mapping :=
  match archive.yaml member with
  | .ok (.dict kvs) => some kvs
  | _ => none

/-- Those of the members that are YAML files of the directory and read as mappings. -/
def mappingsOf (archive : Archive) (directory : String) (members : List String) :
    List (String × Mapping) :=
  (members.filter (isYamlMember directory)).filterMap fun member =>
    (archive.mapping? member).map fun kvs => (member, kvs)

/-- The mappings of a directory, in the order of the package. -/
def mappingMembers (archive : Archive) (tree : Subtree) : List (String × Mapping) :=
  archive.mappingsOf tree.directory archive.namelist

/-- The package has what extraction insists on. -/
structure Extractable (archive : Archive) : Prop where
  manifest : manifestMember ∈ archive.namelist
    ∧ ∃ kvs, archive.yaml manifestMember = .ok (.dict kvs)
  devices : ∀ candidate ∈ deviceCandidates.find? archive.namelist.contains,
    ∃ items, archive.json candidate = .ok (.list items)
  lifecycle : lifecycleMember ∈ archive.namelist → archive.Readable lifecycleMember
  members : ∀ tree : Subtree, ∀ member ∈ archive.namelist,
    isYamlMember tree.directory member = true → archive.Readable member

/-! ## §4. One loader after the other. -/

variable {archive : Archive}

theorem loadYaml_eq_ok_iff {path : String} {data : Value} :
    archive.loadYaml path = .ok data ↔ archive.yaml path = .ok data := by
  unfold loadYaml
  cases archive.yaml path with
  | ok data' => rw [Except.ok.injEq, Except.ok.injEq]
  | error text => exact iff_of_false (by simp) (by simp)

theorem exists_loadYaml_eq_error {path text : String} (h : archive.yaml path = .error text) :
    ∃ e, archive.loadYaml path = .error e := by
  unfold loadYaml
  rw [h]
  exact ⟨_, rfl⟩

theorem requireObject_eq_ok_iff {path : String} {data : Value} {kvs : Mapping} :
    requireObject path data = .ok kvs ↔ data = .dict kvs := by
  cases data <;> simp [requireObject]

theorem mappingsOf_cons_of_not {directory member : String} {rest : List String}
    (h : isYamlMember directory member = false) :
    archive.mappingsOf directory (member :: rest) = archive.mappingsOf directory rest := by
  unfold mappingsOf
  rw [List.filter_cons_of_neg (by simp [h])]

theorem mappingsOf_cons {directory member : String} {rest : List String}
    (h : isYamlMember directory member = true) :
    archive.mappingsOf directory (member :: rest)
      = ((archive.mapping? member).map fun kvs => (member, kvs)).toList
          ++ archive.mappingsOf directory rest := by
  unfold mappingsOf
  rw [List.filter_cons_of_pos h, List.filterMap_cons]
  cases archive.mapping? member <;> rfl

/-- The entry that a mapping is stored as. -/
def entry (member : String × Mapping) : String × Mapping := (stem member.1, member.2)

section Turn

variable {directory member : String} {rest : List String} {out : Dict String Mapping}

theorem loadMembers_skip (h : isYamlMember directory member = false) :
    archive.loadMembers directory (member :: rest) out
      = archive.loadMembers directory rest out := by
  rw [loadMembers, h]
  rfl

theorem loadMembers_empty (h : isYamlMember directory member = true)
    (hread : archive.yaml member = .ok .none) :
    archive.loadMembers directory (member :: rest) out
      = archive.loadMembers directory rest out := by
  rw [loadMembers, h, loadYaml_eq_ok_iff.mpr hread]
  rfl

theorem loadMembers_mapping (h : isYamlMember directory member = true) {kvs : Mapping}
    (hread : archive.yaml member = .ok (.dict kvs)) :
    archive.loadMembers directory (member :: rest) out
      = archive.loadMembers directory rest (out.set (stem member) kvs) := by
  rw [loadMembers, h, loadYaml_eq_ok_iff.mpr hread]
  rfl

theorem loadMembers_unreadable (h : isYamlMember directory member = true)
    (hread : ¬ archive.Readable member) :
    ∃ e, archive.loadMembers directory (member :: rest) out = .error e := by
  rw [loadMembers, h]
  cases hyaml : archive.yaml member with
  | error text =>
      obtain ⟨e, he⟩ := exists_loadYaml_eq_error hyaml
      rw [he]
      exact ⟨e, rfl⟩
  | ok data =>
      rw [loadYaml_eq_ok_iff.mpr hyaml]
      cases data with
      | none => exact absurd (.inl hyaml) hread
      | dict kvs => exact absurd (.inr ⟨kvs, hyaml⟩) hread
      | bool b => exact ⟨_, rfl⟩
      | int n => exact ⟨_, rfl⟩
      | str s => exact ⟨_, rfl⟩
      | list xs => exact ⟨_, rfl⟩

theorem mapping?_empty (hread : archive.yaml member = .ok .none) :
    archive.mapping? member = none := by
  unfold mapping?
  rw [hread]

theorem mapping?_mapping {kvs : Mapping} (hread : archive.yaml member = .ok (.dict kvs)) :
    archive.mapping? member = some kvs := by
  unfold mapping?
  rw [hread]

end Turn

/-- **The loop over a directory**: it comes to its end if each of the YAML files is
readable, with one assignment for each that is a mapping. -/
theorem loadMembers_eq_ok_iff (directory : String) (members : List String)
    (out out' : Dict String Mapping) :
    archive.loadMembers directory members out = .ok out'
      ↔ (∀ member ∈ members, isYamlMember directory member = true → archive.Readable member)
        ∧ out' = ((archive.mappingsOf directory members).map entry).foldl
            (fun acc kv => acc.set kv.1 kv.2) out := by
  induction members generalizing out with
  | nil =>
      rw [loadMembers, Except.ok.injEq]
      constructor
      · rintro rfl
        exact ⟨fun member hmem => absurd hmem List.not_mem_nil, rfl⟩
      · rintro ⟨-, h⟩
        exact h.symm
  | cons member rest ih =>
      rw [List.forall_mem_cons]
      cases hyaml : isYamlMember directory member with
      | false =>
          rw [loadMembers_skip hyaml, ih, mappingsOf_cons_of_not hyaml]
          simp
      | true =>
          rw [mappingsOf_cons hyaml]
          by_cases hread : archive.Readable member
          · have hhead : (true = true → archive.Readable member) := fun _ => hread
            rw [and_iff_right hhead]
            rcases hread with hempty | ⟨kvs, hmapping⟩
            · rw [loadMembers_empty hyaml hempty, ih, mapping?_empty hempty]
              rfl
            · rw [loadMembers_mapping hyaml hmapping, ih, mapping?_mapping hmapping]
              rfl
          · obtain ⟨e, he⟩ := @loadMembers_unreadable archive directory member rest out hyaml hread
            rw [he]
            exact iff_of_false (by simp) fun h => hread (h.1.1 rfl)

theorem exists_loadMappingDir_iff {tree : Subtree} :
    (∃ field, archive.loadMappingDir tree = .ok field)
      ↔ ∀ member ∈ archive.namelist, isYamlMember tree.directory member = true →
          archive.Readable member := by
  unfold loadMappingDir
  constructor
  · rintro ⟨field, h⟩
    cases hout : archive.loadMembers tree.directory archive.namelist .empty with
    | error e =>
        rw [hout] at h
        cases h
    | ok out => exact ((loadMembers_eq_ok_iff _ _ _ _).mp hout).1
  · intro h
    rw [(loadMembers_eq_ok_iff _ _ _ _).mpr ⟨h, rfl⟩]
    exact ⟨_, rfl⟩

/-- **The entries of a directory**: one assignment for each mapping, in order. -/
theorem loadMappingDir_eq_ok {tree : Subtree} {field : Option (Dict String Mapping)}
    (h : archive.loadMappingDir tree = .ok field) :
    field.getD .empty = Dict.ofList ((archive.mappingMembers tree).map entry) := by
  unfold loadMappingDir at h
  cases hout : archive.loadMembers tree.directory archive.namelist .empty with
  | error e =>
      rw [hout] at h
      cases h
  | ok out =>
      rw [hout] at h
      cases h
      refine Eq.trans ?_ ((loadMembers_eq_ok_iff _ _ _ _).mp hout).2
      -- an empty dictionary comes back as nothing
      cases hempty : out.isEmpty with
      | true => exact (Dict.eq_empty_of_isEmpty hempty).symm
      | false => rfl

theorem exists_loadManifest_iff {detectedPodType : Option PodType} :
    (∃ manifest, archive.loadManifest detectedPodType = .ok manifest)
      ↔ manifestMember ∈ archive.namelist
        ∧ ∃ kvs, archive.yaml manifestMember = .ok (.dict kvs) := by
  unfold loadManifest
  by_cases hmember : manifestMember ∈ archive.namelist
  · rw [if_neg (not_not.mpr hmember), and_iff_right hmember]
    refine exists_congr fun manifest => ?_
    rw [bind_ok_iff]
    constructor
    · rintro ⟨data, hdata, hobject⟩
      rw [requireObject_eq_ok_iff.mp hobject] at hdata
      exact loadYaml_eq_ok_iff.mp hdata
    · intro h
      exact ⟨_, loadYaml_eq_ok_iff.mpr h, rfl⟩
  · rw [if_pos hmember]
    refine iff_of_false ?_ fun h => hmember h.1
    rintro ⟨manifest, h⟩
    cases h

theorem exists_loadDevices_iff :
    (∃ devices, archive.loadDevices = .ok devices)
      ↔ ∀ candidate ∈ deviceCandidates.find? archive.namelist.contains,
          ∃ items, archive.json candidate = .ok (.list items) := by
  unfold loadDevices
  cases deviceCandidates.find? archive.namelist.contains with
  | none => exact iff_of_true ⟨none, rfl⟩ (by simp)
  | some candidate =>
      simp only [Option.mem_some_iff, forall_eq']
      unfold loadJson
      cases archive.json candidate with
      | error text => exact iff_of_false (by simp) (by simp)
      | ok data =>
          cases data with
          | list items => exact iff_of_true ⟨_, rfl⟩ ⟨items, rfl⟩
          | none => exact iff_of_false (by simp) (by simp)
          | bool b => exact iff_of_false (by simp) (by simp)
          | int n => exact iff_of_false (by simp) (by simp)
          | str s => exact iff_of_false (by simp) (by simp)
          | dict kvs => exact iff_of_false (by simp) (by simp)

theorem exists_loadLifecycle_iff :
    (∃ phases, archive.loadLifecycle = .ok phases)
      ↔ (lifecycleMember ∈ archive.namelist → archive.Readable lifecycleMember) := by
  unfold loadLifecycle
  by_cases hmember : lifecycleMember ∈ archive.namelist
  · rw [if_neg (not_not.mpr hmember), forall_prop_of_true hmember]
    unfold Readable loadYaml
    cases archive.yaml lifecycleMember with
    | error text => exact iff_of_false (by simp) (by simp)
    | ok data =>
        cases data with
        | none => exact iff_of_true ⟨none, rfl⟩ (.inl rfl)
        | dict kvs =>
            refine iff_of_true ?_ (.inr ⟨kvs, rfl⟩)
            dsimp only [requireObject]
            split <;> exact ⟨_, rfl⟩
        | bool b => exact iff_of_false (by simp [requireObject]) (by simp)
        | int n => exact iff_of_false (by simp [requireObject]) (by simp)
        | str s => exact iff_of_false (by simp [requireObject]) (by simp)
        | list xs => exact iff_of_false (by simp [requireObject]) (by simp)
  · rw [if_pos hmember]
    exact iff_of_true ⟨none, rfl⟩ fun h => absurd h hmember

/-! ## §5. The extraction. -/

/-- **The packages that are extracted.** -/
theorem exists_extractSync_iff {targetDir : String} :
    (∃ content, archive.extractSync targetDir = .ok content) ↔ archive.Extractable := by
  unfold extractSync
  refine (exists_bind_ok_iff fun _ _ => exists_bind_ok_iff fun _ _ => exists_bind_ok_iff fun _ _ =>
    exists_bind_ok_iff fun _ _ => exists_bind_ok_iff fun _ _ => exists_bind_ok_iff fun _ _ =>
    exists_bind_ok_iff fun _ _ => exists_bind_ok_iff fun _ _ =>
      iff_true_intro ⟨_, rfl⟩).trans ?_
  unfold loadTopology
  rw [exists_loadManifest_iff, exists_loadDevices_iff, exists_loadLifecycle_iff]
  simp only [exists_loadMappingDir_iff]
  constructor
  · rintro ⟨hmanifest, htopology, hdevices, hlifecycle, hscenarios, hgrading, hreports, hrestore, -⟩
    refine ⟨hmanifest, hdevices, hlifecycle, fun tree => ?_⟩
    cases tree with
    | topology => exact htopology
    | scenarios => exact hscenarios
    | grading => exact hgrading
    | reports => exact hreports
    | restore => exact hrestore
  · intro h
    exact ⟨h.manifest, h.members .topology, h.devices, h.lifecycle, h.members .scenarios,
      h.members .grading, h.members .reports, h.members .restore, trivial⟩

/-- Each directory is loaded into its field. -/
theorem loadMappingDir_of_extractSync {targetDir : String} {content : ExtractedContent}
    (h : archive.extractSync targetDir = .ok content) (tree : Subtree) :
    archive.loadMappingDir tree = .ok (content.field tree) := by
  unfold extractSync at h
  obtain ⟨manifest, -, h⟩ := bind_ok_iff.mp h
  obtain ⟨topology, htopology, h⟩ := bind_ok_iff.mp h
  obtain ⟨devices, -, h⟩ := bind_ok_iff.mp h
  obtain ⟨lifecyclePhases, -, h⟩ := bind_ok_iff.mp h
  obtain ⟨scenarios, hscenarios, h⟩ := bind_ok_iff.mp h
  obtain ⟨gradingRules, hgrading, h⟩ := bind_ok_iff.mp h
  obtain ⟨reports, hreports, h⟩ := bind_ok_iff.mp h
  obtain ⟨restoreRules, hrestore, h⟩ := bind_ok_iff.mp h
  cases h
  cases tree with
  | topology => exact htopology
  | scenarios => exact hscenarios
  | grading => exact hgrading
  | reports => exact hreports
  | restore => exact hrestore

end Archive

/-! ## §6. What extraction loses. -/

/-- The mapping has something in it. -/
def nonEmpty (kvs : Mapping) : Bool := !kvs.isEmpty

/-- The documents of a directory that are mappings with something in them, in order. -/
def Archive.documents (archive : Archive) (tree : Subtree) : List Mapping :=
  ((archive.mappingMembers tree).map Prod.snd).filter nonEmpty

/-- The entries of a directory; a field that is not set has none. -/
def ExtractedContent.entries (content : ExtractedContent) (tree : Subtree) :
    Dict String Mapping :=
  (content.field tree).getD .empty

/-- **Nothing is lost**: the entries that are not empty are the documents, one for one. -/
def KeepsDocuments (archive : Archive) (content : ExtractedContent) : Prop :=
  ∀ tree, ((content.entries tree).values.filter nonEmpty).Perm (archive.documents tree)

/-- The same, where an entry for an empty mapping counts as well. -/
def EntriesAreDocuments (archive : Archive) (content : ExtractedContent) : Prop :=
  ∀ tree, (content.entries tree).values.Perm (archive.documents tree)

/-- No mapping of a directory follows a document that has its stem. -/
def StemsApart (archive : Archive) (tree : Subtree) : Prop :=
  (archive.mappingMembers tree).Pairwise fun m m' =>
    nonEmpty m.2 = true → stem m.1 ≠ stem m'.1

/-- Every empty mapping of a directory is followed by a mapping that has its stem. -/
def EmptyReplaced (archive : Archive) (tree : Subtree) : Prop :=
  ∀ before m after, archive.mappingMembers tree = before ++ m :: after →
    nonEmpty m.2 = false → ∃ m' ∈ after, stem m'.1 = stem m.1

section Assignments

variable {archive : Archive} {tree : Subtree}

theorem notOverwritten_entries_iff :
    Dict.NotOverwritten nonEmpty ((archive.mappingMembers tree).map Archive.entry)
      ↔ StemsApart archive tree :=
  List.pairwise_map

theorem restOverwritten_entries_iff :
    Dict.RestOverwritten nonEmpty ((archive.mappingMembers tree).map Archive.entry)
      ↔ EmptyReplaced archive tree := by
  constructor
  · intro h before m after hsplit hempty
    have hmem := h (before.map Archive.entry) (Archive.entry m) (after.map Archive.entry)
      (by rw [hsplit, List.map_append, List.map_cons]) hempty
    rw [List.map_map] at hmem
    exact List.mem_map.mp hmem
  · intro h before a after hsplit hempty
    obtain ⟨before, tail, hmembers, rfl, htail⟩ := List.map_eq_append_iff.mp hsplit
    obtain ⟨m, after, rfl, rfl, rfl⟩ := List.map_eq_cons_iff.mp htail
    rw [List.map_map]
    exact List.mem_map.mpr (h before m after hmembers hempty)

theorem documents_eq :
    archive.documents tree
      = (((archive.mappingMembers tree).map Archive.entry).map Prod.snd).filter nonEmpty := by
  rw [List.map_map]
  rfl

end Assignments

/-- The entries are what the mappings of the directory leave, one after the other. -/
theorem entries_of_extractSync {archive : Archive} {targetDir : String}
    {content : ExtractedContent} (h : archive.extractSync targetDir = .ok content)
    (tree : Subtree) :
    content.entries tree = Dict.ofList ((archive.mappingMembers tree).map Archive.entry) :=
  Archive.loadMappingDir_eq_ok (Archive.loadMappingDir_of_extractSync h tree)

/-- What a package keeps is the same whatever it is extracted to, so that a property of the
result is one of the package, if it is extracted at all. -/
theorem forall_extractSync_iff {archive : Archive} {targetDir : String}
    {Good : ExtractedContent → Prop} {C : Prop}
    (h : ∀ content, archive.extractSync targetDir = .ok content → (Good content ↔ C)) :
    (∀ content, archive.extractSync targetDir = .ok content → Good content)
      ↔ (archive.Extractable → C) := by
  rw [← @Archive.exists_extractSync_iff archive targetDir]
  constructor
  · rintro hgood ⟨content, hcontent⟩
    exact (h content hcontent).mp (hgood content hcontent)
  · intro hC content hcontent
    exact (h content hcontent).mpr (hC ⟨content, hcontent⟩)

/-- **When extraction loses nothing**: of a package that is extracted every document that is
not empty has an entry of its own iff no mapping of its directory that comes later has its
stem.  With the entries for empty mappings counted, these have to be gone as well. -/
theorem extraction_lossless_iff (archive : Archive) (targetDir : String) :
    ((∀ content, archive.extractSync targetDir = .ok content → KeepsDocuments archive content)
        ↔ (archive.Extractable → ∀ tree, StemsApart archive tree))
      ∧ ((∀ content, archive.extractSync targetDir = .ok content →
            EntriesAreDocuments archive content)
        ↔ (archive.Extractable →
            ∀ tree, StemsApart archive tree ∧ EmptyReplaced archive tree)) := by
  refine ⟨forall_extractSync_iff ?_, forall_extractSync_iff ?_⟩
  · intro content hcontent
    refine forall_congr' fun tree => ?_
    rw [entries_of_extractSync hcontent, documents_eq, Dict.filter_values_perm_iff,
      notOverwritten_entries_iff]
  · intro content hcontent
    refine forall_congr' fun tree => ?_
    rw [entries_of_extractSync hcontent, documents_eq, Dict.values_perm_iff,
      notOverwritten_entries_iff, restOverwritten_entries_iff]

/-- Two scenarios of one name, one of them in a directory of its own. -/
def namesakes : Archive where
  namelist := [manifestMember, "PAv1/scenarios/a.yaml", "PAv1/scenarios/sub/a.yaml"]
  yaml path := .ok (.dict [("name", .str path)])
  json _ := .error "Expecting value"

/-- Of the two documents the second is left. -/
theorem namesakes_lost :
    ∃ content, namesakes.extractSync "content" = .ok content
      ∧ ¬ KeepsDocuments namesakes content ∧ ¬ EntriesAreDocuments namesakes content := by
  refine ⟨_, rfl, ?_, ?_⟩
  · intro h
    exact absurd (h .scenarios).length_eq (by decide)
  · intro h
    exact absurd (h .scenarios).length_eq (by decide)

end CmlCloudManager.Core.ContentExtractor
