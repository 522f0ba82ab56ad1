/-
  CmlCloudManager.ControlPlane.DefinitionLifecycle
  ────────────────────────────────────────────────
  **THE STATUS OF A DEFINITION.**

  A definition is created PENDING_SYNC, becomes ACTIVE with its first successful
  content sync, may be deactivated and activated again, and is retired by
  `deprecate` or `soft_delete`.  `activate`, `deactivate` and `update` check the
  status they find; `request_sync` checks nothing and `deprecate` only that it is
  not DEPRECATED yet, so that a sync that is requested (or a deprecation that
  arrives) after the retirement brings the definition back.

    • `DefinitionOperation.target` — the move an operation makes at a status,
    • `definition_effect`          — an operation makes that move and records it,
    • `stays_retired_iff`          — the runs that keep retired definitions retired.
-/
import CmlCloudManager.Core.PodType
import CmlCloudManager.ControlPlane.LabletDefinition
import CmlCloudManager.Foundation.Fallible
import CmlCloudManager.Foundation.Replay
import CmlCloudManager.Foundation.Trail

namespace CmlCloudManager.ControlPlane

open CmlCloudManager.Foundation
open CmlCloudManager.Core

/-! ## §1. Value objects. -/

/-- What an operation on a definition raises. -/
inductive DefinitionError where
  | valueError (message : String)
  | keyError (key : String)

/-- The `ValueError` of a value object. -/
def DefinitionError.ofValue (e : OperationError) : DefinitionError := .valueError e.message

/-- `PodDefinitionRef`: it names a definition and a version. -/
structure PodDefinitionRef where
  definitionId : String
  version : String
  podType : PodType
  contentHash : Option String := none
  definitionId_given : definitionId ≠ ""
  version_given : version ≠ ""

/-- The constructor with its `__post_init__`. -/
def PodDefinitionRef.make (definitionId version : String) (podType : PodType)
    (contentHash : Option String) : Except DefinitionError PodDefinitionRef :=
  if hd : definitionId = "" then .error (.valueError "definition_id must not be empty")
  else if hv : version = "" then .error (.valueError "version must not be empty")
  else .ok ⟨definitionId, version, podType, contentHash, hd, hv⟩

/-- `with_sync_confirmation`. -/
def PodDefinitionRef.withSyncConfirmation (ref : PodDefinitionRef) (contentHash : String) :
    PodDefinitionRef :=
  { ref with contentHash := some contentHash }

/-- A reference as a dict; a key may be missing. -/
structure PodRefData where
  definitionId : Option String := none
  version : Option String := none
  podType : Option String := none
  contentHash : Option String := none
  deriving DecidableEq

/-- `data[key]`. -/
def requireKey {α : Type} (key : String) : Option α → Except DefinitionError α
  | some value => .ok value
  | none => .error (.keyError key)

/-- `PodType(value)`. -/
def podTypeOf (value message : String) : Except DefinitionError PodType :=
  match PodType.parse value with
  | some podType => .ok podType
  | none => .error (.valueError message)

/-- `PodDefinitionRef.from_dict`. -/
def PodDefinitionRef.fromDict (data : PodRefData) : Except DefinitionError PodDefinitionRef := do
  let definitionId ← requireKey "definition_id" data.definitionId
  let version ← requireKey "version" data.version
  let value ← requireKey "pod_type" data.podType
  let podType ← podTypeOf value ("'" ++ value ++ "' is not a valid PodType")
  PodDefinitionRef.make definitionId version podType data.contentHash

/-- Resource requirements as a dict; a key may be missing. -/
structure RequirementsData where
  cpuCores : Option Int := none
  memoryGb : Option Int := none
  storageGb : Option Int := none
  nestedVirt : Option Bool := none

/-- `ResourceRequirements.from_dict`. -/
def ResourceRequirements.fromDict (data : RequirementsData) :
    Except DefinitionError ResourceRequirements := do
  let cpuCores ← requireKey "cpu_cores" data.cpuCores
  let memoryGb ← requireKey "memory_gb" data.memoryGb
  let storageGb ← requireKey "storage_gb" data.storageGb
  (ResourceRequirements.make cpuCores memoryGb storageGb
    (data.nestedVirt.getD true)).mapError DefinitionError.ofValue

/-- `[LicenseType(lt) for lt in values]`. -/
def licenseTypesOf : List String → Except DefinitionError (List LicenseType)
  | [] => .ok []
  | value :: rest =>
      match LicenseType.parse value with
      | some t => (licenseTypesOf rest).map (t :: ·)
      | none => .error (.valueError ("'" ++ value ++ "' is not a valid LicenseType"))

/-- The `changes` of an update: each key that is given, with its new value. -/
structure DefinitionChanges where
  resourceRequirements : Option RequirementsData := none
  licenseAffinity : Option (List String) := none
  nodeCount : Option (Option Nat) := none
  maxDurationMinutes : Option Int := none
  warmPoolDepth : Option Int := none
  gradingRulesUri : Option (Option String) := none
  labArtifactUri : Option String := none
  labYamlHash : Option String := none
  formQualifiedName : Option (Option String) := none
  bucketName : Option String := none
  userSessionPackageName : Option String := none
  gradingRulesetPackageName : Option String := none
  userSessionType : Option String := none
  userSessionDefaultRegion : Option (Option String) := none
  bootLeadTimeMinutes : Option (Option Int) := none
  labReuseEnabled : Option Bool := none
  ldsPortPreferences : Option (Option (Dict String String)) := none
  podDefinitionRef : Option (Option PodRefData) := none
  /-- Keys that the handler does not know. -/
  others : List String := []

/-- `not changes`. -/
def DefinitionChanges.isEmpty (c : DefinitionChanges) : Bool :=
  c.resourceRequirements.isNone && c.licenseAffinity.isNone && c.nodeCount.isNone
    && c.maxDurationMinutes.isNone && c.warmPoolDepth.isNone && c.gradingRulesUri.isNone
    && c.labArtifactUri.isNone && c.labYamlHash.isNone && c.formQualifiedName.isNone
    && c.bucketName.isNone && c.userSessionPackageName.isNone
    && c.gradingRulesetPackageName.isNone && c.userSessionType.isNone
    && c.userSessionDefaultRegion.isNone && c.bootLeadTimeMinutes.isNone
    && c.labReuseEnabled.isNone && c.ldsPortPreferences.isNone && c.podDefinitionRef.isNone
    && c.others.isEmpty

/-! ## §2. The aggregate. -/

/-- `StateTransition`, an entry of the definition's `state_history`. -/
structure DefinitionTransition where
  fromState : Option LabletDefinitionStatus
  toState : LabletDefinitionStatus
  transitionedAt : Int
  triggeredBy : String
  reason : Option String

/-- `LabletDefinition`: the definition with its version, its sync and its history. -/
structure LabletDefinition extends LabletDefinitionState where
  name : String
  version : String
  createdBy : String
  createdAt : Int
  updatedAt : Int
  ldsPortPreferences : Option (Dict String String) := none
  deprecatedBy : Option String := none
  deprecatedAt : Option Int := none
  deprecationReason : Option String := none
  replacementVersion : Option String := none
  lastSyncedAt : Option Int := none
  syncStatus : Option String := none
  contentPackageHash : Option String := none
  podDefinitionRef : Option PodDefinitionRef := none
  stateHistory : List DefinitionTransition := []

/-- The domain events of an existing definition, with what their handlers read. -/
inductive DefinitionEvent where
  | deprecated (deprecatedBy : String) (deprecatedAt : Int)
      (deprecationReason replacementVersion : Option String)
  | artifactSynced (labYamlHash : String) (syncedAt : Int) (syncStatus : String)
  | syncRequested (requestedAt : Int)
  | contentSynced (labYamlHash : String) (syncedAt : Int) (syncStatus : String)
      (contentPackageHash : Option String) (nodeCount : Option Nat)
  | podDefinitionConfirmed (podDefinitionId : String) (podType : PodType)
      (contentHash : Option String) (confirmedAt : Int)
  | updated (changes : DefinitionChanges) (updatedAt : Int)
  | activated (activatedBy : String) (activatedAt : Int)
  | deactivated (deactivatedBy : String) (deactivatedAt : Int) (reason : Option String)
  | deleted (deletedBy : String) (deletedAt : Int)

/-- An operation: it may raise, and keeps the assignments made before that. -/
abbrev DefinitionOp : Type → Type := ExceptT DefinitionError (StateM LabletDefinition)

/-- What a value object raises leaves the operation. -/
def liftValue {α : Type} (value : Except DefinitionError α) : DefinitionOp α := fun d => (value, d)

namespace LabletDefinition

/-- `_record_transition`. -/
def recordTransition (c : Clock) (d : LabletDefinition) (fromState : Option LabletDefinitionStatus)
    (triggeredBy : String) (reason : Option String) : LabletDefinition :=
  { d with
    stateHistory := d.stateHistory ++
      [{ fromState := fromState
         toState := d.status
         transitionedAt := c.recorded
         triggeredBy := triggeredBy
         reason := reason }]
    updatedAt := c.recorded }

/-- The fields of the changes that are assigned as they are. -/
def assignChanges (d : LabletDefinition) (c : DefinitionChanges) : LabletDefinition :=
  { d with
    nodeCount := c.nodeCount.getD d.nodeCount
    maxDurationMinutes := c.maxDurationMinutes.getD d.maxDurationMinutes
    warmPoolDepth := c.warmPoolDepth.getD d.warmPoolDepth
    gradingRulesUri := c.gradingRulesUri.getD d.gradingRulesUri
    labArtifactUri := c.labArtifactUri.getD d.labArtifactUri
    labYamlHash := c.labYamlHash.getD d.labYamlHash
    formQualifiedName := c.formQualifiedName.getD d.formQualifiedName
    bucketName := c.bucketName.getD d.bucketName
    userSessionPackageName := c.userSessionPackageName.getD d.userSessionPackageName
    gradingRulesetPackageName := c.gradingRulesetPackageName.getD d.gradingRulesetPackageName
    userSessionType := c.userSessionType.getD d.userSessionType
    userSessionDefaultRegion := c.userSessionDefaultRegion.getD d.userSessionDefaultRegion
    bootLeadTimeMinutes := c.bootLeadTimeMinutes.getD d.bootLeadTimeMinutes
    labReuseEnabled := c.labReuseEnabled.getD d.labReuseEnabled
    ldsPortPreferences := c.ldsPortPreferences.getD d.ldsPortPreferences }

/-- `if "resource_requirements" in changes`. -/
def assignRequirements : Option RequirementsData → DefinitionOp Unit
  | none => pure ()
  | some data => do
      let resourceRequirements ← liftValue (ResourceRequirements.fromDict data)
      modify fun d => { d with resourceRequirements := resourceRequirements }

/-- `if "license_affinity" in changes`. -/
def assignLicenses : Option (List String) → DefinitionOp Unit
  | none => pure ()
  | some values => do
      let licenseAffinity ← liftValue (licenseTypesOf values)
      modify fun d => { d with licenseAffinity := licenseAffinity }

/-- `if "pod_definition_ref" in changes`; an empty dict stands for no reference. -/
def assignPodDefinitionRef : Option (Option PodRefData) → DefinitionOp Unit
  | none => pure ()
  | some data =>
      match data.filter fun data => data ≠ {} with
      | none => modify fun d => { d with podDefinitionRef := none }
      | some data => do
          let ref ← liftValue (PodDefinitionRef.fromDict data)
          modify fun d => { d with podDefinitionRef := some ref }

/-- The handler of the update: three of the fields may be refused, in this order. -/
def applyChanges (changes : DefinitionChanges) (updatedAt : Int) : DefinitionOp Unit := do
  assignRequirements changes.resourceRequirements
  assignLicenses changes.licenseAffinity
  modify fun d => d.assignChanges changes
  assignPodDefinitionRef changes.podDefinitionRef
  modify fun d => { d with updatedAt := updatedAt }

/-- The handler of the content sync; only a success moves the status, and only a definition that
waits for its sync. -/
def applyContentSync (c : Clock) (d : LabletDefinition) (labYamlHash : String) (syncedAt : Int)
    (syncStatus : String) (contentPackageHash : Option String) (nodeCount : Option Nat) :
    LabletDefinition :=
  let oldStatus := d.status
  let d :=
    { d with
      lastSyncedAt := some syncedAt
      syncStatus := some syncStatus
      labYamlHash := labYamlHash
      updatedAt := syncedAt
      contentPackageHash := contentPackageHash.or d.contentPackageHash
      nodeCount := nodeCount.or d.nodeCount }
  let d :=
    if syncStatus = "success" ∧ d.status = .pendingSync then
      recordTransition c { d with status := .active } (some oldStatus) "system"
        (some "Content sync completed successfully")
    else d
  match givenText contentPackageHash, d.podDefinitionRef with
  | some hash, some ref =>
      if syncStatus = "success" then
        { d with podDefinitionRef := some (ref.withSyncConfirmation hash) }
      else d
  | _, _ => d

/-- `LabletDefinitionState.on`. -/
def on (c : Clock) : DefinitionEvent → DefinitionOp Unit
  | .deprecated deprecatedBy deprecatedAt deprecationReason replacementVersion =>
      modify fun d =>
        recordTransition c
          { d with
            status := .deprecated
            deprecatedBy := some deprecatedBy
            deprecatedAt := some deprecatedAt
            deprecationReason := deprecationReason
            replacementVersion := replacementVersion }
          (some d.status) deprecatedBy
          (some ((givenText deprecationReason).getD "Definition deprecated"))
  | .artifactSynced labYamlHash syncedAt syncStatus =>
      modify fun d =>
        { d with
          lastSyncedAt := some syncedAt
          syncStatus := some syncStatus
          labYamlHash := labYamlHash
          updatedAt := syncedAt }
  | .syncRequested requestedAt =>
      modify fun d =>
        let requested :=
          { d with
            syncStatus := some "sync_requested"
            status := .pendingSync
            updatedAt := requestedAt }
        -- a second request leaves no entry
        if requested.status ≠ d.status then
          recordTransition c requested (some d.status) "system" (some "Sync requested")
        else requested
  | .contentSynced labYamlHash syncedAt syncStatus contentPackageHash nodeCount =>
      modify fun d =>
        applyContentSync c d labYamlHash syncedAt syncStatus contentPackageHash nodeCount
  | .podDefinitionConfirmed podDefinitionId podType contentHash confirmedAt => do
      let ref ← liftValue
        (PodDefinitionRef.make podDefinitionId (← get).version podType contentHash)
      modify fun d => { d with podDefinitionRef := some ref, updatedAt := confirmedAt }
  | .updated changes updatedAt => applyChanges changes updatedAt
  | .activated activatedBy _ =>
      modify fun d =>
        recordTransition c { d with status := .active } (some d.status) activatedBy
          (some "Definition activated")
  | .deactivated deactivatedBy _ reason =>
      modify fun d =>
        recordTransition c { d with status := .inactive } (some d.status) deactivatedBy reason
  | .deleted deletedBy _ =>
      modify fun d =>
        recordTransition c { d with status := .deleted } (some d.status) deletedBy
          (some "Definition soft-deleted")

end LabletDefinition

/-! ## §3. The operations. -/

/-- The value of a status, as the messages have it. -/
def LabletDefinitionStatus.value : LabletDefinitionStatus → String
  | .pendingSync => "pending_sync"
  | .active => "active"
  | .inactive => "inactive"
  | .deprecated => "deprecated"
  | .archived => "archived"
  | .deleted => "deleted"

/-- The arguments of `LabletDefinition.create`. -/
structure DefinitionCreateArgs where
  name : String
  version : String
  formQualifiedName : String
  resourceRequirements : ResourceRequirements
  licenseAffinity : List LicenseType := []
  nodeCount : Nat := 0
  createdBy : String := ""
  userSessionPackageName : String := "SVN.zip"
  gradingRulesetPackageName : String := "SVN.zip"
  userSessionType : String := "LDS"
  userSessionDefaultRegion : Option String := none
  labYamlHash : String := ""
  gradingRulesUri : Option String := none
  maxDurationMinutes : Int := 60
  warmPoolDepth : Int := 0
  bootLeadTimeMinutes : Option Int := none
  labReuseEnabled : Bool := false
  podType : Option PodType := none

/-- The operations of an existing definition. -/
inductive DefinitionOperation where
  | markDeprecated (deprecatedBy : String) (deprecationReason replacementVersion : Option String)
  | recordArtifactSync (labYamlHash syncStatus : String) (errorMessage : Option String)
  | requestSync (requestedBy : String)
  | recordContentSync (labYamlHash syncStatus : String) (contentPackageHash : Option String)
      (nodeCount : Option Nat)
  | confirmPodDefinition (podDefinitionId podType : String) (contentHash : Option String)
  | update (changes : DefinitionChanges) (updatedBy : String)
  | activate (activatedBy : String)
  | deactivate (deactivatedBy : String) (reason : Option String)
  | softDelete (deletedBy : String)

namespace LabletDefinition

/-- The reference of a definition that is created with a pod type. -/
def initialRef (bucketName version : String) :
    Option PodType → Except DefinitionError (Option PodDefinitionRef)
  | some podType => (PodDefinitionRef.make bucketName version podType none).map some
  | none => .ok none

/-- `create`. -/
def create (c : Clock) (newId : NewId) (args : DefinitionCreateArgs) :
    Except DefinitionError LabletDefinition := do
  let bucketName ← (slugifyFqn args.formQualifiedName).mapError DefinitionError.ofValue
  let podDefinitionRef ← initialRef bucketName args.version args.podType
  let definition : LabletDefinition :=
    { id := newId.val
      id_given := newId.given
      status := .pendingSync
      resourceRequirements := args.resourceRequirements
      licenseAffinity := args.licenseAffinity
      nodeCount := some args.nodeCount
      labArtifactUri := "s3://" ++ bucketName ++ "/" ++ args.userSessionPackageName
      labYamlHash := args.labYamlHash
      formQualifiedName := some args.formQualifiedName
      bucketName := bucketName
      userSessionPackageName := args.userSessionPackageName
      gradingRulesetPackageName := args.gradingRulesetPackageName
      userSessionType := args.userSessionType
      userSessionDefaultRegion := args.userSessionDefaultRegion
      gradingRulesUri := args.gradingRulesUri
      maxDurationMinutes := args.maxDurationMinutes
      warmPoolDepth := args.warmPoolDepth
      bootLeadTimeMinutes := args.bootLeadTimeMinutes
      labReuseEnabled := args.labReuseEnabled
      name := args.name
      version := args.version
      createdBy := args.createdBy
      createdAt := c.now
      updatedAt := c.now
      podDefinitionRef := podDefinitionRef }
  .ok (recordTransition c definition none args.createdBy (some "Definition created"))

/-- `deprecate`. -/
def markDeprecated (c : Clock) (deprecatedBy : String)
    (deprecationReason replacementVersion : Option String) : DefinitionOp Unit := do
  if (← get).status = .deprecated then pure ()
  else on c (.deprecated deprecatedBy c.now deprecationReason replacementVersion)

/-- `record_content_sync`. -/
def recordContentSync (c : Clock) (labYamlHash syncStatus : String)
    (contentPackageHash : Option String) (nodeCount : Option Nat) : DefinitionOp Unit :=
  on c (.contentSynced labYamlHash c.now syncStatus contentPackageHash nodeCount)

/-- `confirm_pod_definition`. -/
def confirmPodDefinition (c : Clock) (podDefinitionId podType : String)
    (contentHash : Option String) : DefinitionOp Unit := do
  if podDefinitionId = "" then throw (.valueError "pod_definition_id must not be empty")
  else
    let resolved ← liftValue (podTypeOf podType ("Unknown pod_type: " ++ podType))
    match (← get).podDefinitionRef.filter fun ref => ref.podType ≠ resolved with
    | some ref =>
        throw (.valueError ("PodDefinition pod_type conflict: existing ref has "
          ++ ref.podType.value ++ ", but SE confirmed " ++ resolved.value))
    | none => on c (.podDefinitionConfirmed podDefinitionId resolved contentHash c.now)

/-- `update`. -/
def update (c : Clock) (changes : DefinitionChanges) : DefinitionOp Unit := do
  if (← get).status = .deprecated then
    throw (.valueError "Cannot update a deprecated definition")
  else if changes.isEmpty then pure ()
  else on c (.updated changes c.now)

/-- `activate`. -/
def activate (c : Clock) (activatedBy : String) : DefinitionOp Unit := do
  let status := (← get).status
  if status = .active then pure ()
  else if status = .deprecated ∨ status = .deleted then
    throw (.valueError ("Cannot activate a " ++ status.value ++ " definition"))
  else if status = .pendingSync then
    throw (.valueError "Cannot activate a definition that is pending sync")
  else on c (.activated activatedBy c.now)

/-- `deactivate`. -/
def deactivate (c : Clock) (deactivatedBy : String) (reason : Option String) :
    DefinitionOp Unit := do
  let status := (← get).status
  if status = .inactive then pure ()
  else if status ≠ .active then
    throw (.valueError ("Cannot deactivate a " ++ status.value ++ " definition"))
  else on c (.deactivated deactivatedBy c.now reason)

/-- `soft_delete`. -/
def softDelete (c : Clock) (deletedBy : String) : DefinitionOp Unit := do
  if (← get).status = .deleted then pure ()
  else on c (.deleted deletedBy c.now)

/-- The operation, as it is called. -/
def perform (c : Clock) : DefinitionOperation → DefinitionOp Unit
  | .markDeprecated deprecatedBy deprecationReason replacementVersion =>
      markDeprecated c deprecatedBy deprecationReason replacementVersion
  | .recordArtifactSync labYamlHash syncStatus _ =>
      on c (.artifactSynced labYamlHash c.now syncStatus)
  | .requestSync _ => on c (.syncRequested c.now)
  | .recordContentSync labYamlHash syncStatus contentPackageHash nodeCount =>
      recordContentSync c labYamlHash syncStatus contentPackageHash nodeCount
  | .confirmPodDefinition podDefinitionId podType contentHash =>
      confirmPodDefinition c podDefinitionId podType contentHash
  | .update changes _ => update c changes
  | .activate activatedBy => activate c activatedBy
  | .deactivate deactivatedBy reason => deactivate c deactivatedBy reason
  | .softDelete deletedBy => softDelete c deletedBy

end LabletDefinition

/-- A call, with its clock readings. -/
structure DefinitionCall where
  clock : Clock
  operation : DefinitionOperation

/-- The definition after the call, whether it raised or not. -/
def definitionStep (d : LabletDefinition) (call : DefinitionCall) : LabletDefinition :=
  (LabletDefinition.perform call.clock call.operation d).2

/-! ## §4. What an operation does to the status. -/

/-- The move of an operation at a status, if it makes one. -/
def DefinitionOperation.target (status : LabletDefinitionStatus) :
    DefinitionOperation → Option LabletDefinitionStatus
  | .markDeprecated .. => if status = .deprecated then none else some .deprecated
  | .requestSync _ => if status = .pendingSync then none else some .pendingSync
  | .recordContentSync _ syncStatus _ _ =>
      if syncStatus = "success" ∧ status = .pendingSync then some .active else none
  | .activate _ => if status = .inactive ∨ status = .archived then some .active else none
  | .deactivate .. => if status = .active then some .inactive else none
  | .softDelete _ => if status = .deleted then none else some .deleted
  | .recordArtifactSync .. | .confirmPodDefinition .. | .update .. => none

/-- What an operation leaves of the status and its history. -/
inductive DefinitionEffect (operation : DefinitionOperation) (d d' : LabletDefinition) : Prop where
  | kept (target : operation.target d.status = none) (status : d'.status = d.status)
      (history : d'.stateHistory = d.stateHistory)
  | moved (target : operation.target d.status = some d'.status) (entry : DefinitionTransition)
      (history : d'.stateHistory = d.stateHistory ++ [entry])
      (fromState : entry.fromState = some d.status) (toState : entry.toState = d'.status)

/-- The status and its history are left alone, whether the operation raises or not. -/
def Frames {α : Type} (op : DefinitionOp α) : Prop :=
  ∀ d, (op d).2.status = d.status ∧ (op d).2.stateHistory = d.stateHistory

section Frames

variable {α β : Type}

theorem frames_modify {f : LabletDefinition → LabletDefinition}
    (h : ∀ d, (f d).status = d.status ∧ (f d).stateHistory = d.stateHistory) :
    Frames (modify f : DefinitionOp Unit) := h

theorem frames_get : Frames (get : DefinitionOp LabletDefinition) := fun _ => ⟨rfl, rfl⟩

theorem frames_pure (a : α) : Frames (pure a : DefinitionOp α) := fun _ => ⟨rfl, rfl⟩

theorem frames_throw (e : DefinitionError) : Frames (throw e : DefinitionOp α) :=
  fun _ => ⟨rfl, rfl⟩

theorem frames_liftValue (value : Except DefinitionError α) : Frames (liftValue value) :=
  fun _ => ⟨rfl, rfl⟩

theorem frames_bind {op : DefinitionOp α} {f : α → DefinitionOp β} (hop : Frames op)
    (hf : ∀ a, Frames (f a)) : Frames (op >>= f) := by
  intro d
  obtain ⟨hstatus, hhistory⟩ := hop d
  -- an operation that raises keeps what it has assigned
  have hrun : (op >>= f) d = ExceptT.bindCont f (op d).1 (op d).2 := rfl
  rw [hrun]
  cases (op d).1 with
  | error e => exact ⟨hstatus, hhistory⟩
  | ok a =>
      obtain ⟨hs, hh⟩ := hf a (op d).2
      exact ⟨hs.trans hstatus, hh.trans hhistory⟩

theorem frames_ite {p : Prop} [Decidable p] {op op' : DefinitionOp α} (h : Frames op)
    (h' : Frames op') : Frames (if p then op else op') := by
  split
  · exact h
  · exact h'

end Frames

theorem frames_assignRequirements (data : Option RequirementsData) :
    Frames (LabletDefinition.assignRequirements data) := by
  cases data with
  | none => exact frames_pure ()
  | some data =>
      exact frames_bind (frames_liftValue _) fun _ => frames_modify fun _ => ⟨rfl, rfl⟩

theorem frames_assignLicenses (values : Option (List String)) :
    Frames (LabletDefinition.assignLicenses values) := by
  cases values with
  | none => exact frames_pure ()
  | some values =>
      exact frames_bind (frames_liftValue _) fun _ => frames_modify fun _ => ⟨rfl, rfl⟩

theorem frames_assignPodDefinitionRef (data : Option (Option PodRefData)) :
    Frames (LabletDefinition.assignPodDefinitionRef data) := by
  cases data with
  | none => exact frames_pure ()
  | some data =>
      unfold LabletDefinition.assignPodDefinitionRef
      dsimp only
      split
      next => exact frames_modify fun _ => ⟨rfl, rfl⟩
      next => exact frames_bind (frames_liftValue _) fun _ => frames_modify fun _ => ⟨rfl, rfl⟩

theorem frames_applyChanges (changes : DefinitionChanges) (updatedAt : Int) :
    Frames (LabletDefinition.applyChanges changes updatedAt) := by
  refine frames_bind (frames_assignRequirements _) fun _ => ?_
  refine frames_bind (frames_assignLicenses _) fun _ => ?_
  refine frames_bind (frames_modify fun _ => ⟨rfl, rfl⟩) fun _ => ?_
  refine frames_bind (frames_assignPodDefinitionRef _) fun _ => ?_
  exact frames_modify fun _ => ⟨rfl, rfl⟩

theorem frames_update (c : Clock) (changes : DefinitionChanges) :
    Frames (LabletDefinition.update c changes) := by
  refine frames_bind frames_get fun d => frames_ite (frames_throw _) ?_
  exact frames_ite (frames_pure ()) (frames_applyChanges changes c.now)

theorem frames_confirmPodDefinition (c : Clock) (podDefinitionId podType : String)
    (contentHash : Option String) :
    Frames (LabletDefinition.confirmPodDefinition c podDefinitionId podType contentHash) := by
  refine frames_ite (frames_throw _) (frames_bind (frames_liftValue _) fun resolved => ?_)
  refine frames_bind frames_get fun d => ?_
  split
  next => exact frames_throw _
  next =>
    refine frames_bind frames_get fun d => frames_bind (frames_liftValue _) fun ref => ?_
    exact frames_modify fun _ => ⟨rfl, rfl⟩

/-- **The content sync**: to ACTIVE from PENDING_SYNC when it succeeded, else nowhere. -/
theorem applyContentSync_effect (c : Clock) (d : LabletDefinition)
    (labYamlHash syncStatus : String) (syncedAt : Int) (contentPackageHash : Option String)
    (nodeCount : Option Nat) :
    DefinitionEffect (.recordContentSync labYamlHash syncStatus contentPackageHash nodeCount) d
      (d.applyContentSync c labYamlHash syncedAt syncStatus contentPackageHash nodeCount) := by
  -- the confirmation of the reference comes last and leaves both fields alone
  have hlast : ∀ (e : LabletDefinition) (e' : LabletDefinition),
      e' = (match givenText contentPackageHash, e.podDefinitionRef with
        | some hash, some ref =>
            if syncStatus = "success" then
              { e with podDefinitionRef := some (ref.withSyncConfirmation hash) }
            else e
        | _, _ => e) →
      e'.status = e.status ∧ e'.stateHistory = e.stateHistory := by
    rintro e e' rfl
    split
    · split <;> exact ⟨rfl, rfl⟩
    · exact ⟨rfl, rfl⟩
  obtain ⟨hstatus, hhistory⟩ := hlast _ _ (rfl :
    d.applyContentSync c labYamlHash syncedAt syncStatus contentPackageHash nodeCount = _)
  by_cases h : syncStatus = "success" ∧ d.status = .pendingSync
  · rw [if_pos h] at hstatus hhistory
    refine .moved ?_ _ hhistory rfl hstatus.symm
    rw [hstatus]
    exact if_pos h
  · rw [if_neg h] at hstatus hhistory
    exact .kept (if_neg h) hstatus hhistory

/-- **The effect of every operation.** -/
theorem definition_effect (d : LabletDefinition) (call : DefinitionCall) :
    DefinitionEffect call.operation d (definitionStep d call) := by
  obtain ⟨c, operation⟩ := call
  cases operation with
  | markDeprecated deprecatedBy deprecationReason replacementVersion =>
      show DefinitionEffect _ d ((if d.status = .deprecated then _ else _ : DefinitionOp Unit) d).2
      split
      next h => exact .kept (if_pos h) rfl rfl
      next h => exact .moved (if_neg h) _ rfl rfl rfl
  | recordArtifactSync labYamlHash syncStatus errorMessage => exact .kept rfl rfl rfl
  -- no status is refused
  | requestSync requestedBy =>
      show DefinitionEffect _ d (if LabletDefinitionStatus.pendingSync ≠ d.status then _ else _)
      split
      next h => exact .moved (if_neg h.symm) _ rfl rfl rfl
      next h =>
        have hpending : d.status = .pendingSync := (not_not.mp h).symm
        exact .kept (if_pos hpending) hpending.symm rfl
  | recordContentSync labYamlHash syncStatus contentPackageHash nodeCount =>
      exact applyContentSync_effect ..
  | confirmPodDefinition podDefinitionId podType contentHash =>
      obtain ⟨hstatus, hhistory⟩ :=
        frames_confirmPodDefinition c podDefinitionId podType contentHash d
      exact .kept rfl hstatus hhistory
  | update changes updatedBy =>
      obtain ⟨hstatus, hhistory⟩ := frames_update c changes d
      exact .kept rfl hstatus hhistory
  | activate activatedBy =>
      show DefinitionEffect _ d ((if d.status = .active then _ else _ : DefinitionOp Unit) d).2
      cases h : d.status with
      -- idempotent, or refused
      | active | deprecated | deleted | pendingSync => exact .kept (by rw [h]; rfl) rfl rfl
      | inactive | archived => exact .moved (by rw [h]; rfl) _ rfl (by rw [h]) rfl
  | deactivate deactivatedBy reason =>
      show DefinitionEffect _ d ((if d.status = .inactive then _ else _ : DefinitionOp Unit) d).2
      cases h : d.status with
      | active => exact .moved (by rw [h]; rfl) _ rfl (by rw [h]) rfl
      | _ => exact .kept (by rw [h]; rfl) rfl rfl
  | softDelete deletedBy =>
      show DefinitionEffect _ d ((if d.status = .deleted then _ else _ : DefinitionOp Unit) d).2
      split
      next h => exact .kept (if_pos h) rfl rfl
      next h => exact .moved (if_neg h) _ rfl rfl rfl

/-- The status after an operation. -/
theorem definitionStep_status (d : LabletDefinition) (call : DefinitionCall) :
    (definitionStep d call).status = (call.operation.target d.status).getD d.status := by
  cases definition_effect d call with
  | kept target status history => rw [target, status, Option.getD_none]
  | moved target entry history fromState toState => rw [target, Option.getD_some]

/-! ## §5. The history. -/

/-- The history is the trail of the status. -/
def HistoryTrail (d : LabletDefinition) : Prop :=
  Trail DefinitionTransition.fromState DefinitionTransition.toState d.stateHistory d.status

/-- **The step lemma**, for every operation, refused or not. -/
theorem historyTrail_step (d : LabletDefinition) (call : DefinitionCall) (h : HistoryTrail d) :
    HistoryTrail (definitionStep d call) := by
  unfold HistoryTrail at h ⊢
  cases definition_effect d call with
  | kept target status history =>
      rw [status, history]
      exact h
  | moved target entry history fromState toState =>
      rw [history, ← toState]
      exact h.snoc fromState

/-- A created definition waits for its sync, and its history says so. -/
theorem historyTrail_create {c : Clock} {newId : NewId} {args : DefinitionCreateArgs}
    {d : LabletDefinition} (h : LabletDefinition.create c newId args = .ok d) :
    HistoryTrail d := by
  obtain ⟨bucketName, -, h⟩ := bind_ok_iff.mp h
  obtain ⟨ref, -, h⟩ := bind_ok_iff.mp h
  injection h with h
  subst h
  exact Trail.singleton rfl

/-! ## §6. Retired definitions. -/

/-- DEPRECATED or DELETED. -/
def LabletDefinitionStatus.Retired (status : LabletDefinitionStatus) : Prop :=
  status = .deprecated ∨ status = .deleted

/-- How far a status is from use: DELETED further than DEPRECATED. -/
def LabletDefinitionStatus.retirement : LabletDefinitionStatus → Nat
  | .deprecated => 1
  | .deleted => 2
  | .pendingSync | .active | .inactive | .archived => 0

/-- A call that leaves a retired definition retired: no sync is requested for it, and none that
is DELETED is deprecated. -/
def LeavesRetired (d : LabletDefinition) (call : DefinitionCall) : Prop :=
  match call.operation with
  | .requestSync _ => ¬ d.status.Retired
  | .markDeprecated .. => d.status ≠ .deleted
  | _ => True

/-- Such calls never bring the definition closer to use, and they are the only ones. -/
theorem leavesRetired_iff (d : LabletDefinition) (call : DefinitionCall) :
    LeavesRetired d call
      ↔ d.status.retirement ≤ (definitionStep d call).status.retirement := by
  rw [definitionStep_status]
  unfold LeavesRetired
  cases call.operation with
  | requestSync requestedBy =>
      cases d.status <;>
        simp [DefinitionOperation.target, LabletDefinitionStatus.Retired,
          LabletDefinitionStatus.retirement]
  | markDeprecated deprecatedBy deprecationReason replacementVersion =>
      cases d.status <;>
        simp [DefinitionOperation.target, LabletDefinitionStatus.retirement]
  | recordContentSync labYamlHash syncStatus contentPackageHash nodeCount =>
      cases d.status <;> by_cases h : syncStatus = "success" <;>
        simp [DefinitionOperation.target, LabletDefinitionStatus.retirement, h]
  | activate | deactivate | softDelete =>
      cases d.status <;>
        simp [DefinitionOperation.target, LabletDefinitionStatus.retirement]
  | recordArtifactSync | confirmPodDefinition | update =>
      exact iff_of_true trivial le_rfl

/-- **A retired definition stays retired** along the calls, and its history is a chain. -/
structure StaysRetired (d : LabletDefinition) (calls : List DefinitionCall) : Prop where
  retired : ∀ before between after, calls = before ++ (between ++ after) →
    (replay definitionStep d before).status.Retired →
    (replay definitionStep d (before ++ between)).status ≠ .active
      ∧ (replay definitionStep d (before ++ between)).status ≠ .pendingSync
  deleted : ∀ before between after, calls = before ++ (between ++ after) →
    (replay definitionStep d before).status = .deleted →
    (replay definitionStep d (before ++ between)).status ≠ .deprecated
  trail : ∀ before after, calls = before ++ after → HistoryTrail (replay definitionStep d before)

/-- A call that does not leave it retired brings it back. -/
theorem brings_back {d : LabletDefinition} {call : DefinitionCall} (h : ¬ LeavesRetired d call) :
    d.status.Retired ∧ (definitionStep d call).status = .pendingSync
      ∨ d.status = .deleted ∧ (definitionStep d call).status = .deprecated := by
  rw [definitionStep_status]
  unfold LeavesRetired at h
  cases hop : call.operation with
  | requestSync requestedBy =>
      rw [hop] at h
      have hretired := not_not.mp h
      refine .inl ⟨hretired, ?_⟩
      rcases hretired with hd | hd <;> rw [hd] <;> rfl
  | markDeprecated deprecatedBy deprecationReason replacementVersion =>
      rw [hop] at h
      have hdeleted := not_not.mp h
      exact .inr ⟨hdeleted, by rw [hdeleted]; rfl⟩
  | _ =>
      rw [hop] at h
      exact absurd trivial h

/-- The calls leave the definition retired iff none brings it closer to use. -/
theorem retirement_mono_iff (d : LabletDefinition) (calls : List DefinitionCall) :
    (∀ before between after, calls = before ++ (between ++ after) →
        (replay definitionStep d before).status.retirement
          ≤ (replay definitionStep d (before ++ between)).status.retirement)
      ↔ Meets definitionStep LeavesRetired d calls := by
  rw [related_iff_meets
    (R := fun d e : LabletDefinition => d.status.retirement ≤ e.status.retirement)
    (fun _ => le_rfl) (fun _ _ _ => le_trans)]
  exact @meets_congr _ _ _ _ _ (fun _ => True) (fun _ _ _ => trivial)
    (fun d call _ => (leavesRetired_iff d call).symm) calls _ trivial

/-- **Retired definitions stay retired exactly** along the calls that request no sync for one of
them and deprecate none that is DELETED. -/
theorem stays_retired_iff (c : Clock) (newId : NewId) (args : DefinitionCreateArgs)
    (d : LabletDefinition) (created : LabletDefinition.create c newId args = .ok d)
    (calls : List DefinitionCall) :
    StaysRetired d calls ↔ Meets definitionStep LeavesRetired d calls := by
  constructor
  · intro h
    refine (meets_iff calls d).mpr fun before call after hsplit => ?_
    -- otherwise the status just after that call contradicts
    by_contra hback
    have hnext : replay definitionStep d (before ++ [call])
        = definitionStep (replay definitionStep d before) call := replay_snoc d before call
    rcases brings_back hback with ⟨hretired, hpending⟩ | ⟨hdeleted, hdeprecated⟩
    · refine (h.retired before [call] after hsplit hretired).2 ?_
      rw [hnext, hpending]
    · refine h.deleted before [call] after hsplit hdeleted ?_
      rw [hnext, hdeprecated]
  · intro h
    -- ACTIVE and PENDING_SYNC are closer to use than what is retired
    have hmono := (retirement_mono_iff d calls).mpr h
    refine ⟨?_, ?_, ?_⟩
    · intro before between after hsplit hretired
      have hle := hmono before between after hsplit
      constructor <;> intro hstatus <;> rw [hstatus] at hle <;>
        rcases hretired with hd | hd <;> rw [hd] at hle <;> cases hle
    · intro before between after hsplit hdeleted hstatus
      have hle := hmono before between after hsplit
      rw [hdeleted, hstatus] at hle
      cases hle with
      | step h => cases h
    · intro before after hsplit
      exact replay_invariant historyTrail_step before (historyTrail_create created)

/-- The arguments of a small definition. -/
def ccnaArgs : DefinitionCreateArgs :=
  { name := "ccna-basic-routing"
    version := "1.0.0"
    formQualifiedName := "Exam CCNA TEST v1 LAB 1.1"
    resourceRequirements := ⟨4, 8, 40, true, four_given, by decide, by decide⟩ }

/-- The definition they create. -/
def ccnaDefinition : LabletDefinition :=
  LabletDefinition.recordTransition { now := 0 }
    { id := "d1"
      id_given := d1_given
      status := .pendingSync
      resourceRequirements := ccnaArgs.resourceRequirements
      labArtifactUri := "s3://exam-ccna-test-v1-lab-1.1/SVN.zip"
      formQualifiedName := some "Exam CCNA TEST v1 LAB 1.1"
      bucketName := "exam-ccna-test-v1-lab-1.1"
      name := "ccna-basic-routing"
      version := "1.0.0"
      createdBy := ""
      createdAt := 0
      updatedAt := 0 }
    none "" (some "Definition created")

theorem ccnaDefinition_created :
    LabletDefinition.create { now := 0 } ⟨"d1", by decide⟩ ccnaArgs = .ok ccnaDefinition := rfl

theorem stays_retired_ccna :
    StaysRetired ccnaDefinition
      [⟨{ now := 1 }, .recordContentSync "h1" "success" (some "p1") none⟩,
       ⟨{ now := 2 }, .markDeprecated "admin" none none⟩,
       ⟨{ now := 3 }, .recordContentSync "h1" "success" (some "p1") none⟩,
       ⟨{ now := 4 }, .softDelete "admin"⟩]
      ↔ Meets definitionStep LeavesRetired ccnaDefinition
          [⟨{ now := 1 }, .recordContentSync "h1" "success" (some "p1") none⟩,
           ⟨{ now := 2 }, .markDeprecated "admin" none none⟩,
           ⟨{ now := 3 }, .recordContentSync "h1" "success" (some "p1") none⟩,
           ⟨{ now := 4 }, .softDelete "admin"⟩] :=
  stays_retired_iff _ _ _ _ ccnaDefinition_created _

/-- A sync that is requested for a deprecated definition makes it ACTIVE once it succeeds, and a
deleted definition can be deprecated. -/
theorem deprecated_reactivated :
    LabletDefinition.create { now := 0 } ⟨"d1", by decide⟩ ccnaArgs = .ok ccnaDefinition
      ∧ ¬ StaysRetired ccnaDefinition
          [⟨{ now := 1 }, .markDeprecated "admin" none none⟩,
           ⟨{ now := 2 }, .requestSync "admin"⟩,
           ⟨{ now := 3 }, .recordContentSync "h1" "success" none none⟩]
      ∧ ¬ StaysRetired ccnaDefinition
          [⟨{ now := 1 }, .softDelete "admin"⟩,
           ⟨{ now := 2 }, .markDeprecated "admin" none none⟩] := by
  refine ⟨rfl, ?_, ?_⟩
  · intro h
    exact (h.retired [_] [_, _] [] rfl (.inl rfl)).1 rfl
  · intro h
    exact h.deleted [_] [_] [] rfl rfl rfl

end CmlCloudManager.ControlPlane
