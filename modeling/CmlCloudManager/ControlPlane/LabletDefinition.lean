/-
  CmlCloudManager.ControlPlane.LabletDefinition
  ─────────────────────────────────────────────
  **LABLET DEFINITIONS AND THEIR UPDATE.**

  A definition says what a session needs.  An update depends on the status:

    • ACTIVE      — the definition is deprecated and a new one, under a NEW id,
                    takes the changes: sessions keep what they refer to,
    • DEPRECATED  — refused,
    • any other   — changed IN PLACE, also under sessions that refer to it.
-/
import CmlCloudManager.Foundation.Repository
import CmlCloudManager.ControlPlane.LabletSession
import CmlCloudManager.ControlPlane.PipelineProgress

namespace CmlCloudManager.ControlPlane

open CmlCloudManager.Foundation
open CmlCloudManager.Pipeline

/-! ## §1. The definition. -/

/-- `LabletDefinitionStatus`. -/
inductive LabletDefinitionStatus where
  | pendingSync
  | active
  | inactive
  | deprecated
  | archived
  | deleted
  deriving DecidableEq, Repr

/-- `LicenseType`. -/
inductive LicenseType where
  | personal
  | enterprise
  | evaluation
  deriving DecidableEq, Repr

/-- The value of a license type. -/
def LicenseType.value : LicenseType → String
  | .personal => "personal"
  | .enterprise => "enterprise"
  | .evaluation => "evaluation"

/-- The license types, in the order of their definition. -/
def licenseTypes : List LicenseType := [.personal, .enterprise, .evaluation]

/-- `LicenseType(value)`, in any case. -/
def LicenseType.parse (value : String) : Option LicenseType :=
  licenseTypes.find? fun t => t.value == value.toLower

/-- `ResourceRequirements`: at least one of each. -/
structure ResourceRequirements where
  cpuCores : Nat
  memoryGb : Nat
  storageGb : Nat
  nestedVirt : Bool := true
  cpuCores_pos : 1 ≤ cpuCores
  memoryGb_pos : 1 ≤ memoryGb
  storageGb_pos : 1 ≤ storageGb

/-- The constructor with its `__post_init__`. -/
def ResourceRequirements.make (cpuCores memoryGb storageGb : Int) (nestedVirt : Bool) :
    Except OperationError ResourceRequirements :=
  if hc : cpuCores < 1 then .error (.valueError "cpu_cores must be at least 1")
  else if hm : memoryGb < 1 then .error (.valueError "memory_gb must be at least 1")
  else if hs : storageGb < 1 then .error (.valueError "storage_gb must be at least 1")
  else
    .ok
      { cpuCores := cpuCores.toNat
        memoryGb := memoryGb.toNat
        storageGb := storageGb.toNat
        nestedVirt := nestedVirt
        cpuCores_pos := by omega
        memoryGb_pos := by omega
        storageGb_pos := by omega }

/-- `LabletDefinitionState`, as far as the update command and the capacity commands use it. -/
structure LabletDefinitionState where
  id : String
  id_given : id ≠ ""
  status : LabletDefinitionStatus := .active
  resourceRequirements : ResourceRequirements
  licenseAffinity : List LicenseType := []
  nodeCount : Option Nat := some 0
  labArtifactUri : String := ""
  labYamlHash : String := ""
  formQualifiedName : Option String := none
  bucketName : String := ""
  userSessionPackageName : String := "SVN.zip"
  gradingRulesetPackageName : String := "SVN.zip"
  userSessionType : String := "LDS"
  userSessionDefaultRegion : Option String := none
  gradingRulesUri : Option String := none
  maxDurationMinutes : Int := 60
  warmPoolDepth : Int := 0
  bootLeadTimeMinutes : Option Int := none
  labReuseEnabled : Bool := false

/-- The definition repository. -/
abbrev DefinitionRepository : Type := Repository LabletDefinitionState LabletDefinitionState.id

/-! ## §2. The bucket name. -/

/-- `str.lower` on a character, as far as the result is ASCII. -/
def lowerChar (c : Char) : Char :=
  -- the Kelvin sign and the dotted capital I are the two others with an ASCII result
  if c.toNat = 0x212a then 'k' else if c.toNat = 0x130 then 'i' else c.toLower

/-- A character that stays in a bucket name. -/
def isSlugChar (c : Char) : Bool :=
  ('a' ≤ c && c ≤ 'z') || ('0' ≤ c && c ≤ '9') || c == '.' || c == '-'

/-- Several dashes in a row become one. -/
def collapseDashes : List Char → List Char
  | '-' :: '-' :: rest => collapseDashes ('-' :: rest)
  | c :: rest => c :: collapseDashes rest
  | [] => []

/-- `slugify_fqn`. -/
def slugifyFqn (formQualifiedName : String) : Except OperationError String :=
  let stripped := stripChars isPyWhitespace formQualifiedName.toList
  if stripped.isEmpty then .error (.valueError "form_qualified_name cannot be empty")
  else
    -- dashes are collapsed after the other characters are gone
    let slug := (stripped.map lowerChar).map fun c => if c = ' ' then '-' else c
    let slug := stripChars (fun c => c == '-') (collapseDashes (slug.filter isSlugChar))
    if slug.isEmpty then
      .error (.valueError
        ("Slugified FQN is empty after processing: '" ++ formQualifiedName ++ "'"))
    else .ok (String.ofList slug)

/-! ## §3. The update command. -/

/-- `UpdateLabletDefinitionCommand`: only what is given is updated. -/
structure UpdateLabletDefinitionCommand where
  definitionId : String := ""
  updatedBy : String := ""
  formQualifiedName : Option String := none
  labArtifactUri : Option String := none
  labYamlHash : Option String := none
  cpuCores : Option Int := none
  memoryGb : Option Int := none
  storageGb : Option Int := none
  nestedVirt : Option Bool := none
  licenseAffinity : Option (List String) := none
  nodeCount : Option Nat := none
  maxDurationMinutes : Option Int := none
  warmPoolDepth : Option Int := none
  gradingRulesUri : Option String := none
  userSessionPackageName : Option String := none
  gradingRulesetPackageName : Option String := none
  userSessionType : Option String := none
  userSessionDefaultRegion : Option String := none
  labReuseEnabled : Option Bool := none
  bootLeadTimeMinutes : Option Int := none

namespace UpdateLabletDefinitionCommand

/-- Some resource is given. -/
def hasResourceChange (c : UpdateLabletDefinitionCommand) : Bool :=
  c.cpuCores.isSome || c.memoryGb.isSome || c.storageGb.isSome || c.nestedVirt.isSome

/-- Anything is given at all (`changes` is not empty). -/
def hasChanges (c : UpdateLabletDefinitionCommand) : Bool :=
  c.formQualifiedName.isSome || c.labArtifactUri.isSome || c.labYamlHash.isSome
    || c.hasResourceChange || c.licenseAffinity.isSome || c.nodeCount.isSome
    || c.maxDurationMinutes.isSome || c.warmPoolDepth.isSome || c.gradingRulesUri.isSome
    || c.userSessionPackageName.isSome || c.gradingRulesetPackageName.isSome
    || c.userSessionType.isSome || c.userSessionDefaultRegion.isSome
    || c.bootLeadTimeMinutes.isSome || c.labReuseEnabled.isSome

/-- The requirements with the given amounts in place of the current ones. -/
def mergedRequirements (c : UpdateLabletDefinitionCommand) (current : ResourceRequirements) :
    Except OperationError ResourceRequirements :=
  ResourceRequirements.make (c.cpuCores.getD current.cpuCores) (c.memoryGb.getD current.memoryGb)
    (c.storageGb.getD current.storageGb) (c.nestedVirt.getD current.nestedVirt)

/-- The license types given, or the current ones. -/
def mergedLicenses (c : UpdateLabletDefinitionCommand) (current : List LicenseType) :
    List LicenseType :=
  match c.licenseAffinity with
  -- the handler has refused the command if one of them is no license type
  | some given => given.filterMap LicenseType.parse
  | none => current

end UpdateLabletDefinitionCommand

/-- `value.strip()`. -/
def strip (value : String) : String :=
  String.ofList (stripChars isPyWhitespace value.toList)

/-- `LabletDefinition.update` with the changes of an in-place update. -/
def LabletDefinitionState.update (d : LabletDefinitionState) (c : UpdateLabletDefinitionCommand) :
    Except OperationError LabletDefinitionState := do
  let mut bucketName := d.bucketName
  let mut labArtifactUri := (c.labArtifactUri.map strip).getD d.labArtifactUri
  if let some given := c.formQualifiedName then
    bucketName ← slugifyFqn (strip given)
    -- the package name is the given one unless that is empty; the URI that is given is ignored
    let package := (givenText c.userSessionPackageName).getD d.userSessionPackageName
    labArtifactUri := "s3://" ++ bucketName ++ "/" ++ package
  let mut resourceRequirements := d.resourceRequirements
  -- sessions that are scheduled already keep pointing at this definition
  if c.hasResourceChange then
    resourceRequirements ← c.mergedRequirements d.resourceRequirements
  return { d with
    formQualifiedName := (c.formQualifiedName.map strip).or d.formQualifiedName
    bucketName := bucketName
    labArtifactUri := labArtifactUri
    labYamlHash := (c.labYamlHash.map strip).getD d.labYamlHash
    resourceRequirements := resourceRequirements
    licenseAffinity := c.mergedLicenses d.licenseAffinity
    nodeCount := c.nodeCount.or d.nodeCount
    maxDurationMinutes := c.maxDurationMinutes.getD d.maxDurationMinutes
    warmPoolDepth := c.warmPoolDepth.getD d.warmPoolDepth
    gradingRulesUri := c.gradingRulesUri.or d.gradingRulesUri
    userSessionPackageName := c.userSessionPackageName.getD d.userSessionPackageName
    gradingRulesetPackageName := c.gradingRulesetPackageName.getD d.gradingRulesetPackageName
    userSessionType := c.userSessionType.getD d.userSessionType
    userSessionDefaultRegion := c.userSessionDefaultRegion.or d.userSessionDefaultRegion
    bootLeadTimeMinutes := c.bootLeadTimeMinutes.or d.bootLeadTimeMinutes
    labReuseEnabled := c.labReuseEnabled.getD d.labReuseEnabled }

/-- A generated id. -/
abbrev NewId : Type := { id : String // id ≠ "" }

theorem d1_given : "d1" ≠ "" := by decide

theorem four_given : 1 ≤ 4 := by decide

theorem NewId.given (newId : NewId) : newId.val ≠ "" := newId.property

/-- `_handle_in_place_update`. -/
def handleInPlaceUpdate (definitions : DefinitionRepository) (definition : LabletDefinitionState)
    (command : UpdateLabletDefinitionCommand) :
    OperationResult LabletDefinitionState × DefinitionRepository :=
  if ¬ command.hasChanges then (.badRequest "No fields to update", definitions)
  else
    match definition.update command with
    | .error e => (.badRequest e.message, definitions)
    | .ok definition => (.ok definition, definitions.save definition)

/-- `_handle_version_bump`; the new definition is created after the old one is saved. -/
def handleVersionBump (newId : NewId) (definitions : DefinitionRepository)
    (definition : LabletDefinitionState) (command : UpdateLabletDefinitionCommand) :
    OperationResult LabletDefinitionState × DefinitionRepository :=
  match command.mergedRequirements definition.resourceRequirements with
  | .error e => (.badRequest e.message, definitions)
  | .ok resourceRequirements =>
      let definitions := definitions.save { definition with status := .deprecated }
      let formQualifiedName :=
        ((givenText command.formQualifiedName).or (givenText definition.formQualifiedName)).getD ""
      match slugifyFqn formQualifiedName with
      | .error e => (.badRequest e.message, definitions)
      | .ok bucketName =>
          let userSessionPackageName :=
            (givenText command.userSessionPackageName).getD definition.userSessionPackageName
          let newDefinition : LabletDefinitionState :=
            { id := newId.val
              id_given := newId.given
              status := .pendingSync
              resourceRequirements := resourceRequirements
              licenseAffinity := command.mergedLicenses definition.licenseAffinity
              nodeCount := command.nodeCount.or definition.nodeCount
              labArtifactUri := "s3://" ++ bucketName ++ "/" ++ userSessionPackageName
              formQualifiedName := some formQualifiedName
              bucketName := bucketName
              userSessionPackageName := userSessionPackageName
              gradingRulesetPackageName :=
                (givenText command.gradingRulesetPackageName).getD
                  definition.gradingRulesetPackageName
              userSessionType :=
                (givenText command.userSessionType).getD definition.userSessionType
              userSessionDefaultRegion :=
                command.userSessionDefaultRegion.or definition.userSessionDefaultRegion
              gradingRulesUri := command.gradingRulesUri.or definition.gradingRulesUri
              maxDurationMinutes :=
                command.maxDurationMinutes.getD definition.maxDurationMinutes
              warmPoolDepth := command.warmPoolDepth.getD definition.warmPoolDepth
              bootLeadTimeMinutes := command.bootLeadTimeMinutes.or definition.bootLeadTimeMinutes
              labReuseEnabled := command.labReuseEnabled.getD definition.labReuseEnabled }
          (.ok newDefinition, definitions.save newDefinition)

/-- The license type that is not one, if there is any. -/
def invalidLicense (command : UpdateLabletDefinitionCommand) : Option String :=
  (command.licenseAffinity.getD []).find? fun lt => (LicenseType.parse lt).isNone

/-- `UpdateLabletDefinitionCommandHandler.handle_async`. -/
def updateLabletDefinition (newId : NewId) (definitions : DefinitionRepository)
    (command : UpdateLabletDefinitionCommand) :
    OperationResult LabletDefinitionState × DefinitionRepository :=
  if strip command.definitionId = "" then (.badRequest "Definition ID is required", definitions)
  else
    match definitions.find command.definitionId with
    | none => (.notFound command.definitionId, definitions)
    | some definition =>
        if definition.status = .deprecated then
          (.badRequest "Cannot update a deprecated definition", definitions)
        else
          match invalidLicense command with
          | some lt =>
              (.badRequest ("Invalid license type '" ++ lt ++ "'. Must be one of: "
                ++ ", ".intercalate (licenseTypes.map LicenseType.value)), definitions)
          | none =>
              if definition.status = .active then
                handleVersionBump newId definitions definition command
              else handleInPlaceUpdate definitions definition command

end CmlCloudManager.ControlPlane
