/-
  CmlCloudManager.ControlPlane.LabRecord
  ──────────────────────────────────────
  **A LAB AS THE CONTROL PLANE RECORDS IT.**

  The status of a lab has three writers.  The `mark_*` operations check the pair
  against the transition table and enter it in the history; a synchronisation from
  CML maps the raw state to a status, enters the change in the history and asks the
  table nothing; every other operation leaves the status alone.  One lemma for each
  writer says what it does to status and history, and `perform_effect` which writer
  an operation is.

  Everything CML sends is an unchecked JSON value, so a synchronisation can raise
  half way (a raw state that is a list has no hash): what it left of the record
  stays in memory, and `Attempt` carries it beside the exception.
-/
import CmlCloudManager.Foundation.Trail
import CmlCloudManager.ControlPlane.SessionCommands

namespace CmlCloudManager.ControlPlane

open CmlCloudManager.Foundation CmlCloudManager.Pipeline

/-! ## §1. The state machine. -/

/-- The members of `LabRecordStatus`. -/
def labRecordStatuses : List LabRecordStatus :=
  [.discovered, .importing, .defined, .starting, .queued, .booted, .paused, .stopping, .stopped,
    .wiping, .wiped, .deleting, .deleted, .archived, .error, .orphaned]

/-- `LabRecordStatus(value.lower())`. -/
def LabRecordStatus.parse (value : String) : Option LabRecordStatus :=
  labRecordStatuses.find? fun s => s.value == value.toLower

/-- `CML_STATE_TO_LAB_RECORD_STATUS`. -/
def cmlStateToLabRecordStatus : Dict String LabRecordStatus :=
  Dict.ofList [("DEFINED_ON_CORE", .defined), ("STARTED", .booted), ("BOOTED", .booted),
    ("STOPPED", .stopped), ("QUEUED", .queued)]

/-- `CML_STATE_TO_LAB_RECORD_STATUS.get(state)`: a state without a hash raises. -/
def mappedStatus (state : Value) : Except String (Option LabRecordStatus) :=
  match state.hashKey with
  | .error e => .error e
  | .ok (.text raw) => .ok (cmlStateToLabRecordStatus.get? raw)
  | .ok _ => .ok none

/-- `LAB_RECORD_VALID_TRANSITIONS`. -/
def labRecordValidTransitions : LabRecordStatus → List LabRecordStatus
  | .discovered =>
      [.importing, .defined, .starting, .booted, .stopped, .wiped, .deleted, .orphaned]
  | .importing => [.defined, .error, .orphaned]
  | .defined => [.starting, .booted, .wiping, .deleting, .deleted, .orphaned, .error]
  | .starting => [.queued, .booted, .stopped, .error, .orphaned]
  | .queued => [.booted, .stopped, .error, .orphaned]
  | .booted => [.stopping, .stopped, .paused, .wiped, .error, .orphaned]
  | .paused => [.starting, .booted, .stopping, .stopped, .error, .orphaned]
  | .stopping => [.stopped, .error, .orphaned]
  | .stopped =>
      [.starting, .booted, .wiping, .wiped, .deleting, .deleted, .archived, .orphaned, .error]
  | .wiping => [.wiped, .error, .orphaned]
  | .wiped => [.starting, .booted, .deleting, .deleted, .archived, .orphaned]
  | .deleting => [.deleted, .error, .orphaned]
  | .deleted => []
  | .archived => []
  | .error =>
      [.starting, .stopping, .wiping, .wiped, .deleting, .deleted, .defined, .orphaned]
  | .orphaned => [.deleted, .archived]

/-- DELETED and ARCHIVED. -/
def LabRecordStatus.isTerminal (status : LabRecordStatus) : Bool :=
  status == .deleted || status == .archived

/-- The terminal statuses are those the table leads nowhere from. -/
theorem isTerminal_iff (status : LabRecordStatus) :
    status.isTerminal = true ↔ labRecordValidTransitions status = [] := by
  cases status <;> decide

/-- CML never reports a terminal or an orphaned lab. -/
theorem mapped_status {raw : String} {status : LabRecordStatus}
    (h : cmlStateToLabRecordStatus.get? raw = some status) :
    status.isTerminal = false ∧ status ≠ .orphaned := by
  have hmem := (Dict.get?_eq_some_iff _ _ _).mp h
  have hall : ∀ e ∈ cmlStateToLabRecordStatus.entries,
      e.2.isTerminal = false ∧ e.2 ≠ .orphaned := by decide +kernel
  exact hall _ hmem

theorem mappedStatus_some {state : Value} {status : LabRecordStatus}
    (h : mappedStatus state = .ok (some status)) :
    status.isTerminal = false ∧ status ≠ .orphaned := by
  unfold mappedStatus at h
  split at h
  next => cases h
  next raw hraw => exact mapped_status (Except.ok.inj h)
  next => cases h

/-! ## §2. Value objects. -/

/-- `StateTransition`, an entry of the lab's `state_history`. -/
structure LabTransition where
  fromState : Option LabRecordStatus
  toState : LabRecordStatus
  transitionedAt : Int
  triggeredBy : String := "system"
  reason : Option String := none

/-- `TopologyNode`, with what the discovery found in its fields. -/
structure TopologyNode where
  label : Value
  nodeDefinition : Value
  x : Value := .int 0
  y : Value := .int 0
  tags : Dict Value.HashKey Value := Dict.empty
  configuration : Option String := none

/-- `TopologyLink`. -/
structure TopologyLink where
  sourceNode : Value
  sourceInterface : Value
  targetNode : Value
  targetInterface : Value
  label : Value := .none

/-- `LabTopologySpec`. -/
structure LabTopologySpec where
  version : Option String := none
  title : Option String := none
  description : Option String := none
  nodes : List TopologyNode := []
  links : List TopologyLink := []
  annotations : List Payload := []
  metadata : Payload := Dict.empty
  rawYaml : Value := .none

/-- What the checksum of a topology is computed from. -/
structure CanonicalTopology where
  version : Option String
  nodes : List (Value × Value × Dict Value.HashKey Value)
  links : List (Value × Value × Value × Value)

namespace LabTopologySpec

/-- `node_count`. -/
def nodeCount (spec : LabTopologySpec) : Nat := spec.nodes.length

/-- `link_count`. -/
def linkCount (spec : LabTopologySpec) : Nat := spec.links.length

/-- The dict that `checksum` digests: the raw YAML and the annotations are not in it. -/
def canonical (spec : LabTopologySpec) : CanonicalTopology where
  version := spec.version
  nodes :=
    (spec.nodes.mergeSort fun a b => decide (¬ b.label.pyStr < a.label.pyStr)).map fun n =>
      (n.label, n.nodeDefinition, n.tags)
  links :=
    (spec.links.mergeSort fun a b =>
      decide (a.sourceNode.pyStr < b.sourceNode.pyStr
        ∨ a.sourceNode.pyStr = b.sourceNode.pyStr
          ∧ ¬ b.sourceInterface.pyStr < a.sourceInterface.pyStr)).map fun l =>
      (l.sourceNode, l.sourceInterface, l.targetNode, l.targetInterface)

end LabTopologySpec

/-- The two functions of Python's library that the records rest on. -/
structure PythonLibrary where
  /-- `datetime.fromisoformat`, read as UTC where the text names no zone. -/
  fromIsoFormat : String → Option Int
  /-- `sha256(json.dumps(canonical)).hexdigest()`. -/
  sha256 : CanonicalTopology → NewId

/-- `LabTopologySpec.checksum`. -/
def LabTopologySpec.checksum (py : PythonLibrary) (spec : LabTopologySpec) : String :=
  py.sha256 spec.canonical

/-- `LabRevision`. -/
structure LabRevision where
  revision : Nat
  topologyChecksum : String
  createdAt : Int
  createdBy : String := "system"
  changeSummary : Option String := none
  nodeCount : Value
  linkCount : Value
  revision_positive : 1 ≤ revision
  checksum_given : topologyChecksum ≠ ""

/-- `RuntimeBinding.for_cml`; only what it refuses has an effect here. -/
def RuntimeBinding.forCml (workerId labId : String) : Except String Unit :=
  if workerId = "" then .error "worker_id cannot be empty"
  else if labId = "" then .error "runtime_lab_id cannot be empty"
  else .ok ()

/-- `int(delta.total_seconds())` of a difference in microseconds: towards zero.  It is exact also
from 2 ^ 34 seconds on (544 years), where the float of `total_seconds()` may round a last
microsecond up to the next second. -/
def wholeSeconds (delta : Int) : Int := delta.tdiv 1000000

/-- `LabRunRecord`. -/
structure LabRunRecord where
  runId : NewId
  startedAt : Int
  stoppedAt : Option Int := none
  durationSeconds : Option Int := none
  startedBy : String := "system"
  stopReason : Option String := none
  labletSessionId : Option String := none
  finalState : Option String := none

/-! ## §3. The record. -/

theorem labRecord1_given : "lab-record-1" ≠ "" := by decide

/-- `LabRecordState`, with the fields that are known from CML, the history and the topology. -/
structure LabRecord extends LabRecordState where
  workerIp : Value := .none
  title : Value := .none
  description : Value := .none
  notes : Value := .none
  state : Value := .none
  ownerUsername : Value := .none
  ownerFullname : Value := .none
  nodeCount : Value := .int 0
  linkCount : Value := .int 0
  groups : Value := .list []
  stateHistory : List LabTransition := []
  topologySpec : Option LabTopologySpec := none
  externalInterfaces : List Payload := []
  revision : Nat := 1
  revisionHistory : List LabRevision := []
  runHistory : List LabRunRecord := []
  pipelineRunHistory : List Payload := []
  source : String := "discovery"
  basedOnDefinitionId : Value := .none
  cmlCreatedAt : Option Int := none
  modifiedAt : Option Int := none
  lastSyncedAt : Option Int := none
  firstSeenAt : Option Int := none
  allocatedPorts : Option Ports := none
  isClean : Bool := true
  pendingActionAt : Option Int := none
  pendingActionError : Option String := none
  lastError : Option String := none
  lastErrorAt : Option Int := none
  previousStatusBeforeError : Option LabRecordStatus := none

/-- What a call that may raise makes of the record, and its result. -/
structure Attempt (α : Type) where
  lab : LabRecord
  result : Except String α

/-- Go on with the record, unless the call raised. -/
def Attempt.andThen {α β : Type} (a : Attempt α) (next : LabRecord → α → Attempt β) : Attempt β :=
  match a.result with
  | .error e => ⟨a.lab, .error e⟩
  | .ok x => next a.lab x

/-- A sequence that goes through ends as its second part does. -/
theorem Attempt.andThen_ok {α β : Type} {a : Attempt α} {next : LabRecord → α → Attempt β} {y : β}
    (h : (a.andThen next).result = .ok y) :
    ∃ x, a.result = .ok x ∧ a.andThen next = next a.lab x := by
  unfold Attempt.andThen at h ⊢
  cases hresult : a.result with
  | error e =>
      rw [hresult] at h
      cases h
  | ok x => exact ⟨x, rfl, rfl⟩

/-- What CML says about a lab: the arguments of `create` and `update_from_cml`. -/
structure CmlLab where
  title : Value
  description : Value
  notes : Value
  state : Value
  ownerUsername : Value
  ownerFullname : Value
  nodeCount : Value
  linkCount : Value
  groups : Value
  cmlModifiedAt : Option Int
  workerIp : Value := .none

namespace LabRecord

/-- `max_run_history_size`. -/
def maxRunHistorySize : Nat := 50

/-- The last entries of a bounded history. -/
def bounded {α : Type} (history : List α) : List α :=
  history.drop (history.length - maxRunHistorySize)

/-- `_record_transition`. -/
def recordTransition (lab : LabRecord) (now : Int) (fromState : Option LabRecordStatus)
    (toState : LabRecordStatus) (triggeredBy : String) (reason : Option String) : LabRecord :=
  { lab with
    stateHistory := lab.stateHistory ++ [⟨fromState, toState, now, triggeredBy, reason⟩] }

/-- The record in a status, without an entry. -/
def inStatus (lab : LabRecord) (status : LabRecordStatus) : LabRecord :=
  { lab with status := status }

/-- What the status handlers have in common: the status and its entry. -/
def moveTo (lab : LabRecord) (now : Int) (target : LabRecordStatus) (triggeredBy reason : String) :
    LabRecord :=
  (lab.inStatus target).recordTransition now (some lab.status) target
    triggeredBy (some reason)

/-! ### Synchronisation from CML. -/

/-- The status CML implies, if any, and an entry when it is a new one. -/
def syncStatus (lab : LabRecord) (now : Int) (target : Option LabRecordStatus) (reason : String) :
    LabRecord :=
  if target.getD lab.status = lab.status then lab
  else lab.moveTo now (target.getD lab.status) "cml-sync" reason

/-- `on(LabStateChangedDomainEvent)`. -/
def onLabStateChanged (lab : LabRecord) (now : Int) (newState : Value) : Attempt Unit :=
  let changed := { lab with state := newState }
  match mappedStatus newState with
  | .error e => ⟨changed, .error e⟩
  | .ok target =>
      ⟨changed.syncStatus now target
        ("CML state changed from '" ++ lab.state.pyStr ++ "' to '" ++ newState.pyStr ++ "'"),
        .ok ()⟩

/-- The fields that an update overwrites. -/
def withCml (lab : LabRecord) (now : Int) (cml : CmlLab) : LabRecord :=
  { lab with
    title := cml.title
    description := cml.description
    notes := cml.notes
    state := cml.state
    ownerUsername := cml.ownerUsername
    ownerFullname := cml.ownerFullname
    nodeCount := cml.nodeCount
    linkCount := cml.linkCount
    groups := cml.groups.orElse (.list [])
    modifiedAt := cml.cmlModifiedAt
    lastSyncedAt := some now }

/-- `on(LabRecordUpdatedDomainEvent)`. -/
def onLabRecordUpdated (lab : LabRecord) (now : Int) (cml : CmlLab) : Attempt Unit :=
  let updated := lab.withCml now cml
  match mappedStatus cml.state with
  | .error e => ⟨updated, .error e⟩
  | .ok target =>
      ⟨updated.syncStatus now target ("Updated from CML state '" ++ cml.state.pyStr ++ "'"),
        .ok ()⟩

/-- The freshness guard: what is stored is as recent as what comes in. -/
def isStale (lab : LabRecord) (cmlModifiedAt : Option Int) : Bool :=
  match cmlModifiedAt, lab.modifiedAt with
  | some incoming, some stored => decide (incoming ≤ stored)
  | _, _ => false

/-- The address of the worker, if it is known. -/
def withWorkerIp (lab : LabRecord) : Value → LabRecord
  | .none => lab
  | workerIp => { lab with workerIp := workerIp }

/-- The two events of an update. -/
def applyCml (lab : LabRecord) (now : Int) (cml : CmlLab) : Attempt Unit :=
  if lab.state.truthy && !lab.state.pyEq cml.state then
    (lab.onLabStateChanged now cml.state).andThen fun lab _ => lab.onLabRecordUpdated now cml
  else lab.onLabRecordUpdated now cml

/-- `update_from_cml`. -/
def updateFromCml (lab : LabRecord) (now : Int) (cml : CmlLab) : Attempt Unit :=
  if lab.isStale cml.cmlModifiedAt then ⟨lab, .ok ()⟩
  else (lab.withWorkerIp cml.workerIp).applyCml now cml

/-! ### Status transitions. -/

/-- `_validate_transition`. -/
def validateTransition (lab : LabRecord) (target : LabRecordStatus) : Except String Unit :=
  if target ∈ labRecordValidTransitions lab.status then .ok ()
  else
    .error ("Invalid LabRecord transition from " ++ lab.status.value ++ " to " ++ target.value)

/-- `_validate_transition`, and then the handler of the event. -/
def guarded (lab : LabRecord) (target : LabRecordStatus) (apply : Except String LabRecord) :
    Except String LabRecord :=
  match lab.validateTransition target with
  | .error e => .error e
  | .ok _ => apply

/-- `on(LabRecordImportedDomainEvent)`. -/
def onLabRecordImported (lab : LabRecord) (now : Int) (labId workerId : String) (title : Value)
    (topologyChecksum importedBy : String) : Attempt Unit :=
  let begun :=
    { lab.inStatus .defined with
      labId := labId
      title := title
      source := "import"
      lastSyncedAt := some now }
  -- the binding and the revision refuse empty texts, when the status is set already
  match RuntimeBinding.forCml workerId labId with
  | .error e => ⟨begun, .error e⟩
  | .ok _ =>
      if h : topologyChecksum = "" then ⟨begun, .error "topology_checksum cannot be empty"⟩
      else
        let imported :=
          { begun with
            revision := 1
            revisionHistory :=
              [{ revision := 1, topologyChecksum := topologyChecksum, createdAt := now,
                 createdBy := importedBy, changeSummary := some "Imported from YAML",
                 nodeCount := lab.nodeCount, linkCount := lab.linkCount,
                 revision_positive := Nat.le_refl 1, checksum_given := h }] }
        ⟨imported.recordTransition now (some lab.status) .defined importedBy
            (some "Lab imported from YAML topology"), .ok ()⟩

/-- `mark_imported`. -/
def markImported (lab : LabRecord) (now : Int) (labId workerId : String) (title : Value)
    (topologyChecksum importedBy : String) : Attempt Unit :=
  match lab.validateTransition .defined with
  | .error e => ⟨lab, .error e⟩
  | .ok _ => lab.onLabRecordImported now labId workerId title topologyChecksum importedBy

/-- `mark_started`. -/
def markStarted (lab : LabRecord) (now : Int) : Except String LabRecord :=
  let started := { lab with state := .str "BOOTED" }
  lab.guarded .booted (.ok (started.moveTo now .booted "system" "Lab started (all nodes running)"))

/-- `mark_stopped`. -/
def markStopped (lab : LabRecord) (now : Int) : Except String LabRecord :=
  let stopped := { lab with state := .str "STOPPED" }
  lab.guarded .stopped (.ok (stopped.moveTo now .stopped "system" "Lab stopped"))

/-- `mark_wiped`. -/
def markWiped (lab : LabRecord) (now : Int) : Except String LabRecord :=
  let wiped := { lab with state := .str "WIPED", isClean := true }
  lab.guarded .wiped (.ok (wiped.moveTo now .wiped "system" "Lab wiped (nodes reset)"))

/-- `mark_deleted`. -/
def markDeleted (lab : LabRecord) (now : Int) : Except String LabRecord :=
  let deleted := { lab with state := .str "DELETED" }
  lab.guarded .deleted (.ok (deleted.moveTo now .deleted "system" "Lab deleted from runtime"))

/-- `mark_archived`. -/
def markArchived (lab : LabRecord) (now : Int) : Except String LabRecord :=
  let archived := { lab with state := .str "ARCHIVED" }
  lab.guarded .archived (.ok (archived.moveTo now .archived "system" "Lab archived"))

/-- `mark_error`. -/
def markError (lab : LabRecord) (now : Int) (errorMessage : String) : Except String LabRecord :=
  let failed :=
    { lab with
      previousStatusBeforeError := some lab.status
      lastError := some errorMessage
      lastErrorAt := some now
      state := .str "ERROR" }
  lab.guarded .error (.ok (failed.moveTo now .error "system" errorMessage))

/-- `mark_orphaned`. -/
def markOrphaned (lab : LabRecord) (now : Int) : Except String LabRecord :=
  let orphaned := { lab with state := .str "ORPHANED" }
  lab.guarded .orphaned
    (.ok (orphaned.moveTo now .orphaned "system" "Lab orphaned (worker terminated)"))

/-! ### Topology, ports, binding, runs and pending action. -/

/-- `update_topology`. -/
def updateTopology (py : PythonLibrary) (lab : LabRecord) (now : Int) (spec : LabTopologySpec)
    (changeSummary : Option String) : LabRecord :=
  let newChecksum := spec.checksum py
  let currentChecksum := lab.revisionHistory.getLast?.map LabRevision.topologyChecksum
  let applied :=
    { lab with
      topologySpec := some spec
      nodeCount := .int spec.nodeCount
      linkCount := .int spec.linkCount }
  if currentChecksum = some newChecksum then applied
  else
    { applied with
      revision := lab.revision + 1
      revisionHistory := lab.revisionHistory ++
        [{ revision := lab.revision + 1, topologyChecksum := newChecksum, createdAt := now,
           changeSummary := changeSummary, nodeCount := .int spec.nodeCount,
           linkCount := .int spec.linkCount, revision_positive := Nat.le_add_left ..,
           checksum_given := (py.sha256 spec.canonical).2 }] }

/-- `set_external_interfaces`. -/
def setExternalInterfaces (lab : LabRecord) (interfaces : List Payload) : LabRecord :=
  { lab with externalInterfaces := interfaces }

/-- `allocate_ports`. -/
def allocatePorts (lab : LabRecord) (allocatedPorts : Ports) : LabRecord :=
  { lab with allocatedPorts := some allocatedPorts }

/-- `bind_to_lablet`. -/
def bindToLablet (lab : LabRecord) (labletSessionId bindingId : String) : LabRecord :=
  { lab with
    toLabRecordState := lab.toLabRecordState.bindToLablet labletSessionId bindingId
    isClean := false }

/-- `unbind_from_lablet`. -/
def unbindFromLablet (lab : LabRecord) (bindingId : String) : LabRecord :=
  { lab with toLabRecordState := lab.toLabRecordState.unbindFromLablet bindingId }

/-- `record_run`. -/
def recordRun (lab : LabRecord) (run : LabRunRecord) : LabRecord :=
  { lab with runHistory := bounded (lab.runHistory ++ [run]) }

/-- `append_pipeline_run`. -/
def appendPipelineRun (lab : LabRecord) (pipelineRun : Payload) : LabRecord :=
  { lab with pipelineRunHistory := bounded (lab.pipelineRunHistory ++ [pipelineRun]) }

/-- `on(LabActionRequestedDomainEvent)`. -/
def requestAction (lab : LabRecord) (now : Int) (action : String) : LabRecord :=
  { lab with
    pendingAction := some action
    pendingActionAt := some now
    pendingActionError := none }

/-- `request_start`. -/
def requestStart (lab : LabRecord) (now : Int) : LabRecord := lab.requestAction now "start"

/-- `request_stop`. -/
def requestStop (lab : LabRecord) (now : Int) : LabRecord := lab.requestAction now "stop"

/-- `request_wipe`. -/
def requestWipe (lab : LabRecord) (now : Int) : LabRecord := lab.requestAction now "wipe"

/-- `request_delete`. -/
def requestDelete (lab : LabRecord) (now : Int) : LabRecord := lab.requestAction now "delete"

/-- The pending action is over; nothing happens without one. -/
def dropPendingAction (lab : LabRecord) (error : Option String) : LabRecord :=
  match givenText lab.pendingAction with
  | none => lab
  | some _ =>
      { lab with pendingAction := none, pendingActionAt := none, pendingActionError := error }

/-- `complete_pending_action`. -/
def completePendingAction (lab : LabRecord) : LabRecord := lab.dropPendingAction none

/-- `fail_pending_action`. -/
def failPendingAction (lab : LabRecord) (errorMessage : String) : LabRecord :=
  lab.dropPendingAction (some errorMessage)

/-- `clear_pending_action`. -/
def clearPendingAction (lab : LabRecord) : LabRecord := lab.dropPendingAction none

/-! ### Factories. -/

/-- `create`, with `on(LabRecordCreatedDomainEvent)`. -/
def create (newId : NewId) (now : Int) (labId workerId : String) (cml : CmlLab)
    (cmlCreatedAt : Option Int) : Except String LabRecord :=
  match mappedStatus cml.state with
  | .error e => .error e
  | .ok target =>
      match RuntimeBinding.forCml workerId labId with
      | .error e => .error e
      | .ok _ =>
          let status := target.getD .discovered
          let created : LabRecord :=
            { id := newId
              id_given := newId.given
              workerId := workerId
              labId := labId
              status := status
              title := cml.title
              description := cml.description
              notes := cml.notes
              state := cml.state
              ownerUsername := cml.ownerUsername
              ownerFullname := cml.ownerFullname
              nodeCount := cml.nodeCount
              linkCount := cml.linkCount
              groups := cml.groups.orElse (.list [])
              cmlCreatedAt := cmlCreatedAt
              modifiedAt := cml.cmlModifiedAt
              firstSeenAt := some now
              lastSyncedAt := some now }
          .ok (created.recordTransition now none status "system"
            (some "Lab record created from CML data"))

/-- `discover`, with `on(LabRecordDiscoveredDomainEvent)`. -/
def discover (newId : NewId) (now : Int) (labId workerId : String)
    (title description state ownerUsername nodeCount linkCount notes workerIp
      basedOnDefinitionId : Value) : Except String LabRecord :=
  match RuntimeBinding.forCml workerId labId with
  | .error e => .error e
  | .ok _ =>
      let discovered : LabRecord :=
        { id := newId
          id_given := newId.given
          workerId := workerId
          labId := labId
          status := .discovered
          title := title
          description := description
          notes := notes
          state := state
          ownerUsername := ownerUsername
          nodeCount := nodeCount
          linkCount := linkCount
          workerIp := workerIp
          firstSeenAt := some now
          lastSyncedAt := some now
          basedOnDefinitionId := basedOnDefinitionId }
      .ok (discovered.recordTransition now none .discovered "system"
        (some "Lab discovered on worker"))

/-- `on(LabRecordClonedDomainEvent)`. -/
def onLabRecordCloned (lab : LabRecord) (now : Int) : LabRecord :=
  let cloned := { lab with source := "clone", state := .str "DEFINED_ON_CORE" }
  cloned.moveTo now .defined "system" "Lab cloned"

/-- The record that `CloneLabRecordCommand` makes of a record that is not terminal. -/
def clone (newId : NewId) (now : Int) (cloneLabId : NewId) (title : Option String)
    (source : LabRecord) : Except String LabRecord :=
  if source.status.isTerminal then
    .error ("Cannot clone lab in terminal state: " ++ source.status.value)
  else
    let cloneTitle :=
      match givenText title with
      | some title => title
      | none => "Clone of " ++ (source.title.orElse (.str source.labId)).pyStr
    match discover newId now cloneLabId source.workerId (.str cloneTitle) source.description
        (.str "DEFINED_ON_CORE") source.ownerUsername source.nodeCount source.linkCount .none .none
        .none with
    | .error e => .error e
    | .ok clone =>
        .ok { clone.onLabRecordCloned now with
          topologySpec := source.topologySpec
          externalInterfaces := source.externalInterfaces
          basedOnDefinitionId := source.basedOnDefinitionId }

end LabRecord

/-! ## §4. Operations. -/

/-- The operations of the aggregate, with their arguments. -/
inductive LabOperation where
  | updateFromCml (cml : CmlLab)
  | markImported (labId workerId : String) (title : Value) (topologyChecksum importedBy : String)
  | markStarted
  | markStopped
  | markWiped
  | markDeleted
  | markArchived
  | markError (errorMessage : String)
  | markOrphaned
  | updateTopology (spec : LabTopologySpec) (changeSummary : Option String)
  | setExternalInterfaces (interfaces : List Payload)
  | allocatePorts (allocatedPorts : Ports)
  | bindToLablet (labletSessionId bindingId : String)
  | unbindFromLablet (bindingId : String)
  | recordRun (run : LabRunRecord)
  | appendPipelineRun (pipelineRun : Payload)
  | requestStart
  | requestStop
  | requestWipe
  | requestDelete
  | completePendingAction
  | failPendingAction (errorMessage : String)
  | clearPendingAction

/-- The operation is a synchronisation. -/
def LabOperation.isSync : LabOperation → Bool
  | .updateFromCml _ => true
  | _ => false

/-- The operation does all of its work or none. -/
def LabOperation.isPlain : LabOperation → Bool
  | .updateFromCml _ => false
  | .markImported .. => false
  | _ => true

/-- The outcome of an operation that raises before it does anything. -/
def LabRecord.orRaise (lab : LabRecord) : Except String LabRecord → Attempt Unit
  | .error e => ⟨lab, .error e⟩
  | .ok lab => ⟨lab, .ok ()⟩

/-- Call an operation. -/
def LabRecord.perform (py : PythonLibrary) (now : Int) (lab : LabRecord) :
    LabOperation → Attempt Unit
  | .updateFromCml cml => lab.updateFromCml now cml
  | .markImported labId workerId title topologyChecksum importedBy =>
      lab.markImported now labId workerId title topologyChecksum importedBy
  | .markStarted => lab.orRaise (lab.markStarted now)
  | .markStopped => lab.orRaise (lab.markStopped now)
  | .markWiped => lab.orRaise (lab.markWiped now)
  | .markDeleted => lab.orRaise (lab.markDeleted now)
  | .markArchived => lab.orRaise (lab.markArchived now)
  | .markError errorMessage => lab.orRaise (lab.markError now errorMessage)
  | .markOrphaned => lab.orRaise (lab.markOrphaned now)
  | .updateTopology spec changeSummary => ⟨lab.updateTopology py now spec changeSummary, .ok ()⟩
  | .setExternalInterfaces interfaces => ⟨lab.setExternalInterfaces interfaces, .ok ()⟩
  | .allocatePorts allocatedPorts => ⟨lab.allocatePorts allocatedPorts, .ok ()⟩
  | .bindToLablet labletSessionId bindingId =>
      ⟨lab.bindToLablet labletSessionId bindingId, .ok ()⟩
  | .unbindFromLablet bindingId => ⟨lab.unbindFromLablet bindingId, .ok ()⟩
  | .recordRun run => ⟨lab.recordRun run, .ok ()⟩
  | .appendPipelineRun pipelineRun => ⟨lab.appendPipelineRun pipelineRun, .ok ()⟩
  | .requestStart => ⟨lab.requestStart now, .ok ()⟩
  | .requestStop => ⟨lab.requestStop now, .ok ()⟩
  | .requestWipe => ⟨lab.requestWipe now, .ok ()⟩
  | .requestDelete => ⟨lab.requestDelete now, .ok ()⟩
  | .completePendingAction => ⟨lab.completePendingAction, .ok ()⟩
  | .failPendingAction errorMessage => ⟨lab.failPendingAction errorMessage, .ok ()⟩
  | .clearPendingAction => ⟨lab.clearPendingAction, .ok ()⟩

/-! ## §5. What an operation does to status and history. -/

namespace LabRecord

/-- The history is the trail of the status. -/
def Audited (lab : LabRecord) : Prop :=
  Trail LabTransition.fromState LabTransition.toState lab.stateHistory lab.status

/-- Neither status nor history changed. -/
structure Unmoved (lab lab' : LabRecord) : Prop where
  id : lab'.id = lab.id
  status : lab'.status = lab.status
  history : lab'.stateHistory = lab.stateHistory

/-- The status changed, and an entry says so. -/
structure Entered (lab lab' : LabRecord) (target : LabRecordStatus) : Prop where
  id : lab'.id = lab.id
  status : lab'.status = target
  history : ∃ entry, lab'.stateHistory = lab.stateHistory ++ [entry]
    ∧ entry.fromState = some lab.status ∧ entry.toState = target

/-- The status is another one, and no entry says so. -/
structure Restated (lab lab' : LabRecord) (status : LabRecordStatus) : Prop where
  id : lab'.id = lab.id
  status : lab'.status = status
  history : lab'.stateHistory = lab.stateHistory

/-- The status is the one that CML implies, if any. -/
def Synced (lab lab' : LabRecord) (target : Option LabRecordStatus) : Prop :=
  if target.getD lab.status = lab.status then Unmoved lab lab'
  else Entered lab lab' (target.getD lab.status)

variable {lab lab' lab'' : LabRecord} {target : LabRecordStatus}

theorem Unmoved.refl (lab : LabRecord) : Unmoved lab lab := ⟨rfl, rfl, rfl⟩

theorem Unmoved.trans (h : Unmoved lab lab') (h' : Unmoved lab' lab'') : Unmoved lab lab'' :=
  ⟨h'.id.trans h.id, h'.status.trans h.status, h'.history.trans h.history⟩

theorem Unmoved.audited (h : Unmoved lab lab') (ha : Audited lab) : Audited lab' := by
  unfold Audited
  rw [h.status, h.history]
  exact ha

theorem Entered.audited (h : Entered lab lab' target) (ha : Audited lab) : Audited lab' := by
  obtain ⟨entry, hhistory, hsource, htarget⟩ := h.history
  unfold Audited
  rw [hhistory, h.status, ← htarget]
  exact ha.snoc hsource

theorem Unmoved.entered (h : Unmoved lab lab') (h' : Entered lab' lab'' target) :
    Entered lab lab'' target := by
  obtain ⟨entry, hhistory, hsource, htarget⟩ := h'.history
  refine ⟨h'.id.trans h.id, h'.status, entry, ?_, ?_, htarget⟩
  · rw [hhistory, h.history]
  · rw [hsource, h.status]

theorem Entered.unmoved (h : Entered lab lab' target) (h' : Unmoved lab' lab'') :
    Entered lab lab'' target := by
  obtain ⟨entry, hhistory, hsource, htarget⟩ := h.history
  exact ⟨h'.id.trans h.id, h'.status.trans h.status, entry, h'.history.trans hhistory, hsource,
    htarget⟩

theorem moveTo_entered (lab : LabRecord) (now : Int) (target : LabRecordStatus)
    (triggeredBy reason : String) : Entered lab (lab.moveTo now target triggeredBy reason) target :=
  ⟨rfl, rfl, _, rfl, rfl, rfl⟩

theorem synced_none : Synced lab lab' none ↔ Unmoved lab lab' := by
  unfold Synced
  rw [if_pos (Option.getD_none ..)]

theorem Synced.status {target : Option LabRecordStatus} (h : Synced lab lab' target) :
    lab'.status = target.getD lab.status := by
  unfold Synced at h
  split at h
  next heq => rw [h.status, heq]
  next => exact h.status

theorem Synced.id {target : Option LabRecordStatus} (h : Synced lab lab' target) :
    lab'.id = lab.id := by
  unfold Synced at h
  split at h
  next => exact h.id
  next => exact h.id

theorem Synced.audited {target : Option LabRecordStatus} (h : Synced lab lab' target)
    (ha : Audited lab) : Audited lab' := by
  unfold Synced at h
  split at h
  next => exact h.audited ha
  next => exact h.audited ha

theorem Unmoved.synced {target : Option LabRecordStatus} (h : Unmoved lab lab')
    (h' : Synced lab' lab'' target) : Synced lab lab'' target := by
  unfold Synced at h' ⊢
  rw [h.status] at h'
  split at h'
  next heq =>
    rw [if_pos heq]
    exact h.trans h'
  next hne =>
    rw [if_neg hne]
    exact h.entered h'

/-- What comes after a synchronisation and leaves the status alone. -/
theorem Synced.unmoved {target : Option LabRecordStatus} (h : Synced lab lab' target)
    (h' : Unmoved lab' lab'') : Synced lab lab'' target := by
  unfold Synced at h ⊢
  split at h
  next heq =>
    rw [if_pos heq]
    exact h.trans h'
  next hne =>
    rw [if_neg hne]
    exact h.unmoved h'

/-- The second of two synchronisations with one state changes nothing. -/
theorem Synced.trans {target : Option LabRecordStatus} (h : Synced lab lab' target)
    (h' : Synced lab' lab'' target) : Synced lab lab'' target := by
  have hsettled : target.getD lab'.status = lab'.status := by
    rw [h.status]
    cases target <;> rfl
  have hunmoved : Unmoved lab' lab'' := by
    unfold Synced at h'
    rw [if_pos hsettled] at h'
    exact h'
  exact h.unmoved hunmoved

theorem syncStatus_synced (lab : LabRecord) (now : Int) (target : Option LabRecordStatus)
    (reason : String) : Synced lab (lab.syncStatus now target reason) target := by
  unfold Synced syncStatus
  split
  next => exact Unmoved.refl lab
  next => exact moveTo_entered ..

/-- A call that synchronises: it raises with the mapping, and leaves status and history then. -/
def Syncs (lab : LabRecord) (state : Value) (a : Attempt Unit) : Prop :=
  match mappedStatus state with
  | .error e => Unmoved lab a.lab ∧ a.result = .error e
  | .ok target => Synced lab a.lab target ∧ a.result = .ok ()

theorem onLabStateChanged_syncs (lab : LabRecord) (now : Int) (newState : Value) :
    Syncs lab newState (lab.onLabStateChanged now newState) := by
  have hchanged : Unmoved lab { lab with state := newState } := ⟨rfl, rfl, rfl⟩
  unfold Syncs onLabStateChanged
  cases mappedStatus newState with
  | error e => exact ⟨hchanged, rfl⟩
  | ok target => exact ⟨hchanged.synced (syncStatus_synced ..), rfl⟩

theorem onLabRecordUpdated_syncs (lab : LabRecord) (now : Int) (cml : CmlLab) :
    Syncs lab cml.state (lab.onLabRecordUpdated now cml) := by
  have hupdated : Unmoved lab (lab.withCml now cml) := ⟨rfl, rfl, rfl⟩
  unfold Syncs onLabRecordUpdated
  cases mappedStatus cml.state with
  | error e => exact ⟨hupdated, rfl⟩
  | ok target => exact ⟨hupdated.synced (syncStatus_synced ..), rfl⟩

theorem Syncs.andThen {state : Value} {a : Attempt Unit} {next : LabRecord → Unit → Attempt Unit}
    (h : Syncs lab state a) (hnext : ∀ lab' u, Syncs lab' state (next lab' u)) :
    Syncs lab state (a.andThen next) := by
  unfold Syncs at h ⊢
  unfold Attempt.andThen
  cases hmapped : mappedStatus state with
  | error e =>
      rw [hmapped] at h
      obtain ⟨hunmoved, hresult⟩ := h
      rw [hresult]
      exact ⟨hunmoved, rfl⟩
  | ok target =>
      rw [hmapped] at h
      obtain ⟨hsynced, hresult⟩ := h
      rw [hresult]
      have h' := hnext a.lab ()
      unfold Syncs at h'
      rw [hmapped] at h'
      exact ⟨hsynced.trans h'.1, h'.2⟩

theorem Unmoved.syncs {state : Value} {a : Attempt Unit} (h : Unmoved lab lab')
    (h' : Syncs lab' state a) : Syncs lab state a := by
  unfold Syncs at h' ⊢
  split at h'
  next => exact ⟨h.trans h'.1, h'.2⟩
  next => exact ⟨h.synced h'.1, h'.2⟩

theorem updateFromCml_stale {now : Int} {cml : CmlLab} (h : lab.isStale cml.cmlModifiedAt = true) :
    lab.updateFromCml now cml = ⟨lab, .ok ()⟩ := by
  unfold updateFromCml
  rw [if_pos h]

theorem applyCml_syncs (lab : LabRecord) (now : Int) (cml : CmlLab) :
    Syncs lab cml.state (lab.applyCml now cml) := by
  unfold applyCml
  split
  next => exact (onLabStateChanged_syncs ..).andThen fun lab' _ => onLabRecordUpdated_syncs ..
  next => exact onLabRecordUpdated_syncs ..

theorem withWorkerIp_unmoved (lab : LabRecord) (workerIp : Value) :
    Unmoved lab (lab.withWorkerIp workerIp) := by
  cases workerIp <;> exact ⟨rfl, rfl, rfl⟩

theorem updateFromCml_fresh (now : Int) (cml : CmlLab)
    (h : lab.isStale cml.cmlModifiedAt = false) :
    Syncs lab cml.state (lab.updateFromCml now cml) := by
  unfold updateFromCml
  rw [if_neg (by rw [h]; exact Bool.false_ne_true)]
  exact (withWorkerIp_unmoved lab cml.workerIp).syncs (applyCml_syncs ..)

theorem validateTransition_ok (h : target ∈ labRecordValidTransitions lab.status) :
    lab.validateTransition target = .ok () := if_pos h

theorem validateTransition_error (h : target ∉ labRecordValidTransitions lab.status) :
    ∃ e, lab.validateTransition target = .error e := ⟨_, if_neg h⟩

theorem guarded_ok {apply : Except String LabRecord} (h : lab.guarded target apply = .ok lab') :
    target ∈ labRecordValidTransitions lab.status ∧ apply = .ok lab' := by
  unfold guarded at h
  by_cases hmem : target ∈ labRecordValidTransitions lab.status
  · rw [validateTransition_ok hmem] at h
    exact ⟨hmem, h⟩
  · obtain ⟨e, he⟩ := validateTransition_error hmem
    rw [he] at h
    cases h

/-- A guarded handler that ends in `moveTo`. -/
theorem guarded_moveTo {prepared : LabRecord} {now : Int} {triggeredBy reason : String}
    (h : lab.guarded target (.ok (prepared.moveTo now target triggeredBy reason)) = .ok lab')
    (hprepared : Unmoved lab prepared) :
    target ∈ labRecordValidTransitions lab.status ∧ Entered lab lab' target := by
  obtain ⟨hmem, hlab⟩ := guarded_ok h
  obtain rfl := Except.ok.inj hlab
  exact ⟨hmem, hprepared.entered (moveTo_entered ..)⟩

/-- The texts of an import are given. -/
def ImportGiven (labId workerId topologyChecksum : String) : Prop :=
  workerId ≠ "" ∧ labId ≠ "" ∧ topologyChecksum ≠ ""

theorem forCml_given {workerId labId : String} {u : Unit}
    (h : RuntimeBinding.forCml workerId labId = .ok u) : workerId ≠ "" ∧ labId ≠ "" := by
  unfold RuntimeBinding.forCml at h
  split at h
  next => cases h
  next hworker =>
    split at h
    next => cases h
    next hlab => exact ⟨hworker, hlab⟩

theorem forCml_refused {workerId labId e : String}
    (h : RuntimeBinding.forCml workerId labId = .error e) : workerId = "" ∨ labId = "" := by
  unfold RuntimeBinding.forCml at h
  split at h
  next hworker => exact .inl hworker
  next =>
    split at h
    next hlab => exact .inr hlab
    next => cases h

/-- What the handler of an import does: all of it, or the status and the title alone. -/
theorem onLabRecordImported_cases (lab : LabRecord) (now : Int) (labId workerId : String)
    (title : Value) (topologyChecksum importedBy : String) :
    (ImportGiven labId workerId topologyChecksum
        ∧ Entered lab
          (lab.onLabRecordImported now labId workerId title topologyChecksum importedBy).lab
          .defined)
      ∨ ¬ImportGiven labId workerId topologyChecksum
        ∧ Restated lab
          (lab.onLabRecordImported now labId workerId title topologyChecksum importedBy).lab
          .defined := by
  unfold onLabRecordImported ImportGiven
  dsimp only
  split
  next e hrefused =>
    refine .inr ⟨?_, rfl, rfl, rfl⟩
    rintro ⟨hworker, hlab, -⟩
    exact (forCml_refused hrefused).elim hworker hlab
  next u hbound =>
    obtain ⟨hworker, hlab⟩ := forCml_given hbound
    split
    next hempty => exact .inr ⟨fun h => h.2.2 hempty, rfl, rfl, rfl⟩
    next hgiven => exact .inl ⟨⟨hworker, hlab, hgiven⟩, rfl, rfl, _, rfl, rfl, rfl⟩

theorem updateTopology_unmoved (py : PythonLibrary) (lab : LabRecord) (now : Int)
    (spec : LabTopologySpec) (changeSummary : Option String) :
    Unmoved lab (lab.updateTopology py now spec changeSummary) := by
  unfold updateTopology
  dsimp only
  split <;> exact ⟨rfl, rfl, rfl⟩

theorem unbindFromLablet_unmoved (lab : LabRecord) (bindingId : String) :
    Unmoved lab (lab.unbindFromLablet bindingId) := by
  unfold unbindFromLablet LabRecordState.unbindFromLablet
  split <;> exact ⟨rfl, rfl, rfl⟩

theorem dropPendingAction_unmoved (lab : LabRecord) (error : Option String) :
    Unmoved lab (lab.dropPendingAction error) := by
  unfold dropPendingAction
  split <;> exact ⟨rfl, rfl, rfl⟩

end LabRecord

/-- **What an operation does to status and history**, also where it raises. -/
inductive LabEffect (lab lab' : LabRecord) : LabOperation → Prop where
  | kept {operation : LabOperation} (plain : operation.isPlain = true)
      (unmoved : lab.Unmoved lab') : LabEffect lab lab' operation
  | moved {operation : LabOperation} {target : LabRecordStatus} (plain : operation.isPlain = true)
      (allowed : target ∈ labRecordValidTransitions lab.status)
      (entered : lab.Entered lab' target) : LabEffect lab lab' operation
  | stale {cml : CmlLab} (stale : lab.isStale cml.cmlModifiedAt = true)
      (unmoved : lab.Unmoved lab') : LabEffect lab lab' (.updateFromCml cml)
  | unmapped {cml : CmlLab} {e : String} (unmapped : mappedStatus cml.state = .error e)
      (unmoved : lab.Unmoved lab') : LabEffect lab lab' (.updateFromCml cml)
  | synced {cml : CmlLab} {target : Option LabRecordStatus}
      (fresh : lab.isStale cml.cmlModifiedAt = false)
      (mapped : mappedStatus cml.state = .ok target)
      (synced : lab.Synced lab' target) : LabEffect lab lab' (.updateFromCml cml)
  | refused {labId workerId topologyChecksum importedBy : String} {title : Value}
      (refused : .defined ∉ labRecordValidTransitions lab.status) (unmoved : lab.Unmoved lab') :
      LabEffect lab lab' (.markImported labId workerId title topologyChecksum importedBy)
  | begun {labId workerId topologyChecksum importedBy : String} {title : Value}
      (allowed : .defined ∈ labRecordValidTransitions lab.status)
      (missing : ¬LabRecord.ImportGiven labId workerId topologyChecksum)
      (restated : lab.Restated lab' .defined) :
      LabEffect lab lab' (.markImported labId workerId title topologyChecksum importedBy)
  | imported {labId workerId topologyChecksum importedBy : String} {title : Value}
      (allowed : .defined ∈ labRecordValidTransitions lab.status)
      (given : LabRecord.ImportGiven labId workerId topologyChecksum)
      (entered : lab.Entered lab' .defined) :
      LabEffect lab lab' (.markImported labId workerId title topologyChecksum importedBy)

namespace LabRecord

variable {lab : LabRecord} {operation : LabOperation}

/-- A guarded transition is made or refused. -/
theorem guarded_effect {target : LabRecordStatus} {prepared : LabRecord} {now : Int}
    {triggeredBy reason : String} (hplain : operation.isPlain = true)
    (hprepared : lab.Unmoved prepared) :
    LabEffect lab
      (lab.orRaise (lab.guarded target
        (.ok (prepared.moveTo now target triggeredBy reason)))).lab operation := by
  cases hguarded : lab.guarded target (.ok (prepared.moveTo now target triggeredBy reason)) with
  | error e => exact .kept hplain (Unmoved.refl lab)
  | ok lab' =>
      obtain ⟨hmem, hentered⟩ := guarded_moveTo hguarded hprepared
      exact .moved hplain hmem hentered

/-- What a synchronisation does; a stale report is dropped. -/
theorem updateFromCml_effect (lab : LabRecord) (now : Int) (cml : CmlLab) :
    LabEffect lab (lab.updateFromCml now cml).lab (.updateFromCml cml) := by
  cases hstale : lab.isStale cml.cmlModifiedAt with
  | true =>
      rw [updateFromCml_stale hstale]
      exact .stale hstale (Unmoved.refl lab)
  | false =>
      have hsyncs := updateFromCml_fresh now cml hstale
      unfold Syncs at hsyncs
      cases hmapped : mappedStatus cml.state with
      | error e =>
          rw [hmapped] at hsyncs
          exact .unmapped hmapped hsyncs.1
      | ok target =>
          rw [hmapped] at hsyncs
          exact .synced hstale hmapped hsyncs.1

/-- What an import does. -/
theorem markImported_effect (lab : LabRecord) (now : Int) (labId workerId : String)
    (title : Value) (topologyChecksum importedBy : String) :
    LabEffect lab (lab.markImported now labId workerId title topologyChecksum importedBy).lab
      (.markImported labId workerId title topologyChecksum importedBy) := by
  unfold markImported
  by_cases hmem : .defined ∈ labRecordValidTransitions lab.status
  · rw [validateTransition_ok hmem]
    rcases lab.onLabRecordImported_cases now labId workerId title topologyChecksum importedBy with
      ⟨hgiven, hentered⟩ | ⟨hmissing, hrestated⟩
    · exact .imported hmem hgiven hentered
    · exact .begun hmem hmissing hrestated
  · obtain ⟨e, he⟩ := validateTransition_error hmem
    rw [he]
    exact .refused hmem (Unmoved.refl lab)

theorem perform_effect (py : PythonLibrary) (now : Int) (lab : LabRecord)
    (operation : LabOperation) :
    LabEffect lab (lab.perform py now operation).lab operation := by
  cases operation with
  | updateFromCml cml => exact updateFromCml_effect lab now cml
  | markImported labId workerId title topologyChecksum importedBy =>
      exact markImported_effect ..
  | markStarted
  | markStopped
  | markWiped
  | markDeleted
  | markArchived
  | markError errorMessage
  | markOrphaned => exact guarded_effect rfl ⟨rfl, rfl, rfl⟩
  | updateTopology spec changeSummary => exact .kept rfl (updateTopology_unmoved ..)
  | unbindFromLablet bindingId => exact .kept rfl (unbindFromLablet_unmoved ..)
  | completePendingAction
  | failPendingAction errorMessage
  | clearPendingAction => exact .kept rfl (dropPendingAction_unmoved ..)
  | setExternalInterfaces interfaces
  | allocatePorts allocatedPorts
  | bindToLablet labletSessionId bindingId
  | recordRun run
  | appendPipelineRun pipelineRun
  | requestStart
  | requestStop
  | requestWipe
  | requestDelete => exact .kept rfl ⟨rfl, rfl, rfl⟩

end LabRecord

end CmlCloudManager.ControlPlane
