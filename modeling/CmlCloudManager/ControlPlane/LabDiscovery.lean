/-
  CmlCloudManager.ControlPlane.LabDiscovery
  ─────────────────────────────────────────
  **THE COMMANDS THAT WRITE LAB RECORDS.**

  `DiscoverLabRecords` goes through what a scan of CML reported, entry by entry:
  a lab that is known is updated and saved, a new one is added, and known labs the
  scan did not report are orphaned at the end.  The records are read once, at the
  start, and live in memory until then: an entry that raises is skipped, but what
  it did to its record is still there for the next entry of the same lab.

  `UpdateLabRecordStatus` and `CompleteLabAction` change one record each.

  Nothing an entry of a scan holds has been checked, and here too every value is a
  JSON value; the collection keeps a log of the versions that were written to it.
-/
import CmlCloudManager.ControlPlane.LabRecord

namespace CmlCloudManager.ControlPlane

open CmlCloudManager.Foundation CmlCloudManager.Pipeline

/-! ## §1. The collection. -/

/-- The lab record repository. -/
abbrev LabStore : Type := Repository LabRecord fun lab => lab.id

/-- A version of a record, what it replaced, and whether CML was its source. -/
structure LabWrite where
  previous : Option LabRecord
  record : LabRecord
  sync : Bool

/-- The collection, with all that was written to it. -/
structure LabRecords where
  store : LabStore
  writes : List LabWrite

namespace LabRecords

/-- The empty collection. -/
def empty : LabRecords := ⟨Repository.empty, []⟩

/-- `update_async`. -/
def save (db : LabRecords) (lab : LabRecord) (sync : Bool) : LabRecords where
  store := db.store.save lab
  writes := db.writes ++ [⟨db.store.find lab.id, lab, sync⟩]

/-- `add_async`: the id must be new. -/
def add (db : LabRecords) (lab : LabRecord) : Except String LabRecords :=
  match db.store.find lab.id with
  | some _ => .error "E11000 duplicate key error"
  | none => .ok (db.save lab false)

/-- `get_all_by_worker_async`. -/
def allByWorker (db : LabRecords) (workerId : String) : List LabRecord :=
  db.store.docs.values.filter fun lab => lab.workerId == workerId

end LabRecords

/-! ## §2. One entry of a scan. -/

/-- The keys of `tags`; `none` where they have no hash or are no dict. -/
def nodeTags (node : List (String × Value)) : Option (Dict Value.HashKey Value) :=
  match Dict.lookup "tags" node with
  | none => some Dict.empty
  | some (.list tags) =>
      match tags.mapM Value.hashKey with
      | .error _ => none
      | .ok keys => some (Dict.ofList (keys.map fun key => (key, .str "")))
  | some (.dict tags) => some (Dict.ofList (tags.map fun e => (.text e.1, e.2)))
  | some tags => if tags.pyEq (.str "") then some Dict.empty else none

/-- The node an item of `nodes` describes; `none` where it raises. -/
def topologyNode : Value → Option TopologyNode
  | .dict node =>
      (nodeTags node).map fun tags =>
        { label := (Dict.lookup "label" node).getD (.str "")
          nodeDefinition := (Dict.lookup "node_definition" node).getD (.str "")
          x := (Dict.lookup "x" node).getD (.int 0)
          y := (Dict.lookup "y" node).getD (.int 0)
          tags := tags }
  | _ => none

/-- The link an item of `links` describes; `none` where it raises. -/
def topologyLink : Value → Option TopologyLink
  | .dict link =>
      some
        { sourceNode := (Dict.lookup "node_a" link).getD (.str "")
          sourceInterface := (Dict.lookup "interface_a" link).getD (.str "")
          targetNode := (Dict.lookup "node_b" link).getD (.str "")
          targetInterface := (Dict.lookup "interface_b" link).getD (.str "")
          label := (Dict.lookup "label" link).getD .none }
  | _ => none

/-- All the items, or `none` if one of them raises. -/
def readItems {α : Type} (read : Value → Option α) (data : Value) : Option (List α) :=
  match data.items with
  | .error _ => none
  | .ok items => items.mapM read

/-- The topology that the entry describes, if it describes one and none of it raises. -/
def discoveredTopology (data : Payload) : Option LabTopologySpec :=
  let nodesData := data.getD "nodes" (.list [])
  let linksData := data.getD "links" (.list [])
  if !nodesData.truthy && !linksData.truthy then none
  else
    match readItems topologyNode nodesData, readItems topologyLink linksData with
    | some nodes, some links => some { nodes := nodes, links := links }
    | _, _ => none

/-- The YAML that the entry holds, if any. -/
def discoveredYaml (data : Payload) : Option Value :=
  let rawYaml := (data.get "topology_yaml").orElse (data.get "raw_yaml")
  if rawYaml.truthy then some rawYaml else none

/-- The time the entry says the lab was modified at: what is no text has no `tzinfo`, and a text
that is no date counts as now. -/
def parseModifiedAt (py : PythonLibrary) (now : Int) (data : Payload) :
    Except String (Option Int) :=
  match data.get "modified_at" with
  | .str raw => .ok (if raw = "" then none else some ((py.fromIsoFormat raw).getD now))
  | raw =>
      if raw.truthy then .error ("'" ++ raw.typeName ++ "' object has no attribute 'tzinfo'")
      else .ok none

/-- The arguments `_update_existing_record` passes to `update_from_cml`. -/
def CmlLab.ofScan (data : Payload) (cmlModifiedAt : Option Int) : CmlLab where
  title := data.getD "title" (.str "")
  description := data.get "description"
  notes := data.get "notes"
  state := data.getD "state" (.str "")
  ownerUsername := data.get "owner"
  ownerFullname := data.get "owner_fullname"
  nodeCount := data.getD "node_count" (.int 0)
  linkCount := data.getD "link_count" (.int 0)
  groups := data.get "groups"
  cmlModifiedAt := cmlModifiedAt
  workerIp := data.get "worker_ip"

namespace LabRecord

/-- The definition the lab came from, unless it is known. -/
def linkToDefinition (lab : LabRecord) (incoming : Value) : LabRecord :=
  if incoming.truthy && !lab.basedOnDefinitionId.truthy then
    { lab with basedOnDefinitionId := incoming }
  else lab

/-- The mapped status, set without an entry. -/
def setMappedStatus (lab : LabRecord) : Option LabRecordStatus → LabRecord
  | none => lab
  | some mapped => if mapped ≠ lab.status then lab.inStatus mapped else lab

/-- `_apply_topology_from_discovery`. -/
def applyTopologyFromDiscovery (lab : LabRecord) (data : Payload) : LabRecord :=
  match discoveredTopology data with
  | none => lab
  | some spec => { lab with topologySpec := some spec }

/-- The topology change detection. -/
def applyYaml (py : PythonLibrary) (now : Int) (lab : LabRecord) (data : Payload) : LabRecord :=
  match discoveredYaml data with
  | none => lab
  | some rawYaml => lab.updateTopology py now { rawYaml := rawYaml } (some "Discovery sync")

/-- A lab that was orphaned has been found again. -/
def unorphan (lab : LabRecord) : LabRecord :=
  if lab.status = .orphaned then lab.inStatus .discovered else lab

/-- The rest of `_update_existing_record`, after `update_from_cml`. -/
def settleScan (py : PythonLibrary) (now : Int) (lab : LabRecord) (data : Payload) :
    Attempt Bool :=
  match mappedStatus (data.getD "state" (.str "")) with
  | .error e => ⟨lab, .error e⟩
  | .ok mapped =>
      let lab := (lab.setMappedStatus mapped).applyTopologyFromDiscovery data
      let updated := lab.applyYaml py now data
      ⟨updated.unorphan, .ok (decide (lab.revision < updated.revision))⟩

/-- `_update_existing_record`: whether a topology revision was created. -/
def updateExistingRecord (py : PythonLibrary) (now : Int) (lab : LabRecord) (data : Payload) :
    Attempt Bool :=
  let lab := lab.linkToDefinition (data.get "based_on_definition_id")
  match parseModifiedAt py now data with
  | .error e => ⟨lab, .error e⟩
  | .ok cmlModifiedAt =>
      (lab.updateFromCml now (CmlLab.ofScan data cmlModifiedAt)).andThen fun lab _ =>
        lab.settleScan py now data

end LabRecord

/-- `_create_discovered_record`; an id that is no text is recorded as its text. -/
def createDiscoveredRecord (newId : NewId) (now : Int) (workerId : String) (data : Payload) :
    Except String LabRecord :=
  match LabRecord.discover newId now (data.get "id").pyStr workerId (data.get "title")
      (data.get "description") (data.getD "state" (.str "DEFINED_ON_CORE")) (data.get "owner")
      (data.getD "node_count" (.int 0)) (data.getD "link_count" (.int 0)) (data.get "notes")
      (data.get "worker_ip") (data.get "based_on_definition_id") with
  | .error e => .error e
  | .ok record => .ok (record.applyTopologyFromDiscovery data)

/-! ## §3. `DiscoverLabRecords`. -/

/-- An entry of a scan, with the time it is processed at and the id it gets if it is new. -/
structure ScannedLab where
  data : Payload
  now : Int
  newId : NewId

/-- `DiscoverLabRecordsCommand`; its source is only logged. -/
structure DiscoverLabRecordsCommand where
  workerId : String
  labs : List ScannedLab
  partialScan : Bool := false

/-- `DiscoverLabRecordsResult`. -/
structure DiscoverLabRecordsResult where
  synced : Nat
  discovered : Nat
  updated : Nat
  orphaned : Nat
  revisionsCreated : Nat
  errors : List String

/-- A discovery under way. -/
structure Discovery where
  db : LabRecords
  existingByLabId : Dict Value.HashKey LabRecord
  seenLabIds : List Value.HashKey := []
  errors : List String := []
  discoveredCount : Nat := 0
  updatedCount : Nat := 0
  orphanedCount : Nat := 0
  revisionsCreatedCount : Nat := 0
  raised : Option String := none

namespace Discovery

/-- The records of the worker are read. -/
def start (db : LabRecords) (workerId : String) : Discovery where
  db := db
  existingByLabId :=
    Dict.ofList ((db.allByWorker workerId).map fun lab => (.text lab.labId, lab))

/-- A lab that raised. -/
def failed (d : Discovery) (message : String) : Discovery :=
  { d with errors := d.errors ++ [message] }

/-- A lab that the scan reported. -/
def saw (d : Discovery) (key : Value.HashKey) : Discovery :=
  { d with seenLabIds := key :: d.seenLabIds }

/-- An entry whose lab is known. -/
def processExisting (py : PythonLibrary) (d : Discovery) (lab : ScannedLab) (key : Value.HashKey)
    (existing : LabRecord) : Discovery :=
  let update := existing.updateExistingRecord py lab.now lab.data
  let d := { d with existingByLabId := d.existingByLabId.set key update.lab }
  match update.result with
  | .error e => d.failed ("Failed to process lab " ++ (lab.data.get "id").pyStr ++ ": " ++ e)
  | .ok revisionCreated =>
      { d with
        db := d.db.save update.lab true
        updatedCount := d.updatedCount + 1
        revisionsCreatedCount := d.revisionsCreatedCount + (if revisionCreated then 1 else 0) }

/-- An entry whose lab is new. -/
def processNew (workerId : String) (d : Discovery) (lab : ScannedLab) : Discovery :=
  match (createDiscoveredRecord lab.newId lab.now workerId lab.data).bind d.db.add with
  | .error e => d.failed ("Failed to process lab " ++ (lab.data.get "id").pyStr ++ ": " ++ e)
  | .ok db => { d with db := db, discoveredCount := d.discoveredCount + 1 }

/-- One entry of the scan.  An id without a hash ends the command. -/
def processLab (py : PythonLibrary) (workerId : String) (d : Discovery) (lab : ScannedLab) :
    Discovery :=
  if d.raised.isSome then d
  else if !(lab.data.get "id").truthy then d.failed "Lab missing 'id' field"
  else
    match (lab.data.get "id").hashKey with
    | .error e => { d with raised := some e }
    | .ok key =>
        match d.existingByLabId.get? key with
        | some existing => (d.saw key).processExisting py lab key existing
        | none => (d.saw key).processNew workerId lab

/-- A known lab the scan may have missed. -/
def sweepLab (now : Int) (d : Discovery) (entry : Value.HashKey × LabRecord) : Discovery :=
  if entry.1 ∈ d.seenLabIds then d
  else if entry.2.isTerminal || entry.2.status == .orphaned then d
  else
    match entry.2.markOrphaned now with
    | .error e => d.failed ("Failed to orphan lab " ++ entry.2.labId ++ ": " ++ e)
    | .ok orphaned =>
        { d with db := d.db.save orphaned false, orphanedCount := d.orphanedCount + 1 }

/-- The orphan sweep, which a partial scan skips. -/
def sweep (now : Int) (partialScan : Bool) (d : Discovery) : Discovery :=
  if partialScan then d else d.existingByLabId.entries.foldl (sweepLab now) d

end Discovery

/-- `DiscoverLabRecordsCommandHandler`. -/
def discoverLabRecords (py : PythonLibrary) (now : Int) (db : LabRecords)
    (command : DiscoverLabRecordsCommand) :
    Except String (OperationResult DiscoverLabRecordsResult) × LabRecords :=
  if command.workerId = "" then (.ok (.badRequest "worker_id is required"), db)
  else
    let d := command.labs.foldl (Discovery.processLab py command.workerId)
      (Discovery.start db command.workerId)
    match d.raised with
    | some e => (.error e, d.db)
    | none =>
        let d := d.sweep now command.partialScan
        (.ok (.ok
          { synced := command.labs.length
            discovered := d.discoveredCount
            updated := d.updatedCount
            orphaned := d.orphanedCount
            revisionsCreated := d.revisionsCreatedCount
            errors := d.errors }), d.db)

/-! ## §4. `UpdateLabRecordStatus`. -/

/-- `UpdateLabRecordStatusCommand`. -/
structure UpdateLabRecordStatusCommand where
  labRecordId : String
  newStatus : Option String := none
  cmlState : Option String := none
  errorMessage : Option String := none

/-- The answer of `UpdateLabRecordStatus`. -/
structure LabStatusUpdate where
  labRecordId : String
  status : LabRecordStatus
  previousStatus : Option LabRecordStatus := none
  message : String

/-- `_resolve_status`. -/
def resolveStatus (newStatus cmlState : Option String) : Option LabRecordStatus :=
  match givenText newStatus with
  | some newStatus => LabRecordStatus.parse newStatus
  | none =>
      match givenText cmlState with
      | some cmlState => cmlStateToLabRecordStatus.get? cmlState
      | none => none

/-- `_apply_transition`. -/
def applyStatusTransition (now : Int) (lab : LabRecord) (targetStatus : LabRecordStatus)
    (errorMessage : Option String) : Except String LabRecord :=
  match targetStatus with
  | .booted => lab.markStarted now
  | .stopped => lab.markStopped now
  | .wiped => lab.markWiped now
  | .deleted => lab.markDeleted now
  | .archived => lab.markArchived now
  | .error => lab.markError now ((givenText errorMessage).getD "Unknown error")
  | .orphaned => lab.markOrphaned now
  | _ => .error ("No handler for transition to " ++ targetStatus.value)

/-- The raw CML state, if the request has one. -/
def LabRecord.withCmlState (lab : LabRecord) (cmlState : Option String) : LabRecord :=
  match givenText cmlState with
  | some cmlState => { lab with state := .str cmlState }
  | none => lab

/-- `UpdateLabRecordStatusCommandHandler`; the status it calls the previous one is the new one. -/
def updateLabRecordStatus (now : Int) (db : LabRecords) (request : UpdateLabRecordStatusCommand) :
    OperationResult LabStatusUpdate × LabRecords :=
  match db.store.find request.labRecordId with
  | none => (.notFound request.labRecordId, db)
  | some lab =>
      match resolveStatus request.newStatus request.cmlState with
      | none =>
          (.badRequest ("Either new_status or cml_state must be provided. new_status="
            ++ request.newStatus.getD "None" ++ ", cml_state=" ++ request.cmlState.getD "None"),
            db)
      | some targetStatus =>
          if lab.status = targetStatus then
            (.ok ⟨request.labRecordId, targetStatus, none,
              "Already in target status, no change"⟩, db)
          else
            match applyStatusTransition now lab targetStatus request.errorMessage with
            | .error e => (.badRequest e, db)
            | .ok lab =>
                (.ok ⟨request.labRecordId, targetStatus, some lab.status,
                  "Status updated to " ++ targetStatus.value⟩,
                  db.save (lab.withCmlState request.cmlState) false)

/-! ## §5. `CompleteLabAction`. -/

/-- `CompleteLabActionCommand`. -/
structure CompleteLabActionCommand where
  labRecordId : String
  action : Option String := none
  cmlState : Option String := none

/-- The answer of `CompleteLabAction`. -/
structure LabActionCompletion where
  labRecordId : String
  action : String
  status : LabRecordStatus
  runId : Option NewId
  message : String

/-- `_ACTION_TO_STATUS`. -/
def actionToStatus : Dict String LabRecordStatus :=
  Dict.ofList [("start", .booted), ("stop", .stopped), ("wipe", .wiped), ("delete", .deleted)]

/-- `_apply_transition`; a transition that is refused changes nothing. -/
def applyActionTransition (now : Int) (lab : LabRecord) (targetStatus : Option LabRecordStatus) :
    Except String LabRecord :=
  match targetStatus with
  | some .booted => lab.markStarted now
  | some .stopped => lab.markStopped now
  | some .wiped => lab.markWiped now
  | some .deleted => lab.markDeleted now
  | _ => .ok lab

/-- The most recent run that is open, closed. -/
def closeLastOpen (stoppedAt : Int) (stopReason finalState : String) :
    List LabRunRecord → Option (List LabRunRecord × NewId)
  | [] => none
  | run :: rest =>
      match closeLastOpen stoppedAt stopReason finalState rest with
      | some (closed, runId) => some (run :: closed, runId)
      | none =>
          if run.stoppedAt = none then
            let closed :=
              { run with
                stoppedAt := some stoppedAt
                durationSeconds := some (wholeSeconds (stoppedAt - run.startedAt))
                stopReason := some stopReason
                finalState := some finalState }
            some (closed :: rest, run.runId)
          else none

namespace LabRecord

/-- `_close_active_run`. -/
def closeActiveRun (lab : LabRecord) (stoppedAt : Int) (stopReason finalState : String) :
    LabRecord × Option NewId :=
  match closeLastOpen stoppedAt stopReason finalState lab.runHistory with
  | none => (lab, none)
  | some (runHistory, runId) => ({ lab with runHistory := runHistory }, some runId)

/-- The last run, if it is open. -/
def activeRun (lab : LabRecord) : Option LabRunRecord :=
  match lab.runHistory.getLast? with
  | some run => if run.stoppedAt = none then some run else none
  | none => none

/-- `_record_run`. -/
def recordActionRun (lab : LabRecord) (now : Int) (newRunId : NewId) (action : String)
    (targetStatus : Option LabRecordStatus) : LabRecord × Option NewId :=
  if action = "start" then
    match lab.activeRun with
    | some run => (lab, some run.runId)
    | none =>
        (lab.recordRun { runId := newRunId, startedAt := now, startedBy := "user" },
          some newRunId)
  else if action = "stop" ∨ action = "wipe" ∨ action = "delete" then
    lab.closeActiveRun now action ((targetStatus.map LabRecordStatus.value).getD action)
  else (lab, none)

end LabRecord

/-- `CompleteLabActionCommandHandler`. -/
def completeLabAction (now : Int) (newRunId : NewId) (db : LabRecords)
    (request : CompleteLabActionCommand) : OperationResult LabActionCompletion × LabRecords :=
  match db.store.find request.labRecordId with
  | none => (.notFound request.labRecordId, db)
  | some lab =>
      match (givenText request.action).or (givenText lab.pendingAction) with
      | none =>
          (.badRequest ("LabRecord " ++ request.labRecordId
            ++ " has no pending action to complete"), db)
      | some action =>
          let targetStatus := actionToStatus.get? action
          let cleared := lab.completePendingAction
          let moved :=
            match applyActionTransition now cleared targetStatus with
            | .ok moved => moved
            | .error _ => cleared
          let (recorded, runId) := moved.recordActionRun now newRunId action targetStatus
          (.ok ⟨request.labRecordId, action, recorded.status, runId,
            "Action '" ++ action ++ "' completed"⟩,
            db.save (recorded.withCmlState request.cmlState) false)

end CmlCloudManager.ControlPlane
