/-
  CmlCloudManager.Scheduler.SchedulerService
  ──────────────────────────────────────────
  **THE TWO WAYS TO A PLACEMENT.**

  The scheduler places pending sessions on two ways:

    • polling  — `listResources` takes the PENDING sessions of the control plane
                 and drops those whose timeslot starts too far ahead,
    • watching — an event that names a PENDING session leads to a fetch of this
                 one session, and what is fetched is placed.

  The filter of the first way is nowhere on the second: neither the status nor the
  timeslot of the session AS FETCHED is looked at.

  A program below asks the control plane, etcd, the clock, and the caches of the
  service, which other tasks change in between; `respond` says what it is answered.
-/
import CmlCloudManager.Foundation.Replay
import CmlCloudManager.Foundation.Resumption
import CmlCloudManager.Scheduler.CapacityAgreement

namespace CmlCloudManager.Scheduler

open CmlCloudManager.Foundation
open CmlCloudManager.ControlPlane
open CmlCloudManager.Pipeline

/-! ## §1. Sessions, events, settings. -/

/-- `LabletSessionReadModel`, as far as the scheduler reads it.  A timeslot that is not a text
is `none`. -/
structure SessionView where
  id : String
  definitionId : String := ""
  status : String := ""
  timeslotStart : Option String := none
  deriving DecidableEq

/-- The types of an event. -/
inductive EtcdEventType where
  | put
  | delete
  deriving DecidableEq

/-- `EtcdEvent`. -/
structure EtcdEvent where
  type : EtcdEventType
  key : String
  value : Option String := none

/-- The settings of the scheduler. -/
structure SchedulerSettings where
  etcdKeyPrefix : String := "/lcm"
  timeslotLeadTimeMinutes : Int := 35

/-- What the scheduler uses of Python: a datetime read from a text, in microseconds (a text
without a zone is UTC), and floating point numbers. -/
structure SchedulerRuntime (ρ : Type) where
  fromisoformat : String → Option Int
  floats : FloatOps ρ

/-- `datetime.min`, in microseconds. -/
def datetimeMin : Int := -62135596800000000

/-- The lead time in microseconds. -/
def SchedulerSettings.leadTime (settings : SchedulerSettings) : Int :=
  settings.timeslotLeadTimeMinutes * 60 * 1000000

/-! ## §2. Accesses. -/

/-- The accesses of the scheduler. -/
inductive SchedulerRequest where
  | getLabletSession (sessionId : String)
  /-- The sessions in status PENDING. -/
  | getPendingSessions
  /-- The workers in status RUNNING. -/
  | getRunningWorkers
  | getWorkerTemplates
  | getLabletDefinition (definitionId : String)
  | scheduleSession (command : ScheduleLabletSessionCommand)
  | requestScaleUp (template reason : String)
  | getCapacities
  | now
  | monotonic
  | cachedDefinition (definitionId : String)
  | cacheDefinition (definitionId : String) (definition : Option DefinitionDict)
  | clearDefinitions
  | cachedWorkers
  | cacheWorkers (workers : List WorkerDict)
  | cachedCapacities
  | capacitiesFetchedAt
  | cacheCapacities (capacities : EtcdCapacities) (fetchedAt : Int)
  | retryCount (sessionId : String)
  | setRetryCount (sessionId : String) (count : Nat)
  | forgetRetries (sessionId : String)

/-- What they answer; empty data is `none`. -/
abbrev SchedulerRequest.Reply : SchedulerRequest → Type
  | .getLabletSession _ => Except String (Option SessionView)
  | .getPendingSessions => Except String (List SessionView)
  | .getRunningWorkers => Except String (List WorkerDict)
  | .getWorkerTemplates => Except String Unit
  | .getLabletDefinition _ => Except String (Option DefinitionDict)
  | .scheduleSession _ => Except String Unit
  | .requestScaleUp _ _ => Except String Unit
  | .getCapacities => Except String EtcdCapacities
  | .now => Int
  | .monotonic => Int
  | .cachedDefinition _ => Option (Option DefinitionDict)
  | .cachedWorkers => List WorkerDict
  | .cachedCapacities => EtcdCapacities
  | .capacitiesFetchedAt => Int
  | .retryCount _ => Nat
  | _ => Unit

/-- A program over them. -/
abbrev SchedulerCall (α : Type) : Type := Resumption SchedulerRequest SchedulerRequest.Reply α

/-- The surroundings of a program: an answer to every access. -/
abbrev Surroundings : Type := (e : SchedulerRequest) → e.Reply

/-- `ReconciliationResult`. -/
inductive ReconciliationResult where
  | success (message : String)
  | requeue (message : String) (afterSeconds : Option Nat)
  | failed (message : String)
  | skip (message : String)
  deriving DecidableEq

/-! ## §3. Polling. -/

section Service

variable {ρ : Type} (runtime : SchedulerRuntime ρ) (settings : SchedulerSettings)

/-- `_parse_timeslot`. -/
def parseTimeslot (value : Option String) : Option Int := value.bind runtime.fromisoformat

/-- The test of `list_resources`: no timeslot, or one that starts within the lead time. -/
def withinWindow (now : Int) (session : SessionView) : Bool :=
  match parseTimeslot runtime session.timeslotStart with
  | none => true
  | some start => decide (start ≤ now + settings.leadTime)

/-- The filter and the order of `list_resources`: the closest timeslots first. -/
def eligibleSessions (now : Int) (sessions : List SessionView) : List SessionView :=
  let start := fun s : SessionView =>
    (parseTimeslot runtime s.timeslotStart).getD datetimeMin
  (sessions.filter (withinWindow runtime settings now)).mergeSort fun a b =>
    decide (start a ≤ start b)

/-- `_refresh_etcd_capacities`: what was fetched is kept for 30 seconds, and also when the
fetch fails. -/
def refreshEtcdCapacities : SchedulerCall Unit :=
  (Resumption.call SchedulerRequest.monotonic).bind fun now =>
    (Resumption.call SchedulerRequest.capacitiesFetchedAt).bind fun fetchedAt =>
      if now - fetchedAt < 30 then .done ()
      else
        (Resumption.call SchedulerRequest.getCapacities).bind fun
          | .error _ => .done ()
          | .ok capacities => Resumption.call (SchedulerRequest.cacheCapacities capacities now)

/-- `list_resources`. -/
def listResources : SchedulerCall (List SessionView) :=
  (Resumption.call SchedulerRequest.getPendingSessions).bind fun
    | .error _ => .done []
    | .ok sessions =>
        (Resumption.call SchedulerRequest.now).bind fun now =>
          let eligible := eligibleSessions runtime settings now sessions
          (Resumption.call SchedulerRequest.getRunningWorkers).bind fun
            | .error _ => .done []
            | .ok workers =>
                (Resumption.call (SchedulerRequest.cacheWorkers workers)).bind fun _ =>
                  (Resumption.call SchedulerRequest.clearDefinitions).bind fun _ =>
                    -- the templates are cached too; placement does not use them
                    (Resumption.call SchedulerRequest.getWorkerTemplates).bind fun _ =>
                      refreshEtcdCapacities.bind fun _ => .done eligible

/-! ## §4. Watching. -/

/-- `on_watch_event`: the session that a PUT of status PENDING names. -/
def onWatchEvent (event : EtcdEvent) : Except String (Option String) :=
  let keyPrefix := (settings.etcdKeyPrefix.toList.reverse.dropWhile (· == '/')).reverse
  let key := event.key.toList
  let stripped :=
    if !keyPrefix.isEmpty && keyPrefix.isPrefixOf key then key.drop keyPrefix.length else key
  match ((stripChars (· == '/') stripped).splitOn '/').map String.ofList with
  | "sessions" :: sessionId :: "state" :: _ =>
      match event.type, givenText event.value with
      | .put, some value =>
          match LabletSessionStatus.parse value with
          -- the error leaves the watch stream, and the event is lost
          | none => .error ("'" ++ value ++ "' is not a valid LabletSessionStatus")
          | some .pending => .ok (some sessionId)
          | some _ => .ok none
      | _, _ => .ok none
  | _ => .ok none

/-- `fetch_resource_by_id`: any failure on the way counts as not found. -/
def fetchResourceById (resourceId : String) : SchedulerCall (Option SessionView) :=
  (Resumption.call (SchedulerRequest.getLabletSession resourceId)).bind fun
    | .error _ => .done none
    | .ok none => .done none
    | .ok (some session) =>
        (Resumption.call SchedulerRequest.getRunningWorkers).bind fun
          | .error _ => .done none
          | .ok workers =>
              (Resumption.call (SchedulerRequest.cacheWorkers workers)).bind fun _ =>
                refreshEtcdCapacities.bind fun _ => .done (some session)

/-! ## §5. Placement. -/

/-- `_get_definition`. -/
def getDefinition (definitionId : String) : SchedulerCall (Option DefinitionDict) :=
  (Resumption.call (SchedulerRequest.cachedDefinition definitionId)).bind fun
    | some definition => .done definition
    | none =>
        (Resumption.call (SchedulerRequest.getLabletDefinition definitionId)).bind fun
          | .error _ => .done none
          | .ok definition =>
              (Resumption.call (SchedulerRequest.cacheDefinition definitionId definition)).bind
                fun _ => .done definition

/-- The command of an assignment: no ports, and the lab record of the definition. -/
def assignment (sessionId workerId : String) (definition : DefinitionDict) :
    ScheduleLabletSessionCommand where
  sessionId := sessionId
  workerId := workerId
  allocatedPorts := Dict.empty
  labRecordId := definition.labRecordId
  scheduledBy := "resource-scheduler"

/-- `_handle_assign`. -/
def handleAssign (sessionId : String) (decision : SchedulingDecision)
    (definition : DefinitionDict) : SchedulerCall ReconciliationResult :=
  match givenText decision.workerId with
  | none => .done (.failed "Assign decision missing worker_id")
  | some workerId =>
      (Resumption.call
          (SchedulerRequest.scheduleSession (assignment sessionId workerId definition))).bind fun
        | .error raised => .done (.failed raised)
        | .ok _ => .done (.success ("Scheduled to worker " ++ workerId))

/-- `_handle_scale_up`. -/
def handleScaleUp (decision : SchedulingDecision) : SchedulerCall ReconciliationResult :=
  match givenText decision.workerTemplate with
  | none => .done (.failed "Scale-up decision missing worker_template")
  | some template =>
      (Resumption.call (SchedulerRequest.requestScaleUp template decision.reason)).bind fun
        | .error raised => .done (.failed raised)
        | .ok _ => .done (.requeue "Waiting for scale-up" none)

/-- `_execute_decision`. -/
def executeDecision (sessionId : String) (decision : SchedulingDecision)
    (definition : DefinitionDict) : SchedulerCall ReconciliationResult :=
  match decision.action with
  | .assign => handleAssign sessionId decision definition
  | .scaleUp => handleScaleUp decision
  | .wait => .done (.requeue decision.reason none)

/-- The retries of a session are counted; the fifth failure is put off for five minutes. -/
def trackRetries (sessionId : String) (result : ReconciliationResult) :
    SchedulerCall ReconciliationResult :=
  match result with
  | .success _ =>
      (Resumption.call (SchedulerRequest.forgetRetries sessionId)).bind fun _ => .done result
  | .failed _ =>
      (Resumption.call (SchedulerRequest.retryCount sessionId)).bind fun count =>
        let retryCount := count + 1
        (Resumption.call (SchedulerRequest.setRetryCount sessionId retryCount)).bind fun _ =>
          if retryCount ≥ 5 then
            .done (.requeue ("Max retries (" ++ toString retryCount
              ++ ") reached, extended backoff") (some 300))
          else .done result
  | _ => .done result

/-- `reconcile`. -/
def reconcile (session : SessionView) : SchedulerCall ReconciliationResult :=
  (getDefinition session.definitionId).bind fun
    | none => .done (.failed ("Definition " ++ session.definitionId ++ " not found"))
    | some definition =>
        (Resumption.call SchedulerRequest.cachedWorkers).bind fun workers =>
          (Resumption.call SchedulerRequest.cachedCapacities).bind fun capacities =>
            let decision :=
              PlacementEngine.schedule runtime.floats definition workers capacities
            (executeDecision session.id decision definition).bind fun result =>
              trackRetries session.id result

/-- What becomes of one id of a watch-triggered batch. -/
def reconcileWatched (resourceId : String) : SchedulerCall (Option ReconciliationResult) :=
  (fetchResourceById resourceId).bind fun
    | none => .done none
    | some session => (reconcile runtime session).bind fun result => .done (some result)

end Service

end CmlCloudManager.Scheduler
