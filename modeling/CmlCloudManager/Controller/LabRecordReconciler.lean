/-
  CmlCloudManager.Controller.LabRecordReconciler
  ──────────────────────────────────────────────
  **CARRYING OUT A PENDING LAB ACTION.**

  The control plane projects the pending action of a lab to etcd; the reconciler
  watches the key, carries the action out on the worker and reports its end, with
  one call that completes the action or one that fails it.

  An action that raises is tried once more where a fresh look at the worker gives
  another host.  Where it does not, the handler builds the text of the failure from
  an exception that this path never binds: that raises in its turn, and nothing is
  reported.  `reported_once_iff` says that this path, and a worker id that is no key
  of the host cache, are all that comes between an action and its one report.

  Programs ask CML, the control plane and the clock, and may get any answer.
-/
import CmlCloudManager.Foundation.Resumption
import CmlCloudManager.Scheduler.SchedulerService

namespace CmlCloudManager.Controller.LabRecordReconciler

open CmlCloudManager.Foundation
open CmlCloudManager.Pipeline
open CmlCloudManager.ControlPlane (givenText strip)
open CmlCloudManager.Scheduler (EtcdEvent)

/-! ## §1. Labs, actions, settings. -/

/-- `LabState`. -/
inductive LabState where
  | definedOnCore
  | stopped
  | started
  | booted
  | queued
  deriving DecidableEq, Repr

/-- The value of a state. -/
def LabState.value : LabState → String
  | .definedOnCore => "DEFINED_ON_CORE"
  | .stopped => "STOPPED"
  | .started => "STARTED"
  | .booted => "BOOTED"
  | .queued => "QUEUED"

/-- `DELETE_STOP_STATES`. -/
def deleteStopStates : List LabState := [.started, .booted, .queued]

/-- `DELETE_STOPPED_STATES`, sorted by value. -/
def deleteStoppedStates : List LabState := [.definedOnCore, .stopped]

/-- The members of `SUPPORTED_ACTIONS`. -/
inductive SupportedAction where
  | start
  | stop
  | wipe
  | delete
  deriving DecidableEq, Repr

/-- The name of an action. -/
def SupportedAction.name : SupportedAction → String
  | .start => "start"
  | .stop => "stop"
  | .wipe => "wipe"
  | .delete => "delete"

/-- `SUPPORTED_ACTIONS`. -/
def supportedActions : List SupportedAction := [.start, .stop, .wipe, .delete]

/-- What the service reads of its settings. -/
structure Settings where
  etcdKeyPrefix : String := "/lcm"
  usePrivateIpForMonitoring : Bool := false
  labActionTimeoutSeconds : Int := 180
  labActionPollIntervalSeconds : Int := 5

/-- An exception. -/
structure Raised where
  typeName : String
  message : String
  deriving DecidableEq

/-- `_format_exception`. -/
def formatException (error : Raised) : String :=
  let message := strip error.message
  if message ≠ "" then error.typeName ++ ": " ++ message else error.typeName

/-! ## §2. Events. -/

/-- A pending action that is accepted. -/
structure PendingLabAction where
  labRecordId : String
  action : SupportedAction
  labId : Value
  workerId : Value

/-- `_extract_lab_record_id`. -/
def extractLabRecordId (s : Settings) (key : String) : Option String :=
  let keyPrefix := (s.etcdKeyPrefix.toList.reverse.dropWhile (· == '/')).reverse
  let chars := key.toList
  let chars := if keyPrefix.isPrefixOf chars then chars.drop keyPrefix.length else chars
  -- at least three parts, of which the first and the third are fixed
  match ((stripChars (· == '/') chars).splitOn '/').map String.ofList with
  | "lab_records" :: labRecordId :: "pending_action" :: _ => some labRecordId
  | _ => none

/-- `action in SUPPORTED_ACTIONS`. -/
def supported (action : Value) : Except Raised (Option SupportedAction) :=
  match action.hashKey with
  | .error e => .error ⟨"TypeError", e⟩
  | .ok key => .ok (supportedActions.find? fun a => key = .text a.name)

/-- `_handle_watch_event`, as far as the call of `_execute_action`: the action that is accepted.
`loads` is `json.loads`, `none` where it raises. -/
def pendingLabAction (loads : String → Option Value) (s : Settings) (event : EtcdEvent) :
    Except Raised (Option PendingLabAction) :=
  if event.type ≠ .put then .ok none
  else
    match givenText (extractLabRecordId s event.key) with
    | none => .ok none
    | some labRecordId =>
        match (givenText event.value).bind loads with
        | none => .ok none
        | some payload =>
            if ¬ payload.truthy then .ok none
            else
              match payload with
              | .dict entries =>
                  let payload : Payload := Dict.ofList entries
                  let action := payload.get "action"
                  let labId := payload.get "lab_id"
                  let workerId := payload.get "worker_id"
                  if ¬ (action.truthy ∧ labId.truthy ∧ workerId.truthy) then .ok none
                  else
                    match supported action with
                    | .error e => .error e
                    | .ok none => .ok none
                    | .ok (some action) => .ok (some ⟨labRecordId, action, labId, workerId⟩)
              -- the text was JSON, but no object
              | other =>
                  .error ⟨"AttributeError", "'" ++ other.typeName
                    ++ "' object has no attribute 'get'"⟩

/-! ## §3. Calls. -/

/-- The calls of the service.  `polls` asks the clock how many polls of a wait end before its
deadline. -/
inductive Call where
  | getWorker (workerId : Value)
  | startLab (host labId : Value)
  | stopLab (host labId : Value)
  | wipeLab (host labId : Value)
  | deleteLab (host labId : Value)
  | getLab (host labId : Value)
  | getLabState (host labId : Value)
  | polls (timeoutSeconds pollIntervalSeconds : Int)
  | updateLabRecordStatus (labRecordId newStatus cmlState : String)
  | completeLabAction (labRecordId : String) (action : SupportedAction)
  | failLabAction (labRecordId errorMessage : String) (transitionToError : Bool)

/-- What they answer; of a lab, its state. -/
abbrev Call.Reply : Call → Type
  | .getWorker _ => Except Raised Payload
  | .getLab _ _ => Except Raised (Option LabState)
  | .getLabState _ _ => Except Raised (Option LabState)
  | .polls _ _ => Nat
  | _ => Except Raised Unit

/-- A program over them. -/
abbrev Program (α : Type) : Type := Resumption Call Call.Reply α

/-- What was called, and answered. -/
abbrev Trace : Type := List (Resumption.Event Call Call.Reply)

/-- The calls that end a pending action. -/
def Call.isReport : Call → Bool
  | .completeLabAction _ _ => true
  | .failLabAction _ _ _ => true
  | _ => false

/-! ## §4. Carrying out. -/

/-- The loop of a wait, with the number of polls that end before the deadline. -/
def poll {α : Type} (ask : Program (Except Raised (Option α))) (timedOut : Raised) :
    Nat → Program (Except Raised α)
  | 0 =>
      -- asked once more after the last poll before the deadline
      ask.andThen fun
        | some found => .done (.ok found)
        | none => .done (.error timedOut)
  | polls + 1 =>
      ask.andThen fun
        | some found => .done (.ok found)
        | none => poll ask timedOut polls

/-- A wait, until there is what is asked for. -/
def waitFor {α : Type} (s : Settings) (ask : Program (Except Raised (Option α)))
    (message : String) : Program (Except Raised α) :=
  (Resumption.call (Call.polls s.labActionTimeoutSeconds s.labActionPollIntervalSeconds)).bind
    (poll ask ⟨"TimeoutError", message⟩)

section Execution

variable (s : Settings) (host labId : Value) (labRecordId : String)

/-- `_wait_for_lab_state`. -/
def waitForLabState : Program (Except Raised LabState) :=
  waitFor s
    ((Resumption.call (Call.getLabState host labId)).andThen fun state =>
      .done (.ok (state.filter (· ∈ deleteStoppedStates))))
    ("Timed out waiting for lab " ++ labId.pyStr ++ " to reach one of ["
      ++ ", ".intercalate (deleteStoppedStates.map LabState.value) ++ "]")

/-- `_wait_for_lab_absence`. -/
def waitForLabAbsence : Program (Except Raised Unit) :=
  waitFor s
    ((Resumption.call (Call.getLab host labId)).andThen fun lab =>
      .done (.ok (if lab.isNone then some () else none)))
    ("Timed out waiting for lab " ++ labId.pyStr ++ " to be deleted")

/-- `_report_intermediate_status`: a failure is logged. -/
def reportIntermediateStatus (newStatus cmlState : String) : Program (Except Raised Unit) :=
  (Resumption.call (Call.updateLabRecordStatus labRecordId newStatus cmlState)).bind fun _ =>
    .done (.ok ())

/-- `_stop_before_wipe`: the state that is reported is the one before the stop. -/
def stopBeforeWipe : Program (Except Raised Unit) :=
  (Resumption.call (Call.getLabState host labId)).andThen fun state =>
    match state.filter (· ∈ deleteStopStates) with
    | none => .done (.ok ())
    | some state =>
        (Resumption.call (Call.stopLab host labId)).andThen fun _ =>
          (waitForLabState s host labId).andThen fun _ =>
            reportIntermediateStatus labRecordId "stopped" state.value

/-- The stop of a delete, if the lab runs. -/
def stopBeforeDelete (state : LabState) : Program (Except Raised Unit) :=
  if state ∈ deleteStopStates then
    (Resumption.call (Call.stopLab host labId)).andThen fun _ =>
      (waitForLabState s host labId).andThen fun state =>
        reportIntermediateStatus labRecordId "stopped" state.value
  else .done (.ok ())

/-- `_execute_delete_flow`: a lab that is gone is deleted. -/
def executeDeleteFlow : Program (Except Raised Unit) :=
  (Resumption.call (Call.getLab host labId)).andThen fun lab =>
    match lab with
    | none => .done (.ok ())
    | some state =>
        (stopBeforeDelete s host labId labRecordId state).andThen fun _ =>
          (Resumption.call (Call.wipeLab host labId)).andThen fun _ =>
            (reportIntermediateStatus labRecordId "wiped" LabState.definedOnCore.value).andThen
              fun _ =>
                (Resumption.call (Call.deleteLab host labId)).andThen fun _ =>
                  waitForLabAbsence s host labId

/-- `_execute_cml_action`. -/
def executeCmlAction (a : PendingLabAction) : Program (Except Raised Unit) :=
  match a.action with
  | .delete => executeDeleteFlow s host a.labId a.labRecordId
  | .start => Resumption.call (Call.startLab host a.labId)
  | .stop => Resumption.call (Call.stopLab host a.labId)
  | .wipe =>
      (stopBeforeWipe s host a.labId a.labRecordId).andThen fun _ =>
        Resumption.call (Call.wipeLab host a.labId)

end Execution

/-! ## §5. The host of a worker. -/

/-- `_worker_host_cache`. -/
abbrev HostCache : Type := Dict Value.HashKey Value

/-- `_extract_host_from_worker`. -/
def extractHostFromWorker (s : Settings) (worker : Payload) : Except Raised Value :=
  let host :=
    if s.usePrivateIpForMonitoring then (worker.get "private_ip").orElse (worker.get "public_ip")
    else (worker.get "public_ip").orElse (worker.get "private_ip")
  if host.truthy then .ok host
  else
    let endpoint := worker.getD "https_endpoint" (.str "")
    if ¬ endpoint.truthy then .ok .none
    else
      match endpoint with
      | .str endpoint =>
          let address := (endpoint.replace "https://" "").toList.takeWhile (· ≠ ':')
          .ok (if address.isEmpty then .none else .str (String.ofList address))
      | other =>
          .error ⟨"AttributeError", "'" ++ other.typeName ++ "' object has no attribute 'replace'"⟩

/-- The host an answer to `get_worker` gives; every failure counts as no host. -/
def hostOf (s : Settings) (answer : Except Raised Payload) : Value :=
  match answer with
  | .error _ => .none
  | .ok worker =>
      if worker.entries.isEmpty then .none
      else
        match extractHostFromWorker s worker with
        | .ok host => host
        | .error _ => .none

/-- The cache with the host, if there is one. -/
def cacheHost (cache : HostCache) (key : Value.HashKey) (host : Value) : HostCache :=
  if host.truthy then cache.set key host else cache

/-- `_resolve_worker_host`: only a worker id without a hash raises. -/
def resolveWorkerHost (s : Settings) (cache : HostCache) (workerId : Value)
    (forceRefresh : Bool) : Program (Except Raised Value × HostCache) :=
  match workerId.hashKey with
  | .error e =>
      -- `pop` of an empty dict does not hash the key; a host that is found cannot be cached, and
      -- what this raises is caught
      if forceRefresh ∧ cache.entries = [] then
        (Resumption.call (Call.getWorker workerId)).bind fun _ => .done (.ok .none, cache)
      else .done (.error ⟨"TypeError", e⟩, cache)
  | .ok key =>
      let cached := if forceRefresh then none else cache.get? key
      match cached with
      | some host => .done (.ok host, cache)
      | none =>
          let cache := if forceRefresh then cache.erase key else cache
          (Resumption.call (Call.getWorker workerId)).bind fun answer =>
            .done (.ok (hostOf s answer), cacheHost cache key (hostOf s answer))

/-! ## §6. The action and its report. -/

/-- `_report_success`: a failure is logged. -/
def reportSuccess (a : PendingLabAction) : Program Unit :=
  (Resumption.call (Call.completeLabAction a.labRecordId a.action)).bind fun _ => .done ()

/-- `_report_failure`: a failure is logged. -/
def reportFailure (a : PendingLabAction) (errorMessage : String) : Program Unit :=
  (Resumption.call (Call.failLabAction a.labRecordId errorMessage false)).bind fun _ => .done ()

/-- The text of a failed action. -/
def failureText (a : PendingLabAction) (host : Value) (error : Raised) : String :=
  a.action.name ++ " failed for lab=" ++ a.labId.pyStr ++ " on worker=" ++ a.workerId.pyStr
    ++ " (host=" ++ (host.orElse (.str "unresolved")).pyStr ++ "): " ++ formatException error

/-- The `UnboundLocalError` of a variable that nothing was assigned to. -/
def unboundLocalError (name : String) : Raised where
  typeName := "UnboundLocalError"
  message := "cannot access local variable '" ++ name
    ++ "' where it is not associated with a value"

/-- How the handler ends, and the cache it leaves. -/
abbrev Outcome : Type := Except Raised Unit × HostCache

/-- Carry out and report; an action that raises is left to `onError`. -/
def executeAndReport (s : Settings) (cache : HostCache) (a : PendingLabAction) (host : Value)
    (onError : Raised → Program Outcome) : Program Outcome :=
  (executeCmlAction s host a).bind fun
    | .ok () => (reportSuccess a).bind fun _ => .done (.ok (), cache)
    | .error e => onError e

/-- The `except` branch of `_execute_action`: it binds no name to the exception, and `e` is the
exception of the second try only. -/
def retryAction (s : Settings) (cache : HostCache) (a : PendingLabAction) (host : Value) :
    Program Outcome :=
  (resolveWorkerHost s cache a.workerId true).bind fun (refreshedHost, cache) =>
    match refreshedHost with
    | .error e => .done (.error e, cache)
    | .ok refreshedHost =>
        if refreshedHost.truthy ∧ ¬ refreshedHost.pyEq host then
          executeAndReport s cache a refreshedHost fun retryError =>
            (reportFailure a (failureText a refreshedHost retryError)).bind fun _ =>
              .done (.ok (), cache)
        else .done (.error (unboundLocalError "e"), cache)

/-- `_execute_action`. -/
def executeAction (s : Settings) (cache : HostCache) (a : PendingLabAction) : Program Outcome :=
  (resolveWorkerHost s cache a.workerId false).bind fun (host, cache) =>
    match host with
    -- `host` is still what it was initialised with
    | .error _ => retryAction s cache a .none
    | .ok host =>
        if ¬ host.truthy then
          (reportFailure a ("Could not resolve host for worker " ++ a.workerId.pyStr)).bind fun _ =>
            .done (.ok (), cache)
        else executeAndReport s cache a host fun _ => retryAction s cache a host

/-- `_handle_watch_event`. -/
def handleWatchEvent (loads : String → Option Value) (s : Settings) (cache : HostCache)
    (event : EtcdEvent) : Program Outcome :=
  match pendingLabAction loads s event with
  | .error e => .done (.error e, cache)
  | .ok none => .done (.ok (), cache)
  | .ok (some a) => executeAction s cache a

/-! ## §7. What is reported. -/

/-- The reports of a run. -/
def reports (trace : Trace) : List Call := (trace.map (·.1)).filter Call.isReport

/-- A report about an action: its completion, or a failure of its record. -/
def Call.reportsAction (a : PendingLabAction) : Call → Prop
  | .completeLabAction labRecordId action => labRecordId = a.labRecordId ∧ action = a.action
  | .failLabAction labRecordId _ _ => labRecordId = a.labRecordId
  | _ => False

/-- **One report about the action, and no exception.** -/
def ReportedOnce (a : PendingLabAction) (trace : Trace) (outcome : Outcome) : Prop :=
  outcome.1 = .ok () ∧ ∃ report, reports trace = [report] ∧ report.reportsAction a

/-- The runs that strand an action: the worker id has no hash, or the action raises on a host
and the fresh look at the worker gives no other. -/
inductive Stranded (s : Settings) (cache : HostCache) (a : PendingLabAction) : Trace → Prop where
  | noHash (e : String) (unhashable : a.workerId.hashKey = .error e) (trace : Trace) :
      Stranded s cache a trace
  | sameHost (host : Value) (cache' : HostCache) (e : Raised) (resolving executing : Trace)
      (resolved : (resolveWorkerHost s cache a.workerId false).Runs resolving (.ok host, cache'))
      (given : host.truthy = true)
      (raised : (executeCmlAction s host a).Runs executing (.error e))
      (answer : Except Raised Payload)
      (noOther : ¬ ((hostOf s answer).truthy ∧ ¬ (hostOf s answer).pyEq host)) :
      Stranded s cache a (resolving ++ (executing ++ [⟨.getWorker a.workerId, answer⟩]))

section Reports

variable {s : Settings} {cache : HostCache} {a : PendingLabAction} {trace : Trace}

theorem reports_append (trace trace' : Trace) :
    reports (trace ++ trace') = reports trace ++ reports trace' := by
  simp only [reports, List.map_append, List.filter_append]

/-- A program that makes no report leaves none. -/
theorem reports_eq_nil {α : Type} {p : Program α} {x : α}
    (hp : Resumption.Only (fun c => c.isReport = false) p) (h : p.Runs trace x) :
    reports trace = [] := by
  refine List.filter_eq_nil_iff.mpr fun c hc => ?_
  obtain ⟨ev, hev, rfl⟩ := List.mem_map.mp hc
  rw [h.only hp ev hev]
  exact Bool.false_ne_true

/-! ### Carrying out reports nothing. -/

section Quiet

variable {host labId : Value} {labRecordId : String}

/-- No report is among the calls. -/
abbrev Quiet {α : Type} (p : Program α) : Prop := Resumption.Only (fun c => c.isReport = false) p

theorem call_quiet {c : Call} (h : c.isReport = false) : Quiet (Resumption.call c) :=
  Resumption.Only.call h

theorem done_quiet {α : Type} (x : α) : Quiet (.done x) := trivial

theorem poll_quiet {α : Type} {ask : Program (Except Raised (Option α))} (hask : Quiet ask)
    (timedOut : Raised) (polls : Nat) : Quiet (poll ask timedOut polls) := by
  induction polls with
  | zero =>
      refine hask.andThen fun found => ?_
      cases found <;> trivial
  | succ polls ih =>
      refine hask.andThen fun found => ?_
      cases found with
      | none => exact ih
      | some found => trivial

theorem waitFor_quiet {α : Type} {ask : Program (Except Raised (Option α))} (hask : Quiet ask)
    (message : String) : Quiet (waitFor s ask message) :=
  Resumption.Only.bind (call_quiet rfl) fun polls => poll_quiet hask _ polls

theorem waitForLabState_quiet : Quiet (waitForLabState s host labId) :=
  waitFor_quiet (Resumption.Only.andThen (call_quiet rfl) fun _ => done_quiet _) _

theorem waitForLabAbsence_quiet : Quiet (waitForLabAbsence s host labId) :=
  waitFor_quiet (Resumption.Only.andThen (call_quiet rfl) fun _ => done_quiet _) _

theorem reportIntermediateStatus_quiet (newStatus cmlState : String) :
    Quiet (reportIntermediateStatus labRecordId newStatus cmlState) :=
  Resumption.Only.bind (call_quiet rfl) fun _ => done_quiet _

theorem stopBeforeWipe_quiet : Quiet (stopBeforeWipe s host labId labRecordId) := by
  refine Resumption.Only.andThen (call_quiet rfl) fun state => ?_
  split
  next => trivial
  next state' =>
    refine Resumption.Only.andThen (call_quiet rfl) fun _ => ?_
    exact waitForLabState_quiet.andThen fun _ => reportIntermediateStatus_quiet _ _

theorem stopBeforeDelete_quiet (state : LabState) :
    Quiet (stopBeforeDelete s host labId labRecordId state) := by
  unfold stopBeforeDelete
  split
  next =>
    refine Resumption.Only.andThen (call_quiet rfl) fun _ => ?_
    exact waitForLabState_quiet.andThen fun _ => reportIntermediateStatus_quiet _ _
  next => trivial

theorem executeDeleteFlow_quiet : Quiet (executeDeleteFlow s host labId labRecordId) := by
  refine Resumption.Only.andThen (call_quiet rfl) fun lab => ?_
  cases lab with
  | none => trivial
  | some state =>
      refine (stopBeforeDelete_quiet state).andThen fun _ => ?_
      refine Resumption.Only.andThen (call_quiet rfl) fun _ => ?_
      refine (reportIntermediateStatus_quiet _ _).andThen fun _ => ?_
      exact Resumption.Only.andThen (call_quiet rfl) fun _ => waitForLabAbsence_quiet

theorem executeCmlAction_quiet (s : Settings) (host : Value) (a : PendingLabAction) :
    Quiet (executeCmlAction s host a) := by
  unfold executeCmlAction
  cases a.action with
  | start => exact call_quiet rfl
  | stop => exact call_quiet rfl
  | wipe => exact stopBeforeWipe_quiet.andThen fun _ => call_quiet rfl
  | delete => exact executeDeleteFlow_quiet

theorem resolveWorkerHost_quiet (s : Settings) (cache : HostCache) (workerId : Value)
    (forceRefresh : Bool) : Quiet (resolveWorkerHost s cache workerId forceRefresh) := by
  unfold resolveWorkerHost
  cases workerId.hashKey with
  | error e =>
      dsimp only
      split
      next => exact Resumption.Only.bind (call_quiet rfl) fun _ => done_quiet _
      next => trivial
  | ok key =>
      dsimp only
      split
      next => trivial
      next => exact Resumption.Only.bind (call_quiet rfl) fun _ => done_quiet _

end Quiet

/-! ### The parts of a run. -/

/-- Only a worker id without a hash raises. -/
theorem resolveWorkerHost_error {forceRefresh : Bool} {e : Raised} {cache' : HostCache}
    (h : (resolveWorkerHost s cache a.workerId forceRefresh).Runs trace (.error e, cache')) :
    ∃ message, a.workerId.hashKey = .error message := by
  unfold resolveWorkerHost at h
  cases hkey : a.workerId.hashKey with
  | error message => exact ⟨message, rfl⟩
  | ok key =>
      rw [hkey] at h
      dsimp only at h
      split at h
      next => cases h.2
      next =>
        obtain ⟨answer, tr, -, -, hresult⟩ := h
        cases hresult

theorem resolveWorkerHost_noHash {message : String} (h : a.workerId.hashKey = .error message) :
    resolveWorkerHost s cache a.workerId false
      = .done (.error ⟨"TypeError", message⟩, cache) := by
  unfold resolveWorkerHost
  rw [h]
  exact if_neg fun hrefresh => Bool.false_ne_true hrefresh.1

/-- A fresh look asks the control plane. -/
theorem resolveWorkerHost_fresh {key : Value.HashKey} (hkey : a.workerId.hashKey = .ok key)
    {result : Except Raised Value × HostCache} :
    (resolveWorkerHost s cache a.workerId true).Runs trace result ↔
      ∃ answer, trace = [⟨.getWorker a.workerId, answer⟩]
        ∧ result = (.ok (hostOf s answer), cacheHost (cache.erase key) key (hostOf s answer)) := by
  unfold resolveWorkerHost
  rw [hkey]
  constructor
  · rintro ⟨answer, tr, rfl, rfl, rfl⟩
    exact ⟨answer, rfl, rfl⟩
  · rintro ⟨answer, rfl, rfl⟩
    exact ⟨answer, [], rfl, rfl, rfl⟩

/-- The calls of a failure report. -/
theorem reportFailure_runs {errorMessage : String} {outcome : Outcome}
    (h : ((reportFailure a errorMessage).bind fun _ => .done (.ok (), cache)).Runs trace outcome) :
    outcome.1 = .ok () ∧ reports trace = [.failLabAction a.labRecordId errorMessage false] := by
  obtain ⟨answer, tr, rfl, rfl, rfl⟩ := h
  exact ⟨rfl, rfl⟩

theorem reportSuccess_runs {outcome : Outcome}
    (h : ((reportSuccess a).bind fun _ => .done (.ok (), cache)).Runs trace outcome) :
    outcome.1 = .ok () ∧ reports trace = [.completeLabAction a.labRecordId a.action] := by
  obtain ⟨answer, tr, rfl, rfl, rfl⟩ := h
  exact ⟨rfl, rfl⟩

theorem ReportedOnce.of_success {outcome : Outcome}
    (h : outcome.1 = .ok () ∧ reports trace = [.completeLabAction a.labRecordId a.action]) :
    ReportedOnce a trace outcome :=
  ⟨h.1, _, h.2, rfl, rfl⟩

theorem ReportedOnce.of_failure {outcome : Outcome} {errorMessage : String}
    (h : outcome.1 = .ok () ∧ reports trace = [.failLabAction a.labRecordId errorMessage false]) :
    ReportedOnce a trace outcome :=
  ⟨h.1, _, h.2, rfl⟩

/-- What goes before without a report. -/
theorem ReportedOnce.after {before : Trace} {outcome : Outcome}
    (h : ReportedOnce a trace outcome) (hbefore : reports before = []) :
    ReportedOnce a (before ++ trace) outcome := by
  refine ⟨h.1, ?_⟩
  rw [reports_append, hbefore, List.nil_append]
  exact h.2

/-- An action that is carried out is reported; one that raises is left to the error branch. -/
theorem executeAndReport_cases {host : Value} {onError : Raised → Program Outcome}
    {outcome : Outcome} (h : (executeAndReport s cache a host onError).Runs trace outcome) :
    ReportedOnce a trace outcome
      ∨ ∃ e executing rest, trace = executing ++ rest
        ∧ (executeCmlAction s host a).Runs executing (.error e)
        ∧ (onError e).Runs rest outcome := by
  unfold executeAndReport at h
  obtain ⟨result, executing, rest, rfl, hexecute, hrest⟩ := (Resumption.runs_bind _ _ _ _).mp h
  cases result with
  | error e => exact .inr ⟨e, executing, rest, rfl, hexecute, hrest⟩
  | ok done =>
      have hquiet := reports_eq_nil (executeCmlAction_quiet s host a) hexecute
      exact .inl ((ReportedOnce.of_success (reportSuccess_runs hrest)).after hquiet)

/-- The second try reports, unless there is no other host. -/
theorem retryAction_cases {host : Value} {outcome : Outcome} {key : Value.HashKey}
    (hkey : a.workerId.hashKey = .ok key) (h : (retryAction s cache a host).Runs trace outcome) :
    ReportedOnce a trace outcome
      ∨ ∃ answer, trace = [⟨.getWorker a.workerId, answer⟩]
        ∧ ¬ ((hostOf s answer).truthy ∧ ¬ (hostOf s answer).pyEq host) := by
  unfold retryAction at h
  obtain ⟨result, resolving, rest, rfl, hresolve, hrest⟩ := (Resumption.runs_bind _ _ _ _).mp h
  obtain ⟨answer, rfl, rfl⟩ := (resolveWorkerHost_fresh hkey).mp hresolve
  dsimp only at hrest
  split at hrest
  next hother =>
    -- the look at the worker is no report
    refine .inl (@ReportedOnce.after a rest [_] outcome ?_ rfl)
    rcases executeAndReport_cases hrest with hreported | ⟨e, executing, tail, rfl, hexecute, htail⟩
    · exact hreported
    · have hquiet := reports_eq_nil (executeCmlAction_quiet s (hostOf s answer) a) hexecute
      exact (ReportedOnce.of_failure (reportFailure_runs htail)).after hquiet
  next hsame =>
    obtain ⟨rfl, rfl⟩ := hrest
    exact .inr ⟨answer, rfl, hsame⟩

/-- **An action that is not stranded is reported once.** -/
theorem reported_of_not_stranded {outcome : Outcome}
    (h : (executeAction s cache a).Runs trace outcome) (hs : ¬ Stranded s cache a trace) :
    ReportedOnce a trace outcome := by
  cases hkey : a.workerId.hashKey with
  | error message => exact absurd (.noHash message hkey trace) hs
  | ok key =>
      unfold executeAction at h
      obtain ⟨⟨result, cache'⟩, resolving, rest, rfl, hresolve, hrest⟩ :=
        (Resumption.runs_bind _ _ _ _).mp h
      have hquiet := reports_eq_nil (resolveWorkerHost_quiet s cache a.workerId false) hresolve
      cases result with
      | error e =>
          obtain ⟨message, hmessage⟩ := resolveWorkerHost_error hresolve
          rw [hkey] at hmessage
          cases hmessage
      | ok host =>
          dsimp only at hrest
          split at hrest
          -- no host at all: the failure is reported at once
          next => exact (ReportedOnce.of_failure (reportFailure_runs hrest)).after hquiet
          next hgiven =>
            refine ReportedOnce.after ?_ hquiet
            rcases executeAndReport_cases hrest with
              hreported | ⟨e, executing, tail, rfl, hexecute, htail⟩
            · exact hreported
            · rcases retryAction_cases hkey htail with hreported | ⟨answer, rfl, hsame⟩
              · have hexecuting := reports_eq_nil (executeCmlAction_quiet s host a) hexecute
                exact hreported.after hexecuting
              · exact absurd (.sameHost host cache' e resolving executing hresolve
                  (not_not.mp hgiven) hexecute answer hsame) hs

/-- The second try without another host raises. -/
theorem retryAction_raises {host : Value} {key : Value.HashKey} {answer : Except Raised Payload}
    (hkey : a.workerId.hashKey = .ok key)
    (noOther : ¬ ((hostOf s answer).truthy ∧ ¬ (hostOf s answer).pyEq host)) :
    ∃ cache', (retryAction s cache a host).Runs [⟨.getWorker a.workerId, answer⟩]
      (.error (unboundLocalError "e"), cache') := by
  refine ⟨cacheHost (cache.erase key) key (hostOf s answer), (Resumption.runs_bind _ _ _ _).mpr
    ⟨_, [_], [], rfl, (resolveWorkerHost_fresh hkey).mpr ⟨answer, rfl, rfl⟩, ?_⟩⟩
  dsimp only
  rw [if_neg noOther]
  exact ⟨rfl, rfl⟩

/-- And without a hash it raises too: nothing comes of a fresh look at the worker. -/
theorem retryAction_noHash {host : Value} {message : String} {outcome : Outcome}
    (hkey : a.workerId.hashKey = .error message)
    (h : (retryAction s cache a host).Runs trace outcome) : ∃ e, outcome.1 = .error e := by
  unfold retryAction resolveWorkerHost at h
  rw [hkey] at h
  dsimp only at h
  split at h
  next =>
    obtain ⟨answer, tr, rfl, -, rfl⟩ := h
    exact ⟨_, rfl⟩
  next =>
    obtain ⟨-, rfl⟩ := h
    exact ⟨_, rfl⟩

/-- **A stranded action ends the handler with an exception.** -/
theorem stranded_raises {outcome : Outcome} (h : (executeAction s cache a).Runs trace outcome)
    (hs : Stranded s cache a trace) : ∃ e, outcome.1 = .error e := by
  cases hs with
  | noHash message unhashable =>
      unfold executeAction at h
      rw [resolveWorkerHost_noHash unhashable] at h
      exact retryAction_noHash unhashable h
  | sameHost host cache' e resolving executing resolved given raised answer noOther =>
      cases hkey : a.workerId.hashKey with
      | error message =>
          rw [resolveWorkerHost_noHash hkey] at resolved
          cases resolved.2
      | ok key =>
          obtain ⟨cache'', hretry⟩ := retryAction_raises hkey noOther
          -- a run is determined by its answers
          have hrun : (executeAction s cache a).Runs
              (resolving ++ (executing ++ [⟨.getWorker a.workerId, answer⟩]))
              (.error (unboundLocalError "e"), cache'') := by
            refine resolved.bind ?_
            dsimp only
            rw [if_neg (not_not.mpr given)]
            exact raised.bind hretry
          obtain rfl := h.unique hrun
          exact ⟨_, rfl⟩

end Reports

/-- **Every accepted action is reported once, and no exception escapes, iff it is not
stranded.** -/
theorem reported_once_iff (loads : String → Option Value) (s : Settings) (cache : HostCache)
    (event : EtcdEvent) (a : PendingLabAction)
    (accepted : pendingLabAction loads s event = .ok (some a)) (trace : Trace) (outcome : Outcome)
    (run : (handleWatchEvent loads s cache event).Runs trace outcome) :
    ReportedOnce a trace outcome ↔ ¬ Stranded s cache a trace := by
  unfold handleWatchEvent at run
  rw [accepted] at run
  constructor
  · rintro ⟨hok, -⟩ hs
    obtain ⟨e, he⟩ := stranded_raises run hs
    rw [hok] at he
    cases he
  · exact reported_of_not_stranded run

/-- The request to start a lab. -/
def startRequested : EtcdEvent where
  type := .put
  key := "/lcm/lab_records/lab-record-1/pending_action"
  value := some "start"

/-- A reader of the JSON text of that request. -/
def loadsStart (_ : String) : Option Value :=
  some (.dict [("action", .str "start"), ("lab_id", .str "lab-1"), ("worker_id", .str "worker-1")])

/-- What the control plane answers about the worker. -/
def workerAnswer : Except Raised Payload :=
  .ok (Dict.ofList [("public_ip", .str "10.0.0.1")])

/-- The action that is accepted. -/
def startAction : PendingLabAction where
  labRecordId := "lab-record-1"
  action := .start
  labId := .str "lab-1"
  workerId := .str "worker-1"

theorem startRequested_accepted :
    pendingLabAction loadsStart {} startRequested = .ok (some startAction) := rfl

/-- A start that goes through. -/
def startTrace : Trace :=
  [⟨.getWorker startAction.workerId, workerAnswer⟩,
    ⟨.startLab (.str "10.0.0.1") startAction.labId, .ok ()⟩,
    ⟨.completeLabAction startAction.labRecordId .start, .ok ()⟩]

theorem start_reported_iff :
    ∃ outcome, (handleWatchEvent loadsStart {} Dict.empty startRequested).Runs startTrace outcome
      ∧ (ReportedOnce startAction startTrace outcome
        ↔ ¬ Stranded {} Dict.empty startAction startTrace) := by
  have run : (handleWatchEvent loadsStart {} Dict.empty startRequested).Runs startTrace
      (.ok (), Dict.empty.set (.text "worker-1") (.str "10.0.0.1")) :=
    ⟨workerAnswer, _, rfl, .ok (), _, rfl, .ok (), _, rfl, rfl, rfl⟩
  exact ⟨_, run, reported_once_iff loadsStart {} Dict.empty startRequested startAction
    startRequested_accepted startTrace _ run⟩

/-- A start that CML refuses, on a host that is still the host of the worker. -/
def refusedTrace : Trace :=
  [⟨.getWorker startAction.workerId, workerAnswer⟩,
    ⟨.startLab (.str "10.0.0.1") startAction.labId, .error ⟨"HTTPStatusError", "403 Forbidden"⟩⟩,
    ⟨.getWorker startAction.workerId, workerAnswer⟩]

/-- **A start that CML refuses is never reported.** -/
theorem refused_start_not_reported :
    ¬ ∀ (loads : String → Option Value) (s : Settings) (cache : HostCache) (event : EtcdEvent)
        (a : PendingLabAction), pendingLabAction loads s event = .ok (some a) →
        ∀ (trace : Trace) (outcome : Outcome),
          (handleWatchEvent loads s cache event).Runs trace outcome →
          ReportedOnce a trace outcome := by
  intro h
  have run : ∃ cache, (handleWatchEvent loadsStart {} Dict.empty startRequested).Runs refusedTrace
      (.error (unboundLocalError "e"), cache) :=
    ⟨_, workerAnswer, _, rfl, .error _, _, rfl, workerAnswer, _, rfl, rfl, rfl⟩
  obtain ⟨cache, hrun⟩ := run
  obtain ⟨hok, -⟩ := h loadsStart {} Dict.empty startRequested startAction
    startRequested_accepted refusedTrace (.error (unboundLocalError "e"), cache) hrun
  dsimp only at hok
  cases hok

end CmlCloudManager.Controller.LabRecordReconciler
