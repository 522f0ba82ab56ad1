/-
  CmlCloudManager.Controller.Reconciler
  ─────────────────────────────────────
  **THE RECONCILER AND ITS PHASE HANDLERS AS ONE TRANSITION SYSTEM.**

  One lablet-controller runs, in one event loop,

    • reconcile calls, which hold the lock of their session and go through
      `_handle_pipeline_phase`,
    • the background task of every `LifecyclePhaseHandler`,
    • the Scenario Engine callbacks, which signal the handler registered for a
      session.

  An `Action` is what happens between two points at which a coroutine really
  gives up control.  An `await` of a coroutine that does not suspend is not such
  a point: a cached definition is returned at once, and `LifecyclePhaseHandler.start`
  only schedules its task.  So a phase call gives up control where it asks the
  control plane (a definition that is not cached, `terminate_session`) and in the
  clean-up before a termination, and nowhere else.

  The control plane is the `repo` of `ControlPlane.PipelineProgress`; `history`
  is a history variable (no transition reads it).
-/
import CmlCloudManager.Foundation.Transition
import CmlCloudManager.ControlPlane.PersistedRuns
import CmlCloudManager.Controller.ScenarioEngine

namespace CmlCloudManager.Controller

open CmlCloudManager.Foundation
open CmlCloudManager.Pipeline
open CmlCloudManager.ControlPlane

/-! ## §1. Sessions and definitions as the controller reads them. -/

/-- `LabletSessionReadModel`: a session as it was when it was read. -/
structure LabletSessionReadModel where
  id : String
  definitionId : String
  pipelineProgress : Option (Dict String Progress) := none

/-- `LabletDefinitionReadModel`: the pipelines by name, templates resolved. -/
structure LabletDefinition where
  pipelines : Dict String PipelineDef := Dict.empty

/-- What the control plane serves and never changes: the definition a session was
created with, and the definitions (both are set by the creation event only). -/
structure Catalog where
  definitionOf : String → String
  definitions : String → Option LabletDefinition

/-- The pipeline a session's definition has under a name. -/
def Catalog.pipeline? (cat : Catalog) (sessionId pipelineName : String) : Option PipelineDef :=
  (cat.definitions (cat.definitionOf sessionId)).bind fun d => d.pipelines.get? pipelineName

/-- `_get_existing_progress`. -/
def getExistingProgress (session : LabletSessionReadModel) (pipelineName : String) :
    Option ExistingProgress :=
  match session.pipelineProgress.bind (fun m => m.get? pipelineName) with
  | none => none
  | some progress => if progress.isEmpty then none else some (.flat progress)

/-- `f"{instance.id}:{pipeline_name}"`. -/
def handlerKey (sessionId pipelineName : String) : String := sessionId ++ ":" ++ pipelineName

/-! ## §2. `LifecyclePhaseHandler`. -/

/-- Where the background task of a handler is. -/
inductive TaskState where
  /-- Scheduled; this is what remains of `execute`. -/
  | ready (left : Exec (Except ExecuteError PipelineResult))
  /-- The executor awaits a call. -/
  | waiting (e : Effect) (k : e.Response → Exec (Except ExecuteError PipelineResult))
  /-- `execute` has returned and `_on_complete` awaits the external callback. -/
  | completing
  | finished

/-- `LifecyclePhaseHandler`. -/
structure LifecyclePhaseHandler where
  sessionId : String
  pipelineName : String
  pipelineDef : PipelineDef
  existingProgress : Option ExistingProgress := none
  task : Option TaskState := none
  result : Option PipelineResult := none
  error : Option ExecuteError := none
  pipelineAttempt : Nat := 0

/-- What a run takes from its surroundings: the context with its libraries, and the
order in which the steps are sorted.  The steps data of the context may be anything
earlier runs of the handler have left there. -/
structure Setup where
  rt : Runtime
  sorter : Sorter
  sound : sorter.Sound

/-- What a handler passes to the executor. -/
structure RunSpec where
  sessionId : String
  pipelineName : String
  pipelineDef : PipelineDef
  existingProgress : Option ExistingProgress

/-- The context of a run: the handler's session and pipeline. -/
def RunSpec.runtime (spec : RunSpec) (setup : Setup) : Runtime :=
  { setup.rt with
    context := { setup.rt.context with sessionId := spec.sessionId }
    pipelineName := some spec.pipelineName }

/-- `self._executor.execute(...)`. -/
def RunSpec.program (spec : RunSpec) (setup : Setup) : Exec (Except ExecuteError PipelineResult) :=
  execute (spec.runtime setup) setup.sorter spec.pipelineDef spec.existingProgress

namespace LifecyclePhaseHandler

/-- `is_running`. -/
def isRunning (h : LifecyclePhaseHandler) : Bool :=
  match h.task with
  | none => false
  | some .finished => false
  | some _ => true

/-- A step is dispatched and has not returned. -/
def inFlight (h : LifecyclePhaseHandler) : Bool :=
  match h.task with
  | some (.waiting (.dispatch _) _) => true
  | _ => false

/-- What a start of the handler would run. -/
def spec (h : LifecyclePhaseHandler) : RunSpec :=
  { sessionId := h.sessionId
    pipelineName := h.pipelineName
    pipelineDef := h.pipelineDef
    existingProgress := h.existingProgress }

/-- `start` of a handler that is not running, registration apart. -/
def start (h : LifecyclePhaseHandler) (setup : Setup) : LifecyclePhaseHandler :=
  { h with
    pipelineAttempt := h.pipelineAttempt + 1
    result := none
    error := none
    task := some (.ready (h.spec.program setup)) }

end LifecyclePhaseHandler

/-! ## §3. The state. -/

/-- Where a phase call gives up control. -/
inductive PhasePoint where
  /-- `get_lablet_definition`. -/
  | loadingDefinition
  /-- `on_max_retry_exhausted`. -/
  | cleaningUp
  /-- `terminate_session`. -/
  | terminating
  deriving DecidableEq, Repr

/-- A call of `_handle_pipeline_phase`; it holds the lock of its session. -/
structure PhaseCall where
  number : Nat
  session : LabletSessionReadModel
  pipelineName : String
  point : PhasePoint := .loadingDefinition

/-- What an outside observer of the controller sees. -/
inductive Observation where
  /-- A call found a finished handler with this result. -/
  | inspected (call : Nat) (sessionId pipelineName : String) (result : Option PipelineResult)
  /-- A run was started, by a call or by a signal. -/
  | started (call : Option Nat) (sessionId pipelineName : String)
  /-- `execute` returned or raised. -/
  | ended (sessionId pipelineName : String) (out : Except ExecuteError PipelineResult)
  /-- `terminate_session` was called. -/
  | terminated (call : Nat) (sessionId : String)

/-- The controller, the control plane and the messages between them. -/
structure World where
  /-- The handler objects; `activeHandlers` and `registry` refer to them. -/
  handlers : Dict Nat LifecyclePhaseHandler := Dict.empty
  nextHandler : Nat := 0
  /-- `_active_handlers`, by handler key. -/
  activeHandlers : Dict String Nat := Dict.empty
  /-- The class-level `_registry`, by session. -/
  registry : Dict String Nat := Dict.empty
  /-- `_pipeline_retry_counts`. -/
  pipelineRetryCounts : Dict String Nat := Dict.empty
  /-- `_definition_cache`. -/
  definitionCache : Dict String LabletDefinition := Dict.empty
  /-- The phase calls under way, by the session whose lock they hold. -/
  calls : Dict String PhaseCall := Dict.empty
  nextCall : Nat := 0
  repo : SessionRepository := Dict.empty
  /-- The sessions read so far; a reconcile call may be given any of them. -/
  snapshots : List LabletSessionReadModel := []
  /-- The answers of the control plane to callbacks, not yet handed to a handler. -/
  signals : List ResumeSignal := []
  history : List Observation := []

/-- The controller before its first reconcile call. -/
def World.initial (repo : SessionRepository) : World := { repo := repo }

/-- Replace a handler object. -/
def World.setHandler (w : World) (i : Nat) (h : LifecyclePhaseHandler) : World :=
  { w with handlers := w.handlers.set i h }

/-- Append to the history. -/
def World.observe (w : World) (o : Observation) : World := { w with history := w.history ++ [o] }

/-! ## §4. `_handle_pipeline_phase`. -/

/-- `start`: the handler is registered for its session and its task is created. -/
def startHandler (w : World) (call : Option Nat) (i : Nat) (h : LifecyclePhaseHandler)
    (setup : Setup) : World :=
  { w with
    handlers := w.handlers.set i (h.start setup)
    registry := w.registry.set h.sessionId i
    history := w.history ++ [.started call h.sessionId h.pipelineName] }

/-- "Start new handler". -/
def startNewHandler (w : World) (c : PhaseCall) (pipeline : PipelineDef) (setup : Setup) : World :=
  startHandler
    { w with
      nextHandler := w.nextHandler + 1
      activeHandlers :=
        w.activeHandlers.set (handlerKey c.session.id c.pipelineName) w.nextHandler }
    (some c.number) w.nextHandler
    { sessionId := c.session.id
      pipelineName := c.pipelineName
      pipelineDef := pipeline
      existingProgress := getExistingProgress c.session c.pipelineName } setup

/-- Call `terminate_session` and wait for it. -/
def terminateSession (w : World) (c : PhaseCall) : World :=
  { w with
    calls := w.calls.set c.session.id { c with point := .terminating }
    history := w.history ++ [.terminated c.number c.session.id] }

/-- What follows the definition: without a pipeline of that name the session is
terminated, otherwise a new handler is started and the call returns. -/
def continueWith (w : World) (c : PhaseCall) (definition : Option LabletDefinition)
    (setup : Setup) : World :=
  match definition.bind fun d => d.pipelines.get? c.pipelineName with
  | none => terminateSession w c
  | some pipeline =>
      startNewHandler { w with calls := w.calls.erase c.session.id } c pipeline setup

/-- `_get_pipeline_def`: a cached definition is there at once, any other is fetched. -/
def getPipelineDef (w : World) (c : PhaseCall) (setup : Setup) : World :=
  match w.definitionCache.get? c.session.definitionId with
  | some d => continueWith w c (some d) setup
  | none => { w with calls := w.calls.set c.session.id { c with point := .loadingDefinition } }

/-- The retry budget is used up: clean up (a callback only `_handle_instantiating`
passes), then terminate. -/
def exhaustRetries (w : World) (c : PhaseCall) : World :=
  if c.pipelineName = "instantiate" then
    { w with calls := w.calls.set c.session.id { c with point := .cleaningUp } }
  else terminateSession w c

/-- `self._pipeline_retry_counts.get(handler_key, 0) + 1`. -/
def retryCount (w : World) (c : PhaseCall) : Nat :=
  (w.pipelineRetryCounts.get? (handlerKey c.session.id c.pipelineName)).getD 0 + 1

/-- `self._pipeline_retry_counts[handler_key] = retry_count`. -/
def countRetry (w : World) (c : PhaseCall) : World :=
  { w with
    pipelineRetryCounts :=
      w.pipelineRetryCounts.set (handlerKey c.session.id c.pipelineName) (retryCount w c) }

/-- `max_retries > 0 and retry_count >= max_retries`. -/
def exhausted (maxRetries : Int) (retryCount : Nat) : Prop :=
  0 < maxRetries ∧ maxRetries ≤ (retryCount : Int)

instance (maxRetries : Int) (retryCount : Nat) : Decidable (exhausted maxRetries retryCount) :=
  inferInstanceAs (Decidable (_ ∧ _))

/-- Inspect the result of a finished handler, which is no longer active. -/
def inspectResult (w : World) (c : PhaseCall) (result : Option PipelineResult) (setup : Setup) :
    World :=
  match result with
  -- `execute` raised: no result was stored, and the failure is not counted
  | none => getPipelineDef w c setup
  | some r =>
      match r.status with
      -- the transition is left to the pipeline's own steps
      | .completed => w
      | .partialSuccess => w
      | .suspended => getPipelineDef w c setup
      | .failed =>
          -- the count is kept over later runs, whatever they end with
          if exhausted r.maxRetries (retryCount w c) then exhaustRetries w c
          else getPipelineDef (countRetry w c) c setup

/-- The call that enters the phase now. -/
def newCall (w : World) (session : LabletSessionReadModel) (pipelineName : String) : PhaseCall :=
  { number := w.nextCall, session := session, pipelineName := pipelineName }

/-- `del self._active_handlers[handler_key]` of a finished handler. -/
def removeHandler (w : World) (c : PhaseCall) (result : Option PipelineResult) : World :=
  { w with
    activeHandlers := w.activeHandlers.erase (handlerKey c.session.id c.pipelineName)
    history := w.history ++ [.inspected c.number c.session.id c.pipelineName result] }

/-- The first segment of `_handle_pipeline_phase`, for the call `c`. -/
def checkHandler (w : World) (c : PhaseCall) (setup : Setup) : World :=
  match w.activeHandlers.get? (handlerKey c.session.id c.pipelineName) with
  | none => getPipelineDef w c setup
  | some i =>
      match w.handlers.get? i with
      -- not reached: an active handler is an object of the controller
      | none => w
      | some h =>
          if h.isRunning then w
          else inspectResult (removeHandler w c h.result) c h.result setup

/-- A reconcile call that has the lock enters the phase. -/
def enterPhase (w : World) (session : LabletSessionReadModel) (pipelineName : String)
    (setup : Setup) : World :=
  checkHandler { w with nextCall := w.nextCall + 1 } (newCall w session pipelineName) setup

/-! ## §5. The tasks and the callbacks. -/

/-- `execute` returned or raised. -/
def finishRun (w : World) (i : Nat) (h : LifecyclePhaseHandler)
    (out : Except ExecuteError PipelineResult) : World :=
  let w := w.observe (.ended h.sessionId h.pipelineName out)
  match out with
  | .ok result => w.setHandler i { h with result := some result, task := some .completing }
  | .error e =>
      -- `_on_error`: the reconciler passes no error callback, so nothing is awaited
      { w.setHandler i { h with error := some e, task := some .finished } with
        registry := w.registry.erase h.sessionId }

/-- The end of `_on_complete`: only a suspended handler stays registered. -/
def completeHandler (w : World) (i : Nat) (h : LifecyclePhaseHandler) : World :=
  let w := w.setHandler i { h with task := some .finished }
  if h.result.map PipelineResult.status = some .suspended then w
  else { w with registry := w.registry.erase h.sessionId }

/-- `_signal_handler_resume` / `_signal_handler_fail`: the handler registered for the
session, unless it is running, is started again from the refreshed progress. -/
def signalHandler (w : World) (sig : ResumeSignal) (setup : Setup) : World :=
  match w.registry.get? sig.sessionId with
  | none => w
  | some i =>
      match w.handlers.get? i with
      | none => w
      | some h =>
          if h.isRunning then w
          else
            startHandler w none i { h with existingProgress := some (.flat sig.progress) } setup

/-! ## §6. Actions. -/

/-- What can happen next. -/
inductive Action where
  /-- A session is read from the control plane (polling or watch). -/
  | fetchSession (sessionId : String)
  /-- A reconcile call for a session read earlier takes the lock and enters the phase. -/
  | enter (snapshot : Nat) (pipelineName : String) (setup : Setup)
  /-- `get_lablet_definition` answers, or fails. -/
  | definitionFetched (sessionId : String) (served : Bool) (setup : Setup)
  /-- `on_max_retry_exhausted` returns (it catches every exception). -/
  | cleanedUp (sessionId : String)
  /-- `terminate_session` returns or fails (the exception is caught). -/
  | terminateReturned (sessionId : String)
  /-- A scheduled task runs to its next call, or to the end of `execute`. -/
  | advance (handler : Nat)
  | dispatchReturned (handler : Nat) (outcome : DispatchOutcome)
  /-- A progress update is stored, or lost (`_persist_progress` swallows the exception). -/
  | persistReturned (handler : Nat) (stored : Bool)
  /-- The external callback of `_on_complete` returns. -/
  | recorded (handler : Nat)
  /-- A Scenario Engine event reaches the control plane. -/
  | event (er : EventRuntime) (now : String) (event : ScenarioEngineEvent)
  /-- The control plane's answer to a callback is handed to the registered handler. -/
  | signal (pending : Nat) (setup : Setup)

/-- The task of a handler object. -/
def World.taskOf (w : World) (i : Nat) : Option (LifecyclePhaseHandler × TaskState) :=
  (w.handlers.get? i).bind fun h => h.task.map fun t => (h, t)

/-- The answer of `get_lablet_definition`. -/
def answerOf (cat : Catalog) (c : PhaseCall) (served : Bool) : Option LabletDefinition :=
  if served then cat.definitions c.session.definitionId else none

/-- The controller with the definition a phase call has just fetched. -/
def cacheDefinition (w : World) (c : PhaseCall) : Option LabletDefinition → World
  | none => w
  | some d => { w with definitionCache := w.definitionCache.set c.session.definitionId d }

/-- **One action.** -/
def step (cat : Catalog) (w : World) : Action → Option World
  | .fetchSession sid =>
      (w.repo.get? sid).map fun s =>
        { w with
          snapshots := w.snapshots ++
            [{ id := sid
               definitionId := cat.definitionOf sid
               pipelineProgress := s.pipelineProgress }] }
  | .enter n pl setup =>
      match w.snapshots[n]? with
      | none => none
      | some session =>
          if pl ∈ validPipelineNames ∧ w.calls.get? session.id = none then
            some (enterPhase w session pl setup)
          else none
  | .definitionFetched sid served setup =>
      match w.calls.get? sid with
      | none => none
      | some c =>
          if c.point = .loadingDefinition then
            some (continueWith (cacheDefinition w c (answerOf cat c served)) c
              (answerOf cat c served) setup)
          else none
  | .cleanedUp sid =>
      match w.calls.get? sid with
      | none => none
      | some c => if c.point = .cleaningUp then some (terminateSession w c) else none
  | .terminateReturned sid =>
      match w.calls.get? sid with
      | none => none
      | some c =>
          if c.point = .terminating then some { w with calls := w.calls.erase sid } else none
  | .advance i =>
      match w.taskOf i with
      | some (h, .ready (.await e k)) =>
          some (w.setHandler i { h with task := some (.waiting e k) })
      | some (h, .ready (.done out)) => some (finishRun w i h out)
      | _ => none
  | .dispatchReturned i outcome =>
      match w.taskOf i with
      | some (h, .waiting (.dispatch _) k) =>
          some (w.setHandler i { h with task := some (.ready (k outcome)) })
      | _ => none
  | .persistReturned i stored =>
      match w.taskOf i with
      | some (h, .waiting (.persist _ update) k) =>
          some { w.setHandler i { h with task := some (.ready (k ())) } with
            repo := if stored then (handleUpdate w.repo update).2 else w.repo }
      | _ => none
  | .recorded i =>
      match w.taskOf i with
      | some (h, .completing) => some (completeHandler w i h)
      | _ => none
  | .event er now ev =>
      some { w with
        repo := (deliver er now w.repo ev).1
        signals := w.signals ++ (deliver er now w.repo ev).2.toList }
  | .signal n setup =>
      match w.signals[n]? with
      | none => none
      | some sig => some (signalHandler { w with signals := w.signals.eraseIdx n } sig setup)

/-- The actions lead from a fresh controller to this state. -/
def Reachable (cat : Catalog) (w : World) : Prop :=
  ∃ repo acts, Run (step cat) anyAction (World.initial repo) acts w

/-! ## §7. What an action can do. -/

/-- **Every possible action**, with the guard it was taken under. -/
inductive Moves (cat : Catalog) (w : World) : Action → World → Prop where
  | fetchSession {sid s} (hget : w.repo.get? sid = some s) :
      Moves cat w (.fetchSession sid)
        { w with
          snapshots := w.snapshots ++ [⟨sid, cat.definitionOf sid, s.pipelineProgress⟩] }
  | enter {n pl setup session} (hsnap : w.snapshots[n]? = some session)
      (hpl : pl ∈ validPipelineNames) (hlock : w.calls.get? session.id = none) :
      Moves cat w (.enter n pl setup) (enterPhase w session pl setup)
  | definitionFetched {sid served setup c} (hcall : w.calls.get? sid = some c)
      (hpoint : c.point = .loadingDefinition) :
      Moves cat w (.definitionFetched sid served setup)
        (continueWith (cacheDefinition w c (answerOf cat c served)) c (answerOf cat c served) setup)
  | cleanedUp {sid c} (hcall : w.calls.get? sid = some c) (hpoint : c.point = .cleaningUp) :
      Moves cat w (.cleanedUp sid) (terminateSession w c)
  | terminateReturned {sid c} (hcall : w.calls.get? sid = some c)
      (hpoint : c.point = .terminating) :
      Moves cat w (.terminateReturned sid) { w with calls := w.calls.erase sid }
  | called {i h e k} (hget : w.handlers.get? i = some h)
      (htask : h.task = some (.ready (.await e k))) :
      Moves cat w (.advance i) (w.setHandler i { h with task := some (.waiting e k) })
  | finished {i h out} (hget : w.handlers.get? i = some h)
      (htask : h.task = some (.ready (.done out))) :
      Moves cat w (.advance i) (finishRun w i h out)
  | dispatchReturned {i h request k outcome} (hget : w.handlers.get? i = some h)
      (htask : h.task = some (.waiting (.dispatch request) k)) :
      Moves cat w (.dispatchReturned i outcome)
        (w.setHandler i { h with task := some (.ready (k outcome)) })
  | persistReturned {i h site update k stored} (hget : w.handlers.get? i = some h)
      (htask : h.task = some (.waiting (.persist site update) k)) :
      Moves cat w (.persistReturned i stored)
        { w.setHandler i { h with task := some (.ready (k ())) } with
          repo := if stored then (handleUpdate w.repo update).2 else w.repo }
  | recorded {i h} (hget : w.handlers.get? i = some h) (htask : h.task = some .completing) :
      Moves cat w (.recorded i) (completeHandler w i h)
  | event {er now ev} :
      Moves cat w (.event er now ev)
        { w with
          repo := (deliver er now w.repo ev).1
          signals := w.signals ++ (deliver er now w.repo ev).2.toList }
  | signal {n setup sig} (hsig : w.signals[n]? = some sig) :
      Moves cat w (.signal n setup)
        (signalHandler { w with signals := w.signals.eraseIdx n } sig setup)

/-- What follows the check for an existing handler. -/
inductive PhaseExit (w : World) (c : PhaseCall) (setup : Setup) : World → Prop where
  /-- The call waits for the definition. -/
  | loading :
      PhaseExit w c setup
        { w with calls := w.calls.set c.session.id { c with point := .loadingDefinition } }
  /-- There is no such pipeline. -/
  | undefinedPipeline : PhaseExit w c setup (terminateSession w c)
  | started (pipeline : PipelineDef) :
      PhaseExit w c setup
        (startNewHandler { w with calls := w.calls.erase c.session.id } c pipeline setup)

theorem continueWith_exit (w : World) (c : PhaseCall) (definition : Option LabletDefinition)
    (setup : Setup) : PhaseExit w c setup (continueWith w c definition setup) := by
  unfold continueWith
  split
  next => exact .undefinedPipeline
  next pipeline hsome => exact .started pipeline

theorem getPipelineDef_exit (w : World) (c : PhaseCall) (setup : Setup) :
    PhaseExit w c setup (getPipelineDef w c setup) := by
  unfold getPipelineDef
  split
  next d hd => exact continueWith_exit w c (some d) setup
  next => exact .loading

/-- **Every way the first segment of a phase call can go.** -/
inductive CheckExit (w : World) (c : PhaseCall) (setup : Setup) : World → Prop where
  /-- The active handler is running (there is always an object behind an active key). -/
  | busy : CheckExit w c setup w
  | noHandler {w'} (hnone : w.activeHandlers.get? (handlerKey c.session.id c.pipelineName) = none)
      (exit : PhaseExit w c setup w') : CheckExit w c setup w'
  | done {i h r} (hact : w.activeHandlers.get? (handlerKey c.session.id c.pipelineName) = some i)
      (hget : w.handlers.get? i = some h) (hstopped : h.isRunning = false)
      (hresult : h.result = some r) (hstatus : r.status = .completed ∨ r.status = .partialSuccess) :
      CheckExit w c setup (removeHandler w c h.result)
  | restart {i h w'}
      (hact : w.activeHandlers.get? (handlerKey c.session.id c.pipelineName) = some i)
      (hget : w.handlers.get? i = some h) (hstopped : h.isRunning = false)
      (hresult : ∀ r, h.result = some r → r.status = .suspended)
      (exit : PhaseExit (removeHandler w c h.result) c setup w') : CheckExit w c setup w'
  | retry {i h r w'}
      (hact : w.activeHandlers.get? (handlerKey c.session.id c.pipelineName) = some i)
      (hget : w.handlers.get? i = some h) (hstopped : h.isRunning = false)
      (hresult : h.result = some r) (hstatus : r.status = .failed)
      (hleft : ¬ exhausted r.maxRetries (retryCount (removeHandler w c h.result) c))
      (exit : PhaseExit (countRetry (removeHandler w c h.result) c) c setup w') :
      CheckExit w c setup w'
  | outOfRetries {i h r}
      (hact : w.activeHandlers.get? (handlerKey c.session.id c.pipelineName) = some i)
      (hget : w.handlers.get? i = some h) (hstopped : h.isRunning = false)
      (hresult : h.result = some r) (hstatus : r.status = .failed)
      (hnone : exhausted r.maxRetries (retryCount (removeHandler w c h.result) c)) :
      CheckExit w c setup (exhaustRetries (removeHandler w c h.result) c)

theorem checkHandler_exit (w : World) (c : PhaseCall) (setup : Setup) :
    CheckExit w c setup (checkHandler w c setup) := by
  unfold checkHandler
  split
  next hnone => exact .noHandler hnone (getPipelineDef_exit w c setup)
  next i hact =>
    split
    next => exact .busy
    next h hget =>
      split
      next => exact .busy
      next hrun =>
        have hstopped : h.isRunning = false := Bool.eq_false_iff.mpr hrun
        unfold inspectResult
        split
        next hnone =>
          exact .restart hact hget hstopped (by simp [hnone]) (getPipelineDef_exit _ c setup)
        next r hr =>
          split
          next hst => exact .done hact hget hstopped hr (.inl hst)
          next hst => exact .done hact hget hstopped hr (.inr hst)
          next hst =>
            refine .restart hact hget hstopped ?_ (getPipelineDef_exit _ c setup)
            intro r' hr'
            rw [hr] at hr'
            injection hr' with hr'
            rw [← hr', hst]
          next hst =>
            split
            next hex => exact .outOfRetries hact hget hstopped hr hst hex
            next hex => exact .retry hact hget hstopped hr hst hex (getPipelineDef_exit _ c setup)

/-- A signal does nothing, or it starts the registered handler again. -/
theorem signalHandler_cases (w : World) (sig : ResumeSignal) (setup : Setup) :
    signalHandler w sig setup = w
      ∨ ∃ i h, w.registry.get? sig.sessionId = some i ∧ w.handlers.get? i = some h
        ∧ h.isRunning = false
        ∧ signalHandler w sig setup
          = startHandler w none i { h with existingProgress := some (.flat sig.progress) }
              setup := by
  unfold signalHandler
  split
  next => exact .inl rfl
  next i hreg =>
    split
    next => exact .inl rfl
    next h hget =>
      split
      next => exact .inl rfl
      next hrun => exact .inr ⟨i, h, hreg, hget, Bool.eq_false_iff.mpr hrun, rfl⟩

theorem taskOf_eq {w : World} {i : Nat} {h : LifecyclePhaseHandler} {t : TaskState}
    (ht : w.taskOf i = some (h, t)) : w.handlers.get? i = some h ∧ h.task = some t := by
  obtain ⟨h', hget, hmap⟩ := Option.bind_eq_some_iff.mp ht
  obtain ⟨t', htask, heq⟩ := Option.map_eq_some_iff.mp hmap
  injection heq with hh ht'
  subst hh ht'
  exact ⟨hget, htask⟩

/-- A call that returns was waiting at its point. -/
theorem call_returned {w w' : World} {sid : String} {p : PhasePoint} {next : PhaseCall → World}
    (h : (match w.calls.get? sid with
      | none => none
      | some c => if c.point = p then some (next c) else none) = some w') :
    ∃ c, w.calls.get? sid = some c ∧ c.point = p ∧ w' = next c := by
  cases hcall : w.calls.get? sid with
  | none =>
      rw [hcall] at h
      cases h
  | some c =>
      rw [hcall] at h
      obtain ⟨hpoint, heq⟩ := Option.ite_none_right_eq_some.mp h
      exact ⟨c, rfl, hpoint, (Option.some.inj heq).symm⟩

theorem step_moves {cat : Catalog} {w w' : World} {a : Action} (h : step cat w a = some w') :
    Moves cat w a w' := by
  cases a with
  | fetchSession sid =>
      obtain ⟨s, hs, rfl⟩ := Option.map_eq_some_iff.mp h
      exact .fetchSession hs
  | enter n pl setup =>
      simp only [step] at h
      split at h
      next => cases h
      next session hsnap =>
        split at h
        -- the pipeline is known, and the session has no call under way
        next hguard =>
          injection h with h
          subst h
          exact .enter hsnap hguard.1 hguard.2
        next => cases h
  | definitionFetched sid served setup =>
      obtain ⟨c, hcall, hpoint, rfl⟩ := call_returned h
      exact .definitionFetched hcall hpoint
  | cleanedUp sid =>
      obtain ⟨c, hcall, hpoint, rfl⟩ := call_returned h
      exact .cleanedUp hcall hpoint
  | terminateReturned sid =>
      obtain ⟨c, hcall, hpoint, rfl⟩ := call_returned h
      exact .terminateReturned hcall hpoint
  | advance i =>
      simp only [step] at h
      split at h
      -- the task makes its next call, or it has none left
      next h' e k ht =>
        injection h with h
        subst h
        obtain ⟨hget, htask⟩ := taskOf_eq ht
        exact .called hget htask
      next h' out ht =>
        injection h with h
        subst h
        obtain ⟨hget, htask⟩ := taskOf_eq ht
        exact .finished hget htask
      next => cases h
  | dispatchReturned i outcome =>
      simp only [step] at h
      split at h
      next h' request k ht =>
        injection h with h
        subst h
        obtain ⟨hget, htask⟩ := taskOf_eq ht
        exact .dispatchReturned hget htask
      next => cases h
  | persistReturned i stored =>
      simp only [step] at h
      split at h
      next h' site update k ht =>
        injection h with h
        subst h
        obtain ⟨hget, htask⟩ := taskOf_eq ht
        exact .persistReturned hget htask
      next => cases h
  | recorded i =>
      simp only [step] at h
      split at h
      next h' ht =>
        injection h with h
        subst h
        obtain ⟨hget, htask⟩ := taskOf_eq ht
        exact .recorded hget htask
      next => cases h
  | event er now ev =>
      injection h with h
      subst h
      exact .event
  | signal n setup =>
      simp only [step] at h
      split at h
      next => cases h
      next sig hsig =>
        injection h with h
        subst h
        exact .signal hsig

end CmlCloudManager.Controller
