/-
  CmlCloudManager.Pipeline.Executor
  ─────────────────────────────────
  **THE PIPELINE EXECUTOR.**

  `PipelineExecutor.execute` as a suspendable program: every point at which the
  coroutine leaves the process is a call of `Effect`,

    • `dispatch` — the step dispatcher is awaited with the handler name, the
      in-memory progress, the accumulated step data and the step's params,
    • `persist`  — `_persist_progress` sends one step's status to the control
      plane (its exceptions are swallowed, so there is nothing to respond).

  Everything between two calls is ordinary state passing over `ExecState`, the
  local variables of `execute`.  What the code takes from libraries is in
  `Runtime`: `simpleeval`, the clock, attribute access on non-dict values.
  A `persist` carries the branch of `execute` it was issued from (`PersistSite`);
  the control plane never sees it.
-/
import CmlCloudManager.Foundation.Resumption
import CmlCloudManager.Pipeline.Definition

namespace CmlCloudManager.Pipeline

open CmlCloudManager.Foundation

/-! ## §1. Calls and responses. -/

/-- One awaited invocation of the step dispatcher. -/
structure DispatchRequest where
  /-- The step the loop is at; the dispatcher itself gets the five fields below. -/
  stepName : String
  handlerName : String
  progress : Progress
  stepsData : Dict String Payload
  params : Option Payload

/-- How an awaited dispatch ends. -/
inductive DispatchOutcome where
  | returned (result : Payload)
  /-- The dispatcher returned something that is not a dict. -/
  | returnedOther (result : Value)
  | raised (message : String)
  | timedOut

/-- The branch of `execute` a progress update comes from. -/
inductive PersistSite where
  | upstreamBlocked
  | skipWhen
  | handlerSkipped
  | suspension
  | handlerFailed
  | aborted
  | completed
  | exception
  deriving DecidableEq, Repr

/-- `UpdatePipelineProgressCommand`. -/
structure ProgressUpdate where
  sessionId : String
  pipelineName : String
  stepName : String
  stepStatus : StepStatus
  resultData : Option Payload := none
  error : Option Value := none

/-- What the executor asks of its environment. -/
inductive Effect where
  | dispatch (request : DispatchRequest)
  | persist (site : PersistSite) (update : ProgressUpdate)

/-- The type of the answer. -/
def Effect.Response : Effect → Type
  | .dispatch _ => DispatchOutcome
  | .persist _ _ => Unit

/-- An executor program. -/
abbrev Exec (α : Type) : Type := Resumption Effect Effect.Response α

/-- A call of the executor with its answer. -/
abbrev ExecEvent : Type := Resumption.Event Effect Effect.Response

/-- The calls of a run, in order. -/
abbrev Trace : Type := List ExecEvent

/-- The environment that answers every dispatch by a function of the request. -/
def answering (dispatcher : DispatchRequest → DispatchOutcome) : (e : Effect) → e.Response
  | .dispatch request => dispatcher request
  | .persist _ _ => ()

instance (e : Effect) : Nonempty e.Response := by
  cases e with
  | dispatch _ => exact ⟨DispatchOutcome.timedOut⟩
  | persist _ _ => exact ⟨()⟩

/-! ## §2. Context, libraries, state. -/

/-- The fields of `PipelineContext` the executor reads. -/
structure PipelineContext where
  sessionId : String
  session : Option Value := none
  definition : Option Value := none
  workerIp : String := ""
  /-- `steps_data` when the run starts: empty in a new context, what the previous run
  left in it when a handler is started again. -/
  stepsData : Dict String Payload := Dict.empty

/-- The names a `skip_when` expression may use. -/
structure EvalNames where
  definition : Option Value
  session : Option Value
  workerIp : String
  steps : Dict String Payload

/-- The outcome of `SimpleEval.eval`. -/
inductive EvalOutcome where
  | value (v : Value)
  /-- InvalidExpression, SyntaxError, TypeError, AttributeError or KeyError. -/
  | caught (exc : String)
  /-- Any other exception. -/
  | uncaught (exc : String)

/-- One run's context and the library functions it uses. -/
structure Runtime where
  context : PipelineContext
  /-- `SimpleEval().eval(expr)` with the given names. -/
  simpleEval : String → EvalNames → EvalOutcome
  /-- `getattr(data, part)` on a value that is not a dict, if it has the attribute. -/
  getattr : Value → String → Option Value := fun _ _ => none
  /-- `datetime.now(timezone.utc).isoformat()`. -/
  now : String := ""
  pipelineName : Option String := none

/-- An entry of `external_jobs`. -/
structure ExternalJob where
  stepName : String
  externalJobId : Value
  stepCorrelationId : Value
  suspendedAt : Value

/-- The local variables of `execute`, with `context.steps_data`. -/
structure ExecState where
  stepStatuses : Dict String StepStatus := Dict.empty
  completed : Nat := 0
  failed : Nat := 0
  skipped : Nat := 0
  suspendedCount : Nat := 0
  errorMessage : Option String := none
  externalJobs : List ExternalJob := []
  pipelineSuspended : Bool := false
  progress : Progress := Dict.empty
  stepsData : Dict String Payload := Dict.empty

/-- `step_statuses[name] = status`, its counter, `progress[name] = info`. -/
def ExecState.mark (st : ExecState) (name : String) (status : StepStatus) (info : StepInfo) :
    ExecState :=
  { st with
    stepStatuses := st.stepStatuses.set name status
    completed := st.completed + if status = .completed then 1 else 0
    failed := st.failed + if status = .failed then 1 else 0
    skipped := st.skipped + if status = .skipped then 1 else 0
    suspendedCount := st.suspendedCount + if status = .suspended then 1 else 0
    progress := st.progress.set name info }

/-- How the loop body ends: `continue` or fall through, `break`, or an exception. -/
inductive StepExit where
  | next (st : ExecState)
  | stop (st : ExecState)
  | raised (e : ExecuteError)

/-! ## §3. `_persist_progress`, `_evaluate_skip`, `_execute_step`. -/

/-- `_persist_progress`. -/
def persistProgress (rt : Runtime) (site : PersistSite) (stepName : String)
    (stepStatus : StepStatus) (resultData : Option Payload) (error : Option Value) :
    Exec Unit :=
  .await (.persist site
    { sessionId := rt.context.sessionId
      pipelineName := match rt.pipelineName with
        | some n => if n = "" then "unnamed" else n
        | none => "unnamed"
      stepName := stepName
      stepStatus := stepStatus
      resultData := resultData
      error := error }) (fun _ => .done ())

/-- `_evaluate_skip`: the `$` of the four variables is stripped, failures of the
expression count as false. -/
def evaluateSkip (rt : Runtime) (expression : String) (stepsData : Dict String Payload) :
    Except ExecuteError Bool :=
  let cleaned := (((expression.replace "$DEFINITION" "DEFINITION").replace
    "$SESSION" "SESSION").replace "$WORKER" "WORKER").replace "$STEPS" "STEPS"
  match rt.simpleEval cleaned
      { definition := rt.context.definition
        session := rt.context.session
        workerIp := rt.context.workerIp
        steps := stepsData } with
  | .value v => .ok v.truthy
  | .caught _ => .ok false
  | .uncaught exc => .error (.evaluation exc)

/-- `skip_expr and self._evaluate_skip(skip_expr, context)`. -/
def shouldSkip (rt : Runtime) (step : StepDef) (stepsData : Dict String Payload) :
    Except ExecuteError Bool :=
  match step.skipWhen with
  | none => .ok false
  | some expr => if expr = "" then .ok false else evaluateSkip rt expr stepsData

/-- `f"{x}"` for an optional integer. -/
def textOfOptInt : Option Int → String
  | none => "None"
  | some n => toString n

/-- `last_error` after a timeout. -/
def timeoutText (step : StepDef) (attempt : Nat) : String :=
  "Step '" ++ step.name ++ "' timed out after " ++ textOfOptInt step.timeoutSeconds
    ++ "s (attempt " ++ toString attempt ++ "/" ++ toString step.maxAttempts ++ ")"

/-- The text of `PipelineStepError(step_name, str(last_error))`. -/
def stepErrorText (step : StepDef) (lastError : Option String) : String :=
  "Step '" ++ step.name ++ "' failed: " ++ lastError.getD "None"

/-- The attempts of `_execute_step` that are left, the next one numbered `attempt`.
Returns the result dict, or the text of the exception after the last attempt. -/
def attemptStep (step : StepDef) :
    Nat → Nat → Option String → ExecState → Exec (Except String Payload × ExecState)
  | 0, _, lastError, st => .done (.error (stepErrorText step lastError), st)
  | left + 1, attempt, _, st =>
      -- the in-memory progress says `in_progress` while the handler runs
      let st' := { st with
        progress := st.progress.set step.name
          { status := some .inProgress, attempt := some attempt } }
      .await (.dispatch
        { stepName := step.name
          handlerName := step.handlerName
          progress := st'.progress
          stepsData := st'.stepsData
          params := step.params }) fun outcome =>
        match outcome with
        -- the first result ends the attempts, whatever status it reports
        | .returned result => .done (.ok result, st')
        | .returnedOther result => .done (.ok (Payload.single "result" result), st')
        | .timedOut => attemptStep step left (attempt + 1) (some (timeoutText step attempt)) st'
        | .raised message => attemptStep step left (attempt + 1) (some message) st'

/-- `_execute_step`: `range(1, max_attempts + 1)` attempts. -/
def executeStep (step : StepDef) (st : ExecState) : Exec (Except String Payload × ExecState) :=
  attemptStep step step.maxAttempts.toNat 1 none st

/-! ## §4. One step of the main loop. -/

/-- A step that an earlier run left completed, skipped or suspended. -/
def resumeStep (step : StepDef) (st : ExecState) (prev : StepInfo) : Option StepExit :=
  match prev.resumeStatus with
  | some .completed =>
      -- an empty `result_data` is not restored
      let prevResult := prev.resultData.getD Dict.empty
      let st' := st.mark step.name .completed
        { status := some .completed, resultData := some prevResult }
      some (.next (if prevResult.isEmpty then st'
        else { st' with stepsData := st'.stepsData.set step.name prevResult }))
  | some .skipped =>
      some (.next (st.mark step.name .skipped
        { status := some .skipped, reason := some (.str "previously skipped") }))
  | some .suspended =>
      -- the external job has not reported yet: halt again, do not dispatch
      let data := prev.resultData.getD Dict.empty
      let st' := st.mark step.name .suspended prev
      some (.stop { st' with
        externalJobs := st'.externalJobs ++
          [{ stepName := step.name
             externalJobId :=
              (prev.externalJobId.getD .none).orElse (data.get "external_job_id")
             stepCorrelationId :=
              (prev.stepCorrelationId.getD .none).orElse (data.get "step_correlation_id")
             suspendedAt := prev.suspendedAt.getD .none }]
        pipelineSuspended := true })
  -- failed, pending, in_progress: executed again
  | _ => none

/-- The first need that failed and was not optional. -/
def upstreamBlocked (steps : List StepDef) (st : ExecState) (needs : List String) :
    Option String :=
  -- a skipped need does not block, nor does a failed optional one
  needs.find? fun dep =>
    st.stepStatuses.get? dep == some .failed
      && !((findStep steps dep).map StepDef.optional).getD false

/-- `status` of a handler's result dict, as `execute` tells them apart. -/
inductive HandlerStatus where
  | skipped
  | suspended
  | failed
  | completed
  deriving DecidableEq, Repr

/-- `result_data.get("status")`; anything else counts as completed. -/
def handlerStatus (result : Payload) : HandlerStatus :=
  if (result.get "status").isStr "skipped" then .skipped
  else if (result.get "status").isStr "suspended" then .suspended
  else if (result.get "status").isStr "failed" then .failed
  else .completed

/-- Mark every step without a status as skipped and tell the control plane. -/
def abortRemaining (rt : Runtime) : List StepDef → ExecState → Exec ExecState
  | [], st => .done st
  | remaining :: rest, st =>
      if st.stepStatuses.contains remaining.name then abortRemaining rt rest st
      else
        (persistProgress rt .aborted remaining.name .skipped none none).bind fun _ =>
          abortRemaining rt rest (st.mark remaining.name .skipped
            { status := some .skipped, reason := some (.str "pipeline aborted") })

/-- The common end of both failure paths: persist, then go on past an optional
step or abort the pipeline. -/
def failStep (rt : Runtime) (ordered : List StepDef) (step : StepDef) (site : PersistSite)
    (cause : Value) (info : StepInfo) (st : ExecState) : Exec StepExit :=
  let st' := st.mark step.name .failed info
  (persistProgress rt site step.name .failed none (some cause)).bind fun _ =>
    if step.optional then .done (.next st')
    else
      -- a required step failed: the rest of the order is marked skipped
      (abortRemaining rt ordered
        { st' with
          errorMessage := some
            ("Required step '" ++ step.name ++ "' failed: " ++ cause.pyStr) }).bind
        fun st'' => .done (.stop st'')

/-- The `result_data` a suspension is persisted with. -/
def suspensionData (rt : Runtime) (result : Payload) : Payload :=
  Dict.ofList
    [ ("external_job_id", result.get "external_job_id"),
      ("step_correlation_id", result.get "step_correlation_id"),
      ("suspended_at", .str rt.now),
      ("reason", result.getD "reason"
        (.str ("awaiting external job " ++ (result.get "external_job_id").pyStr))) ]

/-- The handler delegated the step to an external job. -/
def suspendStep (rt : Runtime) (step : StepDef) (result : Payload) (st : ExecState) :
    Exec StepExit :=
  let data := suspensionData rt result
  let st' := st.mark step.name .suspended
    { status := some .suspended
      externalJobId := some (data.get "external_job_id")
      stepCorrelationId := some (data.get "step_correlation_id")
      suspendedAt := some (data.get "suspended_at")
      reason := some (data.get "reason")
      resultData := some result }
  (persistProgress rt .suspension step.name .suspended (some data) none).bind fun _ =>
    .done (.stop { st' with
      externalJobs := st'.externalJobs ++
        [{ stepName := step.name
           externalJobId := data.get "external_job_id"
           stepCorrelationId := data.get "step_correlation_id"
           suspendedAt := data.get "suspended_at" }]
      pipelineSuspended := true })

/-- Honor the status a handler reported in its result. -/
def interpretResult (rt : Runtime) (ordered : List StepDef) (step : StepDef) (result : Payload)
    (st : ExecState) : Exec StepExit :=
  match handlerStatus result with
  | .skipped =>
      let st' := st.mark step.name .skipped
        { status := some .skipped
          reason := some (result.getD "reason" (.str "step handler returned skipped"))
          resultData := some result }
      -- the result goes into `steps_data` but not into the update
      (persistProgress rt .handlerSkipped step.name .skipped none none).bind fun _ =>
        .done (.next { st' with stepsData := st'.stepsData.set step.name result })
  | .suspended => suspendStep rt step result st
  | .failed =>
      let handlerError := result.getD "error" (.str "step handler returned failed")
      failStep rt ordered step .handlerFailed handlerError
        { status := some .failed, error := some handlerError, resultData := some result } st
  | .completed =>
      let st' := st.mark step.name .completed
        { status := some .completed, resultData := some result }
      (persistProgress rt .completed step.name .completed (some result) none).bind fun _ =>
        .done (.next { st' with stepsData := st'.stepsData.set step.name result })

/-- Dispatch a step and interpret what came back. -/
def dispatchStep (rt : Runtime) (ordered : List StepDef) (step : StepDef) (st : ExecState) :
    Exec StepExit :=
  (executeStep step st).bind fun out =>
    match out with
    | (.ok result, st') => interpretResult rt ordered step result st'
    | (.error excMsg, st') =>
        failStep rt ordered step .exception (.str excMsg)
          { status := some .failed, error := some (.str excMsg) } st'

/-- The loop body for a step that is not resumed. -/
def runStep (rt : Runtime) (steps ordered : List StepDef) (step : StepDef) (st : ExecState) :
    Exec StepExit :=
  match upstreamBlocked steps st step.needs with
  | some dep =>
      (persistProgress rt .upstreamBlocked step.name .skipped none none).bind fun _ =>
        .done (.next (st.mark step.name .skipped
          { status := some .skipped
            reason := some (.str ("upstream '" ++ dep ++ "' failed")) }))
  | none =>
      match shouldSkip rt step st.stepsData with
      | .error e => .done (.raised e)
      | .ok true =>
          (persistProgress rt .skipWhen step.name .skipped none none).bind fun _ =>
            .done (.next (st.mark step.name .skipped
              { status := some .skipped
                reason := some (.str ("skip_when: " ++ step.skipWhen.getD "")) }))
      | .ok false => dispatchStep rt ordered step st

/-- The loop body. -/
def processStep (rt : Runtime) (steps ordered : List StepDef) (resume : Dict String StepInfo)
    (step : StepDef) (st : ExecState) : Exec StepExit :=
  match (resume.get? step.name).bind (resumeStep step st) with
  | some exit => .done exit
  | none => runStep rt steps ordered step st

/-! ## §5. The loop and `execute`. -/

/-- `for step in ordered_steps`. -/
def runLoop (rt : Runtime) (steps ordered : List StepDef) (resume : Dict String StepInfo) :
    List StepDef → ExecState → Exec (Except ExecuteError ExecState)
  | [], st => .done (.ok st)
  | step :: rest, st =>
      (processStep rt steps ordered resume step st).bind fun exit =>
        match exit with
        | .next st' => runLoop rt steps ordered resume rest st'
        -- `break`: the remaining steps are not looked at
        | .stop st' => .done (.ok st')
        | .raised e => .done (.error e)

/-- `_build_initial_progress`. -/
def buildInitialProgress : List StepDef → Nat → Progress → Progress
  | [], _, acc => acc
  | s :: rest, i, acc =>
      buildInitialProgress rest (i + 1)
        (acc.set s.name { status := some .pending, order := some i })

/-- The local variables before the first iteration. -/
def initialState (context : PipelineContext) (ordered : List StepDef) : ExecState :=
  { progress := buildInitialProgress ordered 0 Dict.empty
    stepsData := context.stepsData }

/-- Resolve the order and run the loop: the part of `execute` that acts. -/
def runPipeline (rt : Runtime) (sorter : Sorter) (steps : List StepDef)
    (existing : Option ExistingProgress) : Exec (Except ExecuteError ExecState) :=
  match resolveDag sorter steps with
  | .error e => .done (.error e)
  | .ok ordered =>
      runLoop rt steps ordered (resumeStatuses existing) ordered
        (initialState rt.context ordered)

/-- Terminal status of a pipeline. -/
inductive PipelineStatus where
  | completed
  | failed
  /-- `"partial"`: some optional steps failed. -/
  | partialSuccess
  | suspended
  deriving DecidableEq, Repr

/-- `PipelineResult`. -/
structure PipelineResult where
  pipelineName : String
  status : PipelineStatus
  stepsCompleted : Nat := 0
  stepsFailed : Nat := 0
  stepsSkipped : Nat := 0
  stepsSuspended : Nat := 0
  outputs : Dict String Value := Dict.empty
  error : Option String := none
  maxRetries : Int := 0
  externalJobs : List ExternalJob := []

/-- Determine the terminal status. -/
def terminalStatus (st : ExecState) : PipelineStatus :=
  if st.pipelineSuspended then .suspended
  else if st.errorMessage.isSome then .failed
  else if st.failed > 0 then .partialSuccess
  else .completed

/-- Python's `str.isspace` characters. -/
def isPyWhitespace (c : Char) : Bool :=
  c.toNat ∈ [0x09, 0x0a, 0x0b, 0x0c, 0x0d, 0x1c, 0x1d, 0x1e, 0x1f, 0x20, 0x85, 0xa0, 0x1680,
    0x2028, 0x2029, 0x202f, 0x205f, 0x3000] || (0x2000 ≤ c.toNat && c.toNat ≤ 0x200a)

/-- A single or a double quote. -/
def isQuote (c : Char) : Bool := c.toNat == 39 || c.toNat == 34

/-- Drop the characters of a class at both ends. -/
def stripChars (p : Char → Bool) (cs : List Char) : List Char :=
  ((cs.dropWhile p).reverse.dropWhile p).reverse

/-- Follow a field path through nested dicts (or attributes). -/
def followPath (rt : Runtime) : Value → List String → Value
  | data, [] => data
  | data, part :: rest =>
      let found := match data with
        | .dict kvs => some ((Dict.lookup part kvs).getD .none)
        | v => rt.getattr v part
      match found with
      | none => .none
      | some .none => .none
      | some v => followPath rt v rest

/-- `_resolve_dot_path`. -/
def resolveDotPath (rt : Runtime) (expression : String) (stepsData : Dict String Payload) :
    Value :=
  let expr := stripChars isQuote (stripChars isPyWhitespace expression.toList)
  if !("$STEPS.".toList.isPrefixOf expr) then .none
  else
    match ((expr.drop "$STEPS.".length).splitOn '.').map String.ofList with
    | stepName :: field :: path =>
        match stepsData.get? stepName with
        | none => .none
        | some data => followPath rt (.dict data.entries) (field :: path)
    | _ => .none

/-- `_resolve_outputs`. -/
def resolveOutputs (rt : Runtime) (outputDefs : Dict String String)
    (stepsData : Dict String Payload) : Dict String Value :=
  Dict.ofList (outputDefs.entries.map fun kv => (kv.1, resolveDotPath rt kv.2 stepsData))

/-- The `PipelineResult` of a finished loop. -/
def finishPipeline (rt : Runtime) (pipeline : PipelineDef) (st : ExecState) : PipelineResult :=
  { pipelineName := pipeline.description.getD "unnamed"
    status := terminalStatus st
    stepsCompleted := st.completed
    stepsFailed := st.failed
    stepsSkipped := st.skipped
    stepsSuspended := st.suspendedCount
    outputs := resolveOutputs rt pipeline.outputs st.stepsData
    error := st.errorMessage
    maxRetries := pipeline.maxRetries
    externalJobs := st.externalJobs }

/-- `PipelineExecutor.execute`. -/
def execute (rt : Runtime) (sorter : Sorter) (pipeline : PipelineDef)
    (existing : Option ExistingProgress) : Exec (Except ExecuteError PipelineResult) :=
  if pipeline.steps.isEmpty then
    -- no outputs are resolved for a pipeline without steps
    .done (.ok
      { pipelineName := pipeline.description.getD "unnamed"
        status := .completed
        maxRetries := pipeline.maxRetries })
  else
    (runPipeline rt sorter pipeline.steps existing).bind fun out =>
      .done (out.map (finishPipeline rt pipeline))

end CmlCloudManager.Pipeline
