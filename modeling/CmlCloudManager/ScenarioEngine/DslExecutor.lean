/-
  CmlCloudManager.ScenarioEngine.DslExecutor
  ──────────────────────────────────────────
  **THE DSL EXECUTOR.**

  `DslExecutor.execute` runs a list of tasks, `call`, `do`, `set` and `try` in any
  nesting, as a suspendable program.  It leaves the process in two places only,

    • `invoke` — the scenario of a `call` is awaited,
    • `sleep`  — a `try` waits before its next attempt,

  and only there can the cancellation event become set, so that each answer says whether
  it did meanwhile.  Nothing clears it: `DslState.cancelled` is what `is_set()` returns.

  A task list is given as the executor reads it: what it asks of a dict by `in` and
  `isinstance` is a constructor here.  Each call carries where in the tree it was made
  (`Surroundings`), and a delay what comes after it (`Outset`); the code keeps no such
  record and nobody sees it.
-/
import Mathlib.Algebra.Order.Ring.Rat
import CmlCloudManager.Foundation.Resumption
import CmlCloudManager.Pipeline.Executor

namespace CmlCloudManager.ScenarioEngine

open CmlCloudManager.Foundation
open CmlCloudManager.Pipeline (Value Payload isPyWhitespace stripChars)

/-! ## §1. Expressions. -/

/-- What the executor takes from its surroundings: the jq library and the scenario registry. -/
structure DslRuntime where
  /-- `jq.compile(expression, args=variables).input(data).all()`, or the text of the exception. -/
  jq : String → Value → List (String × Value) → Except String (List Value)
  /-- `get_scenario(name, version) is not None`. -/
  registered : String → String → Bool

/-- `extract_expression`: what stands in the braces of an expression. -/
def extractExpression (value : String) : Option String :=
  if !("$\x7b".toList.isPrefixOf value.toList) then none
  else
    -- the pattern may end before a last newline
    let backwards := (value.toList.drop 2).reverse
    match if backwards.head? = some '\n' then backwards.tail else backwards with
    | closing :: last :: inner =>
        if closing.toNat ≠ 0x7d then none
        else
          let stripped := stripChars isPyWhitespace (last :: inner).reverse
          -- of nothing but blanks the last one is the expression
          some (String.ofList (if stripped.isEmpty then [last] else stripped))
    | _ => none

/-- `evaluate`. -/
def DslRuntime.evaluate (rt : DslRuntime) (expression : String) (data : Value)
    (vars : List (String × Value)) : Except String Value :=
  match rt.jq expression data vars with
  | .error detail => .error detail
  | .ok [] => .ok .none
  | .ok [result] => .ok result
  | .ok results => .ok (.list results)

/-- `resolve_value`. -/
def DslRuntime.resolveValue (rt : DslRuntime) (value data : Value)
    (vars : List (String × Value)) : Except String Value :=
  match value with
  | .str s =>
      match extractExpression s with
      | none => .ok value
      | some expression => rt.evaluate expression data vars
  | _ => .ok value

/-- `resolve_object`. -/
def DslRuntime.resolveObject (rt : DslRuntime) (data : Value)
    (vars : List (String × Value)) :
    List (String × Value) → Except String (List (String × Value))
  | [] => .ok []
  | (key, value) :: rest =>
      match rt.resolveValue value data vars with
      | .error detail => .error detail
      | .ok resolved =>
          match rt.resolveObject data vars rest with
          | .error detail => .error detail
          | .ok others => .ok ((key, resolved) :: others)

/-- `_jq_variables`. -/
def jqVariables (workflowContext : Payload) (currentOutput : Value) : List (String × Value) :=
  let shown := match currentOutput with
    | .dict _ => currentOutput
    | .list _ => currentOutput
    | _ => .dict []
  [("context", .dict workflowContext.entries), ("input", shown), ("output", shown)]

/-- The output of a task.  `set` returns the workflow context itself, which goes on changing. -/
inductive TaskOutput where
  | context
  | value (v : Value)

/-- What it is at the moment. -/
def TaskOutput.get (workflowContext : Payload) : TaskOutput → Value
  | .context => .dict workflowContext.entries
  | .value v => v

/-! ## §2. Tasks. -/

/-- The keys of a `call` task. -/
structure CallSpec where
  call : Value
  withArgs : Option (List (String × Value)) := none
  inputFrom : Option Value := none
  timeoutSeconds : Value := .none

/-- The keys of `catch.retry`. -/
structure RetrySpec where
  /-- What is raised before the first attempt: `catch` or `catch.retry` is no dict, or `count` is
  no integer. -/
  readError : Option String := none
  /-- `limit.attempt.count`. -/
  maxAttempts : Int := 1
  /-- `delay.seconds`, which may be a fraction. -/
  baseDelay : Rat := 1
  /-- `"exponential" in backoff`. -/
  exponential : Bool := false

/-- The delay after an attempt. -/
def RetrySpec.delay (retry : RetrySpec) (attempt : Nat) : Rat :=
  if retry.exponential then retry.baseDelay * 2 ^ (attempt - 1) else retry.baseDelay

mutual

/-- An entry of a task list. -/
inductive TaskDef where
  /-- Not a dict with one key. -/
  | invalid (definition : Value)
  /-- Its value is no dict. -/
  | noSpec (name : String)
  | task (name : String) (condition : Option Value) (type : TaskType)
      (outputAs exportAs : Option Value) (thenEnd : Bool)

/-- What a task does. -/
inductive TaskType where
  | call (spec : CallSpec)
  | doTasks (tasks : List TaskDef)
  /-- `do` is no list. -/
  | doOther
  | set (values : List (String × Value))
  /-- `set` is no dict. -/
  | setOther
  | tryTask (body : TaskType) (retry : RetrySpec) (fallback : List TaskDef)
  /-- The value of a `try` that is no dict. -/
  | noTask
  /-- One of the types of a later phase. -/
  | notImplemented (type : String)
  | unknown (keys : List String)

end

/-! ## §3. Calls, answers and state. -/

/-- Where in the tree a call is made. -/
structure Surroundings where
  /-- Another task follows: in the list around it, or in one around that. -/
  ahead : Bool := false
  /-- A failure here is caught by a `try` that has an attempt or a fallback left. -/
  caught : Bool := false

/-- What a task does first, if the event is set when it begins. -/
inductive Outset where
  /-- It invokes a scenario. -/
  | invokes
  /-- It goes well without a call. -/
  | succeeds
  | fails
  deriving DecidableEq

/-- What a scenario is invoked with. -/
structure Invocation where
  scenarioName : String
  scenarioVersion : String
  taskInput : Value
  timeoutSeconds : Value

/-- What the executor asks of its environment. -/
inductive DslEffect where
  | invoke (invocation : Invocation) (around : Surroundings)
  /-- `next`: what the attempt after the delay does. -/
  | sleep (delay : Rat) (next : Outset) (around : Surroundings)

/-- How `scenario_instance.execute` ends. -/
inductive CallOutcome where
  | returned (status : String) (outputData : Value) (error : Option String)
  | timedOut
  /-- `CancelledError`. -/
  | cancelled
  | raised (exc : String)

/-- The answer to an invocation, and whether the event became set meanwhile. -/
structure InvokeReply where
  outcome : CallOutcome
  eventSet : Bool := false

/-- An exception that nothing here catches. -/
inductive Escaped where
  /-- `CancelledError` outside a call. -/
  | cancelled
  | other (exc : String)

/-- The answer to a delay. -/
structure SleepReply where
  /-- `CancelledError`, or `TypeError` where `delay.seconds` is no number. -/
  raised : Option Escaped := none
  eventSet : Bool := false

/-- The type of the answer. -/
def DslEffect.Response : DslEffect → Type
  | .invoke _ _ => InvokeReply
  | .sleep _ _ _ => SleepReply

/-- A part of the executor. -/
abbrev DslProgram (α : Type) : Type := Resumption DslEffect DslEffect.Response α

/-- `_workflow_context` of an executor, and `cancellation_event.is_set()`. -/
structure DslState where
  workflowContext : Payload
  cancelled : Bool

/-- The event, after an answer. -/
def DslState.after (st : DslState) (eventSet : Bool) : DslState :=
  { st with cancelled := st.cancelled || eventSet }

/-- What leaves a task. -/
inductive DslRaised where
  /-- `DslExecutionError`. -/
  | dsl (taskName detail : String)
  | escaped (e : Escaped)

/-- `DslExecutionResult`. -/
structure DslExecutionResult where
  success : Bool
  context : Payload := Dict.empty
  error : Option String := none
  failedTask : Option String := none

/-- `DslExecutionResult.completed`. -/
def DslExecutionResult.completed (context : Payload) : DslExecutionResult :=
  { success := true, context := context }

/-- `DslExecutionResult.failed`. -/
def DslExecutionResult.failed (error : String) (failedTask : Option String) :
    DslExecutionResult :=
  { success := false, error := some error, failedTask := failedTask }

/-- `f"{x}"` for an optional text. -/
def textOrNone (x : Option String) : String := x.getD "None"

/-! ## §4. `_execute_call` and `_execute_set`. -/

/-- `call_ref.split("@", 1)`; the version is `v1` where there is none. -/
def splitRef (callRef : String) : String × String :=
  let chars := callRef.toList
  if chars.contains '@' then
    (String.ofList (chars.takeWhile (· ≠ '@')),
      String.ofList ((chars.dropWhile (· ≠ '@')).drop 1))
  else (callRef, "v1")

/-- `_resolve_task_input`. -/
def resolveTaskInput (rt : DslRuntime) (spec : CallSpec) (rawInput : Value)
    (workflowContext : Payload) : Except String Value :=
  let vars := jqVariables workflowContext rawInput
  match spec.withArgs with
  | some (arg :: args) =>
      match rt.resolveObject rawInput vars (arg :: args) with
      | .error detail => .error ("'with' argument evaluation failed: " ++ detail)
      | .ok resolved => .ok (.dict resolved)
  | _ =>
      match spec.inputFrom with
      | some expression =>
          match rt.resolveValue expression rawInput vars with
          | .error detail => .error ("'input.from' evaluation failed: " ++ detail)
          | .ok resolved => .ok resolved
      | none =>
          match rawInput with
          | .dict kvs => .ok (.dict kvs)
          | _ => .ok (.dict [])

/-- What a `call` invokes, or the detail of the error before that. -/
def prepareCall (rt : DslRuntime) (spec : CallSpec) (rawInput : TaskOutput)
    (workflowContext : Payload) : Except String Invocation :=
  match spec.call with
  | .str callRef =>
      let (scenarioName, scenarioVersion) := splitRef callRef
      if !rt.registered scenarioName scenarioVersion then
        .error ("Scenario '" ++ callRef ++ "' not found in registry")
      else
        match resolveTaskInput rt spec (rawInput.get workflowContext) workflowContext with
        | .error detail => .error detail
        | .ok taskInput =>
            .ok
              { scenarioName := scenarioName
                scenarioVersion := scenarioVersion
                taskInput := taskInput
                timeoutSeconds := spec.timeoutSeconds }
  | v => .error ("'call' must be a string scenario reference, got <class '" ++ v.typeName ++ "'>")

/-- What a `call` makes of the outcome. -/
def interpretOutcome (taskName : String) (spec : CallSpec) :
    CallOutcome → Except DslRaised TaskOutput
  | .returned status outputData error =>
      if status = "failed" then
        .error (.dsl taskName
          ("Scenario '" ++ spec.call.pyStr ++ "' failed: " ++ textOrNone error))
      else if status = "cancelled" then .error (.dsl taskName "Scenario cancelled")
      else .ok (.value outputData)
  | .timedOut =>
      .error (.dsl taskName
        ("Scenario '" ++ spec.call.pyStr ++ "' timed out after " ++ spec.timeoutSeconds.pyStr
          ++ "s"))
  -- a cancelled call fails like any other
  | .cancelled => .error (.dsl taskName "Cancelled")
  | .raised exc => .error (.escaped (.other exc))

/-- `_execute_call`. -/
def executeCall (rt : DslRuntime) (spec : CallSpec) (around : Surroundings) (taskName : String)
    (rawInput : TaskOutput) (st : DslState) : DslProgram (Except DslRaised TaskOutput × DslState) :=
  match prepareCall rt spec rawInput st.workflowContext with
  | .error detail => .done (.error (.dsl taskName detail), st)
  | .ok invocation =>
      .await (.invoke invocation around) fun (reply : InvokeReply) =>
        .done (interpretOutcome taskName spec reply.outcome, st.after reply.eventSet)

/-- The values of `set`, or the detail of the error. -/
def resolveSet (rt : DslRuntime) (rawInput : Value) (vars : List (String × Value)) :
    List (String × Value) → Except String (List (String × Value))
  | [] => .ok []
  | (key, value) :: rest =>
      match rt.resolveValue value rawInput vars with
      | .error detail => .error ("Failed to evaluate set." ++ key ++ ": " ++ detail)
      | .ok resolved =>
          match resolveSet rt rawInput vars rest with
          | .error detail => .error detail
          | .ok others => .ok ((key, resolved) :: others)

/-- `_execute_set`. -/
def executeSet (rt : DslRuntime) (values : List (String × Value)) (taskName : String)
    (rawInput : TaskOutput) (st : DslState) : Except DslRaised TaskOutput × DslState :=
  let data := rawInput.get st.workflowContext
  match resolveSet rt data (jqVariables st.workflowContext data) values with
  | .error detail => (.error (.dsl taskName detail), st)
  | .ok resolved =>
      (.ok .context,
        { st with workflowContext := st.workflowContext.update (Dict.ofList resolved) })

/-! ## §5. `_execute_try`: the attempts. -/

/-- How the attempts end: an output, or the detail of the last error. -/
inductive TryOutcome where
  | succeeded (output : TaskOutput)
  | exhausted (lastError : Option String)

/-- The attempts that are left, the next one numbered `attempt`. -/
def attemptTask (retry : RetrySpec) (around : Surroundings) (hasFallback : Bool)
    (outset : DslState → Outset)
    (body : Surroundings → DslState → DslProgram (Except DslRaised TaskOutput × DslState)) :
    Nat → Nat → Option String → DslState → DslProgram (Except Escaped TryOutcome × DslState)
  | 0, _, lastError, st => .done (.ok (.exhausted lastError), st)
  | left + 1, attempt, _, st =>
      let goesOn := decide ((attempt : Int) < retry.maxAttempts)
      (body { around with caught := around.caught || goesOn || hasFallback } st).bind fun
        | (.ok output, st) => .done (.ok (.succeeded output), st)
        | (.error (.dsl _ detail), st) =>
            if goesOn then
              .await (.sleep (retry.delay attempt) (outset st) around) fun (reply : SleepReply) =>
                match reply.raised with
                | some e => .done (.error e, st.after reply.eventSet)
                | none =>
                    -- the event is not looked at
                    attemptTask retry around hasFallback outset body left (attempt + 1)
                      (some detail) (st.after reply.eventSet)
            else
              attemptTask retry around hasFallback outset body left (attempt + 1) (some detail) st
        | (.error (.escaped e), st) => .done (.error e, st)

/-- What the task does first, if the event is set. -/
def TaskType.outset (rt : DslRuntime) (rawInput : TaskOutput) (workflowContext : Payload) :
    TaskType → Outset
  | .call spec =>
      match prepareCall rt spec rawInput workflowContext with
      | .ok _ => .invokes
      | .error _ => .fails
  | .doTasks tasks => if tasks.isEmpty then .succeeds else .fails
  | .set values =>
      let data := rawInput.get workflowContext
      match resolveSet rt data (jqVariables workflowContext data) values with
      | .ok _ => .succeeds
      | .error _ => .fails
  | .tryTask body retry _ =>
      if 1 ≤ retry.maxAttempts then body.outset rt rawInput workflowContext else .fails
  | _ => .fails

/-! ## §6. `_execute_task` and `execute`. -/

/-- `if`: whether the task is executed, or the detail of the error. -/
def conditionHolds (rt : DslRuntime) (condition : Option Value) (lastOutput : TaskOutput)
    (st : DslState) : Except String Bool :=
  match condition with
  | none => .ok true
  | some .none => .ok true
  | some expression =>
      let data := lastOutput.get st.workflowContext
      match rt.resolveValue expression data (jqVariables st.workflowContext data) with
      | .error detail => .error detail
      | .ok v => .ok v.truthy

/-- `output.as`. -/
def transformOutput (rt : DslRuntime) (outputAs : Option Value) (output : TaskOutput)
    (st : DslState) : Except String TaskOutput :=
  match outputAs with
  | none => .ok output
  | some expression =>
      let data := output.get st.workflowContext
      match rt.resolveValue expression data (jqVariables st.workflowContext data) with
      | .error detail => .error detail
      | .ok v => .ok (.value v)

/-- `export.as`. -/
def exportOutput (rt : DslRuntime) (exportAs : Option Value) (output : TaskOutput)
    (st : DslState) : Except String DslState :=
  match exportAs with
  | none => .ok st
  | some expression =>
      let data := output.get st.workflowContext
      match rt.resolveValue expression data (jqVariables st.workflowContext data) with
      | .error detail => .error detail
      | .ok (.dict kvs) =>
          .ok { st with workflowContext := st.workflowContext.update (Dict.ofList kvs) }
      | .ok _ => .ok st

/-- What `execute` does with the output of a task: the new output and state, or the error. -/
def finishTask (rt : DslRuntime) (outputAs exportAs : Option Value) (output : TaskOutput)
    (st : DslState) : Except String (TaskOutput × DslState) :=
  match transformOutput rt outputAs output st with
  | .error detail => .error ("Output transform failed: " ++ detail)
  | .ok output =>
      match exportOutput rt exportAs output st with
      | .error detail => .error ("Export transform failed: " ++ detail)
      | .ok st => .ok (output, st)

mutual

/-- `_execute_task`. -/
def executeTask (rt : DslRuntime) :
    TaskType → Surroundings → String → TaskOutput → DslState →
      DslProgram (Except DslRaised TaskOutput × DslState)
  | .call spec, around, taskName, rawInput, st => executeCall rt spec around taskName rawInput st
  | .doTasks tasks, around, taskName, _, st =>
      -- a new executor starts from a copy of the context
      (executeTasks rt tasks around .context st).bind fun
        | (.error e, sub) => .done (.error (.escaped e), { st with cancelled := sub.cancelled })
        | (.ok result, sub) =>
            if result.success then
              .done (.ok (.value (.dict result.context.entries)),
                { workflowContext := st.workflowContext.update result.context
                  cancelled := sub.cancelled })
            else
              .done (.error (.dsl taskName
                  ("Sub-task failed: " ++ textOrNone result.error ++ " (at: "
                    ++ textOrNone result.failedTask ++ ")")),
                { st with cancelled := sub.cancelled })
  | .doOther, _, taskName, _, st =>
      .done (.error (.dsl taskName "'do' must be a list of sub-tasks"), st)
  | .set values, _, taskName, rawInput, st => .done (executeSet rt values taskName rawInput st)
  | .setOther, _, taskName, _, st =>
      .done (.error (.dsl taskName "'set' must be a dict of key-value pairs"), st)
  | .tryTask body retry fallback, around, taskName, rawInput, st =>
      match retry.readError with
      | some exc => .done (.error (.escaped (.other exc)), st)
      | none =>
          (attemptTask retry around (!fallback.isEmpty)
              (fun st => body.outset rt rawInput st.workflowContext)
              (fun around st => executeTask rt body around taskName rawInput st)
              retry.maxAttempts.toNat 1 none st).bind fun
            | (.error e, st) => .done (.error (.escaped e), st)
            | (.ok (.succeeded output), st) => .done (.ok output, st)
            | (.ok (.exhausted lastError), st) =>
                let exhausted := DslRaised.dsl taskName
                  ("try exhausted " ++ toString retry.maxAttempts ++ " attempts: "
                    ++ textOrNone lastError)
                if fallback.isEmpty then .done (.error exhausted, st)
                else
                  let failing := st.workflowContext.set "_error"
                    (.dict [("task", .str taskName),
                      ("detail", lastError.elim .none .str)])
                  (executeTasks rt fallback around .context
                      { st with workflowContext := failing }).bind fun
                    | (.error e, sub) =>
                        .done (.error (.escaped e),
                          { workflowContext := failing, cancelled := sub.cancelled })
                    | (.ok result, sub) =>
                        let popped := failing.erase "_error"
                        if result.success then
                          .done (.ok (.value (.dict result.context.entries)),
                            { workflowContext := popped.update result.context
                              cancelled := sub.cancelled })
                        else
                          .done (.error exhausted,
                            { workflowContext := popped, cancelled := sub.cancelled })
  | .noTask, _, taskName, _, st =>
      .done (.error (.dsl taskName "'try' value must be a task spec dict"), st)
  | .notImplemented type, _, taskName, _, st =>
      .done (.error (.dsl taskName
        ("Task type '" ++ type ++ "' not yet implemented (Phase 3+)")), st)
  | .unknown keys, _, taskName, _, st =>
      .done (.error (.dsl taskName
        ("Unknown task type. Keys: " ++ (Value.list (keys.map .str)).pyRepr)), st)

/-- The loop of `execute` over the tasks that are left. -/
def executeTasks (rt : DslRuntime) :
    List TaskDef → Surroundings → TaskOutput → DslState →
      DslProgram (Except Escaped DslExecutionResult × DslState)
  | [], _, _, st => .done (.ok (.completed st.workflowContext), st)
  | definition :: rest, around, lastOutput, st =>
      -- the only place where the event is looked at
      if st.cancelled then .done (.ok (.failed "Cancelled" (some "(cancellation)")), st)
      else
        match definition with
        | .invalid v =>
            .done (.ok (.failed
              ("Invalid task definition: expected single-key dict, got <class '" ++ v.typeName
                ++ "'>") none), st)
        | .noSpec taskName =>
            .done (.ok (.failed
              ("Invalid task spec for '" ++ taskName ++ "': expected dict") (some taskName)), st)
        | .task taskName condition type outputAs exportAs thenEnd =>
            match conditionHolds rt condition lastOutput st with
            | .error detail =>
                .done (.ok (.failed ("Condition evaluation failed: " ++ detail)
                  (some taskName)), st)
            | .ok false => executeTasks rt rest around lastOutput st
            | .ok true =>
                (executeTask rt type
                    { around with ahead := around.ahead || (!thenEnd && !rest.isEmpty) }
                    taskName lastOutput st).bind fun
                  | (.error (.dsl failedTask detail), st) =>
                      .done (.ok (.failed detail (some failedTask)), st)
                  | (.error (.escaped e), st) => .done (.error e, st)
                  | (.ok output, st) =>
                      match finishTask rt outputAs exportAs output st with
                      | .error text => .done (.ok (.failed text (some taskName)), st)
                      | .ok (output, st) =>
                          if thenEnd then .done (.ok (.completed st.workflowContext), st)
                          else executeTasks rt rest around output st

end

/-- `DslExecutor.execute`, of an executor whose event is set or not. -/
def executeDsl (rt : DslRuntime) (tasks : List TaskDef) (initialContext : Option Payload)
    (cancelled : Bool) : DslProgram (Except Escaped DslExecutionResult × DslState) :=
  executeTasks rt tasks {} .context
    { workflowContext := initialContext.getD Dict.empty, cancelled := cancelled }

/-! ## §7. Induction on the tree. -/

/-- Nothing can be executed: the task fails at once. -/
def TaskType.unexecutable : TaskType → Bool
  | .call _ | .doTasks _ | .set _ | .tryTask _ _ _ => false
  | _ => true

theorem executeTask_unexecutable (rt : DslRuntime) {type : TaskType}
    (h : type.unexecutable = true) :
    ∃ detail, ∀ around taskName rawInput st, executeTask rt type around taskName rawInput st
      = .done (.error (.dsl taskName detail), st) := by
  cases type with
  | call | doTasks | set | tryTask => cases h
  | _ => exact ⟨_, fun _ _ _ _ => rfl⟩

/-- What is to be shown of each form of a task, and of a task list. -/
structure TreeRules (T : TaskType → Prop) (L : List TaskDef → Prop) : Prop where
  call : ∀ spec, T (.call spec)
  set : ∀ values, T (.set values)
  unexecutable : ∀ type : TaskType, type.unexecutable = true → T type
  doTasks : ∀ tasks, L tasks → T (.doTasks tasks)
  tryTask : ∀ body retry fallback, T body → L fallback → T (.tryTask body retry fallback)
  nil : L []
  invalid : ∀ definition rest,
    ((∃ v, definition = .invalid v) ∨ ∃ name, definition = .noSpec name) → L (definition :: rest)
  cons : ∀ taskName condition type outputAs exportAs thenEnd rest, T type → L rest →
    L (.task taskName condition type outputAs exportAs thenEnd :: rest)

section TreeRules

variable {T : TaskType → Prop} {L : List TaskDef → Prop}

mutual

/-- **It holds of every task**, by its type. -/
theorem TreeRules.task (h : TreeRules T L) : ∀ type, T type
  | .call spec => h.call spec
  | .doTasks tasks => h.doTasks tasks (h.tasks tasks)
  | .doOther => h.unexecutable _ rfl
  | .set values => h.set values
  | .setOther => h.unexecutable _ rfl
  | .tryTask body retry fallback => h.tryTask body retry fallback (h.task body) (h.tasks fallback)
  | .noTask => h.unexecutable _ rfl
  | .notImplemented _ => h.unexecutable _ rfl
  | .unknown _ => h.unexecutable _ rfl

/-- **And of every task list**, by its entries. -/
theorem TreeRules.tasks (h : TreeRules T L) : ∀ tasks, L tasks
  | [] => h.nil
  | .invalid v :: rest => h.invalid _ rest (.inl ⟨v, rfl⟩)
  | .noSpec name :: rest => h.invalid _ rest (.inr ⟨name, rfl⟩)
  | .task taskName condition type outputAs exportAs thenEnd :: rest =>
      h.cons taskName condition type outputAs exportAs thenEnd rest (h.task type) (h.tasks rest)

end

end TreeRules

end CmlCloudManager.ScenarioEngine
