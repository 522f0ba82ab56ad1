/-
  CmlCloudManager.ScenarioEngine.DslObserver
  ──────────────────────────────────────────
  **THE DSL EXECUTOR, OBSERVED.**

  The executor once more, with a record of what no result shows: what the context was when
  a task raised, each `catch.do` that was executed and how, each `catch` that could not be
  read.  It makes the same calls and returns the same results,

    • `erase_rules` — without its record it is the executor,
    • `runs_observe` — so that every run of the executor has one.
-/
import CmlCloudManager.ScenarioEngine.DslCancellation

namespace CmlCloudManager.ScenarioEngine

open CmlCloudManager.Foundation
open CmlCloudManager.Pipeline (Value Payload)

/-! ## §1. What is recorded. -/

/-- How the tasks of a `catch.do` end. -/
inductive CatchEnding where
  | failed
  | succeeded (setError : Bool)
  | escaped

/-- A `catch.do` that was executed, and the bindings of `_error`. -/
structure Caught where
  /-- Before the `try`. -/
  beforeTry : Option Value
  /-- When the attempts were exhausted. -/
  before : Option Value
  /-- The one that its tasks find. -/
  given : Value
  ending : CatchEnding
  /-- After the `try`. -/
  after : Option Value

/-- An entry of the record. -/
inductive DslNote where
  /-- A task raised. -/
  | raised (before after : Payload)
  | caught (c : Caught)
  /-- The `catch` of a `try` could not be read. -/
  | unreadable

/-- The record of a part of a run. -/
structure Seen where
  /-- A task set `_error` in the context that is left. -/
  setError : Bool := false
  notes : List DslNote := []

/-- The records of two parts. -/
def Seen.append (seen later : Seen) : Seen :=
  { setError := seen.setError || later.setError, notes := seen.notes ++ later.notes }

/-- The record of a part whose context is dropped. -/
def Seen.dropped (seen : Seen) : Seen := { seen with setError := false }

/-- A task that is no `do` and no `try` sets `_error`, if it goes well. -/
def TaskType.setsError : TaskType → Bool
  | .set values => values.any fun entry => entry.1 = "_error"
  | _ => false

/-- `export.as` sets it. -/
def exportsError (rt : DslRuntime) (exportAs : Option Value) (output : TaskOutput)
    (st : DslState) : Bool :=
  match exportAs with
  | none => false
  | some expression =>
      let data := output.get st.workflowContext
      match rt.resolveValue expression data (jqVariables st.workflowContext data) with
      | .ok (.dict kvs) => kvs.any fun entry => entry.1 = "_error"
      | _ => false

/-! ## §2. How `do` and `catch.do` go on. -/

/-- `do`, after its tasks. -/
def afterDo (taskName : String) (st : DslState) :
    Except Escaped DslExecutionResult × DslState → Except DslRaised TaskOutput × DslState
  | (.error e, sub) => (.error (.escaped e), { st with cancelled := sub.cancelled })
  | (.ok result, sub) =>
      if result.success then
        (.ok (.value (.dict result.context.entries)),
          { workflowContext := st.workflowContext.update result.context
            cancelled := sub.cancelled })
      else
        (.error (.dsl taskName
            ("Sub-task failed: " ++ textOrNone result.error ++ " (at: "
              ++ textOrNone result.failedTask ++ ")")),
          { st with cancelled := sub.cancelled })

/-- What is raised when the attempts are exhausted. -/
def exhaustedError (taskName : String) (retry : RetrySpec) (lastError : Option String) :
    DslRaised :=
  .dsl taskName
    ("try exhausted " ++ toString retry.maxAttempts ++ " attempts: " ++ textOrNone lastError)

/-- `_error`, as the tasks of `catch.do` find it. -/
def errorBinding (taskName : String) (lastError : Option String) : Value :=
  .dict [("task", .str taskName), ("detail", lastError.elim .none .str)]

/-- `catch.do`, after its tasks; `failing` is the context with `_error`. -/
def afterCatch (exhausted : DslRaised) (failing : Payload) :
    Except Escaped DslExecutionResult × DslState → Except DslRaised TaskOutput × DslState
  | (.error e, sub) =>
      (.error (.escaped e), { workflowContext := failing, cancelled := sub.cancelled })
  | (.ok result, sub) =>
      let popped := failing.erase "_error"
      if result.success then
        (.ok (.value (.dict result.context.entries)),
          { workflowContext := popped.update result.context, cancelled := sub.cancelled })
      else (.error exhausted, { workflowContext := popped, cancelled := sub.cancelled })

/-- How it ended, of which `setError` is recorded. -/
def catchEnding (setError : Bool) : Except Escaped DslExecutionResult → CatchEnding
  | .error _ => .escaped
  | .ok result => if result.success then .succeeded setError else .failed

/-! ## §3. The observed executor. -/

/-- A part of a task that raised is one entry more. -/
def recordRaise (before : Payload) :
    (Except DslRaised TaskOutput × DslState) × Seen →
      (Except DslRaised TaskOutput × DslState) × Seen
  | ((.error raised, st), seen) =>
      ((.error raised, st),
        { seen with notes := seen.notes ++ [.raised before st.workflowContext] })
  | ((.ok output, st), seen) => ((.ok output, st), seen)

/-- The task is executed, and it is recorded that it raised. -/
def watched (before : Payload)
    (p : DslProgram ((Except DslRaised TaskOutput × DslState) × Seen)) :
    DslProgram ((Except DslRaised TaskOutput × DslState) × Seen) :=
  p.bind fun out => .done (recordRaise before out)

/-- `attemptTask`. -/
def observeAttempts (retry : RetrySpec) (around : Surroundings) (hasFallback : Bool)
    (outset : DslState → Outset)
    (body : Surroundings → DslState →
      DslProgram ((Except DslRaised TaskOutput × DslState) × Seen)) :
    Nat → Nat → Option String → DslState →
      DslProgram ((Except Escaped TryOutcome × DslState) × Seen)
  | 0, _, lastError, st => .done ((.ok (.exhausted lastError), st), {})
  | left + 1, attempt, _, st =>
      let goesOn := decide ((attempt : Int) < retry.maxAttempts)
      (body { around with caught := around.caught || goesOn || hasFallback } st).bind fun
        | ((.ok output, st), seen) => .done ((.ok (.succeeded output), st), seen)
        | ((.error (.dsl _ detail), st), seen) =>
            let next := fun st =>
              (observeAttempts retry around hasFallback outset body left (attempt + 1)
                (some detail) st).bind fun out => .done (out.1, seen.dropped.append out.2)
            if goesOn then
              .await (.sleep (retry.delay attempt) (outset st) around) fun (reply : SleepReply) =>
                match reply.raised with
                | some e => .done ((.error e, st.after reply.eventSet), seen.dropped)
                | none => next (st.after reply.eventSet)
            else next st
        | ((.error (.escaped e), st), seen) => .done ((.error e, st), seen.dropped)

mutual

/-- `executeTask`. -/
def observeTask (rt : DslRuntime) :
    TaskType → Surroundings → String → TaskOutput → DslState →
      DslProgram ((Except DslRaised TaskOutput × DslState) × Seen)
  | .doTasks tasks, around, taskName, _, st =>
      (observeTasks rt tasks around .context st).bind fun (out, seen) =>
        .done (afterDo taskName st out, seen)
  | .tryTask body retry fallback, around, taskName, rawInput, st =>
      match retry.readError with
      | some exc => .done ((.error (.escaped (.other exc)), st), { notes := [.unreadable] })
      | none =>
          (observeAttempts retry around (!fallback.isEmpty)
              (fun st => body.outset rt rawInput st.workflowContext)
              (fun around st => watched st.workflowContext
                (observeTask rt body around taskName rawInput st))
              retry.maxAttempts.toNat 1 none st).bind fun
            | ((.error e, st), seen) => .done ((.error (.escaped e), st), seen)
            | ((.ok (.succeeded output), st), seen) => .done ((.ok output, st), seen)
            | ((.ok (.exhausted lastError), st₁), seen) =>
                let exhausted := exhaustedError taskName retry lastError
                if fallback.isEmpty then .done ((.error exhausted, st₁), seen)
                else
                  let given := errorBinding taskName lastError
                  let failing := st₁.workflowContext.set "_error" given
                  (observeTasks rt fallback around .context
                      { st₁ with workflowContext := failing }).bind fun (out, later) =>
                    let final := afterCatch exhausted failing out
                    let caught : Caught :=
                      { beforeTry := st.workflowContext.get? "_error"
                        before := st₁.workflowContext.get? "_error"
                        given := given
                        ending := catchEnding later.setError out.1
                        after := final.2.workflowContext.get? "_error" }
                    .done (final,
                      (seen.dropped.append later).append { notes := [.caught caught] })
  | type, around, taskName, rawInput, st =>
      (executeTask rt type around taskName rawInput st).bind fun out =>
        .done (out, { setError := type.setsError })

/-- `executeTasks`. -/
def observeTasks (rt : DslRuntime) :
    List TaskDef → Surroundings → TaskOutput → DslState →
      DslProgram ((Except Escaped DslExecutionResult × DslState) × Seen)
  | [], _, _, st => .done ((.ok (.completed st.workflowContext), st), {})
  | definition :: rest, around, lastOutput, st =>
      if st.cancelled then .done ((.ok (.failed "Cancelled" (some "(cancellation)")), st), {})
      else
        match definition with
        | .invalid v =>
            .done ((.ok (.failed
              ("Invalid task definition: expected single-key dict, got <class '" ++ v.typeName
                ++ "'>") none), st), {})
        | .noSpec taskName =>
            .done ((.ok (.failed
              ("Invalid task spec for '" ++ taskName ++ "': expected dict") (some taskName)), st),
              {})
        | .task taskName condition type outputAs exportAs thenEnd =>
            match conditionHolds rt condition lastOutput st with
            | .error detail =>
                .done ((.ok (.failed ("Condition evaluation failed: " ++ detail)
                  (some taskName)), st), {})
            | .ok false => observeTasks rt rest around lastOutput st
            | .ok true =>
                (watched st.workflowContext (observeTask rt type
                    { around with ahead := around.ahead || (!thenEnd && !rest.isEmpty) }
                    taskName lastOutput st)).bind fun
                  | ((.error (.dsl failedTask detail), st), seen) =>
                      .done ((.ok (.failed detail (some failedTask)), st), seen)
                  | ((.error (.escaped e), st), seen) => .done ((.error e, st), seen)
                  | ((.ok output, st), seen) =>
                      match finishTask rt outputAs exportAs output st with
                      | .error text => .done ((.ok (.failed text (some taskName)), st), seen)
                      | .ok (output, st') =>
                          let seen := seen.append { setError := exportsError rt exportAs output st }
                          if thenEnd then
                            .done ((.ok (.completed st'.workflowContext), st'), seen)
                          else
                            (observeTasks rt rest around output st').bind fun (out, later) =>
                              .done (out, seen.append later)

end

/-- `executeDsl`. -/
def observeDsl (rt : DslRuntime) (tasks : List TaskDef) (initialContext : Option Payload)
    (cancelled : Bool) : DslProgram ((Except Escaped DslExecutionResult × DslState) × Seen) :=
  observeTasks rt tasks {} .context
    { workflowContext := initialContext.getD Dict.empty, cancelled := cancelled }

/-! ## §4. Without its record it is the executor. -/

theorem watched_erase (before : Payload)
    (p : DslProgram ((Except DslRaised TaskOutput × DslState) × Seen)) :
    (watched before p).erase = p.erase := by
  have hdone : ∀ (out : Except DslRaised TaskOutput × DslState) (seen : Seen),
      (Resumption.done (recordRaise before (out, seen)) : DslProgram _).erase = .done out := by
    rintro ⟨_ | _, st⟩ seen <;> rfl
  exact (Resumption.erase_bind hdone).trans (Resumption.bind_done _)

/-- The attempts, by their number. -/
theorem observeAttempts_erase {retry : RetrySpec} {around : Surroundings} {hasFallback : Bool}
    {outset : DslState → Outset}
    {observed : Surroundings → DslState →
      DslProgram ((Except DslRaised TaskOutput × DslState) × Seen)}
    {body : Surroundings → DslState → DslProgram (Except DslRaised TaskOutput × DslState)}
    (hbody : ∀ inner st, (observed inner st).erase = body inner st) :
    ∀ (left attempt : Nat) (lastError : Option String) (st : DslState),
      (observeAttempts retry around hasFallback outset observed left attempt lastError st).erase
        = attemptTask retry around hasFallback outset body left attempt lastError st := by
  intro left
  induction left with
  | zero => exact fun _ _ _ => rfl
  | succ left ih =>
      intro attempt lastError st
      rw [observeAttempts, attemptTask, ← hbody]
      refine Resumption.erase_bind ?_
      rintro ⟨result, st₁⟩ seen
      -- the attempts that follow keep a record of their own
      have hnext : ∀ detail st, Resumption.erase
          ((observeAttempts retry around hasFallback outset observed left (attempt + 1)
              (some detail) st).bind fun out => .done (out.1, seen.dropped.append out.2))
          = attemptTask retry around hasFallback outset body left (attempt + 1) (some detail)
              st := by
        intro detail st
        rw [← ih, Resumption.erase_bind fun _ _ => rfl, Resumption.bind_done]
      cases result with
      | ok output => rfl
      | error raised =>
          cases raised with
          | escaped e => rfl
          | dsl failedTask detail =>
              dsimp only
              split
              next hgoes =>
                refine congrArg (Resumption.await _) (funext fun (reply : SleepReply) => ?_)
                obtain ⟨answer, eventSet⟩ := reply
                cases answer with
                | some e => rfl
                | none => exact hnext detail _
              next hgoes => exact hnext detail st₁

section Erase

variable {rt : DslRuntime}

theorem observeDo_erase {tasks : List TaskDef}
    (htasks : ∀ around lastOutput st, (observeTasks rt tasks around lastOutput st).erase
      = executeTasks rt tasks around lastOutput st)
    (around : Surroundings) (taskName : String) (rawInput : TaskOutput) (st : DslState) :
    (observeTask rt (.doTasks tasks) around taskName rawInput st).erase
      = executeTask rt (.doTasks tasks) around taskName rawInput st := by
  rw [observeTask, executeTask, ← htasks]
  refine Resumption.erase_bind ?_
  rintro ⟨result, sub⟩ seen
  cases result with
  | error e => rfl
  | ok result => exact apply_ite Resumption.done _ _ _

theorem observeTry_erase {body : TaskType} {retry : RetrySpec} {fallback : List TaskDef}
    (hbody : ∀ around taskName rawInput st, (observeTask rt body around taskName rawInput st).erase
      = executeTask rt body around taskName rawInput st)
    (hfallback : ∀ around lastOutput st, (observeTasks rt fallback around lastOutput st).erase
      = executeTasks rt fallback around lastOutput st)
    (around : Surroundings) (taskName : String) (rawInput : TaskOutput) (st : DslState) :
    (observeTask rt (.tryTask body retry fallback) around taskName rawInput st).erase
      = executeTask rt (.tryTask body retry fallback) around taskName rawInput st := by
  rw [observeTask, executeTask]
  cases retry.readError with
  | some exc => rfl
  | none =>
      dsimp only
      have hwatched : ∀ inner st, (watched st.workflowContext
          (observeTask rt body inner taskName rawInput st)).erase
          = executeTask rt body inner taskName rawInput st :=
        fun inner st => (watched_erase _ _).trans (hbody inner taskName rawInput st)
      rw [← observeAttempts_erase hwatched]
      refine Resumption.erase_bind ?_
      rintro ⟨result, st₁⟩ seen
      rcases result with e | (output | lastError)
      · rfl
      · rfl
      · -- `catch.do` is executed if there is one
        dsimp only
        split
        · rfl
        · rw [← hfallback]
          refine Resumption.erase_bind ?_
          rintro ⟨result, sub⟩ later
          cases result with
          | error e => rfl
          | ok result => exact apply_ite Resumption.done _ _ _

theorem observeCons_erase {taskName : String} {condition : Option Value} {type : TaskType}
    {outputAs exportAs : Option Value} {thenEnd : Bool} {rest : List TaskDef}
    (htype : ∀ around taskName rawInput st, (observeTask rt type around taskName rawInput st).erase
      = executeTask rt type around taskName rawInput st)
    (hrest : ∀ around lastOutput st, (observeTasks rt rest around lastOutput st).erase
      = executeTasks rt rest around lastOutput st)
    (around : Surroundings) (lastOutput : TaskOutput) (st : DslState) :
    (observeTasks rt (.task taskName condition type outputAs exportAs thenEnd :: rest) around
        lastOutput st).erase
      = executeTasks rt (.task taskName condition type outputAs exportAs thenEnd :: rest) around
          lastOutput st := by
  rw [observeTasks, executeTasks]
  split
  · rfl
  · rcases conditionHolds rt condition lastOutput st with detail | (_ | _)
    · rfl
    · exact hrest around lastOutput st
    · dsimp only
      rw [← htype, ← watched_erase st.workflowContext]
      refine Resumption.erase_bind ?_
      rintro ⟨result, st₁⟩ seen
      rcases result with (⟨failedTask, detail⟩ | e) | output
      · rfl
      · rfl
      · dsimp only
        rcases finishTask rt outputAs exportAs output st₁ with text | ⟨output, st'⟩
        · rfl
        · dsimp only
          split
          · rfl
          · rw [← hrest, Resumption.erase_bind fun _ _ => rfl, Resumption.bind_done]

/-- A task of which nothing can be executed. -/
theorem observeTask_unexecutable {type : TaskType} (h : type.unexecutable = true)
    (around : Surroundings) (taskName : String) (rawInput : TaskOutput) (st : DslState) :
    observeTask rt type around taskName rawInput st
      = (executeTask rt type around taskName rawInput st).bind fun out =>
          .done (out, { setError := type.setsError }) := by
  cases type with
  | call | doTasks | set | tryTask => cases h
  | _ => rfl

/-- **Tasks and task lists**, form by form. -/
theorem erase_rules (rt : DslRuntime) :
    TreeRules
      (fun type => ∀ around taskName rawInput st,
        (observeTask rt type around taskName rawInput st).erase
          = executeTask rt type around taskName rawInput st)
      (fun tasks => ∀ around lastOutput st, (observeTasks rt tasks around lastOutput st).erase
        = executeTasks rt tasks around lastOutput st) := by
  constructor
  case call => exact fun _ _ _ _ _ => Resumption.erase_recording _ _
  case set => exact fun _ _ _ _ _ => Resumption.erase_recording _ _
  case unexecutable =>
    intro type h around taskName rawInput st
    rw [observeTask_unexecutable h]
    exact Resumption.erase_recording _ _
  case doTasks => exact fun _ => observeDo_erase
  case tryTask => exact fun _ _ _ => observeTry_erase
  case nil => exact fun _ _ _ => rfl
  case invalid =>
    intro definition rest h around lastOutput st
    rcases h with ⟨v, rfl⟩ | ⟨name, rfl⟩
    all_goals
      rw [observeTasks, executeTasks]
      split <;> rfl
  case cons => exact fun _ _ _ _ _ _ _ => observeCons_erase

end Erase

/-- **Every run of the executor is observed.** -/
theorem runs_observe {rt : DslRuntime} {tasks : List TaskDef} {initialContext : Option Payload}
    {cancelled : Bool} {tr : DslTrace} {out : Except Escaped DslExecutionResult × DslState} :
    (executeDsl rt tasks initialContext cancelled).Runs tr out
      ↔ ∃ seen, (observeDsl rt tasks initialContext cancelled).Runs tr (out, seen) := by
  unfold executeDsl
  rw [← (erase_rules rt).tasks]
  exact Resumption.runs_erase

/-! ## §5. What an observed run is made of. -/

section Cases

variable {rt : DslRuntime} {around : Surroundings} {tr : DslTrace} {seen : Seen}

/-- A task that is executed: its entries, and the one that it raised. -/
theorem watched_cases {before : Payload}
    {p : DslProgram ((Except DslRaised TaskOutput × DslState) × Seen)}
    {out : Except DslRaised TaskOutput × DslState} (h : (watched before p).Runs tr (out, seen)) :
    ∃ seen', p.Runs tr (out, seen') ∧ recordRaise before (out, seen') = (out, seen) := by
  obtain ⟨⟨out', seen'⟩, tr₁, tr₂, rfl, hrun, rfl, heq⟩ := (Resumption.runs_bind _ _ _ _).mp h
  have hout : out' = out := by
    obtain ⟨_ | _, st⟩ := out' <;> exact (congrArg Prod.fst heq).symm
  subst hout
  rw [List.append_nil]
  exact ⟨seen', hrun, heq.symm⟩

/-- A task that is no `do` and no `try`. -/
theorem leaf_cases {type : TaskType} {taskName : String} {rawInput : TaskOutput} {st : DslState}
    {out : Except DslRaised TaskOutput × DslState}
    (hobserve : observeTask rt type around taskName rawInput st
      = (executeTask rt type around taskName rawInput st).bind fun out =>
          .done (out, { setError := type.setsError }))
    (h : (observeTask rt type around taskName rawInput st).Runs tr (out, seen)) :
    (executeTask rt type around taskName rawInput st).Runs tr out
      ∧ seen = { setError := type.setsError } := by
  rw [hobserve] at h
  obtain ⟨out', tr₁, tr₂, rfl, hrun, rfl, heq⟩ := (Resumption.runs_bind _ _ _ _).mp h
  obtain ⟨rfl, rfl⟩ := Prod.mk.inj heq
  rw [List.append_nil]
  exact ⟨hrun, rfl⟩

/-- A `do`. -/
theorem do_cases {tasks : List TaskDef} {taskName : String} {rawInput : TaskOutput}
    {st : DslState} {out : Except DslRaised TaskOutput × DslState}
    (h : (observeTask rt (.doTasks tasks) around taskName rawInput st).Runs tr (out, seen)) :
    ∃ sub, (observeTasks rt tasks around .context st).Runs tr (sub, seen)
      ∧ out = afterDo taskName st sub := by
  rw [observeTask] at h
  obtain ⟨⟨sub, seen'⟩, tr₁, tr₂, rfl, hrun, rfl, heq⟩ := (Resumption.runs_bind _ _ _ _).mp h
  obtain ⟨rfl, rfl⟩ := Prod.mk.inj heq
  rw [List.append_nil]
  exact ⟨sub, hrun, rfl⟩

/-- **The attempts of a `try`**: one of them goes well or lets an exception escape, the delay
after it raises, or others follow. -/
theorem attempts_cases {retry : RetrySpec} {hasFallback : Bool} {outset : DslState → Outset}
    {body : Surroundings → DslState →
      DslProgram ((Except DslRaised TaskOutput × DslState) × Seen)}
    {left attempt : Nat} {lastError : Option String} {st : DslState}
    {out : Except Escaped TryOutcome × DslState}
    (h : (observeAttempts retry around hasFallback outset body (left + 1) attempt lastError
      st).Runs tr (out, seen)) :
    ∃ inner result st₁ seen₁ tr₁ tr₂, tr = tr₁ ++ tr₂
      ∧ (body inner st).Runs tr₁ ((result, st₁), seen₁)
      ∧ ((∃ output, result = .ok output ∧ tr₂ = [] ∧ out = (.ok (.succeeded output), st₁)
            ∧ seen = seen₁)
        ∨ (∃ e, result = .error (.escaped e) ∧ tr₂ = [] ∧ out = (.error e, st₁)
            ∧ seen = seen₁.dropped)
        ∨ ∃ failedTask detail, result = .error (.dsl failedTask detail)
          ∧ ((∃ delay next reply e, reply.raised = some e
                ∧ tr₂ = [⟨.sleep delay next around, reply⟩]
                ∧ out = (.error e, st₁.after reply.eventSet) ∧ seen = seen₁.dropped)
            ∨ ∃ pause st₂ tr₃ later, tr₂ = pause ++ tr₃
                ∧ (pause = [] ∨ ∃ delay next reply, reply.raised = none
                    ∧ pause = [⟨.sleep delay next around, reply⟩])
                ∧ st₂.workflowContext = st₁.workflowContext
                ∧ (observeAttempts retry around hasFallback outset body left (attempt + 1)
                    (some detail) st₂).Runs tr₃ (out, later)
                ∧ seen = seen₁.dropped.append later)) := by
  rw [observeAttempts] at h
  obtain ⟨⟨⟨result, st₁⟩, seen₁⟩, tr₁, tr₂, rfl, hrun, hafter⟩ :=
    (Resumption.runs_bind _ _ _ _).mp h
  refine ⟨_, result, st₁, seen₁, tr₁, tr₂, rfl, hrun, ?_⟩
  match result with
  | .ok output =>
      obtain ⟨rfl, rfl, rfl⟩ := Resumption.runs_done_pair.mp hafter
      exact .inl ⟨output, rfl, rfl, rfl, rfl⟩
  | .error (.escaped e) =>
      obtain ⟨rfl, rfl, rfl⟩ := Resumption.runs_done_pair.mp hafter
      exact .inr (.inl ⟨e, rfl, rfl, rfl, rfl⟩)
  | .error (.dsl failedTask detail) =>
      -- after a failed attempt the next one goes on with the observations so far
      have hnext : ∀ st₂ tr', ((observeAttempts retry around hasFallback outset body left
            (attempt + 1) (some detail) st₂).bind fun out =>
              .done (out.1, seen₁.dropped.append out.2)).Runs tr' (out, seen) →
          ∃ later, (observeAttempts retry around hasFallback outset body left (attempt + 1)
              (some detail) st₂).Runs tr' (out, later) ∧ seen = seen₁.dropped.append later := by
        intro st₂ tr' hruns
        obtain ⟨⟨out', later⟩, tr₃, tr₄, rfl, hrun', rfl, heq⟩ :=
          (Resumption.runs_bind _ _ _ _).mp hruns
        obtain ⟨rfl, rfl⟩ := Prod.mk.inj heq
        rw [List.append_nil]
        exact ⟨later, hrun', rfl⟩
      refine .inr (.inr ⟨failedTask, detail, rfl, ?_⟩)
      dsimp only at hafter
      split at hafter
      next hgoes =>
        obtain ⟨reply, tr₃, rfl, hafter⟩ := hafter
        change SleepReply at reply
        dsimp only at hafter
        split at hafter
        next e hreply =>
          obtain ⟨rfl, rfl, rfl⟩ := Resumption.runs_done_pair.mp hafter
          exact .inl ⟨_, _, reply, e, hreply, rfl, rfl, rfl⟩
        next hreply =>
          obtain ⟨later, hlater, hseen⟩ := hnext _ tr₃ hafter
          exact .inr ⟨_, st₁.after reply.eventSet, tr₃, later, rfl, .inr ⟨_, _, reply, hreply, rfl⟩,
            rfl, hlater, hseen⟩
      next hgoes =>
        obtain ⟨later, hlater, hseen⟩ := hnext _ tr₂ hafter
        exact .inr ⟨[], st₁, tr₂, later, rfl, .inl rfl, rfl, hlater, hseen⟩

/-- **A `try`**: its `catch` cannot be read, it ends as its attempts do, or `catch.do` is
executed. -/
theorem try_cases {body : TaskType} {retry : RetrySpec} {fallback : List TaskDef}
    {taskName : String} {rawInput : TaskOutput} {st : DslState}
    {out : Except DslRaised TaskOutput × DslState}
    (h : (observeTask rt (.tryTask body retry fallback) around taskName rawInput st).Runs tr
      (out, seen)) :
    (∃ exc, tr = [] ∧ out = (.error (.escaped (.other exc)), st)
        ∧ seen = { notes := [.unreadable] })
      ∨ ∃ result st₁ seen₁ tr₁ tr₂, tr = tr₁ ++ tr₂
        ∧ (observeAttempts retry around (!fallback.isEmpty)
            (fun st => body.outset rt rawInput st.workflowContext)
            (fun around st => watched st.workflowContext
              (observeTask rt body around taskName rawInput st))
            retry.maxAttempts.toNat 1 none st).Runs tr₁ ((result, st₁), seen₁)
        ∧ ((tr₂ = [] ∧ out.2 = st₁ ∧ taskEnding out.1 = tryEnding result ∧ seen = seen₁)
          ∨ ∃ lastError sub later, result = .ok (.exhausted lastError)
            ∧ (observeTasks rt fallback around .context
                { st₁ with
                  workflowContext :=
                    st₁.workflowContext.set "_error" (errorBinding taskName lastError) }).Runs tr₂
                (sub, later)
            ∧ out = afterCatch (exhaustedError taskName retry lastError)
                (st₁.workflowContext.set "_error" (errorBinding taskName lastError)) sub
            ∧ seen = (seen₁.dropped.append later).append
                { notes := [.caught
                    { beforeTry := st.workflowContext.get? "_error"
                      before := st₁.workflowContext.get? "_error"
                      given := errorBinding taskName lastError
                      ending := catchEnding later.setError sub.1
                      after := out.2.workflowContext.get? "_error" }] }) := by
  rw [observeTask] at h
  split at h
  next exc herror =>
    obtain ⟨rfl, rfl, rfl⟩ := Resumption.runs_done_pair.mp h
    exact .inl ⟨exc, rfl, rfl, rfl⟩
  next herror =>
    obtain ⟨⟨⟨result, st₁⟩, seen₁⟩, tr₁, tr₂, rfl, hrun, hafter⟩ :=
      (Resumption.runs_bind _ _ _ _).mp h
    refine .inr ⟨result, st₁, seen₁, tr₁, tr₂, rfl, hrun, ?_⟩
    match result with
    | .error e =>
        obtain ⟨rfl, rfl, rfl⟩ := Resumption.runs_done_pair.mp hafter
        exact .inl ⟨rfl, rfl, rfl, rfl⟩
    | .ok (.succeeded output) =>
        obtain ⟨rfl, rfl, rfl⟩ := Resumption.runs_done_pair.mp hafter
        exact .inl ⟨rfl, rfl, rfl, rfl⟩
    | .ok (.exhausted lastError) =>
        dsimp only at hafter
        -- without a fallback the last error is what the task ends with
        split at hafter
        · obtain ⟨rfl, rfl, rfl⟩ := Resumption.runs_done_pair.mp hafter
          exact .inl ⟨rfl, rfl, rfl, rfl⟩
        · obtain ⟨⟨sub, later⟩, tr₃, tr₄, rfl, hrun', rfl, heq⟩ :=
            (Resumption.runs_bind _ _ _ _).mp hafter
          obtain ⟨rfl, rfl⟩ := Prod.mk.inj heq
          rw [List.append_nil]
          exact .inr ⟨lastError, sub, later, rfl, hrun', rfl, rfl⟩

/-- **A task list that begins with a task**: it fails before the task, goes on without it, or
executes it and ends there or goes on. -/
theorem cons_cases {taskName : String} {condition : Option Value} {type : TaskType}
    {outputAs exportAs : Option Value} {thenEnd : Bool} {rest : List TaskDef}
    {lastOutput : TaskOutput} {st : DslState} {out : Except Escaped DslExecutionResult × DslState}
    (h : (observeTasks rt (.task taskName condition type outputAs exportAs thenEnd :: rest) around
      lastOutput st).Runs tr (out, seen)) :
    (tr = [] ∧ (∃ error failedTask, out.1 = .ok (.failed error failedTask)) ∧ seen = {})
      ∨ (observeTasks rt rest around lastOutput st).Runs tr (out, seen)
      ∨ ∃ inner result st₁ seen₁ tr₁ tr₂, tr = tr₁ ++ tr₂
        ∧ (watched st.workflowContext (observeTask rt type inner taskName lastOutput st)).Runs tr₁
            ((result, st₁), seen₁)
        ∧ ((taskEnding result ≠ .raised ∧ tr₂ = []
              ∧ (∃ error failedTask, out.1 = .ok (.failed error failedTask)) ∧ seen = seen₁)
          ∨ (taskEnding result = .raised ∧ tr₂ = [] ∧ (∃ e, out.1 = .error e) ∧ seen = seen₁)
          ∨ ∃ output output' st', result = .ok output
            ∧ finishTask rt outputAs exportAs output st₁ = .ok (output', st')
            ∧ ((tr₂ = [] ∧ out.1 = .ok (.completed st'.workflowContext)
                  ∧ seen = seen₁.append { setError := exportsError rt exportAs output' st₁ })
              ∨ ∃ later, (observeTasks rt rest around output' st').Runs tr₂ (out, later)
                ∧ seen = (seen₁.append
                    { setError := exportsError rt exportAs output' st₁ }).append later)) := by
  rw [observeTasks] at h
  -- the list ends where the event is set, or goes on by the condition of its first task
  split at h
  next hset =>
    obtain ⟨rfl, rfl, rfl⟩ := Resumption.runs_done_pair.mp h
    exact .inl ⟨rfl, ⟨_, _, rfl⟩, rfl⟩
  next hset =>
    match hcondition : conditionHolds rt condition lastOutput st with
    | .error detail =>
        rw [hcondition] at h
        obtain ⟨rfl, rfl, rfl⟩ := Resumption.runs_done_pair.mp h
        exact .inl ⟨rfl, ⟨_, _, rfl⟩, rfl⟩
    | .ok false =>
        rw [hcondition] at h
        exact .inr (.inl h)
    | .ok true =>
        rw [hcondition] at h
        obtain ⟨⟨⟨result, st₁⟩, seen₁⟩, tr₁, tr₂, rfl, hrun, hafter⟩ :=
          (Resumption.runs_bind _ _ _ _).mp h
        refine .inr (.inr ⟨_, result, st₁, seen₁, tr₁, tr₂, rfl, hrun, ?_⟩)
        match result with
        | .error (.dsl failedTask detail) =>
            obtain ⟨rfl, rfl, rfl⟩ := Resumption.runs_done_pair.mp hafter
            exact .inl ⟨nofun, rfl, ⟨_, _, rfl⟩, rfl⟩
        | .error (.escaped e) =>
            obtain ⟨rfl, rfl, rfl⟩ := Resumption.runs_done_pair.mp hafter
            exact .inr (.inl ⟨rfl, rfl, ⟨e, rfl⟩, rfl⟩)
        | .ok output =>
            dsimp only at hafter
            match hfinish : finishTask rt outputAs exportAs output st₁ with
            | .error text =>
                rw [hfinish] at hafter
                obtain ⟨rfl, rfl, rfl⟩ := Resumption.runs_done_pair.mp hafter
                exact .inl ⟨nofun, rfl, ⟨_, _, rfl⟩, rfl⟩
            | .ok (output', st') =>
                rw [hfinish] at hafter
                refine .inr (.inr ⟨output, output', st', rfl, hfinish, ?_⟩)
                dsimp only at hafter
                split at hafter
                · obtain ⟨rfl, rfl, rfl⟩ := Resumption.runs_done_pair.mp hafter
                  exact .inl ⟨rfl, rfl, rfl⟩
                -- what the rest sees is appended to what this task has seen
                · obtain ⟨⟨out', later⟩, tr₃, tr₄, rfl, hrun', rfl, heq⟩ :=
                    (Resumption.runs_bind _ _ _ _).mp hafter
                  obtain ⟨rfl, rfl⟩ := Prod.mk.inj heq
                  rw [List.append_nil]
                  exact .inr ⟨later, hrun', rfl⟩

/-- A task list that begins with something else fails. -/
theorem invalid_cases {definition : TaskDef} {rest : List TaskDef} {lastOutput : TaskOutput}
    {st : DslState} {out : Except Escaped DslExecutionResult × DslState}
    (hdefinition : (∃ v, definition = .invalid v) ∨ ∃ name, definition = .noSpec name)
    (h : (observeTasks rt (definition :: rest) around lastOutput st).Runs tr (out, seen)) :
    tr = [] ∧ (∃ error failedTask, out.1 = .ok (.failed error failedTask)) ∧ seen = {} := by
  rcases hdefinition with ⟨v, rfl⟩ | ⟨name, rfl⟩
  all_goals
    rw [observeTasks] at h
    split at h
    all_goals
      obtain ⟨rfl, rfl, rfl⟩ := Resumption.runs_done_pair.mp h
      exact ⟨rfl, ⟨_, _, rfl⟩, rfl⟩

end Cases

end CmlCloudManager.ScenarioEngine
