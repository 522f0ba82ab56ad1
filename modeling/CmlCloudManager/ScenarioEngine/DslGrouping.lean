/-
  CmlCloudManager.ScenarioEngine.DslGrouping
  ──────────────────────────────────────────
  **TASKS IN A GROUP AND TASKS IN LINE.**

  A `do` runs its tasks in an executor of its own.  That one starts from a copy of the
  context, takes this for the output of the task before, and its context is merged into
  the one outside.  The raw input of the `do` is dropped: the first task of a group does
  not receive the output of the task before the group.

    • `visible_rules`         — where a task stands in the tree makes no difference,
    • `executeTasks_append`   — a list runs in two parts, with the last output in between,
    • `executeTasks_group`    — what a group runs,
    • `kept_rules`            — no task takes anything but `_error` out of the context,
    • `grouping_transparent_iff` — a group does what its tasks do in line iff they cannot
                                tell the last output from the context.
-/
import CmlCloudManager.Foundation.Environment
import CmlCloudManager.ScenarioEngine.DslContext

namespace CmlCloudManager.ScenarioEngine

open CmlCloudManager.Foundation
open CmlCloudManager.Pipeline (Value Payload)

/-! ## §1. What the environment sees. -/

/-- A call of the executor, without where in the tree it was made. -/
inductive DslCall where
  | invoke (invocation : Invocation)
  | sleep (delay : Rat)

/-- The type of the answer. -/
def DslCall.Response : DslCall → Type
  | .invoke _ => InvokeReply
  | .sleep _ => SleepReply

/-- The call that an effect is. -/
def DslEffect.call : DslEffect → DslCall
  | .invoke invocation _ => .invoke invocation
  | .sleep delay _ _ => .sleep delay

/-- Its answer. -/
def DslEffect.answer : (e : DslEffect) → e.call.Response → e.Response
  | .invoke _ _, reply => reply
  | .sleep _ _ _, reply => reply

/-- A part of the executor, as it is seen. -/
abbrev VisibleProgram (α : Type) : Type := Resumption DslCall DslCall.Response α

/-- What is seen of a part of the executor. -/
def visible {α : Type} (p : DslProgram α) : VisibleProgram α :=
  p.relabel DslEffect.call DslEffect.answer

/-- What was called, with the answers. -/
abbrev DslHistory : Type := List (Resumption.Event DslCall DslCall.Response)

/-- Scenarios, delays and the cancellation event that depend on nothing but what was called
and answered before. -/
abbrev DslEnvironment : Type := DslHistory → (c : DslCall) → c.Response

theorem visible_bind {α β : Type} (p : DslProgram α) (f : α → DslProgram β) :
    visible (p.bind f) = (visible p).bind fun a => visible (f a) :=
  Resumption.relabel_bind p f

/-- Two programs look the same if their first parts do, and what follows on these. -/
theorem visible_bind_congr {α β : Type} {p p' : DslProgram α} {f f' : α → DslProgram β}
    (hp : visible p = visible p') (hf : ∀ a, visible (f a) = visible (f' a)) :
    visible (p.bind f) = visible (p'.bind f') := by
  rw [visible_bind, visible_bind, hp]
  exact congrArg _ (funext hf)

/-! ## §2. Where a task stands makes no difference. -/

section Visible

variable {rt : DslRuntime}

theorem visible_executeCall (spec : CallSpec) (around around' : Surroundings) (taskName : String)
    (rawInput : TaskOutput) (st : DslState) :
    visible (executeCall rt spec around taskName rawInput st)
      = visible (executeCall rt spec around' taskName rawInput st) := by
  unfold executeCall
  cases prepareCall rt spec rawInput st.workflowContext <;> rfl

/-- The attempts of a `try`. -/
theorem visible_attemptTask {retry : RetrySpec} {hasFallback : Bool} {outset : DslState → Outset}
    {body : Surroundings → DslState → DslProgram (Except DslRaised TaskOutput × DslState)}
    (hbody : ∀ inner inner' st, visible (body inner st) = visible (body inner' st))
    (around around' : Surroundings) :
    ∀ (left attempt : Nat) (lastError : Option String) (st : DslState),
      visible (attemptTask retry around hasFallback outset body left attempt lastError st)
        = visible
            (attemptTask retry around' hasFallback outset body left attempt lastError st) := by
  intro left
  induction left with
  | zero => exact fun _ _ _ => rfl
  | succ left ih =>
      intro attempt lastError st
      rw [attemptTask, attemptTask]
      refine visible_bind_congr (hbody _ _ st) ?_
      rintro ⟨(⟨_, detail⟩ | e) | output, st⟩
      · dsimp only
        split
        · -- the delay, after which the next attempt looks the same
          refine congrArg (Resumption.await (DslCall.sleep _)) (funext fun reply => ?_)
          obtain ⟨_ | e, eventSet⟩ : SleepReply := reply
          · exact ih _ _ _
          · rfl
        · exact ih _ _ _
      · rfl
      · rfl

/-- **Where a task stands makes no difference** to what is seen of it. -/
theorem visible_rules (rt : DslRuntime) :
    TreeRules
      (fun type => ∀ around around' taskName rawInput st,
        visible (executeTask rt type around taskName rawInput st)
          = visible (executeTask rt type around' taskName rawInput st))
      (fun tasks => ∀ around around' lastOutput st,
        visible (executeTasks rt tasks around lastOutput st)
          = visible (executeTasks rt tasks around' lastOutput st)) := by
  constructor
  case call =>
    intro spec around around' taskName rawInput st
    rw [executeTask, executeTask]
    exact visible_executeCall spec around around' taskName rawInput st
  case set => exact fun _ _ _ _ _ _ => rfl
  case unexecutable =>
    intro type h around around' taskName rawInput st
    obtain ⟨detail, hexecute⟩ := executeTask_unexecutable rt h
    rw [hexecute, hexecute]
  case doTasks =>
    intro tasks htasks around around' taskName rawInput st
    rw [executeTask, executeTask]
    exact visible_bind_congr (htasks around around' .context st) fun _ => rfl
  case tryTask =>
    intro body retry fallback hbody hfallback around around' taskName rawInput st
    rw [executeTask, executeTask]
    cases retry.readError with
    | some exc => rfl
    | none =>
        refine visible_bind_congr (visible_attemptTask
          (fun inner inner' st => hbody inner inner' taskName rawInput st) around around' _ _ _ _)
          ?_
        -- after the last attempt the fallback runs in an executor of its own
        rintro ⟨e | (output | lastError), st⟩
        · rfl
        · rfl
        · dsimp only
          split
          · rfl
          · exact visible_bind_congr (hfallback around around' .context _) fun _ => rfl
  case nil => exact fun _ _ _ _ => rfl
  case invalid =>
    intro definition rest h around around' lastOutput st
    rcases h with ⟨v, rfl⟩ | ⟨name, rfl⟩
    all_goals rw [executeTasks, executeTasks]
  case cons =>
    intro taskName condition type outputAs exportAs thenEnd rest htype hrest around around'
      lastOutput st
    rw [executeTasks, executeTasks]
    split
    · rfl
    · cases conditionHolds rt condition lastOutput st with
      | error detail => rfl
      | ok holds =>
          cases holds with
          | false => exact hrest around around' lastOutput st
          | true =>
              refine visible_bind_congr (htype _ _ taskName lastOutput st) ?_
              -- an error ends the list wherever it is raised
              rintro ⟨(⟨failedTask, detail⟩ | e) | output, st⟩
              · rfl
              · rfl
              · dsimp only
                cases finishTask rt outputAs exportAs output st with
                | error text => rfl
                | ok finished =>
                    dsimp only
                    split
                    · rfl
                    · exact hrest around around' _ _

end Visible

/-! ## §3. A list in two parts. -/

/-- How a part of a list ends: the list ends with it, or goes on with the last output. -/
inductive Turn where
  | stopped (out : Except Escaped DslExecutionResult × DslState)
  | goesOn (lastOutput : TaskOutput) (st : DslState)

/-- What comes next, where the list goes on. -/
def Turn.andThen
    (next : TaskOutput → DslState → DslProgram (Except Escaped DslExecutionResult × DslState)) :
    Turn → DslProgram (Except Escaped DslExecutionResult × DslState)
  | .stopped out => .done out
  | .goesOn lastOutput st => next lastOutput st

/-- A turn of the loop of `execute`. -/
def executeTurn (rt : DslRuntime) (definition : TaskDef) (lastOutput : TaskOutput)
    (st : DslState) : DslProgram Turn :=
  if st.cancelled then
    .done (.stopped (.ok (.failed "Cancelled" (some "(cancellation)")), st))
  else
    match definition with
    | .invalid v =>
        .done (.stopped (.ok (.failed
          ("Invalid task definition: expected single-key dict, got <class '" ++ v.typeName ++ "'>")
          none), st))
    | .noSpec taskName =>
        .done (.stopped (.ok (.failed
          ("Invalid task spec for '" ++ taskName ++ "': expected dict") (some taskName)), st))
    | .task taskName condition type outputAs exportAs thenEnd =>
        match conditionHolds rt condition lastOutput st with
        | .error detail =>
            .done (.stopped (.ok (.failed ("Condition evaluation failed: " ++ detail)
              (some taskName)), st))
        | .ok false => .done (.goesOn lastOutput st)
        | .ok true =>
            (executeTask rt type {} taskName lastOutput st).bind fun
              | (.error (.dsl failedTask detail), st) =>
                  .done (.stopped (.ok (.failed detail (some failedTask)), st))
              | (.error (.escaped e), st) => .done (.stopped (.error e, st))
              | (.ok output, st) =>
                  match finishTask rt outputAs exportAs output st with
                  | .error text => .done (.stopped (.ok (.failed text (some taskName)), st))
                  | .ok (output, st) =>
                      if thenEnd then .done (.stopped (.ok (.completed st.workflowContext), st))
                      else .done (.goesOn output st)

/-- The loop over a part of the list. -/
def executeTurns (rt : DslRuntime) : List TaskDef → TaskOutput → DslState → DslProgram Turn
  | [], lastOutput, st => .done (.goesOn lastOutput st)
  | definition :: rest, lastOutput, st =>
      (executeTurn rt definition lastOutput st).bind fun
        | .stopped out => .done (.stopped out)
        | .goesOn lastOutput st => executeTurns rt rest lastOutput st

section Parts

variable {rt : DslRuntime}

/-- One turn, and the rest of the list. -/
theorem executeTasks_cons (definition : TaskDef) (rest : List TaskDef) (around : Surroundings)
    (lastOutput : TaskOutput) (st : DslState) :
    visible (executeTasks rt (definition :: rest) around lastOutput st)
      = visible ((executeTurn rt definition lastOutput st).bind
          (Turn.andThen fun lastOutput st => executeTasks rt rest {} lastOutput st)) := by
  cases definition with
  | invalid v =>
      rw [executeTasks]
      unfold executeTurn
      split <;> rfl
  | noSpec taskName =>
      rw [executeTasks]
      unfold executeTurn
      split <;> rfl
  | task taskName condition type outputAs exportAs thenEnd =>
      rw [executeTasks]
      unfold executeTurn
      split
      · rfl
      · dsimp only
        cases conditionHolds rt condition lastOutput st with
        | error detail => rfl
        | ok holds =>
            cases holds with
            | false => exact (visible_rules rt).tasks rest around {} lastOutput st
            | true =>
                dsimp only
                rw [Resumption.bind_assoc]
                -- both run the task, and go on with what it left
                refine visible_bind_congr ((visible_rules rt).task type _ _ _ _ _) ?_
                rintro ⟨(⟨failedTask, detail⟩ | e) | output, st⟩
                · rfl
                · rfl
                · dsimp only
                  cases finishTask rt outputAs exportAs output st with
                  | error text => rfl
                  | ok finished =>
                      dsimp only
                      split
                      · rfl
                      · exact (visible_rules rt).tasks rest around {} _ _

/-- **A list runs in two parts**: the second receives the last output of the first. -/
theorem executeTasks_append (tasks later : List TaskDef) (around : Surroundings)
    (lastOutput : TaskOutput) (st : DslState) :
    visible (executeTasks rt (tasks ++ later) around lastOutput st)
      = visible ((executeTurns rt tasks lastOutput st).bind
          (Turn.andThen fun lastOutput st => executeTasks rt later {} lastOutput st)) := by
  induction tasks generalizing around lastOutput st with
  | nil => exact (visible_rules rt).tasks later around {} lastOutput st
  | cons definition rest ih =>
      rw [List.cons_append, executeTasks_cons, executeTurns, Resumption.bind_assoc]
      refine visible_bind_congr rfl fun turn => ?_
      cases turn with
      | stopped out => rfl
      | goesOn lastOutput st => exact ih {} lastOutput st

/-- A group of tasks: a `do` with nothing else. -/
def group (taskName : String) (tasks : List TaskDef) : TaskDef :=
  .task taskName none (.doTasks tasks) none none false

/-- What `execute` returns after a group that is the last task. -/
def afterGroup (taskName : String) (st : DslState)
    (sub : Except Escaped DslExecutionResult × DslState) :
    Except Escaped DslExecutionResult × DslState :=
  match afterDo taskName st sub with
  | (.error (.dsl failedTask detail), st) => (.ok (.failed detail (some failedTask)), st)
  | (.error (.escaped e), st) => (.error e, st)
  | (.ok _, st) => (.ok (.completed st.workflowContext), st)

/-- **What a group runs**: its tasks receive the context, whatever the last output was. -/
theorem executeTasks_group (taskName : String) (tasks : List TaskDef) (lastOutput : TaskOutput)
    {st : DslState} (h : st.cancelled = false) :
    visible (executeTasks rt [group taskName tasks] {} lastOutput st)
      = visible ((executeTasks rt tasks {} .context st).bind fun sub =>
          .done (afterGroup taskName st sub)) := by
  unfold group
  rw [executeTasks, h, executeTask]
  refine Eq.trans (congrArg visible (Resumption.bind_assoc _ _ _)) ?_
  refine visible_bind_congr ((visible_rules rt).tasks tasks _ {} .context st) ?_
  rintro ⟨e | ⟨success, context, error, failedTask⟩, sub⟩
  · rfl
  · cases success <;> rfl

end Parts

/-! ## §4. What is bound stays bound. -/

/-- What is bound stays bound, but for `_error`. -/
def Kept (before after : Payload) : Prop :=
  ∀ k, k ≠ "_error" → after.get? k = none → before.get? k = none

theorem Kept.refl (before : Payload) : Kept before before := fun _ _ h => h

theorem Kept.trans {before middle after : Payload} (h : Kept before middle)
    (h' : Kept middle after) : Kept before after :=
  fun k hk hafter => h k hk (h' k hk hafter)

theorem kept_update (before later : Payload) : Kept before (before.update later) := by
  intro k _ h
  rw [Dict.get?_update, Option.or_eq_none_iff] at h
  exact h.2

theorem kept_set_error (before : Payload) (v : Value) : Kept before (before.set "_error" v) := by
  intro k hk h
  rwa [Dict.get?_set_ne _ _ _ hk] at h

theorem kept_erase_error (before : Payload) : Kept before (before.erase "_error") := by
  intro k hk h
  rwa [Dict.get?_erase_ne _ _ hk] at h

/-- Every observed run of the task. -/
def TaskKept (rt : DslRuntime) (type : TaskType) : Prop :=
  ∀ (around : Surroundings) (taskName : String) (rawInput : TaskOutput) (st : DslState)
    (tr : DslTrace) (out : Except DslRaised TaskOutput × DslState) (seen : Seen),
    (observeTask rt type around taskName rawInput st).Runs tr (out, seen) →
    Kept st.workflowContext out.2.workflowContext

/-- Every observed run of the list that goes well. -/
def ListKept (rt : DslRuntime) (tasks : List TaskDef) : Prop :=
  ∀ (around : Surroundings) (lastOutput : TaskOutput) (st : DslState) (tr : DslTrace)
    (out : Except Escaped DslExecutionResult × DslState) (seen : Seen),
    (observeTasks rt tasks around lastOutput st).Runs tr (out, seen) →
    ∀ result, out.1 = .ok result → result.success = true →
      Kept st.workflowContext result.context

section Tasks

variable {rt : DslRuntime} {around : Surroundings}

/-- A task that is no `do` and no `try`. -/
theorem leaf_kept {type : TaskType}
    (hobserve : ∀ around taskName rawInput st, observeTask rt type around taskName rawInput st
      = (executeTask rt type around taskName rawInput st).bind fun out =>
          .done (out, { setError := type.setsError }))
    (hexecute : ∀ around taskName rawInput st tr out,
      (executeTask rt type around taskName rawInput st).Runs tr out →
      Kept st.workflowContext out.2.workflowContext) : TaskKept rt type := by
  intro around taskName rawInput st tr out seen h
  exact hexecute around taskName rawInput st tr out
    (leaf_cases (hobserve around taskName rawInput st) h).1

theorem executeSet_kept (values : List (String × Value)) (taskName : String)
    (rawInput : TaskOutput) (st : DslState) :
    Kept st.workflowContext (executeSet rt values taskName rawInput st).2.workflowContext := by
  unfold executeSet
  dsimp only
  split
  · exact Kept.refl _
  · exact kept_update _ _

/-- A group merges what its tasks leave. -/
theorem afterDo_kept (taskName : String) (st : DslState)
    (sub : Except Escaped DslExecutionResult × DslState) :
    Kept st.workflowContext (afterDo taskName st sub).2.workflowContext := by
  obtain ⟨e | result, sub⟩ := sub
  · exact Kept.refl _
  · unfold afterDo
    dsimp only
    split
    · exact kept_update _ _
    · exact Kept.refl _

/-- `catch.do` takes its `_error` out, and merges what its tasks leave. -/
theorem afterCatch_kept (exhausted : DslRaised) (failing : Payload)
    (sub : Except Escaped DslExecutionResult × DslState) :
    Kept failing (afterCatch exhausted failing sub).2.workflowContext := by
  obtain ⟨e | result, sub⟩ := sub
  · exact Kept.refl _
  · unfold afterCatch
    dsimp only
    split
    · exact (kept_erase_error failing).trans (kept_update _ _)
    · exact kept_erase_error failing

/-- The attempts of a `try`. -/
theorem attempts_kept {retry : RetrySpec} {hasFallback : Bool} {outset : DslState → Outset}
    {body : Surroundings → DslState →
      DslProgram ((Except DslRaised TaskOutput × DslState) × Seen)}
    (hbody : ∀ (inner : Surroundings) (st : DslState) (tr : DslTrace)
      (out : Except DslRaised TaskOutput × DslState) (seen : Seen),
      (body inner st).Runs tr (out, seen) → Kept st.workflowContext out.2.workflowContext) :
    ∀ (left attempt : Nat) (lastError : Option String) (st : DslState) (tr : DslTrace)
      (out : Except Escaped TryOutcome × DslState) (seen : Seen),
      (observeAttempts retry around hasFallback outset body left attempt lastError st).Runs tr
        (out, seen) →
      Kept st.workflowContext out.2.workflowContext := by
  intro left
  induction left with
  | zero =>
      intro attempt lastError st tr out seen h
      obtain ⟨-, heq⟩ := h
      cases heq
      exact Kept.refl _
  | succ left ih =>
      intro attempt lastError st tr out seen h
      obtain ⟨inner, result, st₁, seen₁, tr₁, tr₂, -, hrun, hafter⟩ := attempts_cases h
      have hattempt := hbody inner st tr₁ (result, st₁) seen₁ hrun
      rcases hafter with ⟨output, -, -, rfl, -⟩ | ⟨e, -, -, rfl, -⟩
        | ⟨failedTask, detail, -, ⟨delay, next, reply, e, -, -, rfl, -⟩
          | ⟨pause, st₂, tr₃, later, -, -, hsame, hlater, -⟩⟩
      · exact hattempt
      · exact hattempt
      · exact hattempt
      · refine hattempt.trans ?_
        rw [← hsame]
        exact ih (attempt + 1) (some detail) st₂ tr₃ out later hlater

/-- A `try`. -/
theorem try_kept {body : TaskType} {retry : RetrySpec} {fallback : List TaskDef}
    (hbody : TaskKept rt body) : TaskKept rt (.tryTask body retry fallback) := by
  intro around taskName rawInput st tr out seen h
  rcases try_cases h with ⟨exc, -, rfl, -⟩ | ⟨result, st₁, seen₁, tr₁, tr₂, -, hrun, hafter⟩
  · exact Kept.refl _
  · have hattempts := attempts_kept
      (fun inner st tr out seen hruns => by
        obtain ⟨seen', hrun', -⟩ := watched_cases hruns
        exact hbody inner taskName rawInput st tr out seen' hrun') _ _ _ st tr₁ (result, st₁)
      seen₁ hrun
    rcases hafter with ⟨-, rfl, -, -⟩ | ⟨lastError, sub, later, -, -, rfl, -⟩
    · exact hattempts
    · exact hattempts.trans ((kept_set_error _ _).trans (afterCatch_kept _ _ _))

/-- What is done with the output of a task. -/
theorem finishTask_keeps {outputAs exportAs : Option Value} {output output' : TaskOutput}
    {st st' : DslState} (h : finishTask rt outputAs exportAs output st = .ok (output', st')) :
    Kept st.workflowContext st'.workflowContext := by
  unfold finishTask at h
  split at h
  · cases h
  · next shown hshown =>
      cases hexport : exportOutput rt exportAs shown st with
      | error detail =>
          rw [hexport] at h
          cases h
      | ok exported =>
          rw [hexport] at h
          cases h
          unfold exportOutput at hexport
          split at hexport
          · cases hexport
            exact Kept.refl _
          · dsimp only at hexport
            split at hexport
            · cases hexport
            · cases hexport
              exact kept_update _ _
            · cases hexport
              exact Kept.refl _

/-- A task of a list, and the rest of the list. -/
theorem cons_kept {taskName : String} {condition : Option Value} {type : TaskType}
    {outputAs exportAs : Option Value} {thenEnd : Bool} {rest : List TaskDef}
    (htype : TaskKept rt type) (hrests : ListKept rt rest) :
    ListKept rt (.task taskName condition type outputAs exportAs thenEnd :: rest) := by
  intro around lastOutput st tr out seen h final hfinal hsuccess
  rcases cons_cases h with ⟨-, ⟨error, failedTask, hfailed⟩, -⟩ | hrest
    | ⟨inner, result, st₁, seen₁, tr₁, tr₂, -, hrun, hafter⟩
  · rw [hfailed] at hfinal
    cases hfinal
    cases hsuccess
  · exact hrests around lastOutput st tr out seen hrest final hfinal hsuccess
  · obtain ⟨seen', hrun', -⟩ := watched_cases hrun
    have htask := htype inner taskName lastOutput st tr₁ (result, st₁) seen' hrun'
    rcases hafter with ⟨-, -, ⟨error, failedTask, hfailed⟩, -⟩ | ⟨-, -, ⟨e, hescaped⟩, -⟩
      | ⟨output, output', st', -, hfinish, hafter⟩
    · rw [hfailed] at hfinal
      cases hfinal
      cases hsuccess
    · rw [hescaped] at hfinal
      cases hfinal
    · have hfinished := htask.trans (finishTask_keeps hfinish)
      rcases hafter with ⟨-, hcompleted, -⟩ | ⟨later, hrest, -⟩
      · rw [hcompleted] at hfinal
        cases hfinal
        exact hfinished
      · exact hfinished.trans
          (hrests around output' st' tr₂ out later hrest final hfinal hsuccess)

/-- **No task takes anything but `_error` out of the context.** -/
theorem kept_rules (rt : DslRuntime) : TreeRules (TaskKept rt) (ListKept rt) := by
  constructor
  case call =>
    refine fun spec => leaf_kept (fun _ _ _ _ => rfl) ?_
    intro around taskName rawInput st tr out h
    rw [executeTask] at h
    rw [executeCall_context h]
    exact Kept.refl _
  case set =>
    refine fun values => leaf_kept (fun _ _ _ _ => rfl) ?_
    intro around taskName rawInput st tr out h
    rw [executeTask] at h
    obtain ⟨-, rfl⟩ := h
    exact executeSet_kept values taskName rawInput st
  case unexecutable =>
    refine fun type htype => leaf_kept (observeTask_unexecutable htype) ?_
    intro around taskName rawInput st tr out h
    obtain ⟨detail, hexecute⟩ := executeTask_unexecutable rt htype
    rw [hexecute] at h
    obtain ⟨-, rfl⟩ := h
    exact Kept.refl _
  case doTasks =>
    intro tasks _ around taskName rawInput st tr out seen h
    -- the context of the sub-executor is merged, so that nothing goes
    obtain ⟨sub, -, rfl⟩ := do_cases h
    exact afterDo_kept taskName st sub
  case tryTask => exact fun _ _ _ hbody _ => try_kept hbody
  case nil =>
    intro around lastOutput st tr out seen h final hfinal _
    obtain ⟨-, heq⟩ := h
    cases heq
    cases hfinal
    exact Kept.refl _
  case invalid =>
    intro definition rest hdefinition around lastOutput st tr out seen h final hfinal hsuccess
    obtain ⟨-, ⟨error, failedTask, hfailed⟩, -⟩ := invalid_cases hdefinition h
    rw [hfailed] at hfinal
    cases hfinal
    cases hsuccess
  case cons => exact fun _ _ _ _ _ _ _ => cons_kept

end Tasks

/-! ## §5. In line and in a group. -/

/-- The invocation that a call is. -/
def DslCall.invocation? : DslCall → Option Invocation
  | .invoke invocation => some invocation
  | .sleep _ => none

/-- The invocations of scenarios, in their order. -/
def invocations (history : DslHistory) : List Invocation :=
  history.filterMap fun ev => ev.1.invocation?

/-- The final context, if the execution succeeds. -/
def finalContext (out : Except Escaped DslExecutionResult × DslState) : Option Payload :=
  match out.1 with
  | .ok result => if result.success then some result.context else none
  | .error _ => none

/-- What was called, and what was returned. -/
abbrev DslCourse : Type := DslHistory × (Except Escaped DslExecutionResult × DslState)

/-- The same invocations; both succeed or neither does, with contexts that belong together. -/
structure SameConduct (R : Payload → Payload → Prop) (course course' : DslCourse) : Prop where
  invocations : invocations course.1 = invocations course'.1
  outcome : Option.Rel R (finalContext course.2) (finalContext course'.2)

/-- The same bindings. -/
def SameBindings (context context' : Payload) : Prop := ∀ k, context.get? k = context'.get? k

/-- `execute` in the environment, from the beginning. -/
def runDsl (rt : DslRuntime) (env : DslEnvironment) (tasks : List TaskDef)
    (initialContext : Option Payload) (cancelled : Bool) : DslCourse :=
  (visible (executeDsl rt tasks initialContext cancelled)).runIn env []

/-- The loop of `execute` over the tasks that are left, after what was said before. -/
def continueDsl (rt : DslRuntime) (env : DslEnvironment) (past : DslHistory)
    (tasks : List TaskDef) (lastOutput : TaskOutput) (st : DslState) : DslCourse :=
  (visible (executeTasks rt tasks {} lastOutput st)).runIn env past

/-- The tasks come to their end, with a last output and a state. -/
def ComesToEnd (rt : DslRuntime) (env : DslEnvironment) (tasks : List TaskDef)
    (initialContext : Option Payload) (cancelled : Bool) (past : DslHistory)
    (lastOutput : TaskOutput) (st : DslState) : Prop :=
  (visible (executeTurns rt tasks .context
      { workflowContext := initialContext.getD Dict.empty, cancelled := cancelled })).runIn env []
    = (past, .goesOn lastOutput st)

/-- **Grouping is transparent**: the tasks that come last do in a group what they do in line. -/
def GroupTransparent (rt : DslRuntime) (env : DslEnvironment) (taskName : String)
    (tasks grouped : List TaskDef) (initialContext : Option Payload) (cancelled : Bool) : Prop :=
  SameConduct SameBindings
    (runDsl rt env (tasks ++ [group taskName grouped]) initialContext cancelled)
    (runDsl rt env (tasks ++ grouped) initialContext cancelled)

/-- The tasks do not tell the last output from the context.  What they take out of the context
counts as still there: a group is merged into it. -/
def CannotTell (rt : DslRuntime) (env : DslEnvironment) (past : DslHistory)
    (tasks : List TaskDef) (lastOutput : TaskOutput) (st : DslState) : Prop :=
  SameConduct
    (fun context context' => ∀ k, (context.get? k).or (st.workflowContext.get? k)
      = context'.get? k)
    (continueDsl rt env past tasks .context st) (continueDsl rt env past tasks lastOutput st)

section Grouping

variable {rt : DslRuntime} {env : DslEnvironment} {tasks : List TaskDef}
  {initialContext : Option Payload} {cancelled : Bool} {past : DslHistory}

theorem runDsl_append (tasks later : List TaskDef) (initialContext : Option Payload)
    (cancelled : Bool) :
    runDsl rt env (tasks ++ later) initialContext cancelled
      = ((visible (executeTurns rt tasks .context
            { workflowContext := initialContext.getD Dict.empty
              cancelled := cancelled })).bind fun turn =>
          visible (turn.andThen fun lastOutput st =>
            executeTasks rt later {} lastOutput st)).runIn env [] := by
  unfold runDsl executeDsl
  rw [executeTasks_append, visible_bind]

/-- Where the first tasks end the list, nothing of the others is seen. -/
theorem runDsl_of_stopped {out : Except Escaped DslExecutionResult × DslState}
    (h : (visible (executeTurns rt tasks .context
        { workflowContext := initialContext.getD Dict.empty, cancelled := cancelled })).runIn env []
      = (past, .stopped out)) (later : List TaskDef) :
    runDsl rt env (tasks ++ later) initialContext cancelled = (past, out) := by
  rw [runDsl_append, Resumption.runIn_bind, h]
  show (past ++ [], out) = _
  rw [List.append_nil]

/-- Where they come to their end, the others go on from there. -/
theorem runDsl_of_comesToEnd {lastOutput : TaskOutput} {st : DslState}
    (h : ComesToEnd rt env tasks initialContext cancelled past lastOutput st)
    (later : List TaskDef) :
    runDsl rt env (tasks ++ later) initialContext cancelled
      = (past ++ (continueDsl rt env past later lastOutput st).1,
          (continueDsl rt env past later lastOutput st).2) := by
  unfold ComesToEnd at h
  rw [runDsl_append, Resumption.runIn_bind, h]
  rfl

theorem finalContext_afterGroup (taskName : String) (st : DslState)
    (sub : Except Escaped DslExecutionResult × DslState) :
    finalContext (afterGroup taskName st sub)
      = (finalContext sub).map fun context => st.workflowContext.update context := by
  obtain ⟨e | ⟨success, context, error, failedTask⟩, sub⟩ := sub
  · rfl
  · cases success <;> rfl

theorem rel_map_left {α β γ : Type} {R : γ → β → Prop} {f : α → γ} {a : Option α}
    {b : Option β} : Option.Rel R (a.map f) b ↔ Option.Rel (fun x y => R (f x) y) a b := by
  cases a <;> cases b <;> simp

/-- The context of the group is merged into the one outside. -/
theorem sameConduct_afterGroup {taskName : String} {st : DslState} {sub course : DslCourse} :
    SameConduct SameBindings (sub.1, afterGroup taskName st sub.2) course
      ↔ SameConduct
          (fun context context' => ∀ k, (context.get? k).or (st.workflowContext.get? k)
            = context'.get? k) sub course := by
  have houtcome : Option.Rel SameBindings (finalContext (afterGroup taskName st sub.2))
        (finalContext course.2)
      ↔ Option.Rel
          (fun context context' => ∀ k, (context.get? k).or (st.workflowContext.get? k)
            = context'.get? k) (finalContext sub.2) (finalContext course.2) := by
    rw [finalContext_afterGroup, rel_map_left]
    unfold SameBindings
    simp only [Dict.get?_update]
  exact ⟨fun h => ⟨h.invocations, houtcome.mp h.outcome⟩,
    fun h => ⟨h.invocations, houtcome.mpr h.outcome⟩⟩

/-- A group makes the calls of its tasks, which receive the context. -/
theorem continueDsl_group (taskName : String) (grouped : List TaskDef) (lastOutput : TaskOutput)
    {st : DslState} (h : st.cancelled = false) :
    continueDsl rt env past [group taskName grouped] lastOutput st
      = ((continueDsl rt env past grouped .context st).1,
          afterGroup taskName st (continueDsl rt env past grouped .context st).2) := by
  unfold continueDsl
  rw [executeTasks_group taskName grouped lastOutput h, visible_bind, Resumption.runIn_bind]
  show (_ ++ [], _) = _
  rw [List.append_nil]
  rfl

/-- With the event set, a list that is not empty fails without a call. -/
theorem continueDsl_cancelled {definition : TaskDef} {rest : List TaskDef}
    {lastOutput : TaskOutput} {st : DslState} (h : st.cancelled = true) :
    continueDsl rt env past (definition :: rest) lastOutput st
      = ([], (.ok (.failed "Cancelled" (some "(cancellation)")), st)) := by
  unfold continueDsl
  cases definition <;> rw [executeTasks, if_pos h] <;> rfl

theorem sameConduct_prefix {R : Payload → Payload → Prop} (before : DslHistory)
    {course course' : DslCourse} :
    SameConduct R (before ++ course.1, course.2) (before ++ course'.1, course'.2)
      ↔ SameConduct R course course' := by
  constructor
  · intro h
    refine ⟨?_, h.outcome⟩
    have hcalls := h.invocations
    unfold ScenarioEngine.invocations at hcalls ⊢
    rwa [List.filterMap_append, List.filterMap_append, List.append_cancel_left_eq] at hcalls
  · intro h
    refine ⟨?_, h.outcome⟩
    have hcalls := h.invocations
    unfold ScenarioEngine.invocations at hcalls ⊢
    rw [List.filterMap_append, List.filterMap_append, hcalls]

/-- What is bound before a list that goes well is bound after it. -/
theorem continueDsl_kept {grouped : List TaskDef} {lastOutput : TaskOutput} {st : DslState}
    {context : Payload}
    (h : finalContext (continueDsl rt env past grouped lastOutput st).2 = some context) :
    Kept st.workflowContext context := by
  have hseen : (visible (executeTasks rt grouped {} lastOutput st)).Runs
      (continueDsl rt env past grouped lastOutput st).1
      (continueDsl rt env past grouped lastOutput st).2 := Resumption.runIn_runs _ _
  obtain ⟨tr, hrun⟩ := Resumption.runs_of_relabel hseen
  rw [← (erase_rules rt).tasks] at hrun
  obtain ⟨seen, hobserved⟩ := Resumption.runs_erase.mp hrun
  have hkept := (kept_rules rt).tasks grouped {} lastOutput st tr _ seen hobserved
  unfold finalContext at h
  split at h
  next result hresult =>
    split at h
    next hsuccess =>
      cases h
      exact hkept result hresult hsuccess
    next => cases h
  next => cases h

/-- Where the last output is the context there is nothing to tell, unless `_error` is bound. -/
theorem cannotTell_context (grouped : List TaskDef) {st : DslState}
    (herror : st.workflowContext.get? "_error" = none) :
    CannotTell rt env past grouped .context st := by
  refine ⟨rfl, ?_⟩
  cases hcontext : finalContext (continueDsl rt env past grouped .context st).2 with
  | none => exact Option.Rel.none
  | some context =>
      refine Option.Rel.some fun k => ?_
      cases hk : context.get? k with
      | some v => rfl
      | none =>
          by_cases hkey : k = "_error"
          · rw [hkey, herror]
            rfl
          · rw [continueDsl_kept hcontext k hkey hk]
            rfl

/-- A group behind tasks that come to their end. -/
theorem groupTransparent_iff_of_comesToEnd (taskName : String) (grouped : List TaskDef)
    {lastOutput : TaskOutput} {st : DslState}
    (h : ComesToEnd rt env tasks initialContext cancelled past lastOutput st) :
    GroupTransparent rt env taskName tasks grouped initialContext cancelled
      ↔ (st.cancelled = true → grouped ≠ [])
        ∧ (st.cancelled = false → CannotTell rt env past grouped lastOutput st) := by
  unfold GroupTransparent
  rw [runDsl_of_comesToEnd h, runDsl_of_comesToEnd h, sameConduct_prefix]
  cases hset : st.cancelled with
  | true =>
      unfold group
      rw [continueDsl_cancelled hset]
      cases grouped with
      | nil =>
          refine iff_of_false ?_ fun hcond => hcond.1 rfl rfl
          -- the empty list goes well, the group does not
          intro hsame
          have hrel : Option.Rel SameBindings none (some st.workflowContext) := hsame.outcome
          cases hrel
      | cons definition rest =>
          rw [continueDsl_cancelled hset]
          exact iff_of_true ⟨rfl, Option.Rel.none⟩ ⟨fun _ => List.cons_ne_nil _ _, nofun⟩
  | false =>
      rw [continueDsl_group taskName grouped lastOutput hset, and_iff_right nofun,
        forall_prop_of_true rfl]
      exact sameConduct_afterGroup

end Grouping

/-- **When grouping is transparent**: the first tasks end the list themselves, or come to their
end and the others do not tell the last output from the context.  (With the event set there has
to be one of them, so that the list fails in line as well.)  They cannot tell where the last
output is the context itself and `_error` is not bound. -/
theorem grouping_transparent_iff (rt : DslRuntime) (env : DslEnvironment) (taskName : String)
    (tasks grouped : List TaskDef) (initialContext : Option Payload) (cancelled : Bool) :
    (GroupTransparent rt env taskName tasks grouped initialContext cancelled
        ↔ ∀ past lastOutput st,
            ComesToEnd rt env tasks initialContext cancelled past lastOutput st →
            (st.cancelled = true → grouped ≠ [])
              ∧ (st.cancelled = false → CannotTell rt env past grouped lastOutput st))
      ∧ ((∀ past lastOutput st,
            ComesToEnd rt env tasks initialContext cancelled past lastOutput st →
            (st.cancelled = true → grouped ≠ [])
              ∧ lastOutput = .context ∧ st.workflowContext.get? "_error" = none) →
          GroupTransparent rt env taskName tasks grouped initialContext cancelled) := by
  cases hturns : (visible (executeTurns rt tasks .context
      { workflowContext := initialContext.getD Dict.empty, cancelled := cancelled })).runIn env []
    with
  | mk past turn =>
      cases turn with
      | stopped out =>
          -- neither the group nor its tasks are ever run
          have hsame : GroupTransparent rt env taskName tasks grouped initialContext cancelled := by
            unfold GroupTransparent
            rw [runDsl_of_stopped hturns, runDsl_of_stopped hturns]
            refine ⟨rfl, ?_⟩
            cases finalContext out with
            | none => exact Option.Rel.none
            | some context => exact Option.Rel.some fun _ => rfl
          refine ⟨iff_of_true hsame ?_, fun _ => hsame⟩
          intro past' lastOutput st hend
          cases (Prod.mk.inj (hturns.symm.trans hend)).2
      | goesOn lastOutput st =>
          have hiff := groupTransparent_iff_of_comesToEnd taskName grouped hturns
          constructor
          · rw [hiff]
            constructor
            · intro hcond past' lastOutput' st' hend
              cases hturns.symm.trans hend
              exact hcond
            · exact fun hcond => hcond past lastOutput st hturns
          · intro hcontext
            obtain ⟨hnonempty, rfl, herror⟩ := hcontext past lastOutput st hturns
            exact hiff.mpr ⟨hnonempty, fun _ => cannotTell_context grouped herror⟩

/-- Every scenario returns the name that it was invoked by. -/
def namingScenarios : DslEnvironment
  | _, .invoke invocation =>
      ({ outcome := .returned "completed" (.dict [("lab", .str invocation.scenarioName)]) none } :
        InvokeReply)
  | _, .sleep _ => ({} : SleepReply)

/-- A call without arguments, whose input is what it receives. -/
def callTask (callRef : String) : TaskDef :=
  .task "call" none (.call { call := .str callRef }) none none false

/-- Behind a `set` nothing is lost. -/
theorem group_after_set :
    GroupTransparent anyScenario namingScenarios "group" [setTask "lab" (.str "lab_1")]
      [callTask "lab_wipe@v1"] none false := by
  refine (grouping_transparent_iff _ _ _ _ _ _ _).2 fun past lastOutput st hend => ?_
  have hturns : (([], .goesOn .context ⟨Dict.ofList [("lab", .str "lab_1")], false⟩) :
      DslHistory × Turn) = (past, .goesOn lastOutput st) := hend
  cases hturns
  exact ⟨nofun, rfl, rfl⟩

/-- **A call in a group does not receive the output of the call before it**: it is invoked with
the context. -/
theorem group_drops_output :
    ¬ GroupTransparent anyScenario namingScenarios "group" [callTask "lab_start@v1"]
      [callTask "lab_wipe@v1"] none false := by
  intro h
  have hinputs := congrArg (List.map fun invocation => invocation.taskInput.truthy) h.invocations
  revert hinputs
  decide

end CmlCloudManager.ScenarioEngine
