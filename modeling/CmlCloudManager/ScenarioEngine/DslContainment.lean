/-
  CmlCloudManager.ScenarioEngine.DslContainment
  ─────────────────────────────────────────────
  **WHICH EXCEPTIONS LEAVE `execute`.**

  `execute` converts what its tasks raise into a failed result, and a `try` retries and
  catches it, as long as it is a `DslExecutionError`.  Three things are not made one,

    • an exception of a scenario other than a timeout or `CancelledError`,
    • an exception in the delay of a `try`,
    • a `catch` that cannot be read,

  and the first of them ends the run, whatever is around it.

  `Contained` says so of one part of a run; it is proved for the attempts of a `try` by
  induction on their number (`attempts_contained`) and for tasks and task lists by induction
  on the tree (`contained_rules`).  `containment_iff` is what follows for every run.
-/
import CmlCloudManager.ScenarioEngine.DslObserver

namespace CmlCloudManager.ScenarioEngine

open CmlCloudManager.Foundation
open CmlCloudManager.Pipeline (Value Payload)

/-! ## §1. Calm parts of a run. -/

/-- An answer with an exception that is not converted. -/
def raisesOut : DslEvent → Bool
  | ⟨.invoke _ _, reply⟩ => (InvokeReply.outcome reply).raises
  | ⟨.sleep _ _ _, reply⟩ => (SleepReply.raised reply).isSome

/-- No answer has one, and each `catch` that is reached can be read. -/
def Calm (tr : DslTrace) (seen : Seen) : Prop :=
  (∀ ev ∈ tr, raisesOut ev = false) ∧ .unreadable ∉ seen.notes

/-- **A part of a run and how it ends**: nothing comes after an exception that escapes. -/
structure Contained (tr : DslTrace) (ending : Ending) (seen : Seen) : Prop where
  iff : ending ≠ .raised ↔ Calm tr seen
  last : tr.Pairwise fun ev _ => raisesOut ev = false

section Parts

variable {tr tr' : DslTrace} {ending ending' : Ending} {seen later : Seen}

theorem calm_append : Calm (tr ++ tr') (seen.append later) ↔ Calm tr seen ∧ Calm tr' later := by
  unfold Calm Seen.append
  rw [List.forall_mem_append, List.mem_append, not_or]
  exact and_and_and_comm

/-- A part without calls. -/
theorem contained_nil {setError : Bool} (h : ending ≠ .raised) :
    Contained [] ending { setError := setError } :=
  ⟨iff_of_true h ⟨nofun, nofun⟩, .nil⟩

/-- **Two parts in sequence.** -/
theorem Contained.then (h : Contained tr ending' seen) (hending : ending' ≠ .raised)
    (hlater : Contained tr' ending later) : Contained (tr ++ tr') ending (seen.append later) := by
  have hcalm := h.iff.mp hending
  constructor
  case iff =>
    rw [calm_append, and_iff_right hcalm]
    exact hlater.iff
  case last =>
    exact List.pairwise_append.mpr ⟨h.last, hlater.last, fun ev hev _ _ => hcalm.1 ev hev⟩

/-- The same calls and entries, with another end. -/
theorem Contained.congr (h : Contained tr ending' seen)
    (hending : ending = .raised ↔ ending' = .raised)
    (hnotes : .unreadable ∈ later.notes ↔ .unreadable ∈ seen.notes) :
    Contained tr ending later := by
  refine ⟨?_, h.last⟩
  rw [Calm, hnotes, Ne, hending]
  exact h.iff

/-- A delay. -/
theorem sleep_contained {delay : Rat} {next : Outset} {around : Surroundings} {reply : SleepReply}
    {setError : Bool} (h : ending ≠ .raised ↔ reply.raised = none) :
    Contained [⟨.sleep delay next around, reply⟩] ending { setError := setError } := by
  refine ⟨?_, List.pairwise_singleton _ _⟩
  simp [Calm, raisesOut, h]

/-- A call. -/
theorem taskEnding_interpretOutcome_raised (taskName : String) (spec : CallSpec)
    (outcome : CallOutcome) :
    taskEnding (interpretOutcome taskName spec outcome) ≠ .raised ↔ outcome.raises = false := by
  cases outcome with
  | returned status outputData error =>
      refine iff_of_true ?_ rfl
      rw [interpretOutcome]
      split
      · simp [taskEnding]
      · split <;> simp [taskEnding]
  | timedOut => simp [interpretOutcome, taskEnding, CallOutcome.raises]
  | cancelled => simp [interpretOutcome, taskEnding, CallOutcome.raises]
  | raised exc => simp [interpretOutcome, taskEnding, CallOutcome.raises]

theorem call_contained {rt : DslRuntime} {spec : CallSpec} {around : Surroundings}
    {taskName : String} {rawInput : TaskOutput} {st : DslState}
    {out : Except DslRaised TaskOutput × DslState}
    (h : (executeCall rt spec around taskName rawInput st).Runs tr out) :
    Contained tr (taskEnding out.1) {} := by
  unfold executeCall at h
  split at h
  · obtain ⟨rfl, rfl⟩ := h
    exact contained_nil nofun
  · obtain ⟨reply, tr', rfl, rfl, rfl⟩ := h
    change InvokeReply at reply
    refine ⟨?_, List.pairwise_singleton _ _⟩
    rw [taskEnding_interpretOutcome_raised]
    simp [Calm, raisesOut]

/-- `do` ends as its tasks do. -/
theorem taskEnding_afterDo (taskName : String) (st : DslState)
    (sub : Except Escaped DslExecutionResult × DslState) :
    taskEnding (afterDo taskName st sub).1 = listEnding sub.1 := by
  obtain ⟨_ | result, sub⟩ := sub
  · rfl
  · cases hsuccess : result.success <;> simp [afterDo, listEnding, taskEnding, hsuccess]

/-- And so does `catch.do`. -/
theorem taskEnding_afterCatch (taskName : String) (retry : RetrySpec) (lastError : Option String)
    (failing : Payload) (sub : Except Escaped DslExecutionResult × DslState) :
    taskEnding (afterCatch (exhaustedError taskName retry lastError) failing sub).1
      = listEnding sub.1 := by
  obtain ⟨_ | result, sub⟩ := sub
  · rfl
  · cases hsuccess : result.success <;>
      simp [afterCatch, exhaustedError, listEnding, taskEnding, hsuccess]

end Parts

/-! ## §2. Tasks and task lists. -/

/-- Every observed run of the task is contained. -/
def TaskContained (rt : DslRuntime) (type : TaskType) : Prop :=
  ∀ (around : Surroundings) (taskName : String) (rawInput : TaskOutput) (st : DslState)
    (tr : DslTrace) (out : Except DslRaised TaskOutput × DslState) (seen : Seen),
    (observeTask rt type around taskName rawInput st).Runs tr (out, seen) →
    Contained tr (taskEnding out.1) seen

/-- Every observed run of the list is. -/
def ListContained (rt : DslRuntime) (tasks : List TaskDef) : Prop :=
  ∀ (around : Surroundings) (lastOutput : TaskOutput) (st : DslState) (tr : DslTrace)
    (out : Except Escaped DslExecutionResult × DslState) (seen : Seen),
    (observeTasks rt tasks around lastOutput st).Runs tr (out, seen) →
    Contained tr (listEnding out.1) seen

section Tasks

variable {rt : DslRuntime} {around : Surroundings}

theorem watched_contained {type : TaskType} (htype : TaskContained rt type) {taskName : String}
    {rawInput : TaskOutput} {st : DslState} {before : Payload} {tr : DslTrace}
    {out : Except DslRaised TaskOutput × DslState} {seen : Seen}
    (h : (watched before (observeTask rt type around taskName rawInput st)).Runs tr (out, seen)) :
    Contained tr (taskEnding out.1) seen := by
  obtain ⟨seen', hrun, hrecorded⟩ := watched_cases h
  refine (htype around taskName rawInput st tr out seen' hrun).congr Iff.rfl ?_
  obtain ⟨_ | _, st'⟩ := out
  · rw [← (Prod.mk.inj hrecorded).2]
    simp
  · rw [← (Prod.mk.inj hrecorded).2]

/-- A task that is no `do` and no `try` has a call, or none. -/
theorem leaf_contained {type : TaskType}
    (hobserve : ∀ around taskName rawInput st, observeTask rt type around taskName rawInput st
      = (executeTask rt type around taskName rawInput st).bind fun out =>
          .done (out, { setError := type.setsError }))
    (hexecute : ∀ around taskName rawInput st tr out,
      (executeTask rt type around taskName rawInput st).Runs tr out →
      Contained tr (taskEnding out.1) {}) : TaskContained rt type := by
  intro around taskName rawInput st tr out seen h
  obtain ⟨hrun, rfl⟩ := leaf_cases (hobserve around taskName rawInput st) h
  exact (hexecute around taskName rawInput st tr out hrun).congr Iff.rfl Iff.rfl

/-- A task that fails before anything is executed. -/
theorem unexecutable_contained {type : TaskType} (h : type.unexecutable = true) :
    TaskContained rt type := by
  refine leaf_contained (observeTask_unexecutable h) ?_
  intro around taskName rawInput st tr out hrun
  obtain ⟨detail, hexecute⟩ := executeTask_unexecutable rt h
  rw [hexecute] at hrun
  obtain ⟨rfl, rfl⟩ := hrun
  exact contained_nil nofun

theorem executeSet_contained {values : List (String × Value)} {taskName : String}
    {rawInput : TaskOutput} {st : DslState} :
    Contained [] (taskEnding (executeSet rt values taskName rawInput st).1) {} := by
  refine contained_nil ?_
  unfold executeSet
  dsimp only
  split <;> nofun

theorem do_contained {tasks : List TaskDef} (htasks : ListContained rt tasks) :
    TaskContained rt (.doTasks tasks) := by
  intro around taskName rawInput st tr out seen h
  obtain ⟨sub, hrun, rfl⟩ := do_cases h
  rw [taskEnding_afterDo]
  exact htasks around .context st tr sub seen hrun

/-- **The attempts of a `try`.** -/
theorem attempts_contained {retry : RetrySpec} {hasFallback : Bool} {outset : DslState → Outset}
    {body : Surroundings → DslState →
      DslProgram ((Except DslRaised TaskOutput × DslState) × Seen)}
    (hbody : ∀ (inner : Surroundings) (st : DslState) (tr : DslTrace)
      (out : Except DslRaised TaskOutput × DslState) (seen : Seen),
      (body inner st).Runs tr (out, seen) → Contained tr (taskEnding out.1) seen) :
    ∀ (left attempt : Nat) (lastError : Option String) (st : DslState) (tr : DslTrace)
      (out : Except Escaped TryOutcome × DslState) (seen : Seen),
      (observeAttempts retry around hasFallback outset body left attempt lastError st).Runs tr
        (out, seen) →
      Contained tr (tryEnding out.1) seen := by
  intro left
  induction left with
  | zero =>
      intro attempt lastError st tr out seen h
      obtain ⟨rfl, heq⟩ := h
      cases heq
      exact contained_nil nofun
  | succ left ih =>
      intro attempt lastError st tr out seen h
      obtain ⟨inner, result, st₁, seen₁, tr₁, tr₂, rfl, hrun, hafter⟩ := attempts_cases h
      have hinner := hbody inner st tr₁ (result, st₁) seen₁ hrun
      rcases hafter with ⟨output, rfl, rfl, rfl, rfl⟩ | ⟨e, rfl, rfl, rfl, rfl⟩
        | ⟨failedTask, detail, rfl, ⟨delay, next, reply, e, hreply, rfl, rfl, rfl⟩
          | ⟨pause, st₂, tr₃, later, rfl, hpause, -, hlater, rfl⟩⟩
      · rw [List.append_nil]
        exact hinner
      · rw [List.append_nil]
        exact hinner.congr Iff.rfl Iff.rfl
      -- the delay itself raises, and ends the attempts
      · have hslept : Contained [⟨.sleep delay next around, reply⟩] .raised {} :=
          sleep_contained (iff_of_false (fun h => h rfl) (by simp [hreply]))
        exact (hinner.then nofun hslept).congr Iff.rfl (by simp [Seen.append, Seen.dropped])
      · have hnext := ih (attempt + 1) (some detail) st₂ tr₃ out later hlater
        have hfailed : Contained tr₁ .failed seen₁.dropped := hinner.congr Iff.rfl Iff.rfl
        rcases hpause with rfl | ⟨delay, next, reply, hreply, rfl⟩
        · exact hfailed.then nofun hnext
        · have hslept : Contained [⟨.sleep delay next around, reply⟩] .failed {} :=
            sleep_contained (iff_of_true nofun hreply)
          exact (hfailed.then nofun (hslept.then nofun hnext)).congr Iff.rfl
            (by simp [Seen.append])

/-- A `try`. -/
theorem try_contained {body : TaskType} {retry : RetrySpec} {fallback : List TaskDef}
    (hbody : TaskContained rt body) (hfallback : ListContained rt fallback) :
    TaskContained rt (.tryTask body retry fallback) := by
  intro around taskName rawInput st tr out seen h
  rcases try_cases h with ⟨exc, rfl, rfl, rfl⟩
    | ⟨result, st₁, seen₁, tr₁, tr₂, rfl, hrun, hafter⟩
  · refine ⟨iff_of_false (fun h => h rfl) ?_, .nil⟩
    simp [Calm]
  · have hattempts := attempts_contained
      (fun inner st tr out seen hruns => watched_contained hbody hruns) _ _ _ st tr₁
      (result, st₁) seen₁ hrun
    rcases hafter with ⟨rfl, -, hending, rfl⟩ | ⟨lastError, sub, later, rfl, hrun', rfl, rfl⟩
    · rw [List.append_nil, hending]
      exact hattempts
    · rw [taskEnding_afterCatch]
      have hfailed : Contained tr₁ .failed seen₁.dropped := hattempts.congr Iff.rfl Iff.rfl
      refine (hfailed.then nofun (hfallback around .context _ tr₂ sub later hrun')).congr Iff.rfl ?_
      simp [Seen.append]

/-- A task of a list that is executed, and the rest of the list. -/
theorem cons_contained {taskName : String} {condition : Option Value} {type : TaskType}
    {outputAs exportAs : Option Value} {thenEnd : Bool} {rest : List TaskDef}
    (htype : TaskContained rt type) (hrests : ListContained rt rest) :
    ListContained rt (.task taskName condition type outputAs exportAs thenEnd :: rest) := by
  intro around lastOutput st tr out seen h
  rcases cons_cases h with ⟨rfl, ⟨error, failedTask, hfailed⟩, rfl⟩ | hrest
    | ⟨inner, result, st₁, seen₁, tr₁, tr₂, rfl, hrun, hafter⟩
  · rw [hfailed]
    exact contained_nil nofun
  · exact hrests around lastOutput st tr out seen hrest
  · have htask := watched_contained htype hrun
    rcases hafter with ⟨hending, rfl, ⟨error, failedTask, hfailed⟩, rfl⟩
      | ⟨hending, rfl, ⟨e, hescaped⟩, rfl⟩ | ⟨output, output', st', rfl, -, hafter⟩
    · rw [List.append_nil, hfailed]
      exact htask.congr (iff_of_false nofun hending) Iff.rfl
    · rw [List.append_nil, hescaped]
      exact htask.congr (iff_of_true rfl hending) Iff.rfl
    · rcases hafter with ⟨rfl, hcompleted, rfl⟩ | ⟨later, hrest, rfl⟩
      · rw [List.append_nil, hcompleted]
        exact htask.congr Iff.rfl (by simp [Seen.append])
      · have hnext := hrests around output' st' tr₂ out later hrest
        exact (htask.then nofun hnext).congr Iff.rfl (by simp [Seen.append])

/-- An entry of a list that is no task. -/
theorem invalid_contained {definition : TaskDef} {rest : List TaskDef}
    (h : (∃ v, definition = .invalid v) ∨ ∃ name, definition = .noSpec name) :
    ListContained rt (definition :: rest) := by
  intro around lastOutput st tr out seen hrun
  obtain ⟨rfl, ⟨error, failedTask, hfailed⟩, rfl⟩ := invalid_cases h hrun
  rw [hfailed]
  exact contained_nil nofun

/-- **Tasks and task lists**, form by form. -/
theorem contained_rules (rt : DslRuntime) : TreeRules (TaskContained rt) (ListContained rt) := by
  constructor
  case call =>
    refine fun spec => leaf_contained (fun _ _ _ _ => rfl) ?_
    intro around taskName rawInput st tr out h
    rw [executeTask] at h
    exact call_contained h
  case set =>
    refine fun values => leaf_contained (fun _ _ _ _ => rfl) ?_
    intro around taskName rawInput st tr out h
    rw [executeTask] at h
    obtain ⟨rfl, rfl⟩ := h
    exact executeSet_contained
  case unexecutable => exact fun _ => unexecutable_contained
  case doTasks => exact fun _ => do_contained
  case tryTask => exact fun _ _ _ => try_contained
  case nil =>
    intro around lastOutput st tr out seen h
    obtain ⟨rfl, heq⟩ := h
    cases heq
    exact contained_nil (by simp [listEnding, DslExecutionResult.completed])
  case invalid => exact fun _ _ => invalid_contained
  case cons => exact fun _ _ _ _ _ _ _ => cons_contained

end Tasks

/-! ## §3. Whole runs. -/

/-- Where a `try` goes on after a failure, a scenario that raises is to it one that returns a
failed result. -/
def RaisesLikeFailures {α : Type} (p : DslProgram α) (tr : DslTrace) : Prop :=
  ∀ (past later : DslTrace) (invocation : Invocation) (around : Surroundings)
    (reply : InvokeReply) (k : InvokeReply → DslProgram α),
    p.Reaches past (.await (.invoke invocation around) k) →
    tr = past ++ ⟨.invoke invocation around, reply⟩ :: later →
    around.caught = true → reply.outcome.raises = true →
    ∃ outputData error, k reply = k { reply with outcome := .returned "failed" outputData error }

theorem listEnding_ne_raised {out : Except Escaped DslExecutionResult} :
    listEnding out ≠ .raised ↔ ∃ result, out = .ok result := by
  cases out with
  | error e => exact iff_of_false (fun h => h rfl) nofun
  | ok result =>
      refine iff_of_true ?_ ⟨result, rfl⟩
      cases hsuccess : result.success <;> simp [listEnding, hsuccess]

/-- **`execute` returns a result, and scenarios that raise are retried and caught like those that
fail, if and only if nothing raises**: no scenario, no delay and no `catch` that is reached. -/
theorem containment_iff {rt : DslRuntime} {tasks : List TaskDef}
    {initialContext : Option Payload} {cancelled : Bool} {tr : DslTrace}
    {out : Except Escaped DslExecutionResult × DslState}
    (hrun : (executeDsl rt tasks initialContext cancelled).Runs tr out) :
    ∃ seen, (observeDsl rt tasks initialContext cancelled).Runs tr (out, seen)
      ∧ ((∃ result, out.1 = .ok result)
          ∧ RaisesLikeFailures (executeDsl rt tasks initialContext cancelled) tr
        ↔ Calm tr seen) := by
  obtain ⟨seen, hseen⟩ := runs_observe.mp hrun
  have hcontained := (contained_rules rt).tasks tasks _ _ _ tr out seen hseen
  refine ⟨seen, hseen, ?_⟩
  rw [← listEnding_ne_raised, hcontained.iff]
  refine and_iff_left_of_imp fun hcalm => ?_
  rintro past later invocation around reply k - rfl - hraises
  have hquiet : reply.outcome.raises = false :=
    hcalm.1 ⟨.invoke invocation around, reply⟩ (by simp)
  rw [hquiet] at hraises
  cases hraises

/-- **An exception that is not converted ends the run**, whatever `try` is around it. -/
theorem raise_ends_run {rt : DslRuntime} {tasks : List TaskDef}
    {initialContext : Option Payload} {cancelled : Bool} {past later : DslTrace} {ev : DslEvent}
    {out : Except Escaped DslExecutionResult × DslState}
    (hrun : (executeDsl rt tasks initialContext cancelled).Runs (past ++ ev :: later) out)
    (hev : raisesOut ev = true) : later = [] ∧ ∃ e, out.1 = .error e := by
  obtain ⟨seen, hseen⟩ := runs_observe.mp hrun
  have hcontained := (contained_rules rt).tasks tasks _ _ _ _ out seen hseen
  constructor
  · refine List.eq_nil_iff_forall_not_mem.mpr fun ev' hev' => ?_
    have hlast := (List.pairwise_cons.mp (List.pairwise_append.mp hcontained.last).2.1).1 ev' hev'
    rw [hev] at hlast
    cases hlast
  · cases hout : out.1 with
    | error e => exact ⟨e, rfl⟩
    | ok result =>
        have hcalm := hcontained.iff.mp (listEnding_ne_raised.mpr ⟨result, hout⟩)
        have hquiet := hcalm.1 ev (by simp)
        rw [hev] at hquiet
        cases hquiet

/-- The first of two attempts fails and the second goes well. -/
theorem failed_start_contained :
    ∃ tr out, (executeDsl anyScenario retriedStart none false).Runs tr out
      ∧ (∃ result, out.1 = .ok result)
      ∧ RaisesLikeFailures (executeDsl anyScenario retriedStart none false) tr := by
  let tr : DslTrace :=
    [⟨.invoke startInvocation { caught := true },
        ({ outcome := .returned "failed" (.dict []) none } : InvokeReply)⟩,
      ⟨.sleep 1 .invokes {}, ({} : SleepReply)⟩,
      ⟨.invoke startInvocation {},
        ({ outcome := .returned "completed" (.dict []) none } : InvokeReply)⟩]
  have hobserve : (observeDsl anyScenario retriedStart none false).Runs tr (_, _) :=
    ⟨_, _, rfl, _, _, rfl, _, _, rfl, rfl, rfl⟩
  have hrun := runs_observe.mpr ⟨_, hobserve⟩
  obtain ⟨seen, hseen, hiff⟩ := containment_iff hrun
  refine ⟨tr, _, hrun, hiff.mpr ⟨?_, ?_⟩⟩
  · simp [tr, raisesOut, CallOutcome.raises]
  · rw [(Prod.mk.inj (hseen.unique hobserve)).2]
    -- all that is recorded is that the first attempt raised
    rintro (⟨⟩ | ⟨-, ⟨⟩⟩)

/-- **A scenario that raises is neither retried nor caught**, and a `catch` that is no dict is
raised at once. -/
theorem raise_escapes :
    (∃ tr out, (executeDsl anyScenario retriedStart none false).Runs tr out
        ∧ out.1 = .error (.other "RuntimeError")
        ∧ ¬ RaisesLikeFailures (executeDsl anyScenario retriedStart none false) tr)
      ∧ ∃ out, (executeDsl anyScenario
          [.task "start" none (.tryTask (.call { call := .str "lab_start@v1" })
            { readError := some "AttributeError" } []) none none false] none false).Runs [] out
        ∧ out.1 = .error (.other "AttributeError") := by
  constructor
  · refine ⟨[⟨.invoke startInvocation { caught := true },
        ({ outcome := .raised "RuntimeError" } : InvokeReply)⟩], _, ⟨_, _, rfl, rfl, rfl⟩, rfl,
      fun h => ?_⟩
    obtain ⟨outputData, error, heq⟩ :=
      h [] [] startInvocation { caught := true } _ _ rfl rfl rfl rfl
    cases heq
  · exact ⟨_, ⟨rfl, rfl⟩, rfl⟩

end CmlCloudManager.ScenarioEngine
