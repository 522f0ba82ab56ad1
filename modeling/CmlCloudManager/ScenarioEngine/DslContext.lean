/-
  CmlCloudManager.ScenarioEngine.DslContext
  ─────────────────────────────────────────
  **THE CONTEXT A TASK LEAVES.**

  A task that raises is to leave the context as it was, and a `try` that goes well through
  `catch.do` the binding of `_error`, which its tasks find there for the time being.  The
  code takes the binding out of its own context when the tasks have failed or gone well,
  and then merges their context, in which it still is.  So a `catch.do` does harm

    • when it fails, if `_error` was bound before: that binding is gone,
    • when it goes well, unless one of its tasks set `_error`: its own binding stays,
    • when an exception escapes from it: its binding stays as well.

  `Orderly` says that nothing else does, of one part of a run; it is proved for the attempts
  of a `try` by induction on their number (`attempts_orderly`) and for tasks and task lists
  by induction on the tree (`orderly_rules`).  `context_discipline_iff` is what follows for
  every run.
-/
import CmlCloudManager.ScenarioEngine.DslObserver

namespace CmlCloudManager.ScenarioEngine

open CmlCloudManager.Foundation
open CmlCloudManager.Pipeline (Value Payload)

/-! ## §1. The discipline, and what breaks it. -/

/-- A task that raises leaves the context as it was; a `try` that goes well through `catch.do`
leaves the binding of `_error`, unless one of the tasks of `catch.do` set it. -/
def DslNote.Disciplined : DslNote → Prop
  | .raised before after => after = before
  | .caught c => ∀ setError, c.ending = .succeeded setError →
      setError = true ∨ c.after = c.beforeTry
  | .unreadable => True

/-- It fails where `_error` was not bound, or goes well with a task that sets `_error`, or finds
the binding that it is given there anyway. -/
def Caught.Harmless (c : Caught) : Prop :=
  match c.ending with
  | .failed => c.before = none
  | .succeeded setError => setError = true ∨ c.before = some c.given
  | .escaped => c.before = some c.given

/-- Every `catch.do` of the record is harmless. -/
def Seen.Harmless (seen : Seen) : Prop := ∀ c, .caught c ∈ seen.notes → c.Harmless

/-- Every entry keeps the discipline. -/
def Seen.Disciplined (seen : Seen) : Prop := ∀ note ∈ seen.notes, note.Disciplined

section Seen

variable {seen later : Seen}

@[simp] theorem disciplined_append :
    (seen.append later).Disciplined ↔ seen.Disciplined ∧ later.Disciplined :=
  List.forall_mem_append

@[simp] theorem harmless_append :
    (seen.append later).Harmless ↔ seen.Harmless ∧ later.Harmless := by
  simp only [Seen.Harmless, Seen.append, List.mem_append, or_imp, forall_and]

@[simp] theorem disciplined_dropped : seen.dropped.Disciplined ↔ seen.Disciplined := Iff.rfl

@[simp] theorem harmless_dropped : seen.dropped.Harmless ↔ seen.Harmless := Iff.rfl

theorem disciplined_caught {setError : Bool} {c : Caught} :
    Seen.Disciplined { setError := setError, notes := [.caught c] }
      ↔ (DslNote.caught c).Disciplined :=
  List.forall_mem_singleton

theorem harmless_caught {setError : Bool} {c : Caught} :
    Seen.Harmless { setError := setError, notes := [.caught c] } ↔ c.Harmless := by
  simp [Seen.Harmless]

end Seen

/-! ## §2. Parts of a run. -/

/-- **An orderly part**, which begins in the context `before` and leaves `after`. -/
structure Orderly (before after : Payload) (ending : Ending) (seen : Seen) : Prop where
  iff : seen.Disciplined ↔ seen.Harmless
  unchanged : seen.Disciplined → ending ≠ .succeeded → after = before
  kept : seen.Disciplined → ending = .succeeded → seen.setError = false →
    after.get? "_error" = before.get? "_error"

/-- A task of which it is not yet recorded that it raised. -/
structure OrderlyInside (before after : Payload) (ending : Ending) (seen : Seen) : Prop where
  iff : seen.Disciplined ∧ (ending ≠ .succeeded → after = before) ↔ seen.Harmless
  kept : seen.Disciplined → ending = .succeeded → seen.setError = false →
    after.get? "_error" = before.get? "_error"

/-- A task list, whose context is a copy. -/
structure OrderlyList (before : Payload) (out : Except Escaped DslExecutionResult)
    (seen : Seen) : Prop where
  iff : seen.Disciplined ↔ seen.Harmless
  kept : seen.Disciplined → ∀ result, out = .ok result → result.success = true →
    seen.setError = false → result.context.get? "_error" = before.get? "_error"

@[simp] theorem taskEnding_ok (output : TaskOutput) :
    taskEnding (.ok output) = .succeeded := rfl

@[simp] theorem taskEnding_error_ne (raised : DslRaised) :
    taskEnding (.error raised) ≠ .succeeded := by
  cases raised <;> nofun

section Parts

variable {before middle after : Payload} {ending : Ending} {seen later : Seen}

theorem disciplined_nil {setError : Bool} :
    Seen.Disciplined { setError := setError } ↔ Seen.Harmless { setError := setError } := by
  simp [Seen.Disciplined, Seen.Harmless]

/-- A part without entries. -/
theorem orderly_nil {setError : Bool} (hunchanged : ending ≠ .succeeded → after = before)
    (hkept : ending = .succeeded → setError = false →
      after.get? "_error" = before.get? "_error") :
    Orderly before after ending { setError := setError } := by
  constructor
  case iff => exact disciplined_nil
  case unchanged => exact fun _ => hunchanged
  case kept => exact fun _ => hkept

theorem Orderly.inside (h : Orderly before after ending seen) :
    OrderlyInside before after ending seen := by
  constructor
  case iff =>
    constructor
    · exact fun hdisciplined => h.iff.mp hdisciplined.1
    · exact fun hharmless => ⟨h.iff.mpr hharmless, h.unchanged (h.iff.mpr hharmless)⟩
  case kept => exact h.kept

/-- Once it is recorded, the discipline says that the context is the same. -/
theorem OrderlyInside.recorded {out : Except DslRaised TaskOutput × DslState}
    (h : OrderlyInside before out.2.workflowContext (taskEnding out.1) seen) :
    Orderly before (recordRaise before (out, seen)).1.2.workflowContext
      (taskEnding (recordRaise before (out, seen)).1.1) (recordRaise before (out, seen)).2 := by
  obtain ⟨result, st⟩ := out
  cases result with
  | ok output =>
      constructor
      case iff =>
        change seen.Disciplined ↔ seen.Harmless
        simpa using h.iff
      case unchanged => exact fun _ hne => absurd rfl hne
      case kept => exact h.kept
  | error raised =>
      have hending := taskEnding_error_ne raised
      have hrecorded : Seen.Disciplined
          { seen with notes := seen.notes ++ [.raised before st.workflowContext] }
          ↔ seen.Disciplined ∧ st.workflowContext = before := by
        simp [Seen.Disciplined, DslNote.Disciplined, or_imp, forall_and]
      constructor
      case iff =>
        refine hrecorded.trans (Iff.trans ?_ (h.iff.trans ?_))
        · exact and_congr_right fun _ => ⟨fun heq _ => heq, fun himp => himp hending⟩
        · simp [Seen.Harmless, recordRaise]
      case unchanged => exact fun hdisciplined _ => (hrecorded.mp hdisciplined).2
      case kept => exact fun _ hend => absurd hend hending

/-- A failed attempt and what comes after it. -/
theorem Orderly.then (h : Orderly before middle .failed seen)
    (hlater : Orderly middle after ending later) :
    Orderly before after ending (seen.dropped.append later) := by
  have hmiddle : seen.Disciplined → middle = before := fun hseen => h.unchanged hseen nofun
  constructor
  case iff =>
    rw [disciplined_append, harmless_append, disciplined_dropped, harmless_dropped]
    exact and_congr h.iff hlater.iff
  case unchanged =>
    intro hdisciplined hend
    obtain ⟨hseen, hlater'⟩ := disciplined_append.mp hdisciplined
    exact (hlater.unchanged hlater' hend).trans (hmiddle hseen)
  case kept =>
    intro hdisciplined hend hset
    obtain ⟨hseen, hlater'⟩ := disciplined_append.mp hdisciplined
    rw [hlater.kept hlater' hend (by simpa [Seen.append, Seen.dropped] using hset), hmiddle hseen]

/-- `export.as`, after a task that went well. -/
theorem Orderly.exported {exports : Bool} (h : Orderly before middle .succeeded seen)
    (hexports : exports = false → after.get? "_error" = middle.get? "_error") :
    Orderly before after .succeeded (seen.append { setError := exports }) := by
  constructor
  case iff => simpa [Seen.Disciplined, Seen.Harmless, Seen.append] using h.iff
  case unchanged => exact fun _ hne => absurd rfl hne
  case kept =>
    intro hdisciplined _ hset
    obtain ⟨hset, hexports'⟩ := Bool.or_eq_false_iff.mp hset
    rw [hexports hexports', h.kept (disciplined_append.mp hdisciplined).1 rfl hset]

/-- A task list that ends here. -/
theorem Orderly.completed (h : Orderly before after .succeeded seen) :
    OrderlyList before (.ok (.completed after)) seen := by
  refine ⟨h.iff, fun hdisciplined result heq _ hset => ?_⟩
  cases heq
  exact h.kept hdisciplined rfl hset

/-- A task that went well and the rest of the list. -/
theorem Orderly.then_list {out : Except Escaped DslExecutionResult}
    (h : Orderly before middle .succeeded seen) (hlist : OrderlyList middle out later) :
    OrderlyList before out (seen.append later) := by
  constructor
  case iff =>
    rw [disciplined_append, harmless_append]
    exact and_congr h.iff hlist.iff
  case kept =>
    intro hdisciplined result heq hsuccess hset
    obtain ⟨hseen, hlater⟩ := disciplined_append.mp hdisciplined
    obtain ⟨hset, hset'⟩ := Bool.or_eq_false_iff.mp hset
    rw [hlist.kept hlater result heq hsuccess hset', h.kept hseen rfl hset]

/-- A task list that fails here. -/
theorem orderlyList_failed {out : Except Escaped DslExecutionResult}
    (h : seen.Disciplined ↔ seen.Harmless)
    (hfailed : ∃ error failedTask, out = .ok (.failed error failedTask)) :
    OrderlyList before out seen := by
  obtain ⟨error, failedTask, rfl⟩ := hfailed
  refine ⟨h, fun _ result heq hsuccess => ?_⟩
  cases heq
  cases hsuccess

end Parts

/-! ## §3. A call and a `set`, `do`, and the attempts of a `try`. -/

section Tasks

variable {rt : DslRuntime} {around : Surroundings}

/-- A call leaves the context alone. -/
theorem executeCall_context {spec : CallSpec} {taskName : String} {rawInput : TaskOutput}
    {st : DslState} {tr : DslTrace} {out : Except DslRaised TaskOutput × DslState}
    (h : (executeCall rt spec around taskName rawInput st).Runs tr out) :
    out.2.workflowContext = st.workflowContext := by
  unfold executeCall at h
  split at h
  · obtain ⟨-, rfl⟩ := h
    rfl
  · obtain ⟨reply, tr', -, -, rfl⟩ := h
    rfl

/-- The keys of a `set` are those that it resolves. -/
theorem resolveSet_keys {rawInput : Value} {vars : List (String × Value)} :
    ∀ {values resolved : List (String × Value)},
      resolveSet rt rawInput vars values = .ok resolved →
      resolved.map Prod.fst = values.map Prod.fst
  | [], _, h => by cases h; rfl
  | (key, value) :: rest, resolved, h => by
      rw [resolveSet] at h
      split at h
      · cases h
      · split at h
        · cases h
        · next others hothers =>
            cases h
            rw [List.map_cons, List.map_cons, resolveSet_keys hothers]

theorem executeSet_orderly {values : List (String × Value)} {taskName : String}
    {rawInput : TaskOutput} {st : DslState} :
    Orderly st.workflowContext (executeSet rt values taskName rawInput st).2.workflowContext
      (taskEnding (executeSet rt values taskName rawInput st).1)
      { setError := (TaskType.set values).setsError } := by
  unfold executeSet
  dsimp only
  cases hresolve : resolveSet rt (rawInput.get st.workflowContext)
    (jqVariables st.workflowContext (rawInput.get st.workflowContext)) values with
  | error detail => exact orderly_nil (fun _ => rfl) fun _ _ => rfl
  | ok resolved =>
      refine orderly_nil (fun hne => absurd rfl hne) fun _ hset => ?_
      refine Dict.get?_update_ofList_of_not_mem _ ?_
      rw [resolveSet_keys hresolve]
      simpa [TaskType.setsError] using fun v hv => by simpa using List.any_eq_false.mp hset _ hv

/-- Every observed run of the task, `st` before it. -/
def TaskOrderly (rt : DslRuntime) (type : TaskType) : Prop :=
  ∀ (around : Surroundings) (taskName : String) (rawInput : TaskOutput) (st : DslState)
    (tr : DslTrace) (out : Except DslRaised TaskOutput × DslState) (seen : Seen),
    (observeTask rt type around taskName rawInput st).Runs tr (out, seen) →
    OrderlyInside st.workflowContext out.2.workflowContext (taskEnding out.1) seen

/-- Every observed run of the list. -/
def ListOrderly (rt : DslRuntime) (tasks : List TaskDef) : Prop :=
  ∀ (around : Surroundings) (lastOutput : TaskOutput) (st : DslState) (tr : DslTrace)
    (out : Except Escaped DslExecutionResult × DslState) (seen : Seen),
    (observeTasks rt tasks around lastOutput st).Runs tr (out, seen) →
    OrderlyList st.workflowContext out.1 seen

/-- A task that is executed, with the entry that it raised. -/
theorem watched_orderly {type : TaskType} (htype : TaskOrderly rt type) {taskName : String}
    {rawInput : TaskOutput} {st : DslState} {tr : DslTrace}
    {out : Except DslRaised TaskOutput × DslState} {seen : Seen}
    (h : (watched st.workflowContext (observeTask rt type around taskName rawInput st)).Runs tr
      (out, seen)) :
    Orderly st.workflowContext out.2.workflowContext (taskEnding out.1) seen := by
  obtain ⟨seen', hrun, hrecorded⟩ := watched_cases h
  have hinside := (htype around taskName rawInput st tr out seen' hrun).recorded
  rw [hrecorded] at hinside
  exact hinside

/-- A task that is no `do` and no `try`. -/
theorem leaf_orderly {type : TaskType}
    (hobserve : ∀ around taskName rawInput st, observeTask rt type around taskName rawInput st
      = (executeTask rt type around taskName rawInput st).bind fun out =>
          .done (out, { setError := type.setsError }))
    (hexecute : ∀ around taskName rawInput st tr out,
      (executeTask rt type around taskName rawInput st).Runs tr out →
      Orderly st.workflowContext out.2.workflowContext (taskEnding out.1)
        { setError := type.setsError }) : TaskOrderly rt type := by
  intro around taskName rawInput st tr out seen h
  obtain ⟨hrun, rfl⟩ := leaf_cases (hobserve around taskName rawInput st) h
  exact (hexecute around taskName rawInput st tr out hrun).inside

/-- A task that fails before anything is executed. -/
theorem unexecutable_orderly {type : TaskType} (h : type.unexecutable = true) :
    TaskOrderly rt type := by
  refine leaf_orderly (observeTask_unexecutable h) ?_
  intro around taskName rawInput st tr out hrun
  obtain ⟨detail, hexecute⟩ := executeTask_unexecutable rt h
  rw [hexecute] at hrun
  obtain ⟨-, rfl⟩ := hrun
  exact orderly_nil (fun _ => rfl) nofun

/-- `do` drops the context of its tasks unless they went well. -/
theorem do_orderly {tasks : List TaskDef} (htasks : ListOrderly rt tasks) :
    TaskOrderly rt (.doTasks tasks) := by
  intro around taskName rawInput st tr out seen h
  obtain ⟨⟨result, sub⟩, hrun, rfl⟩ := do_cases h
  have hlist := htasks around .context st tr (result, sub) seen hrun
  refine Orderly.inside ⟨hlist.iff, fun _ hne => ?_, fun hdisciplined hend hset => ?_⟩
  · unfold afterDo at hne ⊢
    grind [taskEnding]
  · cases result with
    | error e => cases hend
    | ok result =>
        cases hsuccess : result.success with
        | false => simp [afterDo, hsuccess, taskEnding] at hend
        | true =>
            simp only [afterDo, hsuccess, if_true]
            rw [Dict.get?_update, hlist.kept hdisciplined result rfl hsuccess hset, Option.or_self]

/-- **The attempts of a `try`.** -/
theorem attempts_orderly {retry : RetrySpec} {hasFallback : Bool} {outset : DslState → Outset}
    {body : Surroundings → DslState →
      DslProgram ((Except DslRaised TaskOutput × DslState) × Seen)}
    (hbody : ∀ (inner : Surroundings) (st : DslState) (tr : DslTrace)
      (out : Except DslRaised TaskOutput × DslState) (seen : Seen),
      (body inner st).Runs tr (out, seen) →
      Orderly st.workflowContext out.2.workflowContext (taskEnding out.1) seen) :
    ∀ (left attempt : Nat) (lastError : Option String) (st : DslState) (tr : DslTrace)
      (out : Except Escaped TryOutcome × DslState) (seen : Seen),
      (observeAttempts retry around hasFallback outset body left attempt lastError st).Runs tr
        (out, seen) →
      Orderly st.workflowContext out.2.workflowContext (tryEnding out.1) seen := by
  intro left
  induction left with
  | zero =>
      intro attempt lastError st tr out seen h
      obtain ⟨-, heq⟩ := h
      cases heq
      exact orderly_nil (fun _ => rfl) nofun
  | succ left ih =>
      intro attempt lastError st tr out seen h
      obtain ⟨inner, result, st₁, seen₁, tr₁, tr₂, -, hrun, hafter⟩ := attempts_cases h
      have hinner := hbody inner st tr₁ (result, st₁) seen₁ hrun
      rcases hafter with ⟨output, rfl, -, rfl, rfl⟩ | ⟨e, rfl, -, rfl, rfl⟩
        | ⟨failedTask, detail, rfl, ⟨delay, next, reply, e, -, -, rfl, rfl⟩
          | ⟨pause, st₂, tr₃, later, -, -, hst, hlater, rfl⟩⟩
      · exact hinner
      · exact ⟨hinner.iff, hinner.unchanged, nofun⟩
      · exact ⟨hinner.iff, fun hdisciplined _ => hinner.unchanged hdisciplined nofun, nofun⟩
      · -- the attempts that follow begin in the context that this one leaves
        exact hinner.then (hst ▸ ih (attempt + 1) (some detail) st₂ tr₃ out later hlater)

/-- What `output.as` and `export.as` leave. -/
theorem finishTask_kept {outputAs exportAs : Option Value} {output output' : TaskOutput}
    {st st' : DslState} (h : finishTask rt outputAs exportAs output st = .ok (output', st'))
    (hexports : exportsError rt exportAs output' st = false) :
    st'.workflowContext.get? "_error" = st.workflowContext.get? "_error" := by
  have hexport : exportOutput rt exportAs output' st = .ok st' := by
    unfold finishTask at h
    grind
  unfold exportOutput at hexport
  unfold exportsError at hexports
  split at hexport
  · cases hexport
    rfl
  · dsimp only at hexport hexports
    split at hexport
    · cases hexport
    · next kvs hresolve =>
        cases hexport
        rw [hresolve] at hexports
        refine Dict.get?_update_ofList_of_not_mem _ ?_
        simpa using fun v hv => by simpa using List.any_eq_false.mp hexports _ hv
    · cases hexport
      rfl

/-! ## §4. `catch.do`. -/

/-- **A `catch.do`**, after attempts that left the context as it was before the `try`: it is
harmless if and only if the `try` keeps the discipline. -/
theorem caught_disciplined_iff {context : Payload} {exhausted : DslRaised} {given : Value}
    {out : Except Escaped DslExecutionResult × DslState} {later : Seen} {c : Caught}
    (hlist : OrderlyList (context.set "_error" given) out.1 later) (hlater : later.Disciplined)
    (hc : c = { beforeTry := context.get? "_error"
                before := context.get? "_error"
                given := given
                ending := catchEnding later.setError out.1
                after := (afterCatch exhausted (context.set "_error" given)
                  out).2.workflowContext.get? "_error" }) :
    (DslNote.caught c).Disciplined
        ∧ (taskEnding (afterCatch exhausted (context.set "_error" given) out).1 ≠ .succeeded →
          (afterCatch exhausted (context.set "_error" given) out).2.workflowContext = context)
      ↔ c.Harmless := by
  obtain ⟨result, sub⟩ := out
  subst hc
  cases result with
  | error e =>
      -- nothing takes the binding out
      simp [DslNote.Disciplined, Caught.Harmless, catchEnding, afterCatch,
        Dict.set_eq_self_iff]
  | ok result =>
      cases hsuccess : result.success with
      | false =>
          simp [DslNote.Disciplined, Caught.Harmless, catchEnding, afterCatch, hsuccess,
            Dict.erase_set_eq_self_iff]
      | true =>
          have hafter : ((Dict.erase (context.set "_error" given) "_error").update
              result.context).get? "_error" = result.context.get? "_error" := by
            rw [Dict.get?_update, Dict.get?_erase_self, Option.or_none]
          cases hset : later.setError with
          | true =>
              simp [DslNote.Disciplined, Caught.Harmless, catchEnding, afterCatch, hsuccess]
          | false =>
              -- what the tasks leave alone is merged back
              have hkept : result.context.get? "_error" = some given := by
                rw [hlist.kept hlater result rfl hsuccess hset, Dict.get?_set_self]
              simp [DslNote.Disciplined, Caught.Harmless, catchEnding, afterCatch, hsuccess,
                hafter, hkept, eq_comm]

theorem catchEnding_of_afterCatch {exhausted : DslRaised} {failing : Payload} {setError : Bool}
    {out : Except Escaped DslExecutionResult × DslState}
    (h : taskEnding (afterCatch exhausted failing out).1 = .succeeded) :
    catchEnding setError out.1 = .succeeded setError := by
  obtain ⟨result, sub⟩ := out
  cases result with
  | error e => cases h
  | ok result =>
      cases hsuccess : result.success with
      | false => simp [afterCatch, hsuccess] at h
      | true => simp [catchEnding, hsuccess]

/-- A `try`. -/
theorem try_orderly {body : TaskType} {retry : RetrySpec} {fallback : List TaskDef}
    (hbody : TaskOrderly rt body) (hfallback : ListOrderly rt fallback) :
    TaskOrderly rt (.tryTask body retry fallback) := by
  intro around taskName rawInput st tr out seen h
  rcases try_cases h with ⟨exc, -, rfl, rfl⟩
    | ⟨result, st₁, seen₁, tr₁, tr₂, -, hrun, hafter⟩
  · constructor
    case iff => simp [Seen.Disciplined, Seen.Harmless, DslNote.Disciplined]
    case kept => exact nofun
  · have hattempts := attempts_orderly
      (fun inner st tr out seen hruns => watched_orderly hbody hruns) _ _ _ st tr₁
      (result, st₁) seen₁ hrun
    rcases hafter with ⟨-, hst, hending, rfl⟩ | ⟨lastError, sub, later, rfl, hrun', rfl, rfl⟩
    · rw [hst, hending]
      exact hattempts.inside
    · have hfailed : Orderly st.workflowContext st₁.workflowContext .failed seen₁ := hattempts
      have hlist := hfallback around .context _ tr₂ sub later hrun'
      constructor
      case iff =>
        rw [disciplined_append, disciplined_append, harmless_append, harmless_append,
          disciplined_dropped, harmless_dropped, disciplined_caught, harmless_caught,
          ← hfailed.iff, ← hlist.iff, and_assoc]
        refine and_congr_right fun ⟨hseen, hlater⟩ => ?_
        rw [← hfailed.unchanged hseen nofun]
        exact caught_disciplined_iff hlist hlater rfl
      case kept =>
        intro hdisciplined hend hset
        have hcaught := disciplined_caught.mp (disciplined_append.mp hdisciplined).2
        rcases hcaught later.setError (catchEnding_of_afterCatch hend) with hset' | hafter
        · simp [Seen.append, hset'] at hset
        · exact hafter

/-- A task of a list that is executed, and the rest of the list. -/
theorem cons_orderly {taskName : String} {condition : Option Value} {type : TaskType}
    {outputAs exportAs : Option Value} {thenEnd : Bool} {rest : List TaskDef}
    (htype : TaskOrderly rt type) (hrests : ListOrderly rt rest) :
    ListOrderly rt (.task taskName condition type outputAs exportAs thenEnd :: rest) := by
  intro around lastOutput st tr out seen h
  rcases cons_cases h with ⟨-, hfailed, rfl⟩ | hrest
    | ⟨inner, result, st₁, seen₁, tr₁, tr₂, -, hrun, hafter⟩
  · exact orderlyList_failed disciplined_nil hfailed
  · exact hrests around lastOutput st tr out seen hrest
  · have htask := watched_orderly htype hrun
    rcases hafter with ⟨-, -, hfailed, rfl⟩ | ⟨-, -, ⟨e, hescaped⟩, rfl⟩
      | ⟨output, output', st', rfl, hfinish, hafter⟩
    · exact orderlyList_failed htask.iff hfailed
    · rw [hescaped]
      exact ⟨htask.iff, nofun⟩
    · have hfinished := htask.exported (finishTask_kept hfinish)
      rcases hafter with ⟨-, hcompleted, rfl⟩ | ⟨later, hrest, rfl⟩
      · rw [hcompleted]
        exact hfinished.completed
      · exact hfinished.then_list (hrests around output' st' tr₂ out later hrest)

/-- An entry of a list that is no task. -/
theorem invalid_orderly {definition : TaskDef} {rest : List TaskDef}
    (h : (∃ v, definition = .invalid v) ∨ ∃ name, definition = .noSpec name) :
    ListOrderly rt (definition :: rest) := by
  intro around lastOutput st tr out seen hrun
  obtain ⟨-, hfailed, rfl⟩ := invalid_cases h hrun
  exact orderlyList_failed disciplined_nil hfailed

/-- **Tasks and task lists**, form by form. -/
theorem orderly_rules (rt : DslRuntime) : TreeRules (TaskOrderly rt) (ListOrderly rt) := by
  constructor
  case call =>
    refine fun spec => leaf_orderly (fun _ _ _ _ => rfl) ?_
    intro around taskName rawInput st tr out h
    rw [executeTask] at h
    rw [executeCall_context h]
    exact orderly_nil (fun _ => rfl) fun _ _ => rfl
  case set =>
    refine fun values => leaf_orderly (fun _ _ _ _ => rfl) ?_
    intro around taskName rawInput st tr out h
    rw [executeTask] at h
    obtain ⟨-, rfl⟩ := h
    exact executeSet_orderly
  case unexecutable => exact fun _ => unexecutable_orderly
  case doTasks => exact fun _ => do_orderly
  case tryTask => exact fun _ _ _ => try_orderly
  case nil =>
    intro around lastOutput st tr out seen h
    obtain ⟨-, heq⟩ := h
    cases heq
    exact (orderly_nil (fun hne => absurd rfl hne) fun _ _ => rfl).completed
  case invalid => exact fun _ _ => invalid_orderly
  case cons => exact fun _ _ _ _ _ _ _ => cons_orderly

end Tasks

/-! ## §5. Whole runs. -/

/-- **A run keeps the discipline if and only if no `catch.do` does harm in it**: no task that
raises changes the context, and no `try` that goes well through `catch.do` the binding of
`_error`. -/
theorem context_discipline_iff {rt : DslRuntime} {tasks : List TaskDef}
    {initialContext : Option Payload} {cancelled : Bool} {tr : DslTrace}
    {out : Except Escaped DslExecutionResult × DslState}
    (hrun : (executeDsl rt tasks initialContext cancelled).Runs tr out) :
    ∃ seen, (observeDsl rt tasks initialContext cancelled).Runs tr (out, seen)
      ∧ (seen.Disciplined ↔ seen.Harmless) := by
  obtain ⟨seen, hseen⟩ := runs_observe.mp hrun
  exact ⟨seen, hseen, ((orderly_rules rt).tasks tasks _ _ _ tr out seen hseen).iff⟩

/-- A lab is started; where that fails, the tasks of `catch.do` are executed. -/
def startOr (fallback : List TaskDef) : List TaskDef :=
  [.task "start" none (.tryTask (.call { call := .str "lab_start@v1" }) {} fallback) none none
    false]

/-- The start, with the context for its input, fails. -/
def failedStart (context : List (String × Value)) : DslEvent :=
  ⟨.invoke { startInvocation with taskInput := .dict context } { caught := true },
    ({ outcome := .returned "failed" (.dict []) (some "no license") } : InvokeReply)⟩

/-- A `set`, as a task of `catch.do`. -/
def setTask (key : String) (value : Value) : TaskDef :=
  .task "recover" none (.set [(key, value)]) none none false

/-- A task of `catch.do` sets `_error`: its binding is the one that stays. -/
theorem set_error_disciplined :
    ∃ tr out, (executeDsl anyScenario (startOr [setTask "_error" (.str "handled")]) none false).Runs
        tr out
      ∧ ∃ seen, (observeDsl anyScenario (startOr [setTask "_error" (.str "handled")]) none
          false).Runs tr (out, seen)
        ∧ seen.Disciplined := by
  have hobserve : (observeDsl anyScenario (startOr [setTask "_error" (.str "handled")]) none
      false).Runs [failedStart []] (_, _) := ⟨_, _, rfl, rfl, rfl⟩
  have hrun := runs_observe.mpr ⟨_, hobserve⟩
  obtain ⟨seen, hseen, hiff⟩ := context_discipline_iff hrun
  refine ⟨_, _, hrun, seen, hseen, hiff.mpr ?_⟩
  rw [(Prod.mk.inj (hseen.unique hobserve)).2]
  intro c hc
  obtain ⟨⟩ | ⟨-, ⟨⟩ | ⟨-, ⟨⟩⟩⟩ := hc
  exact .inl rfl

/-- **A `catch.do` that goes well leaves its `_error` behind**, and one that fails takes away the
one that was bound. -/
theorem fallback_spoils_error :
    (∃ tr out result seen, (executeDsl anyScenario
          (startOr [setTask "fallback_executed" (.bool true)]) none false).Runs tr out
        ∧ out.1 = .ok result ∧ result.success = true
        ∧ (result.context.get? "_error").isSome = true
        ∧ (observeDsl anyScenario (startOr [setTask "fallback_executed" (.bool true)]) none
          false).Runs tr (out, seen)
        ∧ ¬ seen.Disciplined)
      ∧ ∃ tr out seen, (executeDsl anyScenario (startOr [.noSpec "recover"])
          (some (Dict.ofList [("_error", .str "earlier")])) false).Runs tr out
        ∧ out.2.workflowContext.get? "_error" = none
        ∧ (observeDsl anyScenario (startOr [.noSpec "recover"])
          (some (Dict.ofList [("_error", .str "earlier")])) false).Runs tr (out, seen)
        ∧ ¬ seen.Disciplined := by
  constructor
  · have hobserve : (observeDsl anyScenario
        (startOr [setTask "fallback_executed" (.bool true)]) none false).Runs
        [failedStart []] (_, _) := ⟨_, _, rfl, rfl, rfl⟩
    refine ⟨_, _, _, _, runs_observe.mpr ⟨_, hobserve⟩, rfl, rfl, rfl, hobserve, fun h => ?_⟩
    -- the entry of the call is followed by that of `catch.do`
    rcases h (.caught _) (.tail _ (.head _)) false rfl with hset | hafter
    · cases hset
    · exact Option.some_ne_none _ hafter
  · have hobserve : (observeDsl anyScenario (startOr [.noSpec "recover"])
        (some (Dict.ofList [("_error", .str "earlier")])) false).Runs
        [failedStart [("_error", .str "earlier")]] (_, _) := ⟨_, _, rfl, rfl, rfl⟩
    refine ⟨_, _, _, runs_observe.mpr ⟨_, hobserve⟩, rfl, hobserve, fun h => ?_⟩
    -- and the last entry is that of the `try`
    have hraised : (DslNote.raised _ _).Disciplined := h _ (.tail _ (.tail _ (.head _)))
    exact Option.some_ne_none _ (congrArg (Dict.get? · "_error") hraised).symm

end CmlCloudManager.ScenarioEngine
