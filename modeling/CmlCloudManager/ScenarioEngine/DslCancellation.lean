/-
  CmlCloudManager.ScenarioEngine.DslCancellation
  ──────────────────────────────────────────────
  **CANCELLING A DSL RUN.**

  `execute` looks at the cancellation event before each task of a list, and nowhere else.
  So the event stops a run unless it becomes set

    • before the next attempt of a `try` whose task begins with an invocation,
    • when no task is left in any list around: nobody looks again.

  A cancelled call is a failure like any other, and a `try` around it goes on.

  `Course` says of a part of a run what can come of both in it; it is proved for the
  attempts of a `try` by induction on their number (`attempts_course`), and for tasks and
  task lists by induction on the tree (`course_rules`).
  `cancellation_honoured` is what follows for every run, finished or not.
-/
import CmlCloudManager.ScenarioEngine.DslExecutor

namespace CmlCloudManager.ScenarioEngine

open CmlCloudManager.Foundation
open CmlCloudManager.Pipeline (Value Payload)

/-! ## §1. Reading a run. -/

/-- A call of the executor with its answer. -/
abbrev DslEvent : Type := Resumption.Event DslEffect DslEffect.Response

/-- The calls of a run, in order. -/
abbrev DslTrace : Type := List DslEvent

/-- The cancellation event became set while the call was awaited. -/
def setsEvent : DslEvent → Bool
  | ⟨.invoke _ _, reply⟩ => InvokeReply.eventSet reply
  | ⟨.sleep _ _ _, reply⟩ => SleepReply.eventSet reply

/-- The event, after the calls. -/
def setAfter (set : Bool) (tr : DslTrace) : Bool := set || tr.any setsEvent

/-- A scenario is invoked. -/
def isInvocation : DslEvent → Bool
  | ⟨.invoke _ _, _⟩ => true
  | ⟨.sleep _ _ _, _⟩ => false

/-- The scenario ended cancelled, by itself or by a `CancelledError`. -/
def CallOutcome.isCancelled : CallOutcome → Bool
  | .returned status _ _ => status = "cancelled"
  | .timedOut => false
  | .cancelled => true
  | .raised _ => false

/-- The call did what it was invoked for. -/
def CallOutcome.succeeds : CallOutcome → Bool
  | .returned status _ _ => status ≠ "failed" && status ≠ "cancelled"
  | .timedOut => false
  | .cancelled => false
  | .raised _ => false

/-- An exception that no `try` catches. -/
def CallOutcome.raises : CallOutcome → Bool
  | .raised _ => true
  | _ => false

/-- A scenario call is cancelled, and no `try` around it goes on. -/
def isUncaughtCancel : DslEvent → Bool
  | ⟨.invoke _ around, reply⟩ => (InvokeReply.outcome reply).isCancelled && !around.caught
  | ⟨.sleep _ _ _, _⟩ => false

theorem setAfter_append (set : Bool) (tr tr' : DslTrace) :
    setAfter set (tr ++ tr') = setAfter (setAfter set tr) tr' := by
  unfold setAfter
  rw [List.any_append, Bool.or_assoc]

theorem setAfter_cons (set : Bool) (ev : DslEvent) (tr : DslTrace) :
    setAfter set (ev :: tr) = setAfter (set || setsEvent ev) tr := by
  unfold setAfter
  rw [List.any_cons, Bool.or_assoc]

/-! ## §2. Answers in time. -/

/-- An answer after which the event, if it is set then, is looked at in time: a call that went
well has a task ahead, as has a delay if the next attempt is to go well, that attempt does not
begin with an invocation, and nothing but a failure is raised. -/
def AnswerInTime (set : Bool) : DslEvent → Prop
  | ⟨.invoke _ around, reply⟩ => set = true →
      (InvokeReply.outcome reply).raises = false
        ∧ ((InvokeReply.outcome reply).succeeds = true → around.ahead = true)
  | ⟨.sleep _ next around, reply⟩ => set = true →
      SleepReply.raised reply = none
        ∧ next ≠ .invokes ∧ (next = .succeeds → around.ahead = true)

/-- Every answer is. -/
def InTime : Bool → DslTrace → Prop
  | _, [] => True
  | set, ev :: tr => AnswerInTime (set || setsEvent ev) ev ∧ InTime (set || setsEvent ev) tr

/-- Up to the first answer that is not, no scenario is invoked once the event is set. -/
def Heeded : Bool → DslTrace → Prop
  | _, [] => True
  | set, ev :: tr =>
      (isInvocation ev = true → set = false)
        ∧ (AnswerInTime (set || setsEvent ev) ev → Heeded (set || setsEvent ev) tr)

theorem inTime_append : ∀ {set : Bool} {tr tr' : DslTrace},
    InTime set (tr ++ tr') ↔ InTime set tr ∧ InTime (setAfter set tr) tr'
  | set, [], tr' => by simp [InTime, setAfter]
  | set, ev :: tr, tr' => by
      rw [List.cons_append, InTime, InTime, inTime_append, setAfter_cons, and_assoc]

theorem heeded_append : ∀ {set : Bool} {tr tr' : DslTrace},
    Heeded set (tr ++ tr') ↔ Heeded set tr ∧ (InTime set tr → Heeded (setAfter set tr) tr')
  | set, [], tr' => by simp [Heeded, InTime, setAfter]
  | set, ev :: tr, tr' => by
      rw [List.cons_append, Heeded, Heeded, InTime, heeded_append, setAfter_cons]
      tauto

/-! ## §3. The course of a part of a run. -/

/-- How a part of a run ends. -/
inductive Ending where
  | succeeded
  | failed
  | raised
  deriving DecidableEq

/-- How a task ends. -/
def taskEnding : Except DslRaised TaskOutput → Ending
  | .ok _ => .succeeded
  | .error (.dsl _ _) => .failed
  | .error (.escaped _) => .raised

/-- How the attempts of a `try` end. -/
def tryEnding : Except Escaped TryOutcome → Ending
  | .ok (.succeeded _) => .succeeded
  | .ok (.exhausted _) => .failed
  | .error _ => .raised

/-- How a task list ends. -/
def listEnding : Except Escaped DslExecutionResult → Ending
  | .ok result => if result.success then .succeeded else .failed
  | .error _ => .raised

/-- **What can come of a cancellation in a part of a run**, the event `set` before it and `set'`
after it. -/
structure Course (around : Surroundings) (outset : Outset) (set : Bool) (tr : DslTrace)
    (ending : Ending) (set' : Bool) : Prop where
  event : set' = setAfter set tr
  heeded : (set = true → outset ≠ .invokes) → Heeded set tr
  /-- If the event is set and all goes well, a task is ahead that will be told. -/
  ahead : InTime set tr → ending = .succeeded → set' = true →
    set = true ∧ outset = .succeeds ∨ around.ahead = true
  raised : InTime set tr → ending = .raised → set' = false
  /-- Where failures are caught, no cancelled call ends the run. -/
  caught : around.caught = true → ∀ ev ∈ tr, isUncaughtCancel ev = false
  last : tr.Pairwise fun ev ev' => isUncaughtCancel ev = true → isInvocation ev' = false
  cancelled : (∃ ev ∈ tr, isUncaughtCancel ev = true) → ending = .failed

section Course

variable {inner around : Surroundings} {outset : Outset} {set set' : Bool} {tr : DslTrace}
  {ending : Ending}

/-- A part without calls. -/
theorem course_nil (h : ending = .failed ∨ ending = .succeeded ∧ outset = .succeeds) :
    Course around outset set [] ending set := by
  constructor
  case event => simp [setAfter]
  case heeded => exact fun _ => trivial
  case ahead =>
    rintro - rfl hset
    exact .inl ⟨hset, (h.resolve_left nofun).2⟩
  case raised =>
    rintro - rfl
    simp at h
  case caught => simp
  case last => exact .nil
  case cancelled => simp

/-- A part that raises at once, when the event is not set. -/
theorem course_raised (hset : ¬ set = true) : Course around outset set [] .raised set := by
  constructor
  case event => simp [setAfter]
  case heeded => exact fun _ => trivial
  case ahead => exact nofun
  case raised => exact fun _ _ => Bool.eq_false_iff.mpr hset
  case caught => simp
  case last => exact .nil
  case cancelled => simp

/-- The same part, seen from further out. -/
theorem Course.outer (h : Course inner outset set tr ending set')
    (hahead : ending = .succeeded → inner.ahead = true → around.ahead = true)
    (hcaught : around.caught = true → inner.caught = true) :
    Course around outset set tr ending set' :=
  { h with
    ahead := fun htime hend hset => (h.ahead htime hend hset).imp_right (hahead hend)
    caught := fun hout => h.caught (hcaught hout) }

/-- How a part begins does not matter as long as the event is not set. -/
theorem Course.fresh {outset' : Outset} (h : Course around outset set tr ending set')
    (hset : ¬ set = true) : Course around outset' set tr ending set' :=
  { h with
    heeded := fun _ => h.heeded fun hset' => absurd hset' hset
    ahead := fun htime hend hset' =>
      (h.ahead htime hend hset').imp_left fun hset'' => absurd hset''.1 hset }

/-- A part that went well and was taken for a failure afterwards. -/
theorem Course.fails (h : Course inner outset set tr .succeeded set')
    (hcaught : around.caught = true → inner.caught = true) :
    Course around outset set tr .failed set' := by
  constructor
  case event => exact h.event
  case heeded => exact h.heeded
  case ahead => simp
  case raised => simp
  case caught => exact fun hout => h.caught (hcaught hout)
  case last => exact h.last
  case cancelled => exact fun _ => rfl

/-- **Two parts in sequence.**  The second bears what the first leaves of the event, and no
cancelled call was to end the run before it. -/
theorem Course.append {outset₁ outset₂ : Outset} {set₁ set₂ : Bool} {tr₁ tr₂ : DslTrace}
    {ending₁ ending₂ : Ending} (h₁ : Course around outset₁ set tr₁ ending₁ set₁)
    (h₂ : Course around outset₂ set₁ tr₂ ending₂ set₂)
    (hinvokes : InTime set tr₁ → set₁ = true → outset₂ ≠ .invokes)
    (hsucceeds : InTime set tr₁ → set₁ = true → outset₂ = .succeeds → around.ahead = true)
    (hnone : ∀ ev ∈ tr₁, isUncaughtCancel ev = false) :
    Course around outset₁ set (tr₁ ++ tr₂) ending₂ set₂ := by
  -- the second part starts with the event as the first has left it
  have hsplit : InTime set (tr₁ ++ tr₂) → InTime set tr₁ ∧ InTime set₁ tr₂ := by
    intro htime
    rw [h₁.event]
    exact inTime_append.mp htime
  constructor
  case event => rw [h₂.event, h₁.event, setAfter_append]
  case heeded =>
    intro hfirst
    refine heeded_append.mpr ⟨h₁.heeded hfirst, fun htime => ?_⟩
    rw [← h₁.event]
    exact h₂.heeded (hinvokes htime)
  case ahead =>
    intro htime hend hset
    obtain ⟨htime₁, htime₂⟩ := hsplit htime
    rcases h₂.ahead htime₂ hend hset with ⟨hset₁, houtset⟩ | hout
    · exact .inr (hsucceeds htime₁ hset₁ houtset)
    · exact .inr hout
  case raised =>
    intro htime hend
    exact h₂.raised (hsplit htime).2 hend
  case caught =>
    intro hcaught
    exact List.forall_mem_append.mpr ⟨hnone, h₂.caught hcaught⟩
  case last =>
    refine List.pairwise_append.mpr ⟨h₁.last, h₂.last, fun ev hev _ _ hcancelled => ?_⟩
    rw [hnone ev hev] at hcancelled
    cases hcancelled
  case cancelled =>
    rintro ⟨ev, hev, hcancelled⟩
    rcases List.mem_append.mp hev with hev | hev
    · rw [hnone ev hev] at hcancelled
      cases hcancelled
    · exact h₂.cancelled ⟨ev, hev, hcancelled⟩

end Course

/-! ## §4. A call, and the attempts of a `try`. -/

section Parts

variable {rt : DslRuntime} {around : Surroundings}

/-- A call goes well, or raises, as its outcome says; a cancelled one does neither. -/
theorem taskEnding_interpretOutcome (taskName : String) (spec : CallSpec) (outcome : CallOutcome) :
    (taskEnding (interpretOutcome taskName spec outcome) = .succeeded
        → outcome.succeeds = true ∧ outcome.isCancelled = false)
      ∧ (taskEnding (interpretOutcome taskName spec outcome) = .raised
        → outcome.raises = true ∧ outcome.isCancelled = false) := by
  cases outcome with
  | returned status outputData error =>
      by_cases hfailed : status = "failed"
      · simp [interpretOutcome, taskEnding, hfailed]
      · by_cases hcancelled : status = "cancelled"
        · simp [interpretOutcome, taskEnding, hcancelled]
        · simp [interpretOutcome, taskEnding, CallOutcome.succeeds, CallOutcome.isCancelled,
            hfailed, hcancelled]
  | timedOut => simp [interpretOutcome, taskEnding]
  | cancelled => simp [interpretOutcome, taskEnding]
  | raised exc => simp [interpretOutcome, taskEnding, CallOutcome.raises, CallOutcome.isCancelled]

theorem call_course {spec : CallSpec} {taskName : String} {rawInput : TaskOutput} {st : DslState}
    {tr : DslTrace} {out : Except DslRaised TaskOutput × DslState}
    (h : (executeCall rt spec around taskName rawInput st).Runs tr out) :
    Course around ((TaskType.call spec).outset rt rawInput st.workflowContext) st.cancelled tr
      (taskEnding out.1) out.2.cancelled := by
  unfold executeCall at h
  rw [TaskType.outset]
  split at h
  next detail hprepare =>
    obtain ⟨rfl, rfl⟩ := h
    exact course_nil (.inl rfl)
  next invocation hprepare =>
    obtain ⟨reply, tr', rfl, rfl, rfl⟩ := h
    change InvokeReply at reply
    obtain ⟨hsucceeded, hraised⟩ := taskEnding_interpretOutcome taskName spec reply.outcome
    -- one call is all there is: each field is about its reply
    constructor
    case event => simp [setAfter, setsEvent, DslState.after]
    case heeded =>
      intro hfirst
      refine ⟨fun _ => Bool.eq_false_iff.mpr fun hset => ?_, fun _ => trivial⟩
      exact hfirst hset (by rw [hprepare])
    case ahead =>
      intro htime hend hafter
      exact .inr ((htime.1 hafter).2 (hsucceeded hend).1)
    case raised =>
      intro htime hend
      refine Bool.eq_false_iff.mpr fun hafter => ?_
      have hno := (htime.1 hafter).1
      rw [(hraised hend).1] at hno
      cases hno
    case caught =>
      intro hcaught ev hev
      rw [List.mem_singleton.mp hev]
      simp [isUncaughtCancel, hcaught]
    case last => exact List.pairwise_singleton _ _
    case cancelled =>
      rintro ⟨ev, hev, hcancelled⟩
      rw [List.mem_singleton.mp hev] at hcancelled
      have hcancelled' : reply.outcome.isCancelled = true := (Bool.and_eq_true_iff.mp hcancelled).1
      cases hend : taskEnding (interpretOutcome taskName spec reply.outcome) with
      | failed => rfl
      | succeeded =>
          rw [(hsucceeded hend).2] at hcancelled'
          cases hcancelled'
      | raised =>
          rw [(hraised hend).2] at hcancelled'
          cases hcancelled'

/-- A delay. -/
theorem sleep_course {delay : Rat} {next : Outset} {set : Bool} {reply : SleepReply}
    {ending : Ending} (hsucceeded : ending ≠ .succeeded)
    (hraised : ending = .raised → reply.raised ≠ none) :
    Course around .fails set [⟨.sleep delay next around, reply⟩] ending
      (set || reply.eventSet) := by
  constructor
  case event => simp [setAfter, setsEvent]
  case heeded => exact fun _ => ⟨nofun, fun _ => trivial⟩
  case ahead => exact fun _ hend => absurd hend hsucceeded
  case raised =>
    intro htime hend
    refine Bool.eq_false_iff.mpr fun hafter => ?_
    exact hraised hend (htime.1 hafter).1
  case caught => simp [isUncaughtCancel]
  case last => exact List.pairwise_singleton _ _
  case cancelled => simp [isUncaughtCancel]

/-- A failed attempt and the delay after it. -/
theorem Course.then_sleep {outset next : Outset} {set set' : Bool} {tr : DslTrace} {delay : Rat}
    {reply : SleepReply} {ending : Ending} (h : Course around outset set tr .failed set')
    (hnone : ∀ ev ∈ tr, isUncaughtCancel ev = false) (hsucceeded : ending ≠ .succeeded)
    (hraised : ending = .raised → reply.raised ≠ none) :
    Course around outset set (tr ++ [⟨.sleep delay next around, reply⟩]) ending
      (set' || reply.eventSet) :=
  h.append (sleep_course hsucceeded hraised) nofun nofun hnone

/-- A failed attempt, the delay after it and the attempts that follow. -/
theorem Course.then_attempts {outset next next' : Outset} {set set₁ set₂ : Bool}
    {tr tr' : DslTrace} {delay : Rat} {reply : SleepReply} {ending : Ending}
    (h : Course around outset set tr .failed set₁)
    (hnone : ∀ ev ∈ tr, isUncaughtCancel ev = false)
    (hnext : Course around next' (set₁ || reply.eventSet) tr' ending set₂)
    (hnext' : next' = next ∨ next' = .fails) :
    Course around outset set (tr ++ ⟨.sleep delay next around, reply⟩ :: tr') ending set₂ := by
  -- the delay was answered in time
  have hanswer : InTime set (tr ++ [⟨.sleep delay next around, reply⟩]) →
      (set₁ || reply.eventSet) = true →
      next' ≠ .invokes ∧ (next' = .succeeds → around.ahead = true) := by
    intro htime hset
    have hlate := (inTime_append.mp htime).2.1
    rw [← h.event] at hlate
    rcases hnext' with rfl | rfl
    · exact (hlate hset).2
    · exact ⟨nofun, nofun⟩
  have hslept : Course around outset set (tr ++ [⟨.sleep delay next around, reply⟩]) .failed
      (set₁ || reply.eventSet) := h.then_sleep hnone nofun nofun
  rw [List.append_cons]
  refine hslept.append hnext ?_ ?_ ?_
  · exact fun htime hset => (hanswer htime hset).1
  · exact fun htime hset => (hanswer htime hset).2
  · exact List.forall_mem_append.mpr ⟨hnone, by simp [isUncaughtCancel]⟩

/-- **The attempts of a `try`.** -/
theorem attempts_course {retry : RetrySpec} {hasFallback : Bool} {outset : DslState → Outset}
    {body : Surroundings → DslState → DslProgram (Except DslRaised TaskOutput × DslState)}
    (houtset : ∀ st eventSet, outset (st.after eventSet) = outset st)
    (hbody : 1 ≤ retry.maxAttempts → ∀ (inner : Surroundings) (st : DslState) (tr : DslTrace)
      (out : Except DslRaised TaskOutput × DslState), (body inner st).Runs tr out →
      Course inner (outset st) st.cancelled tr (taskEnding out.1) out.2.cancelled) :
    ∀ (left attempt : Nat) (lastError : Option String) (st : DslState) (tr : DslTrace)
      (out : Except Escaped TryOutcome × DslState),
      (left = 0 ∨ 1 ≤ attempt ∧ (attempt : Int) + left = retry.maxAttempts + 1) →
      (attemptTask retry around hasFallback outset body left attempt lastError st).Runs tr out →
      Course around (if left = 0 then .fails else outset st) st.cancelled tr (tryEnding out.1)
          out.2.cancelled
        ∧ (hasFallback = true → ∀ ev ∈ tr, isUncaughtCancel ev = false) := by
  intro left
  induction left with
  | zero =>
      intro attempt lastError st tr out _ h
      obtain ⟨rfl, rfl⟩ := h
      exact ⟨course_nil (.inl rfl), by simp⟩
  | succ left ih =>
      intro attempt lastError st tr out hnumber h
      have hnum : (attempt : Int) + (left + 1) = retry.maxAttempts + 1 := by omega
      obtain ⟨⟨result, st₁⟩, tr₁, tr₂, rfl, hrun, hafter⟩ := (Resumption.runs_bind _ _ _ _).mp h
      have hinner := hbody (by omega) _ st tr₁ (result, st₁) hrun
      have hcourse : Course around (outset st) st.cancelled tr₁ (taskEnding result) st₁.cancelled :=
        hinner.outer (fun _ => id) (by simp +contextual)
      have hgoing : (attempt : Int) < retry.maxAttempts → ∀ ev ∈ tr₁, isUncaughtCancel ev = false :=
        fun hgoes => hinner.caught (by simp [hgoes])
      have hfallback : hasFallback = true → ∀ ev ∈ tr₁, isUncaughtCancel ev = false :=
        fun hfallback => hinner.caught (by simp [hfallback])
      rw [if_neg (Nat.succ_ne_zero left)]
      cases result with
      | ok output =>
          obtain ⟨rfl, rfl⟩ := hafter
          rw [List.append_nil]
          exact ⟨hcourse, hfallback⟩
      | error raised =>
          cases raised with
          | dsl failedTask detail =>
              by_cases hgoes : (attempt : Int) < retry.maxAttempts
              · simp only [hgoes, decide_true, if_true] at hafter
                obtain ⟨reply, tr₃, rfl, hafter⟩ := hafter
                change SleepReply at reply
                dsimp only at hafter
                split at hafter
                next e hreply =>
                  obtain ⟨rfl, rfl⟩ := hafter
                  refine ⟨hcourse.then_sleep (hgoing hgoes) nofun fun _ => by simp [hreply],
                    fun hfall => List.forall_mem_append.mpr ⟨hfallback hfall, ?_⟩⟩
                  simp [isUncaughtCancel]
                next hreply =>
                  obtain ⟨hnext, hnextNone⟩ := ih (attempt + 1) (some detail)
                    (st₁.after reply.eventSet) tr₃ out
                    (.inr ⟨by omega, by push_cast; omega⟩) hafter
                  rw [houtset] at hnext
                  refine ⟨hcourse.then_attempts (hgoing hgoes) hnext (by grind),
                    fun hfall => List.forall_mem_append.mpr ⟨hfallback hfall, ?_⟩⟩
                  exact List.forall_mem_cons.mpr ⟨rfl, hnextNone hfall⟩
              · -- the last attempt
                have hleft : left = 0 := by omega
                subst hleft
                simp only [hgoes, decide_false, Bool.false_eq_true, if_false] at hafter
                obtain ⟨rfl, rfl⟩ := hafter
                rw [List.append_nil]
                exact ⟨hcourse, hfallback⟩
          | escaped e =>
              obtain ⟨rfl, rfl⟩ := hafter
              rw [List.append_nil]
              exact ⟨hcourse, hfallback⟩

/-- The values of a `set`. -/
theorem set_course {values : List (String × Value)} {taskName : String} {rawInput : TaskOutput}
    {st : DslState} :
    Course around ((TaskType.set values).outset rt rawInput st.workflowContext) st.cancelled []
      (taskEnding (executeSet rt values taskName rawInput st).1)
      (executeSet rt values taskName rawInput st).2.cancelled := by
  rw [TaskType.outset]
  unfold executeSet
  dsimp only
  cases resolveSet rt (rawInput.get st.workflowContext)
    (jqVariables st.workflowContext (rawInput.get st.workflowContext)) values with
  | error detail => exact course_nil (.inl rfl)
  | ok resolved => exact course_nil (.inr ⟨rfl, rfl⟩)

/-- `output.as` and `export.as` leave the event alone. -/
theorem finishTask_cancelled {outputAs exportAs : Option Value} {output output' : TaskOutput}
    {st st' : DslState} (h : finishTask rt outputAs exportAs output st = .ok (output', st')) :
    st'.cancelled = st.cancelled := by
  have hexport : ∀ output st', exportOutput rt exportAs output st = .ok st' →
      st'.cancelled = st.cancelled := by
    intro output st' hexport
    unfold exportOutput at hexport
    grind
  unfold finishTask at h
  grind

end Parts

/-! ## §5. Tasks and task lists. -/

/-- The `catch` of the `try`, or of one that it begins with, cannot be read. -/
def TaskType.unreadable : TaskType → Bool
  | .tryTask body retry _ =>
      retry.readError.isSome || (decide (1 ≤ retry.maxAttempts) && body.unreadable)
  | _ => false

/-- Such a task raises before its first call. -/
theorem executeTask_unreadable {rt : DslRuntime} {around : Surroundings} {taskName : String}
    {rawInput : TaskOutput} {st : DslState} : ∀ {type : TaskType}, type.unreadable = true →
      ∃ exc, executeTask rt type around taskName rawInput st
        = .done (.error (.escaped (.other exc)), st)
  | .tryTask body retry fallback, h => by
      rw [executeTask]
      cases herror : retry.readError with
      | some exc => exact ⟨exc, rfl⟩
      | none =>
          rw [TaskType.unreadable, herror] at h
          obtain ⟨hattempts, hbody⟩ : 1 ≤ retry.maxAttempts ∧ body.unreadable = true := by
            simpa using h
          obtain ⟨left, hleft⟩ : ∃ left, retry.maxAttempts.toNat = left + 1 :=
            ⟨retry.maxAttempts.toNat - 1, by omega⟩
          obtain ⟨exc, hexc⟩ := executeTask_unreadable hbody
          rw [hleft]
          -- the first attempt raises
          exact ⟨exc, by rw [attemptTask, hexc]; rfl⟩

/-- Every run of the task takes its course, unless it raises before it has begun. -/
def TaskCourse (rt : DslRuntime) (type : TaskType) : Prop :=
  type.unreadable = false →
  ∀ (around : Surroundings) (taskName : String) (rawInput : TaskOutput) (st : DslState)
    (tr : DslTrace) (out : Except DslRaised TaskOutput × DslState),
    (executeTask rt type around taskName rawInput st).Runs tr out →
    Course around (type.outset rt rawInput st.workflowContext) st.cancelled tr
      (taskEnding out.1) out.2.cancelled

/-- Every run of the task list does, which looks at the event as soon as it has a task. -/
def ListCourse (rt : DslRuntime) (tasks : List TaskDef) : Prop :=
  ∀ (around : Surroundings) (lastOutput : TaskOutput) (st : DslState) (tr : DslTrace)
    (out : Except Escaped DslExecutionResult × DslState),
    (executeTasks rt tasks around lastOutput st).Runs tr out →
    Course around (if tasks.isEmpty then .succeeds else .fails) st.cancelled tr
      (listEnding out.1) out.2.cancelled

section Tasks

variable {rt : DslRuntime}

/-- A task that ends as the task list it runs. -/
theorem runs_of_list {p : DslProgram (Except Escaped DslExecutionResult × DslState)}
    {f : Except Escaped DslExecutionResult × DslState
      → DslProgram (Except DslRaised TaskOutput × DslState)}
    (hf : ∀ result sub, ∃ final, f (result, sub) = .done final
      ∧ taskEnding final.1 = listEnding result ∧ final.2.cancelled = sub.cancelled)
    {tr : DslTrace} {out : Except DslRaised TaskOutput × DslState} (h : (p.bind f).Runs tr out) :
    ∃ result sub, p.Runs tr (result, sub) ∧ taskEnding out.1 = listEnding result
      ∧ out.2.cancelled = sub.cancelled := by
  obtain ⟨⟨result, sub⟩, tr₁, tr₂, rfl, hrun, hafter⟩ := (Resumption.runs_bind _ _ _ _).mp h
  obtain ⟨final, heq, hending, hcancelled⟩ := hf result sub
  rw [heq] at hafter
  obtain ⟨rfl, rfl⟩ := hafter
  rw [List.append_nil]
  exact ⟨result, sub, hrun, hending, hcancelled⟩

theorem do_course {tasks : List TaskDef} (htasks : ListCourse rt tasks) :
    TaskCourse rt (.doTasks tasks) := by
  intro _ around taskName rawInput st tr out h
  rw [executeTask] at h
  have hlist : ∃ result sub, (executeTasks rt tasks around .context st).Runs tr (result, sub)
      ∧ taskEnding out.1 = listEnding result ∧ out.2.cancelled = sub.cancelled := by
    refine runs_of_list ?_ h
    intro result sub
    cases result with
    | error e => exact ⟨_, rfl, rfl, rfl⟩
    | ok result =>
        by_cases hsuccess : result.success = true
        · exact ⟨_, if_pos hsuccess, (if_pos hsuccess).symm, rfl⟩
        · exact ⟨_, if_neg hsuccess, (if_neg hsuccess).symm, rfl⟩
  obtain ⟨result, sub, hrun, hending, hcancelled⟩ := hlist
  rw [TaskType.outset, hending, hcancelled]
  exact htasks around .context st tr (result, sub) hrun

theorem try_course {body : TaskType} {retry : RetrySpec} {fallback : List TaskDef}
    (hbody : TaskCourse rt body) (hfallback : ListCourse rt fallback) :
    TaskCourse rt (.tryTask body retry fallback) := by
  intro hreadable around taskName rawInput st tr out h
  rw [TaskType.unreadable, Bool.or_eq_false_iff] at hreadable
  rw [executeTask, Option.not_isSome_iff_eq_none.mp (Bool.eq_false_iff.mp hreadable.1)] at h
  obtain ⟨⟨result, st₁⟩, tr₁, tr₂, rfl, hrun, hafter⟩ := (Resumption.runs_bind _ _ _ _).mp h
  obtain ⟨hattempts, hnone⟩ := attempts_course (fun _ _ => rfl)
    (fun hsome inner st tr out =>
      hbody (by simpa [hsome] using hreadable.2) inner taskName rawInput st tr out)
    retry.maxAttempts.toNat 1 none st tr₁ (result, st₁) (by omega) hrun
  have hfirst : (if retry.maxAttempts.toNat = 0 then Outset.fails
        else body.outset rt rawInput st.workflowContext)
      = (TaskType.tryTask body retry fallback).outset rt rawInput st.workflowContext := by
    rw [TaskType.outset]
    grind
  rw [hfirst] at hattempts
  cases result with
  | error e =>
      obtain ⟨rfl, rfl⟩ := hafter
      rw [List.append_nil]
      exact hattempts
  | ok outcome =>
      cases outcome with
      | succeeded output =>
          obtain ⟨rfl, rfl⟩ := hafter
          rw [List.append_nil]
          exact hattempts
      | exhausted lastError =>
          dsimp only at hafter
          split at hafter
          next hempty =>
            obtain ⟨rfl, rfl⟩ := hafter
            rw [List.append_nil]
            exact hattempts
          next hsome =>
            have hlist : ∃ st' : DslState, (∃ result sub,
                (executeTasks rt fallback around .context st').Runs tr₂ (result, sub)
                  ∧ taskEnding out.1 = listEnding result ∧ out.2.cancelled = sub.cancelled)
                ∧ st'.cancelled = st₁.cancelled := by
              refine ⟨_, runs_of_list ?_ hafter, rfl⟩
              intro result sub
              cases result with
              | error e => exact ⟨_, rfl, rfl, rfl⟩
              | ok result =>
                  by_cases hsuccess : result.success = true
                  · exact ⟨_, if_pos hsuccess, (if_pos hsuccess).symm, rfl⟩
                  · exact ⟨_, if_neg hsuccess, (if_neg hsuccess).symm, rfl⟩
            obtain ⟨st', ⟨result, sub, hrun', hending, hcancelled⟩, hst'⟩ := hlist
            have hcourse := hfallback around .context st' tr₂ (result, sub) hrun'
            -- the fallback is a task list like any other and looks at the event
            rw [if_neg hsome, hst'] at hcourse
            rw [hending, hcancelled]
            exact hattempts.append hcourse nofun nofun (hnone (by simpa using hsome))

/-- A task that begins when the event is not set. -/
theorem task_fresh {type : TaskType} {around : Surroundings} {taskName : String}
    {rawInput : TaskOutput} {st : DslState} {tr : DslTrace}
    {out : Except DslRaised TaskOutput × DslState} (htype : TaskCourse rt type)
    (hset : ¬ st.cancelled = true)
    (h : (executeTask rt type around taskName rawInput st).Runs tr out) :
    Course around .fails st.cancelled tr (taskEnding out.1) out.2.cancelled := by
  cases hreadable : type.unreadable with
  | false => exact (htype hreadable around taskName rawInput st tr out h).fresh hset
  | true =>
      obtain ⟨exc, hexc⟩ : ∃ exc, executeTask rt type around taskName rawInput st
          = .done (.error (.escaped (.other exc)), st) := executeTask_unreadable hreadable
      rw [hexc] at h
      obtain ⟨rfl, rfl⟩ := h
      exact course_raised hset

/-- A task of a list that is executed, and the rest of the list. -/
theorem cons_course {taskName : String} {condition : Option Value} {type : TaskType}
    {outputAs exportAs : Option Value} {thenEnd : Bool} {rest : List TaskDef}
    (htype : TaskCourse rt type) (hrests : ListCourse rt rest) :
    ListCourse rt (.task taskName condition type outputAs exportAs thenEnd :: rest) := by
  intro around lastOutput st tr out h
  rw [executeTasks] at h
  split at h
  next hset =>
    obtain ⟨rfl, rfl⟩ := h
    exact course_nil (.inl rfl)
  next hset =>
    cases hcondition : conditionHolds rt condition lastOutput st with
    | error detail =>
        rw [hcondition] at h
        obtain ⟨rfl, rfl⟩ := h
        exact course_nil (.inl rfl)
    | ok holds =>
        rw [hcondition] at h
        cases holds with
        | false => exact (hrests around lastOutput st tr out h).fresh hset
        | true =>
            obtain ⟨⟨result, st₁⟩, tr₁, tr₂, rfl, hrun, hafter⟩ :=
              (Resumption.runs_bind _ _ _ _).mp h
            have htask : Course _ .fails st.cancelled tr₁ (taskEnding result) st₁.cancelled :=
              task_fresh htype hset hrun
            cases result with
            | error raised =>
                cases raised with
                | dsl failedTask detail =>
                    obtain ⟨rfl, rfl⟩ := hafter
                    rw [List.append_nil]
                    exact htask.outer nofun id
                | escaped e =>
                    obtain ⟨rfl, rfl⟩ := hafter
                    rw [List.append_nil]
                    exact htask.outer nofun id
            | ok output =>
                cases hfinish : finishTask rt outputAs exportAs output st₁ with
                | error text =>
                    simp only [hfinish] at hafter
                    obtain ⟨rfl, rfl⟩ := hafter
                    rw [List.append_nil]
                    exact htask.fails id
                | ok finished =>
                    obtain ⟨output', st'⟩ := finished
                    simp only [hfinish] at hafter
                    split at hafter
                    next hend =>
                      obtain ⟨rfl, rfl⟩ := hafter
                      rw [List.append_nil, finishTask_cancelled hfinish]
                      exact htask.outer (by simp [hend]) id
                    next hend =>
                      have hrest := hrests around output' st' tr₂ out hafter
                      rw [finishTask_cancelled hfinish] at hrest
                      have hfailed : Course around .fails st.cancelled tr₁ .failed st₁.cancelled :=
                        htask.fails id
                      refine hfailed.append hrest (by grind) ?_ ?_
                      · -- a task of the rest would look at the event
                        intro htime hset₁ hnil
                        have hahead := (htask.ahead htime rfl hset₁).resolve_left nofun
                        grind
                      · intro ev hev
                        refine Bool.eq_false_iff.mpr fun hcancelled => ?_
                        cases htask.cancelled ⟨ev, hev, hcancelled⟩

/-- An entry of a list that is no task. -/
theorem invalid_course {definition : TaskDef} {rest : List TaskDef}
    (h : (∃ v, definition = .invalid v) ∨ ∃ name, definition = .noSpec name) :
    ListCourse rt (definition :: rest) := by
  intro around lastOutput st tr out hrun
  rcases h with ⟨v, rfl⟩ | ⟨name, rfl⟩
  all_goals
    rw [executeTasks] at hrun
    split at hrun
    all_goals
      obtain ⟨rfl, rfl⟩ := hrun
      exact course_nil (.inl rfl)

/-- A task that fails before anything is executed. -/
theorem unexecutable_course {type : TaskType} (hunexecutable : type.unexecutable = true) :
    TaskCourse rt type := by
  intro _ around taskName rawInput st tr out hrun
  obtain ⟨detail, hexecute⟩ := executeTask_unexecutable rt hunexecutable
  rw [hexecute] at hrun
  obtain ⟨rfl, rfl⟩ := hrun
  exact course_nil (.inl rfl)

/-- **Tasks and task lists**, form by form. -/
theorem course_rules (rt : DslRuntime) : TreeRules (TaskCourse rt) (ListCourse rt) := by
  constructor
  case call =>
    intro spec _ around taskName rawInput st tr out h
    rw [executeTask] at h
    exact call_course h
  case set =>
    intro values _ around taskName rawInput st tr out h
    rw [executeTask] at h
    obtain ⟨rfl, rfl⟩ := h
    exact set_course
  case unexecutable => exact fun _ => unexecutable_course
  case doTasks => exact fun _ => do_course
  case tryTask => exact fun _ _ _ => try_course
  case nil =>
    intro around lastOutput st tr out h
    rw [executeTasks] at h
    obtain ⟨rfl, rfl⟩ := h
    exact course_nil (.inr ⟨rfl, rfl⟩)
  case invalid => exact fun _ _ => invalid_course
  case cons => exact fun _ _ _ _ _ _ _ => cons_course

end Tasks

/-! ## §6. Whole runs. -/

instance (e : DslEffect) : Nonempty e.Response :=
  match e with
  | .invoke _ _ => ⟨({ outcome := .timedOut } : InvokeReply)⟩
  | .sleep _ _ _ => ⟨({} : SleepReply)⟩

theorem eq_failed_of_listEnding {out : Except Escaped DslExecutionResult}
    (h : listEnding out = .failed) : ∃ result, out = .ok result ∧ result.success = false := by
  cases out with
  | error e => cases h
  | ok result =>
      refine ⟨result, rfl, Bool.eq_false_iff.mpr fun hsuccess => ?_⟩
      simp [listEnding, hsuccess] at h

/-- Calls that a complete run begins with, up to an invocation. -/
theorem uncaught_before {past later : DslTrace} {ev : DslEvent} (hev : isInvocation ev = true)
    (h : (past ++ ev :: later).Pairwise fun ev ev' =>
      isUncaughtCancel ev = true → isInvocation ev' = false) :
    ∀ ev' ∈ past, isUncaughtCancel ev' = false := by
  intro ev' hev'
  have hlast := (List.pairwise_append.mp h).2.2 ev' hev' ev (by simp)
  refine Bool.eq_false_iff.mpr fun hcancelled => ?_
  rw [hlast hcancelled] at hev
  cases hev

/-- **A cancellation in time is honoured.**  No scenario is invoked once the event is set or a
call is cancelled outside of every `try` that goes on, and `execute` returns a failed result. -/
theorem cancellation_honoured {rt : DslRuntime} {tasks : List TaskDef}
    {initialContext : Option Payload} {set : Bool} (hstart : set = true → tasks ≠ []) :
    (∀ (past : DslTrace) (invocation : Invocation) (around : Surroundings)
        (k : InvokeReply → DslProgram (Except Escaped DslExecutionResult × DslState)),
        (executeDsl rt tasks initialContext set).Reaches past
          (.await (.invoke invocation around) k) →
        (InTime set past → setAfter set past = false) ∧ ∀ ev ∈ past, isUncaughtCancel ev = false)
      ∧ ∀ (tr : DslTrace) (out : Except Escaped DslExecutionResult × DslState),
        (executeDsl rt tasks initialContext set).Runs tr out →
        (InTime set tr ∧ setAfter set tr = true ∨ ∃ ev ∈ tr, isUncaughtCancel ev = true) →
        ∃ result, out.1 = .ok result ∧ result.success = false := by
  constructor
  · intro past invocation around k hpast
    -- any continuation will do: the call is in the middle of some whole run
    obtain ⟨later, out, hlater⟩ := Resumption.exists_runs (k { outcome := .timedOut })
    have hrest : (Resumption.await (.invoke invocation around) k : DslProgram _).Runs
        (⟨.invoke invocation around, { outcome := .timedOut }⟩ :: later) out :=
      ⟨_, later, rfl, hlater⟩
    have hcourse := (course_rules rt).tasks tasks {} .context _ _ out (hpast.append_runs hrest)
    refine ⟨fun htime => ?_, uncaught_before rfl hcourse.last⟩
    have hheeded := hcourse.heeded fun _ => by split <;> nofun
    exact ((heeded_append.mp hheeded).2 htime).1 rfl
  · intro tr out hrun h
    have hcourse := (course_rules rt).tasks tasks {} .context _ tr out hrun
    refine eq_failed_of_listEnding ?_
    rcases h with ⟨htime, hset⟩ | hcancelled
    · have hset' : out.2.cancelled = true := hcourse.event.trans hset
      cases hend : listEnding out.1 with
      | failed => rfl
      | raised =>
          rw [hcourse.raised htime hend] at hset'
          cases hset'
      | succeeded =>
          rcases hcourse.ahead htime hend hset' with ⟨hset₀, houtset⟩ | hahead
          · rw [if_neg (by simpa using hstart hset₀)] at houtset
            cases houtset
          · cases hahead
    · exact hcourse.cancelled hcancelled

/-- A registry that has every scenario, and a jq that finds nothing. -/
def anyScenario : DslRuntime where
  jq := fun _ _ _ => .ok []
  registered := fun _ _ => true

/-- What a call of `lab_start@v1` invokes in it. -/
def startInvocation : Invocation where
  scenarioName := "lab_start"
  scenarioVersion := "v1"
  taskInput := .dict []
  timeoutSeconds := .none

/-- A lab is started, then wiped. -/
def startThenWipe : List TaskDef :=
  [.task "start" none (.call { call := .str "lab_start@v1" }) none none false,
    .task "wipe" none (.call { call := .str "lab_wipe@v1" }) none none false]

/-- The event becomes set during the first of two calls. -/
theorem cancelled_between_calls :
    ∃ tr out, (executeDsl anyScenario startThenWipe none false).Runs tr out
      ∧ setAfter false tr = true ∧ ∃ result, out.1 = .ok result ∧ result.success = false := by
  let tr : DslTrace :=
    [⟨.invoke startInvocation { ahead := true },
      ({ outcome := .returned "completed" (.dict []) none, eventSet := true } : InvokeReply)⟩]
  have hrun : (executeDsl anyScenario startThenWipe none false).Runs tr
      (.ok (.failed "Cancelled" (some "(cancellation)")), ⟨Dict.empty, true⟩) :=
    ⟨_, _, rfl, rfl, rfl⟩
  have hstart : false = true → startThenWipe ≠ [] := fun _ => List.cons_ne_nil _ _
  refine ⟨tr, _, hrun, rfl, (cancellation_honoured hstart).2 _ _ hrun (.inl ⟨?_, rfl⟩)⟩
  exact ⟨fun _ => ⟨rfl, fun _ => rfl⟩, trivial⟩

/-- A lab is started, in two attempts. -/
def retriedStart : List TaskDef :=
  [.task "start" none
    (.tryTask (.call { call := .str "lab_start@v1" }) { maxAttempts := 2 } []) none none false]

/-- The event becomes set during the first attempt, which returns cancelled: the second one
invokes the scenario again, and the run succeeds. -/
theorem retry_invokes_once_set :
    ∃ past later out, (∃ invocation around k,
        (executeDsl anyScenario retriedStart none false).Reaches past
          (.await (.invoke invocation around) k))
      ∧ setAfter false past = true
      ∧ (executeDsl anyScenario retriedStart none false).Runs (past ++ later) out
      ∧ ∃ result, out.1 = .ok result ∧ result.success = true := by
  let inTry : Surroundings := { caught := true }
  let past : DslTrace :=
    [⟨.invoke startInvocation inTry,
        ({ outcome := .returned "cancelled" (.dict []) none, eventSet := true } : InvokeReply)⟩,
      ⟨.sleep 1 .invokes {}, ({} : SleepReply)⟩]
  let later : DslTrace :=
    [⟨.invoke startInvocation {},
      ({ outcome := .returned "completed" (.dict []) none } : InvokeReply)⟩]
  have hreaches : ∃ k, (executeDsl anyScenario retriedStart none false).Reaches past
      (.await (.invoke startInvocation {}) k) := ⟨_, _, rfl, _, rfl, rfl⟩
  refine ⟨past, later, (.ok (.completed Dict.empty), ⟨Dict.empty, true⟩),
    ⟨startInvocation, {}, hreaches⟩, rfl, ?_, _, rfl, rfl⟩
  exact ⟨_, _, rfl, _, _, rfl, _, _, rfl, rfl, rfl⟩

end CmlCloudManager.ScenarioEngine
