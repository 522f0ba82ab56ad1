/-
  CmlCloudManager.Pipeline.ExecutorRuns
  ─────────────────────────────────────
  **WHAT A RUN OF THE EXECUTOR CAN DO.**

  `StepRun` lists the exits of the loop body of `execute` once, each with the
  calls it makes and the state it leaves; `LoopRun` strings them together.
  `runs_processStep` and `runs_runLoop` say that the program does nothing else, so
  every later fact about traces is an induction over `LoopRun` and never unfolds the
  executor again.
-/
import CmlCloudManager.Pipeline.Executor

namespace CmlCloudManager.Pipeline

open CmlCloudManager.Foundation

/-! ## §1. Reading an event. -/

/-- The step an event dispatches. -/
def dispatchedStep : ExecEvent → Option String
  | ⟨.dispatch request, _⟩ => some request.stepName
  | ⟨.persist _ _, _⟩ => none

/-- The request of an event that is a dispatch. -/
def dispatchRequest : ExecEvent → Option DispatchRequest
  | ⟨.dispatch request, _⟩ => some request
  | ⟨.persist _ _, _⟩ => none

/-- The result dict of an attempt that returned, as `_execute_step` sees it. -/
def DispatchOutcome.result? : DispatchOutcome → Option Payload
  | .returned result => some result
  | .returnedOther result => some (Payload.single "result" result)
  | .raised _ => none
  | .timedOut => none

/-- The result dict of an event that is a dispatch and returned. -/
def dispatchResult : ExecEvent → Option Payload
  | ⟨.dispatch _, outcome⟩ => DispatchOutcome.result? outcome
  | ⟨.persist _ _, _⟩ => none

/-- The progress update an event sends, with the branch it came from. -/
def persistedUpdate : ExecEvent → Option (PersistSite × ProgressUpdate)
  | ⟨.dispatch _, _⟩ => none
  | ⟨.persist site update, _⟩ => some (site, update)

/-- The update `_persist_progress` builds. -/
def progressUpdate (rt : Runtime) (name : String) (status : StepStatus)
    (resultData : Option Payload) (error : Option Value) : ProgressUpdate :=
  { sessionId := rt.context.sessionId
    pipelineName := match rt.pipelineName with
      | some n => if n = "" then "unnamed" else n
      | none => "unnamed"
    stepName := name
    stepStatus := status
    resultData := resultData
    error := error }

/-- The name of the pipeline, where it has one. -/
theorem progressUpdate_pipelineName {rt : Runtime} {pl name : String} {status : StepStatus}
    {resultData : Option Payload} {error : Option Value} (hname : rt.pipelineName = some pl)
    (hpl : pl ≠ "") :
    (progressUpdate rt name status resultData error).pipelineName = pl := by
  unfold progressUpdate
  rw [hname]
  exact if_neg hpl

/-- The event of one `_persist_progress`. -/
def persistEvent (rt : Runtime) (site : PersistSite) (name : String) (status : StepStatus)
    (resultData : Option Payload) (error : Option Value) : ExecEvent :=
  ⟨.persist site (progressUpdate rt name status resultData error), ()⟩

@[simp] theorem dispatchedStep_persistEvent (rt : Runtime) (site : PersistSite) (name : String)
    (status : StepStatus) (rd : Option Payload) (err : Option Value) :
    dispatchedStep (persistEvent rt site name status rd err) = none := rfl

@[simp] theorem dispatchResult_persistEvent (rt : Runtime) (site : PersistSite) (name : String)
    (status : StepStatus) (rd : Option Payload) (err : Option Value) :
    dispatchResult (persistEvent rt site name status rd err) = none := rfl

@[simp] theorem persistedUpdate_persistEvent (rt : Runtime) (site : PersistSite) (name : String)
    (status : StepStatus) (rd : Option Payload) (err : Option Value) :
    persistedUpdate (persistEvent rt site name status rd err)
      = some (site, progressUpdate rt name status rd err) := rfl

theorem runs_persistProgress {α : Type} (rt : Runtime) (site : PersistSite) (name : String)
    (status : StepStatus) (rd : Option Payload) (err : Option Value) (f : Unit → Exec α)
    (tr : Trace) (a : α) :
    ((persistProgress rt site name status rd err).bind f).Runs tr a
      ↔ ∃ tr', tr = persistEvent rt site name status rd err :: tr' ∧ (f ()).Runs tr' a := by
  constructor
  · rintro ⟨r, tr', htr, h⟩
    exact ⟨tr', htr, h⟩
  · rintro ⟨tr', htr, h⟩
    exact ⟨(), tr', htr, h⟩

/-! ## §2. The attempts of one step. -/

/-- The request of an attempt made from state `st`. -/
def attemptRequest (step : StepDef) (st : ExecState) (attempt : Nat) : DispatchRequest :=
  { stepName := step.name
    handlerName := step.handlerName
    progress := st.progress.set step.name { status := some .inProgress, attempt := some attempt }
    stepsData := st.stepsData
    params := step.params }

/-- The event is a dispatch of `step` from state `st`. -/
def IsAttempt (step : StepDef) (st : ExecState) (ev : ExecEvent) : Prop :=
  ∃ attempt outcome, ev = ⟨.dispatch (attemptRequest step st attempt), outcome⟩

theorem IsAttempt.dispatchedStep_eq {step : StepDef} {st : ExecState} {e : ExecEvent}
    (h : IsAttempt step st e) : dispatchedStep e = some step.name := by
  obtain ⟨attempt, outcome, rfl⟩ := h
  rfl

theorem IsAttempt.dispatchRequest_eq {step : StepDef} {st : ExecState} {e : ExecEvent}
    (h : IsAttempt step st e) :
    ∃ attempt, dispatchRequest e = some (attemptRequest step st attempt) := by
  obtain ⟨attempt, outcome, rfl⟩ := h
  exact ⟨attempt, rfl⟩

theorem IsAttempt.persistedUpdate_eq {step : StepDef} {st : ExecState} {e : ExecEvent}
    (h : IsAttempt step st e) : persistedUpdate e = none := by
  obtain ⟨attempt, outcome, rfl⟩ := h
  rfl

/-- How the attempts of a step end: the last one returned, or none did. -/
def AttemptOutcome (tr : Trace) : Except String Payload → Prop
  | .ok result => ∃ before ev, tr = before ++ [ev] ∧ dispatchResult ev = some result
      ∧ ∀ e ∈ before, dispatchResult e = none
  | .error _ => ∀ e ∈ tr, dispatchResult e = none

theorem AttemptOutcome.cons {ev : ExecEvent} {tr : Trace} {out : Except String Payload}
    (h : AttemptOutcome tr out) (hev : dispatchResult ev = none) :
    AttemptOutcome (ev :: tr) out := by
  cases out with
  | ok result =>
      obtain ⟨before, last, rfl, hlast, hbefore⟩ := h
      exact ⟨ev :: before, last, rfl, hlast, List.forall_mem_cons.mpr ⟨hev, hbefore⟩⟩
  | error _ => exact List.forall_mem_cons.mpr ⟨hev, h⟩

/-- How the attempts end is how the last of them ended. -/
theorem AttemptOutcome.last {attempts : Trace} {out : Except String Payload} {ev : ExecEvent}
    (h : AttemptOutcome attempts out) (hlast : attempts.getLast? = some ev) :
    dispatchResult ev = out.toOption := by
  cases out with
  | ok result =>
      obtain ⟨before, last, rfl, hres, -⟩ := h
      rw [List.getLast?_concat] at hlast
      injection hlast with hlast
      rw [← hlast, hres]
      rfl
  | error _ => exact h ev (List.mem_of_getLast? hlast)

/-- A run of `_execute_step`. -/
structure AttemptRun (step : StepDef) (st : ExecState) (tr : Trace) (out : Except String Payload)
    (st' : ExecState) : Prop where
  attempts : ∀ ev ∈ tr, IsAttempt step st ev
  length_le : tr.length ≤ step.maxAttempts.toNat
  attempted : tr = [] → step.maxAttempts.toNat = 0
  outcome : AttemptOutcome tr out
  frame : st' = { st with progress := st'.progress }
  progress_frame : ∀ name, name ≠ step.name → st'.progress.get? name = st.progress.get? name

private theorem runs_attemptStep (step : StepDef) (st : ExecState) :
    ∀ (left attempt : Nat) (lastError : Option String) (cur : ExecState),
      cur = { st with progress := cur.progress } →
      (∀ info, cur.progress.set step.name info = st.progress.set step.name info) →
      ∀ (tr : Trace) (out : Except String Payload) (st' : ExecState),
        (attemptStep step left attempt lastError cur).Runs tr (out, st') →
        (∀ ev ∈ tr, IsAttempt step st ev) ∧ tr.length ≤ left ∧ (tr = [] → left = 0)
          ∧ AttemptOutcome tr out ∧ st' = { st with progress := st'.progress }
          ∧ ∀ info, st'.progress.set step.name info = st.progress.set step.name info := by
  -- `cur` and `st` differ at most in the progress of the step itself
  intro left
  induction left with
  | zero =>
      intro attempt lastError cur hcur hprog tr out st' h
      obtain ⟨rfl, heq⟩ := h
      injection heq with hout hst
      subst hout hst
      exact ⟨by simp, by simp, fun _ => rfl, by simp [AttemptOutcome], hcur, hprog⟩
  | succ left ih =>
      intro attempt lastError cur hcur hprog tr out st' h
      obtain ⟨outcome, tr', rfl, h⟩ := h
      change DispatchOutcome at outcome
      set cur' : ExecState := { cur with
        progress := cur.progress.set step.name
          { status := some .inProgress, attempt := some attempt } } with hcur'
      have hcur1 : cur' = { st with progress := cur'.progress } := by
        rw [hcur', hcur]
      have hprog1 : ∀ info, cur'.progress.set step.name info
          = st.progress.set step.name info := by
        intro info
        rw [hcur']
        simp only [Dict.set_set]
        exact hprog info
      -- so the request is the one an attempt from `st` sends
      have hreq : ∀ o : DispatchOutcome, IsAttempt step st
          (⟨.dispatch
            { stepName := step.name
              handlerName := step.handlerName
              progress := cur'.progress
              stepsData := cur'.stepsData
              params := step.params }, o⟩ : ExecEvent) := by
        intro o
        refine ⟨attempt, o, ?_⟩
        have hp : cur'.progress = st.progress.set step.name
            { status := some .inProgress, attempt := some attempt } := hprog _
        have hd : cur'.stepsData = st.stepsData := by rw [hcur1]
        rw [attemptRequest, hp, hd]
      cases outcome with
      | returned result =>
          obtain ⟨rfl, heq⟩ := h
          injection heq with hout hst
          subst hout hst
          refine ⟨?_, by simp, by simp, ⟨[], _, rfl, rfl, by simp⟩, hcur1, hprog1⟩
          intro ev hev
          rw [List.mem_singleton.mp hev]
          exact hreq _
      | returnedOther result =>
          obtain ⟨rfl, heq⟩ := h
          injection heq with hout hst
          subst hout hst
          refine ⟨?_, by simp, by simp, ⟨[], _, rfl, rfl, by simp⟩, hcur1, hprog1⟩
          intro ev hev
          rw [List.mem_singleton.mp hev]
          exact hreq _
      -- no result: the attempts that are left decide
      | timedOut =>
          obtain ⟨hall, hlen, -, hout, hst, hp⟩ := ih _ _ cur' hcur1 hprog1 tr' out st' h
          exact ⟨List.forall_mem_cons.mpr ⟨hreq _, hall⟩, by simpa using hlen, by simp,
            hout.cons rfl, hst, hp⟩
      | raised message =>
          obtain ⟨hall, hlen, -, hout, hst, hp⟩ := ih _ _ cur' hcur1 hprog1 tr' out st' h
          exact ⟨List.forall_mem_cons.mpr ⟨hreq _, hall⟩, by simpa using hlen, by simp,
            hout.cons rfl, hst, hp⟩

theorem runs_executeStep {step : StepDef} {st : ExecState} {tr : Trace}
    {out : Except String Payload × ExecState} (h : (executeStep step st).Runs tr out) :
    AttemptRun step st tr out.1 out.2 := by
  obtain ⟨out, st'⟩ := out
  obtain ⟨hall, hlen, hnil, hout, hst, hprog⟩ :=
    runs_attemptStep step st _ 1 none st rfl (fun _ => rfl) tr out st' h
  refine ⟨hall, hlen, hnil, hout, hst, fun name hname => ?_⟩
  have hset := congrArg (fun d => Dict.get? d name) (hprog {})
  simpa only [Dict.get?_set_ne _ _ _ hname] using hset

theorem AttemptRun.stepStatuses {step : StepDef} {st st' : ExecState} {tr : Trace}
    {out : Except String Payload} (h : AttemptRun step st tr out st') :
    st'.stepStatuses = st.stepStatuses := by
  rw [h.frame]

/-! ## §3. Aborting. -/

/-- The state after the abort loop. -/
def abortState : List StepDef → ExecState → ExecState
  | [], st => st
  | remaining :: rest, st =>
      if st.stepStatuses.contains remaining.name then abortState rest st
      else abortState rest (st.mark remaining.name .skipped
        { status := some .skipped, reason := some (.str "pipeline aborted") })

/-- The updates of the abort loop. -/
def abortTrace (rt : Runtime) : List StepDef → ExecState → Trace
  | [], _ => []
  | remaining :: rest, st =>
      if st.stepStatuses.contains remaining.name then abortTrace rt rest st
      else persistEvent rt .aborted remaining.name .skipped none none
        :: abortTrace rt rest (st.mark remaining.name .skipped
          { status := some .skipped, reason := some (.str "pipeline aborted") })

theorem runs_abortRemaining (rt : Runtime) :
    ∀ (l : List StepDef) (st : ExecState) (tr : Trace) (st' : ExecState),
      (abortRemaining rt l st).Runs tr st' ↔ tr = abortTrace rt l st ∧ st' = abortState l st := by
  intro l
  induction l with
  | nil => intro st tr st'; exact Iff.rfl
  | cons remaining rest ih =>
      intro st tr st'
      unfold abortRemaining abortTrace abortState
      split
      next => exact ih st tr st'
      next =>
        rw [runs_persistProgress]
        constructor
        · rintro ⟨tr', rfl, h⟩
          obtain ⟨rfl, rfl⟩ := (ih _ _ _).mp h
          exact ⟨rfl, rfl⟩
        · rintro ⟨rfl, rfl⟩
          exact ⟨_, rfl, (ih _ _ _).mpr ⟨rfl, rfl⟩⟩

/-! ## §4. The exits of the loop body. -/

/-- The state in which a failed step leaves the loop body before the abort. -/
def failedState (step : StepDef) (cause : Value) (info : StepInfo) (st : ExecState) : ExecState :=
  { st.mark step.name .failed info with
    errorMessage := some ("Required step '" ++ step.name ++ "' failed: " ++ cause.pyStr) }

/-- The state after a suspension. -/
def suspendedState (rt : Runtime) (step : StepDef) (result : Payload) (st : ExecState) :
    ExecState :=
  let data := suspensionData rt result
  let st' := st.mark step.name .suspended
    { status := some .suspended
      externalJobId := some (data.get "external_job_id")
      stepCorrelationId := some (data.get "step_correlation_id")
      suspendedAt := some (data.get "suspended_at")
      reason := some (data.get "reason")
      resultData := some result }
  { st' with
    externalJobs := st'.externalJobs ++
      [{ stepName := step.name
         externalJobId := data.get "external_job_id"
         stepCorrelationId := data.get "step_correlation_id"
         suspendedAt := data.get "suspended_at" }]
    pipelineSuspended := true }

/-- The state after a step whose result goes into `steps_data`. -/
def storedState (step : StepDef) (status : StepStatus) (info : StepInfo) (result : Payload)
    (st : ExecState) : ExecState :=
  { st.mark step.name status info with stepsData := st.stepsData.set step.name result }

/-- Why a step failed: a result that says so, or the exception of the last attempt. -/
inductive Failure (step : StepDef) (st : ExecState) :
    Trace → PersistSite → Value → StepInfo → ExecState → Prop where
  | handler {tr result st'} (run : AttemptRun step st tr (.ok result) st')
      (hstatus : handlerStatus result = .failed) :
      Failure step st tr .handlerFailed
        (result.getD "error" (.str "step handler returned failed"))
        { status := some .failed
          error := some (result.getD "error" (.str "step handler returned failed"))
          resultData := some result } st'
  | exception {tr excMsg st'} (run : AttemptRun step st tr (.error excMsg) st') :
      Failure step st tr .exception (.str excMsg)
        { status := some .failed, error := some (.str excMsg) } st'

/-- **Every way one iteration of the loop can go.** -/
inductive StepRun (rt : Runtime) (steps ordered : List StepDef) (resume : Dict String StepInfo)
    (step : StepDef) (st : ExecState) : Trace → StepExit → Prop where
  | resumed {exit} (h : (resume.get? step.name).bind (resumeStep step st) = some exit) :
      StepRun rt steps ordered resume step st [] exit
  | blocked {dep} (hnew : (resume.get? step.name).bind (resumeStep step st) = none)
      (h : upstreamBlocked steps st step.needs = some dep) :
      StepRun rt steps ordered resume step st
        [persistEvent rt .upstreamBlocked step.name .skipped none none]
        (.next (st.mark step.name .skipped
          { status := some .skipped
            reason := some (.str ("upstream '" ++ dep ++ "' failed")) }))
  | crashed {e} (hnew : (resume.get? step.name).bind (resumeStep step st) = none)
      (h : shouldSkip rt step st.stepsData = .error e) :
      StepRun rt steps ordered resume step st [] (.raised e)
  | skipWhen (hnew : (resume.get? step.name).bind (resumeStep step st) = none)
      (h : shouldSkip rt step st.stepsData = .ok true) :
      StepRun rt steps ordered resume step st
        [persistEvent rt .skipWhen step.name .skipped none none]
        (.next (st.mark step.name .skipped
          { status := some .skipped
            reason := some (.str ("skip_when: " ++ step.skipWhen.getD "")) }))
  | handlerSkipped {tr result st'}
      (hnew : (resume.get? step.name).bind (resumeStep step st) = none)
      (hup : upstreamBlocked steps st step.needs = none)
      (hskip : shouldSkip rt step st.stepsData = .ok false)
      (run : AttemptRun step st tr (.ok result) st') (hstatus : handlerStatus result = .skipped) :
      StepRun rt steps ordered resume step st
        (tr ++ [persistEvent rt .handlerSkipped step.name .skipped none none])
        (.next (storedState step .skipped
          { status := some .skipped
            reason := some (result.getD "reason" (.str "step handler returned skipped"))
            resultData := some result } result st'))
  | suspended {tr result st'}
      (hnew : (resume.get? step.name).bind (resumeStep step st) = none)
      (hup : upstreamBlocked steps st step.needs = none)
      (hskip : shouldSkip rt step st.stepsData = .ok false)
      (run : AttemptRun step st tr (.ok result) st')
      (hstatus : handlerStatus result = .suspended) :
      StepRun rt steps ordered resume step st
        (tr ++ [persistEvent rt .suspension step.name .suspended
          (some (suspensionData rt result)) none])
        (.stop (suspendedState rt step result st'))
  | completed {tr result st'}
      (hnew : (resume.get? step.name).bind (resumeStep step st) = none)
      (hup : upstreamBlocked steps st step.needs = none)
      (hskip : shouldSkip rt step st.stepsData = .ok false)
      (run : AttemptRun step st tr (.ok result) st')
      (hstatus : handlerStatus result = .completed) :
      StepRun rt steps ordered resume step st
        (tr ++ [persistEvent rt .completed step.name .completed (some result) none])
        (.next (storedState step .completed
          { status := some .completed, resultData := some result } result st'))
  | failedOptional {tr site cause info st'}
      (hnew : (resume.get? step.name).bind (resumeStep step st) = none)
      (hup : upstreamBlocked steps st step.needs = none)
      (hskip : shouldSkip rt step st.stepsData = .ok false)
      (fail : Failure step st tr site cause info st') (hopt : step.optional = true) :
      StepRun rt steps ordered resume step st
        (tr ++ [persistEvent rt site step.name .failed none (some cause)])
        (.next (st'.mark step.name .failed info))
  | failedRequired {tr site cause info st'}
      (hnew : (resume.get? step.name).bind (resumeStep step st) = none)
      (hup : upstreamBlocked steps st step.needs = none)
      (hskip : shouldSkip rt step st.stepsData = .ok false)
      (fail : Failure step st tr site cause info st') (hopt : step.optional = false) :
      StepRun rt steps ordered resume step st
        (tr ++ persistEvent rt site step.name .failed none (some cause)
          :: abortTrace rt ordered (failedState step cause info st'))
        (.stop (abortState ordered (failedState step cause info st')))

section Cases

variable {rt : Runtime} {steps ordered : List StepDef} {resume : Dict String StepInfo}
  {step : StepDef} {st : ExecState}

/-- A step that is resumed makes no calls. -/
theorem StepRun.of_resumed {own : Trace} {exit exit' : StepExit}
    (run : StepRun rt steps ordered resume step st own exit)
    (h : (resume.get? step.name).bind (resumeStep step st) = some exit') :
    own = [] ∧ exit = exit' := by
  cases run with
  | resumed h' => exact ⟨rfl, Option.some.inj (h'.symm.trans h)⟩
  | _ hnew => simp_all

theorem runs_failStep {site : PersistSite} {cause : Value} {info : StepInfo} {tr : Trace}
    {exit : StepExit} (h : (failStep rt ordered step site cause info st).Runs tr exit) :
    (step.optional = true ∧ tr = [persistEvent rt site step.name .failed none (some cause)]
        ∧ exit = .next (st.mark step.name .failed info))
      ∨ (step.optional = false
        ∧ tr = persistEvent rt site step.name .failed none (some cause)
            :: abortTrace rt ordered (failedState step cause info st)
        ∧ exit = .stop (abortState ordered (failedState step cause info st))) := by
  unfold failStep at h
  rw [runs_persistProgress] at h
  obtain ⟨tr', rfl, h⟩ := h
  split at h
  next hopt =>
    obtain ⟨rfl, rfl⟩ := h
    exact .inl ⟨hopt, rfl, rfl⟩
  next hopt =>
    obtain ⟨st'', tr₁, tr₂, rfl, habort, rfl, rfl⟩ := (Resumption.runs_bind _ _ _ _).mp h
    obtain ⟨rfl, rfl⟩ := (runs_abortRemaining rt _ _ _ _).mp habort
    refine .inr ⟨Bool.eq_false_iff.mpr hopt, ?_, rfl⟩
    rw [List.append_nil]
    rfl

/-- **The loop body does nothing but what `StepRun` lists.** -/
theorem runs_processStep {tr : Trace} {exit : StepExit}
    (h : (processStep rt steps ordered resume step st).Runs tr exit) :
    StepRun rt steps ordered resume step st tr exit := by
  unfold processStep at h
  split at h
  next exit' hres =>
    obtain ⟨rfl, rfl⟩ := h
    exact .resumed hres
  next hnew =>
    unfold runStep at h
    split at h
    next dep hup =>
      obtain ⟨tr', rfl, rfl, rfl⟩ := (runs_persistProgress _ _ _ _ _ _ _ _ _).mp h
      exact .blocked hnew hup
    next hup =>
      split at h
      next e hskip =>
        obtain ⟨rfl, rfl⟩ := h
        exact .crashed hnew hskip
      next hskip =>
        obtain ⟨tr', rfl, rfl, rfl⟩ := (runs_persistProgress _ _ _ _ _ _ _ _ _).mp h
        exact .skipWhen hnew hskip
      next hskip =>
        -- the step is dispatched; what follows depends on how the last attempt ended
        obtain ⟨out, tr₁, tr₂, rfl, hrun, h⟩ := (Resumption.runs_bind _ _ _ _).mp h
        have run := runs_executeStep hrun
        obtain ⟨res, st'⟩ := out
        cases res with
        | error excMsg =>
            rcases runs_failStep h with ⟨hopt, rfl, rfl⟩ | ⟨hopt, rfl, rfl⟩
            · exact .failedOptional hnew hup hskip (.exception run) hopt
            · exact .failedRequired hnew hup hskip (.exception run) hopt
        | ok result =>
            simp only [interpretResult] at h
            split at h
            next hstatus =>
              obtain ⟨tr', rfl, rfl, rfl⟩ := (runs_persistProgress _ _ _ _ _ _ _ _ _).mp h
              exact .handlerSkipped hnew hup hskip run hstatus
            next hstatus =>
              obtain ⟨tr', rfl, rfl, rfl⟩ := (runs_persistProgress _ _ _ _ _ _ _ _ _).mp h
              exact .suspended hnew hup hskip run hstatus
            next hstatus =>
              rcases runs_failStep h with ⟨hopt, rfl, rfl⟩ | ⟨hopt, rfl, rfl⟩
              · exact .failedOptional hnew hup hskip (.handler run hstatus) hopt
              · exact .failedRequired hnew hup hskip (.handler run hstatus) hopt
            next hstatus =>
              obtain ⟨tr', rfl, rfl, rfl⟩ := (runs_persistProgress _ _ _ _ _ _ _ _ _).mp h
              exact .completed hnew hup hskip run hstatus

end Cases

/-! ## §5. The loop. -/

/-- A run of the main loop over the steps that are left. -/
inductive LoopRun (rt : Runtime) (steps ordered : List StepDef) (resume : Dict String StepInfo) :
    List StepDef → ExecState → Trace → Except ExecuteError ExecState → Prop where
  | nil {st} : LoopRun rt steps ordered resume [] st [] (.ok st)
  | next {step rest st tr st' tr' out}
      (head : StepRun rt steps ordered resume step st tr (.next st'))
      (tail : LoopRun rt steps ordered resume rest st' tr' out) :
      LoopRun rt steps ordered resume (step :: rest) st (tr ++ tr') out
  | stop {step rest st tr st'}
      (head : StepRun rt steps ordered resume step st tr (.stop st')) :
      LoopRun rt steps ordered resume (step :: rest) st tr (.ok st')
  | raised {step rest st tr e}
      (head : StepRun rt steps ordered resume step st tr (.raised e)) :
      LoopRun rt steps ordered resume (step :: rest) st tr (.error e)

theorem runs_runLoop {rt : Runtime} {steps ordered : List StepDef}
    {resume : Dict String StepInfo} :
    ∀ {rest : List StepDef} {st : ExecState} {tr : Trace} {out : Except ExecuteError ExecState},
      (runLoop rt steps ordered resume rest st).Runs tr out →
      LoopRun rt steps ordered resume rest st tr out
  | [], st, tr, out, h => by
      obtain ⟨rfl, rfl⟩ := h
      exact .nil
  | step :: rest, st, tr, out, h => by
      obtain ⟨exit, tr₁, tr₂, rfl, hhead, h⟩ := (Resumption.runs_bind _ _ _ _).mp h
      have head := runs_processStep hhead
      cases exit with
      | next st' => exact .next head (runs_runLoop h)
      | stop st' =>
          obtain ⟨rfl, rfl⟩ := h
          rw [List.append_nil]
          exact .stop head
      | raised e =>
          obtain ⟨rfl, rfl⟩ := h
          rw [List.append_nil]
          exact .raised head

/-- A run of the acting part: a rejected definition, or a run of the loop. -/
theorem runs_runPipeline {rt : Runtime} {sorter : Sorter} {steps : List StepDef}
    {existing : Option ExistingProgress} {tr : Trace} {out : Except ExecuteError ExecState}
    (h : (runPipeline rt sorter steps existing).Runs tr out) :
    (∃ e, resolveDag sorter steps = .error e ∧ tr = [] ∧ out = .error e)
      ∨ ∃ ordered, resolveDag sorter steps = .ok ordered
        ∧ LoopRun rt steps ordered (resumeStatuses existing) ordered
            (initialState rt.context ordered) tr out := by
  unfold runPipeline at h
  split at h
  next e he =>
    obtain ⟨rfl, rfl⟩ := h
    exact .inl ⟨e, he, rfl, rfl⟩
  next ordered hord => exact .inr ⟨ordered, hord, runs_runLoop h⟩

/-- A run of `execute`: nothing to do, or a run of the acting part. -/
theorem runs_execute {rt : Runtime} {sorter : Sorter} {pipeline : PipelineDef}
    {existing : Option ExistingProgress} {tr : Trace} {out : Except ExecuteError PipelineResult}
    (h : (execute rt sorter pipeline existing).Runs tr out) :
    (pipeline.steps = [] ∧ tr = [])
      ∨ ∃ out', (runPipeline rt sorter pipeline.steps existing).Runs tr out'
        ∧ out = out'.map (finishPipeline rt pipeline) := by
  unfold execute at h
  split at h
  next hempty =>
    obtain ⟨rfl, -⟩ := h
    exact .inl ⟨List.isEmpty_iff.mp hempty, rfl⟩
  next =>
    obtain ⟨out', tr₁, tr₂, rfl, hrun, rfl, rfl⟩ := (Resumption.runs_bind _ _ _ _).mp h
    rw [List.append_nil]
    exact .inr ⟨out', hrun, rfl⟩

end CmlCloudManager.Pipeline
