/-
  CmlCloudManager.Pipeline.Reports
  ────────────────────────────────
  **WHAT A RUN DID WITH A STEP.**

  `Visits` cuts a run up by step; here the pieces are put in the form in which
  several runs are compared.  `Report prev step events` lists what the events of
  one step in one run can be, given what an earlier run left of it (`prev`):

    • nothing       — the step was resumed, or never reached,
    • `aborted`     — one `skipped` update because a required step failed,
    • `whenSkipped` — one `skipped` update because `skip_when` held,
    • `ran`         — attempts, then ONE update whose status is the outcome.

  A report holds of every complete run (`runPipeline_report`); a cut run sees a
  prefix of it.
-/
import CmlCloudManager.Pipeline.Visits

namespace CmlCloudManager.Pipeline

open CmlCloudManager.Foundation

/-! ## §1. Reports. -/

/-- A step whose earlier status sends `execute` past it (or stops it there). -/
def Resumable (prev : Option StepInfo) : Prop :=
  prev.bind StepInfo.resumeStatus = some .completed
    ∨ prev.bind StepInfo.resumeStatus = some .skipped
    ∨ prev.bind StepInfo.resumeStatus = some .suspended

instance (prev : Option StepInfo) : Decidable (Resumable prev) :=
  inferInstanceAs (Decidable (_ ∨ _ ∨ _))

/-- How the attempts of a step end, with the update that follows. -/
inductive Finish (rt : Runtime) (attempts : Trace) :
    PersistSite → StepStatus → Option Payload → Option Value → Prop where
  | completed {result} (returned : AttemptOutcome attempts (.ok result))
      (hstatus : handlerStatus result = .completed) :
      Finish rt attempts .completed .completed (some result) none
  | handlerSkipped {result} (returned : AttemptOutcome attempts (.ok result))
      (hstatus : handlerStatus result = .skipped) :
      Finish rt attempts .handlerSkipped .skipped none none
  | suspended {result} (returned : AttemptOutcome attempts (.ok result))
      (hstatus : handlerStatus result = .suspended) :
      Finish rt attempts .suspension .suspended (some (suspensionData rt result)) none
  | failed {site cause} (hsite : site = .handlerFailed ∨ site = .exception) :
      Finish rt attempts site .failed none (some cause)

/-- **The events of one step in one run.** -/
inductive Report (rt : Runtime) (prev : Option StepInfo) (step : StepDef) : Trace → Prop where
  | nothing : Report rt prev step []
  | aborted : Report rt prev step [persistEvent rt .aborted step.name .skipped none none]
  | whenSkipped (hnew : ¬ Resumable prev) :
      Report rt prev step [persistEvent rt .skipWhen step.name .skipped none none]
  | ran {attempts st site status rd err} (hnew : ¬ Resumable prev)
      (isAttempt : ∀ e ∈ attempts, IsAttempt step st e)
      (finish : Finish rt attempts site status rd err) :
      Report rt prev step (attempts ++ [persistEvent rt site step.name status rd err])

section Resumable

variable {step : StepDef} {st : ExecState} {prev : Option StepInfo}

/-- A step that is not resumed was not resumable. -/
theorem not_resumable (h : prev.bind (resumeStep step st) = none) : ¬ Resumable prev := by
  intro hres
  cases prev with
  | none =>
      rcases hres with h' | h' | h' <;> cases h'
  | some info =>
      rw [Option.bind_some] at h
      unfold resumeStep at h
      rcases hres with h' | h' | h' <;> rw [Option.bind_some] at h' <;> rw [h'] at h <;> cases h

end Resumable

/-! ## §2. Every run has one for every step. -/

section Report

variable {rt : Runtime} {steps ordered : List StepDef} {resume : Dict String StepInfo}
  {step : StepDef} {st : ExecState} {tr : Trace}

theorem Failure.finish {attempts : Trace} {site : PersistSite} {cause : Value} {info : StepInfo}
    {st' : ExecState} (h : Failure step st attempts site cause info st') :
    Finish rt attempts site .failed none (some cause) := by
  cases h with
  | handler run hstatus => exact .failed (.inl rfl)
  | exception run => exact .failed (.inr rfl)

/-- The report of an iteration, from a healthy loop. -/
theorem StepRun.report (hv : ValidOrder steps ordered) {done rest : List StepDef}
    (hsplit : ordered = done ++ step :: rest) (hh : Healthy done st) {exit : StepExit}
    (h : StepRun rt steps ordered resume step st tr exit) :
    Report rt (resume.get? step.name) step (eventsOf step.name tr) := by
  cases h with
  | resumed h => exact .nothing
  | blocked hnew h =>
      -- a healthy loop blocks no step
      rw [hh.not_blocked hv hsplit] at h
      cases h
  | crashed hnew h => exact .nothing
  | skipWhen hnew h =>
      rw [eventsOf_eq_self (by simp)]
      exact .whenSkipped (not_resumable hnew)
  | handlerSkipped hnew hup hskip run hstatus =>
      rw [eventsOf_own run.attempts rfl]
      exact .ran (not_resumable hnew) run.attempts (.handlerSkipped run.outcome hstatus)
  | suspended hnew hup hskip run hstatus =>
      rw [eventsOf_own run.attempts rfl]
      exact .ran (not_resumable hnew) run.attempts (.suspended run.outcome hstatus)
  | completed hnew hup hskip run hstatus =>
      rw [eventsOf_own run.attempts rfl]
      exact .ran (not_resumable hnew) run.attempts (.completed run.outcome hstatus)
  | failedOptional hnew hup hskip fail hopt =>
      obtain ⟨⟨out, run⟩, -⟩ := fail.attemptRun
      rw [eventsOf_own run.attempts rfl]
      exact .ran (not_resumable hnew) run.attempts fail.finish
  | failedRequired hnew hup hskip fail hopt =>
      obtain ⟨⟨out, run⟩, -⟩ := fail.attemptRun
      rw [← List.singleton_append, ← List.append_assoc, eventsOf_append, eventsOf_abort_self,
        List.append_nil, eventsOf_own run.attempts rfl]
      exact .ran (not_resumable hnew) run.attempts fail.finish

theorem Passed.report {out : Except ExecuteError ExecState} (h : Passed rt step tr out)
    (prev : Option StepInfo) : Report rt prev step (eventsOf step.name tr) := by
  cases h with
  | aborted events herr =>
      rw [events]
      exact .aborted
  | halted events hsus =>
      rw [events]
      exact .nothing
  | raised events =>
      rw [events]
      exact .nothing

/-- Every event of an iteration concerns a step of the order. -/
theorem StepRun.concerns_mem {exit : StepExit}
    (h : StepRun rt steps ordered resume step st tr exit) (hmem : step ∈ ordered) :
    ∀ e ∈ tr, concerns e ∈ ordered.map StepDef.name := by
  intro e he
  have hown : concerns e = step.name → concerns e ∈ ordered.map StepDef.name :=
    fun heq => List.mem_map.mpr ⟨step, hmem, heq.symm⟩
  cases h with
  | resumed h => cases he
  | blocked hnew h => exact hown (by rw [List.mem_singleton.mp he, concerns_persistEvent])
  | crashed hnew h => cases he
  | skipWhen hnew h => exact hown (by rw [List.mem_singleton.mp he, concerns_persistEvent])
  | handlerSkipped hnew hup hskip run hstatus =>
      exact hown (attempts_concern run.attempts (by simp) e he)
  | suspended hnew hup hskip run hstatus =>
      exact hown (attempts_concern run.attempts (by simp) e he)
  | completed hnew hup hskip run hstatus =>
      exact hown (attempts_concern run.attempts (by simp) e he)
  | failedOptional hnew hup hskip fail hopt =>
      obtain ⟨⟨out, run⟩, -⟩ := fail.attemptRun
      exact hown (attempts_concern run.attempts (by simp) e he)
  | @failedRequired attempts site cause info st' hnew hup hskip fail hopt =>
      obtain ⟨⟨out, run⟩, -⟩ := fail.attemptRun
      rcases List.mem_append.mp he with he | he
      · exact hown (run.attempts e he).concerns_eq
      · rcases List.mem_cons.mp he with rfl | he
        · exact hown rfl
        · -- the abort loop goes over the order
          have hin : e ∈ eventsOf (concerns e)
              (abortTrace rt ordered (failedState step cause info st')) :=
            mem_eventsOf.mpr ⟨he, rfl⟩
          rw [eventsOf_abortTrace] at hin
          split at hin
          next hc => exact hc.1
          next => cases hin

/-- Every event of the loop concerns a step of the order. -/
theorem LoopRun.concerns_mem :
    ∀ {rest : List StepDef} {st : ExecState} {tr : Trace} {out : Except ExecuteError ExecState},
      LoopRun rt steps ordered resume rest st tr out → (∀ s ∈ rest, s ∈ ordered) →
      ∀ e ∈ tr, concerns e ∈ ordered.map StepDef.name := by
  intro rest st tr out h
  induction h with
  | nil => simp
  | next head tail ih =>
      intro hsub e he
      rcases List.mem_append.mp he with he | he
      · exact head.concerns_mem (hsub _ List.mem_cons_self) e he
      · exact ih (fun s hs => hsub s (List.mem_cons_of_mem _ hs)) e he
  | stop head =>
      intro hsub
      exact head.concerns_mem (hsub _ List.mem_cons_self)
  | raised head =>
      intro hsub
      exact head.concerns_mem (hsub _ List.mem_cons_self)

end Report

/-- **Every complete run has a report for every step**, and no events of anything else. -/
theorem runPipeline_report {rt : Runtime} {sorter : Sorter} (hsound : sorter.Sound)
    {steps : List StepDef} {existing : Option ExistingProgress} {tr : Trace}
    {out : Except ExecuteError ExecState}
    (h : (runPipeline rt sorter steps existing).Runs tr out) :
    (∀ s ∈ steps, Report rt ((resumeStatuses existing).get? s.name) s (eventsOf s.name tr))
      ∧ ∀ e ∈ tr, ∃ s ∈ steps, concerns e = s.name := by
  rcases runPipeline_visit_or_passed hsound h with ⟨e, -, rfl, -⟩ | ⟨ordered, -, hv, hloop, hall⟩
  · exact ⟨fun s _ => .nothing, by simp⟩
  · refine ⟨?_, ?_⟩
    · intro s hs
      rcases hall s hs with hvisit | hpassed
      · obtain ⟨done, rest, st, before, own, after, exit, hsplit, hh, rfl, run, tail, hbefore,
          hafter⟩ := hvisit
        rw [eventsOf_visited (hv.fresh hsplit) hbefore hafter]
        exact run.report hv hsplit hh
      · exact hpassed.report _
    · intro e he
      obtain ⟨s, hs, hname⟩ := List.mem_map.mp (hloop.concerns_mem (fun s hs => hs) e he)
      exact ⟨s, hv.mem_steps hs, hname.symm⟩

theorem execute_report {rt : Runtime} {sorter : Sorter} (hsound : sorter.Sound)
    {pipeline : PipelineDef} {existing : Option ExistingProgress} {tr : Trace}
    {out : Except ExecuteError PipelineResult}
    (h : (execute rt sorter pipeline existing).Runs tr out) :
    (∀ s ∈ pipeline.steps,
        Report rt ((resumeStatuses existing).get? s.name) s (eventsOf s.name tr))
      ∧ ∀ e ∈ tr, ∃ s ∈ pipeline.steps, concerns e = s.name := by
  rcases runs_execute h with ⟨-, rfl⟩ | ⟨out', hrun, -⟩
  · exact ⟨fun s _ => .nothing, by simp⟩
  · exact runPipeline_report hsound hrun

/-! ## §3. What a report says. -/

/-- The statuses `execute` sends. -/
def sentStatusList : List StepStatus := [.completed, .failed, .skipped, .suspended]

theorem Finish.status_mem {rt : Runtime} {attempts : Trace} {site : PersistSite}
    {status : StepStatus} {rd : Option Payload} {err : Option Value}
    (h : Finish rt attempts site status rd err) : status ∈ sentStatusList := by
  cases h <;> decide

section Reading

variable {rt : Runtime} {prev : Option StepInfo} {step : StepDef} {events : Trace}

/-- A step that is resumed, or is not fresh, makes no dispatch: at most the abort speaks of it. -/
theorem Report.of_resumable (h : Report rt prev step events) (hres : Resumable prev) :
    events = [] ∨ events = [persistEvent rt .aborted step.name .skipped none none] := by
  cases h with
  | nothing => exact .inl rfl
  | aborted => exact .inr rfl
  | whenSkipped hnew => exact absurd hres hnew
  | ran hnew isAttempt finish => exact absurd hres hnew

/-- A step that is dispatched was not resumable, and nothing was sent about it before. -/
theorem Report.before_dispatch {before after : Trace} {e : ExecEvent}
    (h : Report rt prev step (before ++ e :: after)) (he : (dispatchedStep e).isSome) :
    ¬ Resumable prev ∧ ∀ e' ∈ before, persistedUpdate e' = none := by
  have single : ∀ {site status rd err}, before ++ e :: after
      ≠ [persistEvent rt site step.name status rd err] := by
    intro site status rd err heq
    have hmem : e ∈ [persistEvent rt site step.name status rd err] := by
      rw [← heq]
      simp
    rw [List.mem_singleton.mp hmem] at he
    cases he
  generalize hevents : before ++ e :: after = events at h
  cases h with
  | nothing => simp at hevents
  | aborted => exact absurd hevents single
  | whenSkipped hnew => exact absurd hevents single
  | @ran attempts st site status rd err hnew isAttempt finish =>
      refine ⟨hnew, ?_⟩
      -- the dispatch is not the last event, so what precedes it are attempts
      rcases List.append_eq_append_iff.mp hevents with ⟨mid, hatt, hrest⟩ | ⟨mid, hbefore, hrest⟩
      · intro e' he'
        exact (isAttempt e' (by rw [hatt]; exact List.mem_append_left _ he')).persistedUpdate_eq
      · exfalso
        have hmem : e ∈ [persistEvent rt site step.name status rd err] := by
          rw [hrest]
          simp
        rw [List.mem_singleton.mp hmem] at he
        cases he

/-- An update of a report carries the run's session and pipeline and a sent status. -/
theorem Report.update (h : Report rt prev step events) {e : ExecEvent} (he : e ∈ events)
    {site : PersistSite} {u : ProgressUpdate} (hu : persistedUpdate e = some (site, u)) :
    ∃ status rd err, u = progressUpdate rt step.name status rd err ∧ status ∈ sentStatusList := by
  have one : ∀ {site' status rd err}, status ∈ sentStatusList →
      e = persistEvent rt site' step.name status rd err →
      ∃ status rd err, u = progressUpdate rt step.name status rd err
        ∧ status ∈ sentStatusList := by
    intro site' status rd err hmem heq
    subst heq
    rw [persistedUpdate_persistEvent, Option.some.injEq, Prod.mk.injEq] at hu
    exact ⟨status, rd, err, hu.2.symm, hmem⟩
  cases h with
  | nothing => cases he
  | aborted => exact one (by decide) (List.mem_singleton.mp he)
  | whenSkipped hnew => exact one (by decide) (List.mem_singleton.mp he)
  | ran hnew isAttempt finish =>
      rcases List.mem_append.mp he with he | he
      · obtain ⟨attempt, outcome, rfl⟩ := isAttempt e he
        cases hu
      · exact one finish.status_mem (List.mem_singleton.mp he)

end Reading

/-! ## §4. Runs that return `completed`. -/

section Completed

variable {rt : Runtime} {steps ordered : List StepDef} {resume : Dict String StepInfo}

theorem abortState_failed :
    ∀ (l : List StepDef) (st : ExecState), (abortState l st).failed = st.failed
  | [], _ => rfl
  | remaining :: rest, st => by
      unfold abortState
      split
      next => exact abortState_failed rest st
      next =>
        rw [abortState_failed rest _, mark_failed]
        simp

theorem AttemptRun.failed_eq {step : StepDef} {st st' : ExecState} {attempts : Trace}
    {out : Except String Payload} (h : AttemptRun step st attempts out st') :
    st'.failed = st.failed := by
  rw [h.frame]

/-- The count of failed steps never goes down. -/
theorem StepRun.failed_le_next {step : StepDef} {st st' : ExecState} {tr : Trace}
    (h : StepRun rt steps ordered resume step st tr (.next st')) : st.failed ≤ st'.failed := by
  cases h with
  | resumed h =>
      obtain ⟨prev, -, hexit⟩ := Option.bind_eq_some_iff.mp h
      rcases resumeStep_next hexit with ⟨-, -, hfailed⟩ | ⟨-, -, hfailed⟩
      · exact Nat.le_of_eq hfailed.symm
      · exact Nat.le_of_eq hfailed.symm
  | blocked hnew h => exact Nat.le_refl _
  | skipWhen hnew h => exact Nat.le_refl _
  | handlerSkipped hnew hup hskip run hstatus => exact Nat.le_of_eq run.failed_eq.symm
  | completed hnew hup hskip run hstatus => exact Nat.le_of_eq run.failed_eq.symm
  | failedOptional hnew hup hskip fail hopt =>
      obtain ⟨⟨out, run⟩, -⟩ := fail.attemptRun
      rw [mark_failed, run.failed_eq]
      omega

theorem StepRun.failed_le_stop {step : StepDef} {st st' : ExecState} {tr : Trace}
    (h : StepRun rt steps ordered resume step st tr (.stop st')) : st.failed ≤ st'.failed := by
  cases h with
  | resumed h =>
      obtain ⟨prev, -, hexit⟩ := Option.bind_eq_some_iff.mp h
      obtain ⟨hsus, -⟩ := resumeStep_stop hexit
      simp only [resumeStep, hsus, Option.some.injEq, StepExit.stop.injEq] at hexit
      subst hexit
      exact Nat.le_refl _
  | suspended hnew hup hskip run hstatus => exact Nat.le_of_eq run.failed_eq.symm
  | @failedRequired attempts site cause info st₁ hnew hup hskip fail hopt =>
      obtain ⟨⟨out, run⟩, -⟩ := fail.attemptRun
      rw [abortState_failed]
      show st.failed ≤ (st₁.mark step.name .failed info).failed
      rw [mark_failed, run.failed_eq]
      omega

theorem LoopRun.failed_le :
    ∀ {rest : List StepDef} {st : ExecState} {tr : Trace} {out : Except ExecuteError ExecState},
      LoopRun rt steps ordered resume rest st tr out →
      ∀ final, out = .ok final → st.failed ≤ final.failed := by
  intro rest st tr out h
  induction h with
  | nil =>
      intro final hout
      injection hout with hout
      subst hout
      exact Nat.le_refl _
  | next head tail ih =>
      intro final hout
      exact Nat.le_trans head.failed_le_next (ih final hout)
  | stop head =>
      intro final hout
      injection hout with hout
      subst hout
      exact head.failed_le_stop
  | raised head =>
      intro final hout
      cases hout

/-- The report of a step in a run that returns `completed`. -/
inductive DoneReport (rt : Runtime) (prev : Option StepInfo) (step : StepDef) : Trace → Prop where
  | resumed (h : prev.bind StepInfo.resumeStatus = some .completed
      ∨ prev.bind StepInfo.resumeStatus = some .skipped) : DoneReport rt prev step []
  | whenSkipped :
      DoneReport rt prev step [persistEvent rt .skipWhen step.name .skipped none none]
  | ran {attempts st site status rd err} (isAttempt : ∀ e ∈ attempts, IsAttempt step st e)
      (finish : Finish rt attempts site status rd err)
      (hstatus : status = .completed ∨ status = .skipped) :
      DoneReport rt prev step (attempts ++ [persistEvent rt site step.name status rd err])

/-- What `completed` says of the final state. -/
theorem terminalStatus_completed {final : ExecState} (h : terminalStatus final = .completed) :
    final.pipelineSuspended = false ∧ final.errorMessage = none ∧ final.failed = 0 := by
  unfold terminalStatus at h
  split at h
  next => cases h
  next hsus =>
    split at h
    next => cases h
    next herr =>
      split at h
      next => cases h
      next hfailed =>
        refine ⟨Bool.eq_false_iff.mpr hsus, ?_, by omega⟩
        simpa using herr

/-- The loop came to the step, and in the end nothing is suspended, aborted or failed. -/
theorem Visit.doneReport (hv : ValidOrder steps ordered) {s : StepDef} {tr : Trace}
    {final : ExecState} (hvisit : Visit rt steps ordered resume s tr (.ok final))
    (hsus : final.pipelineSuspended = false) (herr : final.errorMessage = none)
    (hfailed : final.failed = 0) :
    DoneReport rt (resume.get? s.name) s (eventsOf s.name tr) := by
  obtain ⟨done, rest, st, before, own, after, exit, hsplit, hh, rfl, run, tail, hbefore, hafter⟩
    := hvisit
  rw [eventsOf_visited (hv.fresh hsplit) hbefore hafter]
  cases run with
  | @resumed exit hres =>
      obtain ⟨prev, hprev, hexit⟩ := Option.bind_eq_some_iff.mp hres
      cases exit with
      | next st' =>
          rw [hprev]
          rcases resumeStep_next hexit with ⟨hc, -⟩ | ⟨hc, -⟩
          · exact .resumed (.inl hc)
          · exact .resumed (.inr hc)
      | stop st' =>
          obtain ⟨-, hout⟩ := tail
          injection hout with hout
          subst hout
          rw [(resumeStep_stop hexit).2] at hsus
          cases hsus
      | raised e =>
          obtain ⟨-, hout⟩ := tail
          cases hout
  | blocked hnew hup =>
      rw [hh.not_blocked hv hsplit] at hup
      cases hup
  | crashed hnew hskip =>
      obtain ⟨-, hout⟩ := tail
      cases hout
  | skipWhen hnew hskip =>
      rw [eventsOf_eq_self (by simp)]
      exact .whenSkipped
  | handlerSkipped hnew hup hskip run hstatus =>
      rw [eventsOf_own run.attempts rfl]
      exact .ran run.attempts (.handlerSkipped run.outcome hstatus) (.inr rfl)
  | suspended hnew hup hskip run hstatus =>
      obtain ⟨-, hout⟩ := tail
      injection hout with hout
      subst hout
      cases hsus
  | completed hnew hup hskip run hstatus =>
      rw [eventsOf_own run.attempts rfl]
      exact .ran run.attempts (.completed run.outcome hstatus) (.inl rfl)
  | failedOptional hnew hup hskip fail hopt =>
      -- one failed step is counted until the end
      have hle := LoopRun.failed_le tail final rfl
      rw [mark_failed, if_pos rfl] at hle
      omega
  | failedRequired hnew hup hskip fail hopt =>
      obtain ⟨-, hout⟩ := tail
      injection hout with hout
      subst hout
      rw [(abortState_errorMessage _ _).1] at herr
      cases herr

/-- **A run that returns `completed` is done with every step.** -/
theorem runPipeline_done {sorter : Sorter} (hsound : sorter.Sound)
    {existing : Option ExistingProgress} {tr : Trace} {final : ExecState}
    (h : (runPipeline rt sorter steps existing).Runs tr (.ok final))
    (hstatus : terminalStatus final = .completed) :
    ∀ s ∈ steps, DoneReport rt ((resumeStatuses existing).get? s.name) s (eventsOf s.name tr) := by
  obtain ⟨hsus, herr, hfailed⟩ := terminalStatus_completed hstatus
  intro s hs
  rcases runPipeline_visit_or_passed hsound h with ⟨e, -, -, hout⟩ | ⟨ordered, -, hv, hloop, hall⟩
  · cases hout
  · rcases hall s hs with hvisit | hpassed
    · exact hvisit.doneReport hv hsus herr hfailed
    · -- a loop that left before the step did not return `completed`
      exfalso
      cases hpassed with
      | aborted events herr' =>
          rw [herr] at herr'
          cases herr'
      | halted events hsus' =>
          rw [hsus] at hsus'
          cases hsus'

end Completed

end CmlCloudManager.Pipeline
