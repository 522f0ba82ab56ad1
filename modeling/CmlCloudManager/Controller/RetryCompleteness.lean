/-
  CmlCloudManager.Controller.RetryCompleteness
  ────────────────────────────────────────────
  **WHAT A COMPLETED RETRY HAS DONE.**

  A pipeline is retried: each run of `execute` starts from the progress the runs
  before it persisted.  A step is DONE in a run when it was dispatched and
  returned successfully, or its `skip_when` held, or its handler reported that it
  skipped.  A run that aborts also persists `skipped`, for every step it did not
  reach, and a later run cannot tell this `skipped` from the others.

  `retry_complete_iff`: when the last run returns `completed`, every step was
  done in some run exactly when no abort passed over a step that was not done
  before.
-/
import CmlCloudManager.ControlPlane.PersistedRuns

namespace CmlCloudManager.Controller

open CmlCloudManager.Foundation
open CmlCloudManager.Pipeline
open CmlCloudManager.ControlPlane

/-! ## §1. What happened to a step in a run. -/

/-- Some dispatch of the step returned a result that counts as this status. -/
def Returned (status : HandlerStatus) (name : String) (tr : Trace) : Prop :=
  ∃ e ∈ tr, dispatchedStep e = some name
    ∧ ∃ result, dispatchResult e = some result ∧ handlerStatus result = status

/-- An update for the step was sent from this branch of `execute`. -/
def SentFrom (site : PersistSite) (name : String) (tr : Trace) : Prop :=
  ∃ update, (site, update) ∈ updatesOf name tr

/-- **The step was done in this run**: it returned successfully, its `skip_when`
held, or its handler reported `skipped`. -/
def DoneIn (name : String) (tr : Trace) : Prop :=
  Returned .completed name tr ∨ SentFrom .skipWhen name tr ∨ Returned .skipped name tr

/-- The step was passed over because the run aborted. -/
def AbortedIn (name : String) (tr : Trace) : Prop := SentFrom .aborted name tr

/-- Only the events of the step matter. -/
theorem returned_iff (status : HandlerStatus) (name : String) (tr : Trace) :
    Returned status name tr ↔ ∃ e ∈ eventsOf name tr, ∃ result,
      dispatchResult e = some result ∧ handlerStatus result = status := by
  constructor
  · intro h
    obtain ⟨e, he, hname, result, hres, hstatus⟩ := h
    exact ⟨e, mem_eventsOf.mpr ⟨he, concerns_of_dispatchedStep hname⟩, result, hres, hstatus⟩
  · intro h
    obtain ⟨e, he, result, hres, hstatus⟩ := h
    obtain ⟨he, hname⟩ := mem_eventsOf.mp he
    refine ⟨e, he, ?_, result, hres, hstatus⟩
    obtain ⟨e, r⟩ := e
    cases e with
    | dispatch request => exact congrArg some hname
    | persist site update => cases hres

/-- Attempts that ended in a result returned it. -/
theorem returned_of_outcome {name : String} {attempts tail tr : Trace} {result : Payload}
    (hev : eventsOf name tr = attempts ++ tail) (hout : AttemptOutcome attempts (.ok result)) :
    Returned (handlerStatus result) name tr := by
  obtain ⟨before, ev, rfl, hres, -⟩ := hout
  rw [returned_iff, hev]
  exact ⟨ev, by simp, result, hres, rfl⟩

/-- A step with no event, or a single update, returned nothing. -/
theorem not_returned_of_update {status : HandlerStatus} {name : String} {tr : Trace}
    (hev : ∀ e ∈ eventsOf name tr, dispatchResult e = none) : ¬ Returned status name tr := by
  rw [returned_iff]
  intro h
  obtain ⟨e, he, result, hres, -⟩ := h
  rw [hev e he] at hres
  cases hres

/-- Without a result and without a `skip_when` update the step was not done. -/
theorem not_doneIn {name : String} {tr : Trace} (hret : ∀ status, ¬ Returned status name tr)
    (hsent : ¬ SentFrom .skipWhen name tr) : ¬ DoneIn name tr := by
  rintro (h | h | h)
  · exact hret _ h
  · exact hsent h
  · exact hret _ h

section Reading

variable {rt : Runtime} {prev : Option StepInfo} {step : StepDef} {tr : Trace}

/-- The updates of a step whose only event is an update. -/
theorem updatesOf_single {site : PersistSite} {status : StepStatus}
    (hev : eventsOf step.name tr = [persistEvent rt site step.name status none none]) :
    updatesOf step.name tr = [(site, progressUpdate rt step.name status none none)] := by
  rw [updatesOf, hev]
  rfl

theorem sentFrom_single {site : PersistSite} {status : StepStatus}
    (hev : eventsOf step.name tr = [persistEvent rt site step.name status none none]) :
    SentFrom site step.name tr := by
  refine ⟨progressUpdate rt step.name status none none, ?_⟩
  rw [updatesOf_single hev]
  exact List.mem_singleton_self _

theorem skipped_sent : StepStatus.skipped ∈ sentStatusList := by decide

/-- The updates of a step that ran. -/
theorem updatesOf_ran {attempts : Trace} {st : ExecState} {site : PersistSite}
    {status : StepStatus} {rd : Option Payload} {err : Option Value}
    (hatt : ∀ e ∈ attempts, IsAttempt step st e)
    (hev : eventsOf step.name tr
      = attempts ++ [persistEvent rt site step.name status rd err]) :
    updatesOf step.name tr = [(site, progressUpdate rt step.name status rd err)] := by
  have hnone : attempts.filterMap persistedUpdate = [] := by
    rw [List.filterMap_eq_nil_iff]
    intro e he
    exact IsAttempt.persistedUpdate_eq (hatt e he)
  rw [updatesOf, hev, List.filterMap_append, hnone]
  rfl

/-- **An abort is the only event of the step it passes over.** -/
theorem aborted_of_report {events : Trace} (h : Report rt prev step events)
    (hev : eventsOf step.name tr = events) (habort : AbortedIn step.name tr) :
    ¬ DoneIn step.name tr
      ∧ ∀ p : Progress, (applyTrace p tr).status? step.name = some .skipped := by
  obtain ⟨u, hu⟩ := habort
  cases h with
  | nothing =>
      rw [updatesOf, hev] at hu
      cases hu
  | aborted =>
      have hupd := updatesOf_single hev
      refine ⟨not_doneIn (fun status => not_returned_of_update (by rw [hev]; simp)) ?_,
        fun p => applyTrace_status?_single hupd skipped_sent⟩
      rintro ⟨u', h⟩
      -- the one update there is comes from the abort
      rw [hupd, List.mem_singleton, Prod.mk.injEq] at h
      cases h.1
  | whenSkipped hnew =>
      rw [updatesOf_single hev, List.mem_singleton, Prod.mk.injEq] at hu
      cases hu.1
  | ran hnew isAttempt finish =>
      -- a step that ran sends its one update from another branch
      rw [updatesOf_ran isAttempt hev, List.mem_singleton, Prod.mk.injEq] at hu
      obtain ⟨rfl, -⟩ := hu
      cases finish with
      | failed hsite => rcases hsite with h | h <;> cases h

/-- A step that is stored completed, skipped or suspended is not done again, and stays
as it is unless an abort overwrites it. -/
theorem resumed_of_report {events : Trace} (h : Report rt prev step events)
    (hev : eventsOf step.name tr = events) (hres : Resumable prev) :
    ¬ DoneIn step.name tr
      ∧ ∀ p : Progress, (applyTrace p tr).status? step.name = p.status? step.name
        ∨ (applyTrace p tr).status? step.name = some .skipped := by
  rcases h.of_resumable hres with rfl | rfl
  · have hupd : updatesOf step.name tr = [] := by
      rw [updatesOf, hev]
      rfl
    refine ⟨not_doneIn (fun status => not_returned_of_update (by rw [hev]; simp)) ?_,
      fun p => .inl (applyTrace_status?_nil hupd)⟩
    rintro ⟨u', h⟩
    rw [hupd] at h
    cases h
  · have habort : AbortedIn step.name tr := sentFrom_single hev
    obtain ⟨hno, hst⟩ := aborted_of_report h hev habort
    exact ⟨hno, fun p => .inr (hst p)⟩

/-- **Where a stored `completed` or `skipped` comes from**: an earlier run, this run,
or an abort of this run. -/
theorem stored_of_report {events : Trace} (h : Report rt prev step events)
    (hev : eventsOf step.name tr = events) (p : Progress)
    (hst : (applyTrace p tr).status? step.name = some .completed
      ∨ (applyTrace p tr).status? step.name = some .skipped) :
    (p.status? step.name = some .completed ∨ p.status? step.name = some .skipped)
      ∨ DoneIn step.name tr ∨ AbortedIn step.name tr := by
  cases h with
  | nothing =>
      have hupd : updatesOf step.name tr = [] := by
        rw [updatesOf, hev]
        rfl
      rw [applyTrace_status?_nil hupd] at hst
      exact .inl hst
  | aborted => exact .inr (.inr (sentFrom_single hev))
  | whenSkipped hnew =>
      exact .inr (.inl (.inr (.inl (sentFrom_single hev))))
  | ran hnew isAttempt finish =>
      have hupd := updatesOf_ran isAttempt hev
      have hsent := applyTrace_status?_single (p := p) hupd finish.status_mem
      refine .inr (.inl ?_)
      cases finish with
      | completed returned hstatus =>
          exact .inl (hstatus ▸ returned_of_outcome hev returned)
      | handlerSkipped returned hstatus =>
          exact .inr (.inr (hstatus ▸ returned_of_outcome hev returned))
      | suspended returned hstatus =>
          rw [hsent] at hst
          rcases hst with h | h <;> cases h
      | failed hsite =>
          rw [hsent] at hst
          rcases hst with h | h <;> cases h

/-- In a run that returns `completed` every step is done, or was found done. -/
theorem done_of_doneReport {events : Trace} (h : DoneReport rt prev step events)
    (hev : eventsOf step.name tr = events) :
    (prev.bind StepInfo.resumeStatus = some .completed
        ∨ prev.bind StepInfo.resumeStatus = some .skipped) ∨ DoneIn step.name tr := by
  cases h with
  | resumed h => exact .inl h
  | whenSkipped => exact .inr (.inr (.inl (sentFrom_single hev)))
  | ran isAttempt finish hdone =>
      cases finish with
      | completed returned hstatus =>
          exact .inr (.inl (hstatus ▸ returned_of_outcome hev returned))
      | handlerSkipped returned hstatus =>
          exact .inr (.inr (.inr (hstatus ▸ returned_of_outcome hev returned)))
      | suspended returned hstatus => rcases hdone with h | h <;> cases h
      | failed hsite => rcases hdone with h | h <;> cases h

end Reading

/-! ## §2. Sequences of runs. -/

/-- One run of `execute`: its context and libraries, the sorter of its process, the
calls it made and what it returned. -/
structure RunRecord where
  rt : Runtime
  sorter : Sorter
  tr : Trace
  out : Except ExecuteError PipelineResult

/-- The record is a run of the pipeline for this session, resumed from what is stored. -/
structure IsRun (pipeline : PipelineDef) (sid pl : String) (repo : SessionRepository)
    (r : RunRecord) : Prop where
  sound : r.sorter.Sound
  session : r.rt.context.sessionId = sid
  named : r.rt.pipelineName = some pl
  runs : (execute r.rt r.sorter pipeline (existingProgress repo sid pl)).Runs r.tr r.out

/-- **A sequence of runs**, each starting from the progress the earlier ones persisted. -/
inductive RunSequence (pipeline : PipelineDef) (sid pl : String) (start : SessionRepository) :
    List RunRecord → SessionRepository → Prop where
  | nil : RunSequence pipeline sid pl start [] start
  | snoc {runs repo r} (before : RunSequence pipeline sid pl start runs repo)
      (run : IsRun pipeline sid pl repo r) :
      RunSequence pipeline sid pl start (runs ++ [r]) (persistTrace repo r.tr)

section Sequence

variable {pipeline : PipelineDef} {sid pl : String} {start repo : SessionRepository}
  {runs : List RunRecord}

/-- A run acts on the stored progress by its updates. -/
theorem IsRun.progressOf_persist (hpl : pl ∈ validPipelineNames) {r : RunRecord}
    (run : IsRun pipeline sid pl repo r) (hs : (repo.get? sid).isSome) :
    progressOf (persistTrace repo r.tr) sid pl = applyTrace (progressOf repo sid pl) r.tr
      ∧ ((persistTrace repo r.tr).get? sid).isSome := by
  obtain ⟨hreport, hmem⟩ := execute_report run.sound run.runs
  exact progressOf_persistTrace hpl r.tr repo
    (sentTo_of_report run.session run.named (ne_empty_of_valid hpl) hreport hmem) hs

theorem RunSequence.session_isSome (hpl : pl ∈ validPipelineNames)
    (hs : (start.get? sid).isSome) (h : RunSequence pipeline sid pl start runs repo) :
    (repo.get? sid).isSome := by
  induction h with
  | nil => exact hs
  | snoc before run ih => exact (run.progressOf_persist hpl ih).2

/-- No abort passed over a step that was not done in an earlier run. -/
def AbortsOnlyDone (pipeline : PipelineDef) (runs : List RunRecord) : Prop :=
  ∀ before r after, runs = before ++ r :: after → ∀ s ∈ pipeline.steps,
    AbortedIn s.name r.tr → ∃ r' ∈ before, DoneIn s.name r'.tr

/-- Every step was done in some run. -/
def EveryStepDone (pipeline : PipelineDef) (runs : List RunRecord) : Prop :=
  ∀ s ∈ pipeline.steps, ∃ r ∈ runs, DoneIn s.name r.tr

theorem AbortsOnlyDone.init {r : RunRecord} (h : AbortsOnlyDone pipeline (runs ++ [r])) :
    AbortsOnlyDone pipeline runs := by
  intro before r' after hsplit s hs habort
  refine h before r' (after ++ [r]) ?_ s hs habort
  rw [hsplit]
  simp

/-- **What is stored as completed or skipped was done**, as long as no abort passed
over a step that was not. -/
theorem RunSequence.stored_done (hpl : pl ∈ validPipelineNames) (hs : (start.get? sid).isSome)
    (hfresh : progressOf start sid pl = Dict.empty)
    (h : RunSequence pipeline sid pl start runs repo) (hcond : AbortsOnlyDone pipeline runs) :
    ∀ s ∈ pipeline.steps, (progressOf repo sid pl).status? s.name = some .completed
        ∨ (progressOf repo sid pl).status? s.name = some .skipped →
      ∃ r ∈ runs, DoneIn s.name r.tr := by
  induction h with
  | nil =>
      -- nothing is stored before the first run
      intro s _ hst
      rw [hfresh] at hst
      rcases hst with h | h <;> cases h
  | @snoc runs repo r before run ih =>
      intro s hmem hst
      rw [(run.progressOf_persist hpl (before.session_isSome hpl hs)).1] at hst
      obtain ⟨hreport, -⟩ := execute_report run.sound run.runs
      rcases stored_of_report (hreport s hmem) rfl _ hst with hold | hdone | habort
      · obtain ⟨r', hr', hd⟩ := ih hcond.init s hmem hold
        exact ⟨r', List.mem_append_left _ hr', hd⟩
      · exact ⟨r, by simp, hdone⟩
      · obtain ⟨r', hr', hd⟩ := hcond runs r [] rfl s hmem habort
        exact ⟨r', List.mem_append_left _ hr', hd⟩

/-- **A step that an abort passed over before it was done is never done**: it is stored
as skipped, and every later run takes it for that. -/
theorem RunSequence.never_done (hpl : pl ∈ validPipelineNames) (hs : (start.get? sid).isSome)
    (h : RunSequence pipeline sid pl start runs repo) {s : StepDef} (hmem : s ∈ pipeline.steps) :
    ∀ before r after, runs = before ++ r :: after → AbortedIn s.name r.tr →
      (∀ r' ∈ before, ¬ DoneIn s.name r'.tr) →
      (∀ r' ∈ runs, ¬ DoneIn s.name r'.tr)
        ∧ (progressOf repo sid pl).status? s.name = some .skipped := by
  induction h with
  | nil =>
      intro before r after hsplit
      simp at hsplit
  | @snoc runs repo r₁ hbefore run ih =>
      intro before r after hsplit habort hnone
      have hprog := (run.progressOf_persist hpl (hbefore.session_isSome hpl hs)).1
      obtain ⟨hreport, -⟩ := execute_report run.sound run.runs
      rcases List.eq_nil_or_concat after with rfl | ⟨after', r₂, rfl⟩
      · -- the abort is that of the last run
        obtain ⟨rfl, hlast⟩ := List.append_inj' hsplit rfl
        injection hlast with hlast
        subst hlast
        obtain ⟨hno, hst⟩ := aborted_of_report (hreport s hmem) rfl habort
        refine ⟨?_, by rw [hprog]; exact hst _⟩
        intro r' hr'
        rcases List.mem_append.mp hr' with hr' | hr'
        · exact hnone r' hr'
        · rw [List.mem_singleton.mp hr']
          exact hno
      · -- it is older: the last run finds the step stored as skipped
        rw [List.concat_eq_append, ← List.cons_append, ← List.append_assoc] at hsplit
        obtain ⟨hinit, hlast⟩ := List.append_inj' hsplit rfl
        injection hlast with hlast
        subst hlast
        obtain ⟨hold, hskipped⟩ := ih before r after' hinit habort hnone
        have hres : Resumable ((resumeStatuses (existingProgress repo sid pl)).get? s.name) :=
          (resumable_existing repo sid pl s.name).mpr (.inr (.inl hskipped))
        obtain ⟨hno, hst⟩ := resumed_of_report (hreport s hmem) rfl hres
        refine ⟨?_, ?_⟩
        · intro r' hr'
          rcases List.mem_append.mp hr' with hr' | hr'
          · exact hold r' hr'
          · rw [List.mem_singleton.mp hr']
            exact hno
        · rw [hprog]
          rcases hst (progressOf repo sid pl) with h | h
          · rw [h, hskipped]
          · exact h

end Sequence

/-- **Retry completeness.**  Let a sequence of runs, each resumed from the progress the
earlier ones persisted, end with a run that returns `completed`.  Every step was done
in some run IF AND ONLY IF no abort passed over a step that was not done in a run
before it. -/
theorem retry_complete_iff (pipeline : PipelineDef) (sid pl : String)
    (start repo : SessionRepository) (hpl : pl ∈ validPipelineNames)
    (hs : (start.get? sid).isSome) (hfresh : progressOf start sid pl = Dict.empty)
    (runs : List RunRecord) (h : RunSequence pipeline sid pl start runs repo)
    (last : RunRecord) (hlast : runs.getLast? = some last) (result : PipelineResult)
    (hout : last.out = .ok result) (hcompleted : result.status = .completed) :
    EveryStepDone pipeline runs ↔ AbortsOnlyDone pipeline runs := by
  constructor
  · -- a step that was passed over first is never done
    intro hdone before r after hsplit s hmem habort
    by_contra hnone
    have hnever := (h.never_done hpl hs hmem before r after hsplit habort
      (fun r' hr' hd => hnone ⟨r', hr', hd⟩)).1
    obtain ⟨r', hr', hd⟩ := hdone s hmem
    exact hnever r' hr' hd
  · intro hcond s hmem
    cases h with
    | nil => cases hlast
    | @snoc runs repo r before run =>
        rw [List.getLast?_concat] at hlast
        injection hlast with hlast
        subst hlast
        have hstored := before.stored_done hpl hs hfresh hcond.init
        rcases runs_execute run.runs with ⟨hnil, -⟩ | ⟨out', hrun, hmap⟩
        · -- an empty pipeline has no steps to do
          rw [hnil] at hmem
          cases hmem
        · -- the last run is done with every step, here or in an earlier run
          rw [hout] at hmap
          cases out' with
          | error e => cases hmap
          | ok final =>
              injection hmap with hmap
              have hterm : terminalStatus final = .completed := by
                rw [hmap] at hcompleted
                exact hcompleted
              have hreport := runPipeline_done run.sound hrun hterm s hmem
              rcases done_of_doneReport hreport rfl with hprev | hd
              · rw [resumeStatus_existing] at hprev
                obtain ⟨r', hr', hd⟩ := hstored s hmem hprev
                exact ⟨r', List.mem_append_left _ hr', hd⟩
              · exact ⟨r, by simp, hd⟩

/-! ## §3. A retry that skips what was never run. -/

/-- Two steps, the second needs the first. -/
def retryPipeline : PipelineDef :=
  { steps := [{ name := "import_lab" }, { name := "boot_lab", needs := ["import_lab"] }] }

/-- A run of `retryPipeline` from what is stored, with the outcome of each dispatch. -/
def retryRun (repo : SessionRepository) (outcome : DispatchRequest → DispatchOutcome) :
    RunRecord :=
  let rt : Runtime :=
    { context := { sessionId := "s1" }
      simpleEval := fun _ _ => .caught "SyntaxError"
      pipelineName := some "instantiate" }
  let ran := (execute rt staticOrder retryPipeline
    (existingProgress repo "s1" "instantiate")).runWith (answering outcome)
  { rt := rt, sorter := staticOrder, tr := ran.1, out := ran.2 }

theorem retryRun_isRun (repo : SessionRepository) (outcome : DispatchRequest → DispatchOutcome) :
    IsRun retryPipeline "s1" "instantiate" repo (retryRun repo outcome) :=
  ⟨staticOrder_sound, rfl, rfl, Resumption.runWith_runs _ _⟩

/-- The first run: every dispatch raises. -/
def failedRun : RunRecord := retryRun newSession fun _ => .raised "worker unreachable"

/-- The retry: every dispatch returns. -/
def secondRun : RunRecord :=
  retryRun (persistTrace newSession failedRun.tr) fun _ => .returned Dict.empty

theorem not_doneIn_of_calls {name : String} {tr : Trace}
    (hdis : name ∉ tr.filterMap dispatchedStep)
    (hsent : PersistSite.skipWhen ∉ (updatesOf name tr).map Prod.fst) : ¬ DoneIn name tr := by
  refine not_doneIn (fun status h => ?_) ?_
  · obtain ⟨e, he, hname, -⟩ := h
    exact hdis (List.mem_filterMap.mpr ⟨e, he, hname⟩)
  · rintro ⟨u, h⟩
    exact hsent (List.mem_map.mpr ⟨_, h, rfl⟩)

/-- **A completed retry that never ran a step**: the abort of the first run stores
`boot_lab` as skipped, the second run completes without dispatching it. -/
theorem completed_retry_skips_boot :
    RunSequence retryPipeline "s1" "instantiate" newSession [failedRun, secondRun]
        (persistTrace (persistTrace newSession failedRun.tr) secondRun.tr)
      ∧ failedRun.tr.filterMap dispatchedStep = ["import_lab"]
      ∧ secondRun.tr.filterMap dispatchedStep = ["import_lab"]
      ∧ secondRun.out.toOption.map PipelineResult.status = some .completed
      ∧ ¬ EveryStepDone retryPipeline [failedRun, secondRun] := by
  have hfirst : RunSequence retryPipeline "s1" "instantiate" newSession [failedRun]
      (persistTrace newSession failedRun.tr) := .snoc .nil (retryRun_isRun _ _)
  refine ⟨.snoc hfirst (retryRun_isRun _ _), by decide, by decide, by decide, ?_⟩
  intro h
  obtain ⟨r, hr, hd⟩ := h { name := "boot_lab", needs := ["import_lab"] } (by simp [retryPipeline])
  rcases List.mem_cons.mp hr with rfl | hr
  · exact not_doneIn_of_calls (by decide) (by decide) hd
  · rw [List.mem_singleton.mp hr] at hd
    exact not_doneIn_of_calls (by decide) (by decide) hd

/-- A first run that fails in its last step. -/
def bootFailedRun : RunRecord :=
  retryRun newSession fun request =>
    if request.stepName = "boot_lab" then .raised "worker unreachable" else .returned Dict.empty

/-- Its retry: every dispatch returns. -/
def bootRetriedRun : RunRecord :=
  retryRun (persistTrace newSession bootFailedRun.tr) fun _ => .returned Dict.empty

/-- Runs that abort nothing. -/
theorem abortsOnlyDone_of_none {pipeline : PipelineDef} {runs : List RunRecord}
    (h : ∀ r ∈ runs, ∀ s ∈ pipeline.steps,
      PersistSite.aborted ∉ (updatesOf s.name r.tr).map Prod.fst) :
    AbortsOnlyDone pipeline runs := by
  intro before r after hsplit s hmem habort
  obtain ⟨u, hu⟩ := habort
  have hr : r ∈ runs := by
    rw [hsplit]
    simp
  exact absurd (List.mem_map.mpr ⟨_, hu, rfl⟩) (h r hr s hmem)

/-- The retry takes up what the failing run left: between them every step was done. -/
theorem retry_complete_iff_retried :
    bootFailedRun.tr.filterMap dispatchedStep = ["import_lab", "boot_lab"]
      ∧ bootRetriedRun.tr.filterMap dispatchedStep = ["boot_lab"]
      ∧ EveryStepDone retryPipeline [bootFailedRun, bootRetriedRun] := by
  have hfirst : RunSequence retryPipeline "s1" "instantiate" newSession [bootFailedRun]
      (persistTrace newSession bootFailedRun.tr) := .snoc .nil (retryRun_isRun _ _)
  have hnone : ∀ r ∈ [bootFailedRun, bootRetriedRun], ∀ s ∈ retryPipeline.steps,
      PersistSite.aborted ∉ (updatesOf s.name r.tr).map Prod.fst := by decide
  refine ⟨by decide, by decide, ?_⟩
  exact (retry_complete_iff retryPipeline "s1" "instantiate" newSession _ (by decide) (by decide)
    rfl [bootFailedRun, bootRetriedRun] (.snoc hfirst (retryRun_isRun _ _)) bootRetriedRun rfl
    _ rfl rfl).mpr (abortsOnlyDone_of_none hnone)

end CmlCloudManager.Controller
