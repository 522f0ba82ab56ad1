/-
  CmlCloudManager.Controller.SuspensionUniqueness
  ───────────────────────────────────────────────
  **AT MOST ONE SUSPENDED STEP.**

  A run that meets a suspended step halts there again, and a run that suspends a
  step ends with that.  What comes BEFORE the suspended step in the order of the
  next run is another matter: a step that is neither completed nor skipped there
  is dispatched, and may suspend as well.

    • `suspension_last`   — in one run nothing follows a suspension,
    • `SuspendedFirst`    — the order of a run meets only finished steps before a
      suspended one,
    • `suspended_unique`  — under that condition, over any history of (cut) runs
      and callbacks, at most one step is suspended, and a run that starts then
      makes no call at all.
-/
import CmlCloudManager.ControlPlane.PersistedRuns
import CmlCloudManager.Pipeline.DispatchSafety

namespace CmlCloudManager.Controller

open CmlCloudManager.Foundation
open CmlCloudManager.Pipeline
open CmlCloudManager.ControlPlane

/-! ## §1. Nothing follows a suspension. -/

/-- The event suspends a step on the control plane. -/
def Suspends (e : ExecEvent) (name : String) : Prop :=
  ∃ site update, persistedUpdate e = some (site, update) ∧ update.stepStatus = .suspended
    ∧ update.stepName = name

section Run

variable {rt : Runtime} {steps ordered : List StepDef} {resume : Dict String StepInfo}

/-- The updates of an abort suspend nothing. -/
theorem abortTrace_not_suspends (l : List StepDef) (st : ExecState) :
    ∀ e ∈ abortTrace rt l st, ∀ name, ¬ Suspends e name := by
  refine abortTrace_forall rt ?_ l st
  intro name n h
  obtain ⟨site, u, hu, hst, -⟩ := h
  rw [persistedUpdate_persistEvent, Option.some.injEq, Prod.mk.injEq] at hu
  obtain ⟨-, rfl⟩ := hu
  cases hst

theorem IsAttempt.not_suspends {step : StepDef} {st : ExecState} {e : ExecEvent}
    (h : Pipeline.IsAttempt step st e) (name : String) : ¬ Suspends e name := by
  intro hs
  obtain ⟨site, u, hu, -⟩ := hs
  rw [IsAttempt.persistedUpdate_eq h] at hu
  cases hu

theorem UpdateSettles.not_suspends {e : ExecEvent} (h : UpdateSettles steps e) (name : String) :
    ¬ Suspends e name := by
  intro hs
  obtain ⟨site, u, hu, hst, -⟩ := hs
  exact (h site u hu).1 hst

/-- No event of the past suspends a step. -/
def NotYetSuspended (past : Trace) (_ : ExecEvent) : Prop :=
  ∀ e ∈ past, ∀ name, ¬ Suspends e name

/-- A trace whose events suspend nothing leaves the past clean. -/
theorem along_of_not_suspends {past tr : Trace} (hpast : ∀ e ∈ past, ∀ name, ¬ Suspends e name)
    (htr : ∀ e ∈ tr, ∀ name, ¬ Suspends e name) : Along NotYetSuspended past tr := by
  refine along_of_forall tr past htr ?_
  intro more ev hmore _ e he
  rcases List.mem_append.mp he with he | he
  · exact hpast e he
  · exact hmore e he

/-- An iteration that leaves the loop suspends with its last event, if it does. -/
theorem StepRun.not_yet_suspended {step : StepDef} {st st' : ExecState} {past tr : Trace}
    (hpast : ∀ e ∈ past, ∀ name, ¬ Suspends e name)
    (h : StepRun rt steps ordered resume step st tr (.stop st')) :
    Along NotYetSuspended past tr := by
  cases h with
  | resumed h => trivial
  | suspended hnew hup hskip run hstatus =>
      have hatt := fun e he => IsAttempt.not_suspends (run.attempts e he)
      rw [along_append]
      refine ⟨along_of_not_suspends hpast hatt, ?_, trivial⟩
      -- the marker comes after the attempts
      intro e he
      rcases List.mem_append.mp he with he | he
      · exact hpast e he
      · exact hatt e he
  | @failedRequired attempts site cause info st₁ hnew hup hskip fail hopt =>
      obtain ⟨⟨out, run⟩, -⟩ := fail.attemptRun
      refine along_of_not_suspends hpast ?_
      intro e he name hsus
      rcases List.mem_append.mp he with he | he
      · exact IsAttempt.not_suspends (run.attempts e he) name hsus
      · rcases List.mem_cons.mp he with rfl | he
        · obtain ⟨site', u, hu, hst, -⟩ := hsus
          rw [persistedUpdate_persistEvent, Option.some.injEq, Prod.mk.injEq] at hu
          obtain ⟨-, rfl⟩ := hu
          cases hst
        · exact abortTrace_not_suspends _ _ e he name hsus

/-- **In one run nothing follows a suspension.** -/
theorem LoopRun.not_yet_suspended (hv : ValidOrder steps ordered) :
    ∀ {rest : List StepDef} {st : ExecState} {tr : Trace} {out : Except ExecuteError ExecState},
      LoopRun rt steps ordered resume rest st tr out → (∀ s ∈ rest, s ∈ ordered) →
      ∀ past : Trace, (∀ e ∈ past, ∀ name, ¬ Suspends e name) → Along NotYetSuspended past tr := by
  intro rest st tr out h
  induction h with
  | nil =>
      intro _ past _
      trivial
  | @next step rest st tr st' tr' out head tail ih =>
      intro hsub past hpast
      have hclean : ∀ e ∈ tr, ∀ name, ¬ Suspends e name := fun e he =>
        UpdateSettles.not_suspends (head.updateSettles hv (hsub step List.mem_cons_self) e he)
      rw [along_append]
      refine ⟨along_of_not_suspends hpast hclean, ?_⟩
      refine ih (fun s hs => hsub s (List.mem_cons_of_mem _ hs)) (past ++ tr) ?_
      intro e he
      rcases List.mem_append.mp he with he | he
      · exact hpast e he
      · exact hclean e he
  | stop head =>
      intro _ past hpast
      exact StepRun.not_yet_suspended hpast head
  | @raised step rest st tr e' head =>
      intro _ past _
      cases head with
      | resumed h =>
          obtain ⟨prev, -, hexit⟩ := Option.bind_eq_some_iff.mp h
          exact absurd hexit resumeStep_raised
      | crashed hnew h => trivial

end Run

/-- A run suspends at most one step. -/
theorem along_suspends_unique {tr : Trace} (h : Along NotYetSuspended [] tr) {e e' : ExecEvent}
    {n n' : String} (he : e ∈ tr) (he' : e' ∈ tr) (hs : Suspends e n) (hs' : Suspends e' n') :
    n = n' := by
  rw [along_iff] at h
  obtain ⟨past, after, rfl⟩ := List.append_of_mem he
  rcases List.mem_append.mp he' with hin | hin
  · exact absurd hs' (h past e after rfl e' (by simpa using hin) n')
  · rcases List.mem_cons.mp hin with rfl | hin
    · obtain ⟨site, u, hu, -, hname⟩ := hs
      obtain ⟨site', u', hu', -, hname'⟩ := hs'
      rw [hu] at hu'
      injection hu' with hu'
      injection hu' with _ hu'
      rw [← hname, ← hname', hu']
    · obtain ⟨more, tail, rfl⟩ := List.append_of_mem hin
      have hpast := h (past ++ e :: more) e' tail (by simp) e (by simp) n
      exact absurd hs hpast

/-! ## §2. Runs that start while a step is suspended. -/

/-- In this order only finished steps stand before a suspended one. -/
def SuspendedFirst (pipeline : PipelineDef) (sorter : Sorter) (progress : Progress) : Prop :=
  ∀ ordered, resolveDag sorter pipeline.steps = .ok ordered →
    ∀ done s rest, ordered = done ++ s :: rest → progress.status? s.name = some .suspended →
      ∀ t ∈ done, progress.status? t.name = some .completed
        ∨ progress.status? t.name = some .skipped

section Halt

variable {rt : Runtime} {steps ordered : List StepDef} {resume : Dict String StepInfo}

/-- A resumable step is resumed: no call, and the loop goes on or halts with it. -/
theorem StepRun.of_resumable {step : StepDef} {st : ExecState} {tr : Trace} {exit : StepExit}
    (h : StepRun rt steps ordered resume step st tr exit)
    (hres : Resumable (resume.get? step.name)) :
    tr = [] ∧ ((resume.get? step.name).bind StepInfo.resumeStatus = some .suspended →
      ∃ st', exit = .stop st') := by
  have fresh : (resume.get? step.name).bind (resumeStep step st) = none → False :=
    fun hnew => not_resumable hnew hres
  cases h with
  | resumed h =>
      refine ⟨rfl, fun hsus => ?_⟩
      obtain ⟨prev, hprev, hexit⟩ := Option.bind_eq_some_iff.mp h
      rw [hprev, Option.bind_some] at hsus
      rw [resumeStep, hsus] at hexit
      injection hexit with hexit
      exact ⟨_, hexit.symm⟩
  | blocked hnew h => exact (fresh hnew).elim
  | crashed hnew h => exact (fresh hnew).elim
  | skipWhen hnew h => exact (fresh hnew).elim
  | handlerSkipped hnew hup hskip run hstatus => exact (fresh hnew).elim
  | suspended hnew hup hskip run hstatus => exact (fresh hnew).elim
  | completed hnew hup hskip run hstatus => exact (fresh hnew).elim
  | failedOptional hnew hup hskip fail hopt => exact (fresh hnew).elim
  | failedRequired hnew hup hskip fail hopt => exact (fresh hnew).elim

/-- **A loop that only meets finished steps before a suspended one makes no call.** -/
theorem LoopRun.silent {s : StepDef}
    (hsus : (resume.get? s.name).bind StepInfo.resumeStatus = some .suspended)
    {rest : List StepDef} :
    ∀ (done : List StepDef), (∀ t ∈ done, Resumable (resume.get? t.name)) →
      ∀ {st : ExecState} {tr : Trace} {out : Except ExecuteError ExecState},
        LoopRun rt steps ordered resume (done ++ s :: rest) st tr out → tr = [] := by
  intro done
  induction done with
  | nil =>
      intro _ st tr out h
      have hres : Resumable (resume.get? s.name) := .inr (.inr hsus)
      cases h with
      | next head tail =>
          obtain ⟨st', hstop⟩ := (StepRun.of_resumable head hres).2 hsus
          cases hstop
      | stop head => exact (StepRun.of_resumable head hres).1
      | raised head => exact (StepRun.of_resumable head hres).1
  | cons t done ih =>
      intro hall st tr out h
      have hres := hall t List.mem_cons_self
      cases h with
      | next head tail =>
          rw [(StepRun.of_resumable head hres).1, List.nil_append]
          exact ih (fun t' ht' => hall t' (List.mem_cons_of_mem _ ht')) tail
      | stop head => exact (StepRun.of_resumable head hres).1
      | raised head => exact (StepRun.of_resumable head hres).1

end Halt

section Start

variable {pipeline : PipelineDef} {sid pl : String} {repo : SessionRepository} {r : CutRun}

/-- A cut run is the beginning of a run of the loop, or makes no call. -/
theorem IsCutRun.loop (run : IsCutRun pipeline sid pl repo r) :
    r.tr = [] ∨ ∃ ordered tr' out, resolveDag r.sorter pipeline.steps = .ok ordered
      ∧ ValidOrder pipeline.steps ordered
      ∧ LoopRun r.rt pipeline.steps ordered (resumeStatuses (existingProgress repo sid pl))
          ordered (initialState r.rt.context ordered) (r.tr ++ tr') out := by
  obtain ⟨tr', out, hrun⟩ := run.reaches.extend
  rcases runs_execute hrun with ⟨-, hnil⟩ | ⟨out', hrun', -⟩
  · exact .inl (List.append_eq_nil_iff.mp hnil).1
  · rcases runs_runPipeline hrun' with ⟨e, -, hnil, -⟩ | ⟨ordered, hord, hloop⟩
    · exact .inl (List.append_eq_nil_iff.mp hnil).1
    · exact .inr ⟨ordered, tr', out', hord, validOrder_of_resolveDag run.sound hord, hloop⟩

/-- **A run that starts while a step is suspended makes no call**, if its order meets
only finished steps before it. -/
theorem IsCutRun.silent (run : IsCutRun pipeline sid pl repo r)
    (hfirst : SuspendedFirst pipeline r.sorter (progressOf repo sid pl)) {s : StepDef}
    (hmem : s ∈ pipeline.steps)
    (hsus : (progressOf repo sid pl).status? s.name = some .suspended) : r.tr = [] := by
  rcases IsCutRun.loop run with hnil | ⟨ordered, tr', out, hord, hv, hloop⟩
  · exact hnil
  · obtain ⟨done, rest, hsplit⟩ := List.append_of_mem (hv.perm.mem_iff.mpr hmem)
    have hdone := hfirst ordered hord done s rest hsplit hsus
    have hall : ∀ t ∈ done,
        Resumable ((resumeStatuses (existingProgress repo sid pl)).get? t.name) := by
      intro t ht
      rw [resumable_existing]
      rcases hdone t ht with h | h
      · exact .inl h
      · exact .inr (.inl h)
    rw [hsplit] at hloop
    have hnil := LoopRun.silent (by rw [resumeStatus_existing]; exact hsus) done hall hloop
    exact (List.append_eq_nil_iff.mp hnil).1

/-- A cut run suspends at most one step. -/
theorem IsCutRun.suspends_unique (run : IsCutRun pipeline sid pl repo r) {e e' : ExecEvent}
    {n n' : String} (he : e ∈ r.tr) (he' : e' ∈ r.tr) (hs : Suspends e n)
    (hs' : Suspends e' n') : n = n' := by
  rcases IsCutRun.loop run with hnil | ⟨ordered, tr', out, hord, hv, hloop⟩
  · rw [hnil] at he
    cases he
  · have halong := LoopRun.not_yet_suspended hv hloop (fun s hs => hs) [] (by simp)
    exact along_suspends_unique ((along_append _ _ _).mp halong).1 he he' hs hs'

end Start

/-! ## §3. Histories. -/

/-- A stored suspension was there before, or is one of the trace. -/
theorem applyTrace_suspended {sid pl n : String} :
    ∀ (tr : Trace) (p : Progress), SentTo sid pl tr →
      (applyTrace p tr).status? n = some .suspended →
      p.status? n = some .suspended ∨ ∃ e ∈ tr, Suspends e n
  | [], p, _, h => .inl h
  | e :: tr, p, hsent, h => by
      have hrest : SentTo sid pl tr := fun e' he' => hsent e' (List.mem_cons_of_mem _ he')
      have later : ∀ q : Progress, (applyTrace q tr).status? n = some .suspended →
          (q.status? n = some .suspended → p.status? n = some .suspended ∨ Suspends e n) →
          p.status? n = some .suspended ∨ ∃ e' ∈ e :: tr, Suspends e' n := by
        intro q hq hback
        rcases applyTrace_suspended tr q hrest hq with hold | ⟨e', he', hs⟩
        · rcases hback hold with hold | hs
          · exact .inl hold
          · exact .inr ⟨e, List.mem_cons_self, hs⟩
        · exact .inr ⟨e', List.mem_cons_of_mem _ he', hs⟩
      unfold applyTrace at h
      rw [List.foldl_cons] at h
      cases hu : persistedUpdate e with
      | none =>
          rw [hu] at h
          exact later p h .inl
      | some su =>
          obtain ⟨site, u⟩ := su
          rw [hu] at h
          refine later (applyUpdate p u) h ?_
          intro hold
          by_cases hn : n = u.stepName
          · subst hn
            rw [Progress.status?, applyUpdate_get?_self, Option.bind_some,
              applyStepDelta_status _ _ (hsent e List.mem_cons_self site u hu).2.2] at hold
            exact .inr ⟨site, u, hu, Option.some.inj hold, rfl⟩
          · rw [Progress.status?, applyUpdate_get?_ne p u hn] at hold
            exact .inl hold

/-- A callback suspends nothing. -/
theorem handleCallback_suspended {now : String} {repo : SessionRepository}
    {cmd : CallbackCommand} {sid pl n : String}
    (h : (progressOf (handleCallback now repo cmd) sid pl).status? n = some .suspended) :
    (progressOf repo sid pl).status? n = some .suspended := by
  rw [Progress.status?, handleCallback_get?] at h
  split at h
  next n' info hf =>
    split at h
    next hc =>
      obtain ⟨-, -, rfl⟩ := hc
      rw [Progress.status?, (findByCorrelation_some hf).1]
      rw [Option.bind_some] at h ⊢
      unfold callbackInfo at h
      split at h
      next => cases cmd <;> cases h
      next => exact h
    next => exact h
  next => exact h

/-- **A history**: cut runs, each resumed from what is stored and started under `Cond`,
and callbacks, one after the other. -/
inductive History (pipeline : PipelineDef) (sid pl : String) (Cond : Sorter → Progress → Prop)
    (start : SessionRepository) : SessionRepository → Prop where
  | start : History pipeline sid pl Cond start start
  | run {repo r} (before : History pipeline sid pl Cond start repo)
      (isRun : IsCutRun pipeline sid pl repo r) (hcond : Cond r.sorter (progressOf repo sid pl)) :
      History pipeline sid pl Cond start (persistTrace repo r.tr)
  | callback {repo} (before : History pipeline sid pl Cond start repo) (now : String)
      (cmd : CallbackCommand) :
      History pipeline sid pl Cond start (handleCallback now repo cmd)

/-- No two steps are suspended, and only steps of the pipeline are. -/
structure OneSuspended (pipeline : PipelineDef) (progress : Progress) : Prop where
  unique : ∀ n n', progress.status? n = some .suspended →
    progress.status? n' = some .suspended → n = n'
  isStep : ∀ n, progress.status? n = some .suspended → ∃ s ∈ pipeline.steps, s.name = n

theorem OneSuspended.of_imp {pipeline : PipelineDef} {p q : Progress}
    (h : OneSuspended pipeline p)
    (himp : ∀ n, q.status? n = some .suspended → p.status? n = some .suspended) :
    OneSuspended pipeline q :=
  ⟨fun n n' hn hn' => h.unique n n' (himp n hn) (himp n' hn'), fun n hn => h.isStep n (himp n hn)⟩

/-- **One run keeps it**: it makes no call, or it starts with no step suspended. -/
theorem OneSuspended.run {pipeline : PipelineDef} {sid pl : String} {repo : SessionRepository}
    {r : CutRun} (hpl : pl ∈ validPipelineNames)
    (h : OneSuspended pipeline (progressOf repo sid pl)) (run : IsCutRun pipeline sid pl repo r)
    (hfirst : SuspendedFirst pipeline r.sorter (progressOf repo sid pl)) :
    OneSuspended pipeline (applyTrace (progressOf repo sid pl) r.tr) := by
  by_cases hany : ∃ n, (progressOf repo sid pl).status? n = some .suspended
  · obtain ⟨n, hn⟩ := hany
    obtain ⟨s, hs, rfl⟩ := h.isStep n hn
    rw [IsCutRun.silent run hfirst hs hn]
    exact h
  · -- every suspension is one of this run
    have hnew : ∀ n, (applyTrace (progressOf repo sid pl) r.tr).status? n = some .suspended →
        ∃ e ∈ r.tr, Suspends e n := by
      intro n hn
      rcases applyTrace_suspended r.tr _ (run.sentTo hpl) hn with hold | hnew
      · exact absurd ⟨n, hold⟩ hany
      · exact hnew
    refine ⟨?_, ?_⟩
    · intro n n' hn hn'
      obtain ⟨e, he, hs⟩ := hnew n hn
      obtain ⟨e', he', hs'⟩ := hnew n' hn'
      exact IsCutRun.suspends_unique run he he' hs hs'
    · intro n hn
      obtain ⟨e, he, site, u, hu, -, hname⟩ := hnew n hn
      obtain ⟨s, hs, hc⟩ := run.concerns_mem e he
      refine ⟨s, hs, ?_⟩
      rw [← hc, concerns_of_update hu, hname]

/-- **At most one suspended step.**  In every history whose runs all meet only finished
steps before a suspended one, no two steps are ever suspended, and a run that starts
while a step is suspended dispatches nothing. -/
theorem suspended_unique (pipeline : PipelineDef) (sid pl : String) (start : SessionRepository)
    (hpl : pl ∈ validPipelineNames) (hs : (start.get? sid).isSome)
    (hfresh : ∀ n, (progressOf start sid pl).status? n ≠ some .suspended)
    (repo : SessionRepository)
    (h : History pipeline sid pl (SuspendedFirst pipeline) start repo) :
    (∀ n n', (progressOf repo sid pl).status? n = some .suspended →
      (progressOf repo sid pl).status? n' = some .suspended → n = n')
    ∧ ∀ r, IsCutRun pipeline sid pl repo r →
        SuspendedFirst pipeline r.sorter (progressOf repo sid pl) →
        (∃ n, (progressOf repo sid pl).status? n = some .suspended) →
        ∀ e ∈ r.tr, dispatchedStep e = none := by
  have hinv : (repo.get? sid).isSome ∧ OneSuspended pipeline (progressOf repo sid pl) := by
    induction h with
    | start =>
        refine ⟨hs, fun n n' hn => absurd hn (hfresh n), fun n hn => absurd hn (hfresh n)⟩
    | run before isRun hcond ih =>
        obtain ⟨hprog, hsome⟩ := isRun.progressOf_persist hpl ih.1
        refine ⟨hsome, ?_⟩
        rw [hprog]
        exact ih.2.run hpl isRun hcond
    | callback before now cmd ih =>
        exact ⟨handleCallback_get?_isSome now cmd ih.1,
          ih.2.of_imp fun n hn => handleCallback_suspended hn⟩
  refine ⟨hinv.2.unique, ?_⟩
  intro r run hfirst hany e he
  obtain ⟨n, hn⟩ := hany
  obtain ⟨s, hmem, rfl⟩ := hinv.2.isStep n hn
  rw [IsCutRun.silent run hfirst hmem hn] at he
  cases he

/-- An optional probe before the step that collects. -/
def probePipeline : PipelineDef :=
  { steps := [{ name := "probe", optional := true }, { name := "collect" }] }

/-- A run of `probePipeline` from what is stored. -/
def probeRun (repo : SessionRepository) (dispatcher : DispatchRequest → DispatchOutcome) :
    CutRun :=
  let rt : Runtime :=
    { context := { sessionId := "s1" }
      simpleEval := fun _ _ => .caught "SyntaxError"
      pipelineName := some "collect_evidence" }
  let ran := (execute rt staticOrder probePipeline
    (existingProgress repo "s1" "collect_evidence")).runWith (answering dispatcher)
  { rt := rt, sorter := staticOrder, tr := ran.1, left := .done ran.2 }

theorem probeRun_isCutRun (repo : SessionRepository)
    (dispatcher : DispatchRequest → DispatchOutcome) :
    IsCutRun probePipeline "s1" "collect_evidence" repo (probeRun repo dispatcher) :=
  ⟨staticOrder_sound, rfl, rfl, (Resumption.runWith_runs _ _).reaches⟩

/-- A result that delegates the step to an external job. -/
def delegation (correlationId : String) : DispatchOutcome :=
  .returned (Dict.ofList
    [("status", .str "suspended"), ("step_correlation_id", .str correlationId)])

/-- The first run: the probe fails, the collection is delegated. -/
def firstProbe : CutRun :=
  probeRun newSession fun request =>
    if request.stepName = "probe" then .raised "no route" else delegation "corr-1"

/-- The next run, while the collection is suspended: now the probe is delegated. -/
def secondProbe : CutRun :=
  probeRun (persistTrace newSession firstProbe.tr) fun _ => delegation "corr-2"

/-- **Two suspended steps**: the second run starts while `collect` is suspended, tries
the failed optional step again, and suspends it too. -/
theorem two_suspended_steps :
    let stored := persistTrace newSession firstProbe.tr
    let final := persistTrace stored secondProbe.tr
    History probePipeline "s1" "collect_evidence" (fun _ _ => True) newSession final
      ∧ (progressOf stored "s1" "collect_evidence").status? "collect" = some .suspended
      ∧ secondProbe.tr.filterMap dispatchedStep = ["probe"]
      ∧ (progressOf final "s1" "collect_evidence").status? "collect" = some .suspended
      ∧ (progressOf final "s1" "collect_evidence").status? "probe" = some .suspended :=
  ⟨.run (.run .start (probeRun_isCutRun _ _) trivial) (probeRun_isCutRun _ _) trivial,
    by decide, by decide, by decide, by decide⟩

/-- A first run whose probe succeeds. -/
def cleanProbe : CutRun :=
  probeRun newSession fun request =>
    if request.stepName = "probe" then .returned Dict.empty else delegation "corr-1"

/-- After it, a run that starts while `collect` is suspended makes no call. -/
theorem suspended_unique_probe :
    (progressOf (persistTrace newSession cleanProbe.tr) "s1" "collect_evidence").status? "collect"
        = some .suspended
      ∧ ∀ e ∈ (probeRun (persistTrace newSession cleanProbe.tr) fun _ => delegation "corr-2").tr,
        dispatchedStep e = none := by
  have hord : resolveDag staticOrder probePipeline.steps = .ok probePipeline.steps := rfl
  have hstart : SuspendedFirst probePipeline staticOrder
      (progressOf newSession "s1" "collect_evidence") := by
    intro ordered _ done s rest _ hsus
    cases hsus
  refine ⟨by decide, ?_⟩
  refine (suspended_unique probePipeline "s1" "collect_evidence" newSession (by decide) (by decide)
    (fun _ h => by cases h) _ (.run .start (probeRun_isCutRun _ _) hstart)).2 _
    (probeRun_isCutRun _ _) ?_ ⟨"collect", by decide⟩
  intro ordered hord' done s rest hsplit _ t ht
  have hsteps : probePipeline.steps = ordered := by
    injection (hord.symm.trans hord')
  rw [← hsteps, probePipeline] at hsplit
  cases done with
  | nil => cases ht
  | cons d done =>
      cases done with
      | nil =>
          injection hsplit with hhead
          rw [List.mem_singleton.mp ht, ← hhead]
          exact .inl (by decide)
      | cons d' done =>
          -- two steps before a third
          have hlen := congrArg List.length hsplit
          simp at hlen

end CmlCloudManager.Controller
