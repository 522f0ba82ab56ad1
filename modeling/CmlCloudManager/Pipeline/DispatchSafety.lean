/-
  CmlCloudManager.Pipeline.DispatchSafety
  ───────────────────────────────────────
  **WHEN THE EXECUTOR DISPATCHES A STEP.**

  Whatever was resumed, whatever the dispatcher answers and whichever
  topological order the sorter picked, at every dispatch of a run

    • the needs of the step are completed, skipped, or failed and optional,
    • no required step has failed and no step is or was found suspended,
    • the step has been dispatched at most `max 1 max_attempts` times.

  `SafeDispatch` is the statement about one dispatch and its past; it is
  carried through the loop by `runPipeline_rule` and holds of every CUT run,
  because a cut run is the beginning of a complete one.
-/
import CmlCloudManager.Foundation.Along
import CmlCloudManager.Pipeline.LoopInvariant

namespace CmlCloudManager.Pipeline

open CmlCloudManager.Foundation

/-! ## §1. The calls of one iteration. -/

/-- The calls of one iteration: attempts of its step, then progress updates. -/
structure IterationCalls (resume : Dict String StepInfo) (step : StepDef) (st : ExecState)
    (attempts updates : Trace) : Prop where
  isAttempt : ∀ e ∈ attempts, IsAttempt step st e
  length_le : attempts.length ≤ step.maxAttempts.toNat
  isUpdate : ∀ e ∈ updates, dispatchedStep e = none
  fresh : attempts ≠ [] → (resume.get? step.name).bind (resumeStep step st) = none

theorem abortTrace_forall (rt : Runtime) {P : ExecEvent → Prop}
    (h : ∀ name, P (persistEvent rt .aborted name .skipped none none)) :
    ∀ (l : List StepDef) (st : ExecState), ∀ e ∈ abortTrace rt l st, P e
  | [], _, e, he => by cases he
  | remaining :: rest, st, e, he => by
      unfold abortTrace at he
      split at he
      next => exact abortTrace_forall rt h rest _ e he
      next =>
        rcases List.mem_cons.mp he with rfl | he
        · exact h _
        · exact abortTrace_forall rt h rest _ e he

section Iteration

variable {rt : Runtime} {steps ordered : List StepDef} {resume : Dict String StepInfo}
  {step : StepDef} {st : ExecState} {tr : Trace} {exit : StepExit}

/-- **An iteration makes attempts and then sends updates.** -/
theorem StepRun.calls (h : StepRun rt steps ordered resume step st tr exit) :
    ∃ attempts updates, tr = attempts ++ updates
      ∧ IterationCalls resume step st attempts updates := by
  -- either the step is not dispatched, or its attempts come first
  have silent : ∀ updates : Trace, (∀ e ∈ updates, dispatchedStep e = none) →
      IterationCalls resume step st [] updates :=
    fun updates hu => ⟨by simp, by simp, hu, fun hne => absurd rfl hne⟩
  have acting : ∀ {attempts updates : Trace} {out : Except String Payload} {st' : ExecState},
      (resume.get? step.name).bind (resumeStep step st) = none →
      AttemptRun step st attempts out st' → (∀ e ∈ updates, dispatchedStep e = none) →
      IterationCalls resume step st attempts updates :=
    fun hnew run hu => ⟨run.attempts, run.length_le, hu, fun _ => hnew⟩
  cases h with
  | resumed h => exact ⟨[], [], rfl, silent [] (by simp)⟩
  | blocked hnew h => exact ⟨[], _, rfl, silent _ (by simp)⟩
  | crashed hnew h => exact ⟨[], [], rfl, silent [] (by simp)⟩
  | skipWhen hnew h => exact ⟨[], _, rfl, silent _ (by simp)⟩
  | handlerSkipped hnew hup hskip run hstatus => exact ⟨_, _, rfl, acting hnew run (by simp)⟩
  | suspended hnew hup hskip run hstatus => exact ⟨_, _, rfl, acting hnew run (by simp)⟩
  | completed hnew hup hskip run hstatus => exact ⟨_, _, rfl, acting hnew run (by simp)⟩
  | failedOptional hnew hup hskip fail hopt =>
      obtain ⟨⟨out, run⟩, -⟩ := fail.attemptRun
      exact ⟨_, _, rfl, acting hnew run (by simp)⟩
  | failedRequired hnew hup hskip fail hopt =>
      obtain ⟨⟨out, run⟩, -⟩ := fail.attemptRun
      refine ⟨_, _, rfl, acting hnew run ?_⟩
      refine List.forall_mem_cons.mpr ⟨by simp, abortTrace_forall rt (by simp) _ _⟩

/-- The update an event sends is one after which the loop may go on. -/
def UpdateSettles (steps : List StepDef) (e : ExecEvent) : Prop :=
  ∀ site update, persistedUpdate e = some (site, update) →
    update.stepStatus ≠ .suspended
      ∧ (update.stepStatus = .failed → ∀ t ∈ steps, t.name = update.stepName → t.optional = true)

theorem IsAttempt.updateSettles {e : ExecEvent} (h : IsAttempt step st e) :
    UpdateSettles steps e := by
  intro site update hu
  rw [h.persistedUpdate_eq] at hu
  cases hu

/-- An iteration that goes on sends only updates after which it may. -/
theorem StepRun.updateSettles (hv : ValidOrder steps ordered) (hmem : step ∈ ordered)
    {st' : ExecState} (h : StepRun rt steps ordered resume step st tr (.next st')) :
    ∀ e ∈ tr, UpdateSettles steps e := by
  have one : ∀ (attempts : Trace) (ev : ExecEvent), (∀ e ∈ attempts, IsAttempt step st e) →
      UpdateSettles steps ev → ∀ e ∈ attempts ++ [ev], UpdateSettles steps e := by
    intro attempts ev hatt hev e he
    rcases List.mem_append.mp he with he | he
    · exact (hatt e he).updateSettles
    · rw [List.mem_singleton.mp he]
      exact hev
  have plain : ∀ site status rd, status ≠ .suspended → status ≠ .failed →
      UpdateSettles steps (persistEvent rt site step.name status rd none) := by
    intro site status rd hsus hfail site' update hu
    rw [persistedUpdate_persistEvent, Option.some.injEq, Prod.mk.injEq] at hu
    obtain ⟨-, rfl⟩ := hu
    exact ⟨hsus, fun hf => absurd hf hfail⟩
  cases h with
  | resumed h => simp
  | blocked hnew h => exact one [] _ (by simp) (plain _ _ _ (by decide) (by decide))
  | skipWhen hnew h => exact one [] _ (by simp) (plain _ _ _ (by decide) (by decide))
  | handlerSkipped hnew hup hskip run hstatus =>
      exact one _ _ run.attempts (plain _ _ _ (by decide) (by decide))
  | completed hnew hup hskip run hstatus =>
      exact one _ _ run.attempts (plain _ _ _ (by decide) (by decide))
  | failedOptional hnew hup hskip fail hopt =>
      obtain ⟨⟨out, run⟩, -⟩ := fail.attemptRun
      refine one _ _ run.attempts ?_
      intro site' update hu
      rw [persistedUpdate_persistEvent, Option.some.injEq, Prod.mk.injEq] at hu
      obtain ⟨-, rfl⟩ := hu
      refine ⟨by simp [progressUpdate], fun _ t ht hname => ?_⟩
      -- the only step of that name is the optional one that failed
      have hfind := hv.findStep_eq hmem
      have hnd : (steps.map StepDef.name).Nodup :=
        ((hv.perm.map StepDef.name).nodup_iff).mp hv.nodup
      rw [List.inj_on_of_nodup_map hnd ht (hv.mem_steps hmem) hname]
      exact hopt

/-- A resumed suspension leaves the loop, so an iteration that goes on or makes a
call did not find its step suspended. -/
theorem StepRun.not_found_suspended (h : StepRun rt steps ordered resume step st tr exit)
    (hgo : tr ≠ [] ∨ ∃ st', exit = .next st') :
    (resume.get? step.name).bind StepInfo.resumeStatus ≠ some .suspended := by
  intro hsus
  obtain ⟨prev, hprev, hstatus⟩ := Option.bind_eq_some_iff.mp hsus
  -- the branch of `resumeStep` for a suspended step
  have hres : ∃ st', (resume.get? step.name).bind (resumeStep step st) = some (.stop st') := by
    simp only [hprev, Option.bind_some, resumeStep, hstatus]
    exact ⟨_, rfl⟩
  obtain ⟨st₁, hst₁⟩ := hres
  cases h with
  | resumed h =>
      rw [hst₁] at h
      injection h with h
      subst h
      rcases hgo with hgo | ⟨st', hgo⟩
      · exact hgo rfl
      · cases hgo
  | blocked hnew h => rw [hst₁] at hnew; cases hnew
  | crashed hnew h => rw [hst₁] at hnew; cases hnew
  | skipWhen hnew h => rw [hst₁] at hnew; cases hnew
  | handlerSkipped hnew hup hskip run hstatus => rw [hst₁] at hnew; cases hnew
  | suspended hnew hup hskip run hstatus => rw [hst₁] at hnew; cases hnew
  | completed hnew hup hskip run hstatus => rw [hst₁] at hnew; cases hnew
  | failedOptional hnew hup hskip fail hopt => rw [hst₁] at hnew; cases hnew
  | failedRequired hnew hup hskip fail hopt => rw [hst₁] at hnew; cases hnew

end Iteration

/-! ## §2. One dispatch and its past. -/

/-- **A dispatch of `step` is safe**: `done` is behind the loop, `past` are the
calls made before, `request.progress` is the in-memory progress of the run. -/
structure SafeDispatch (steps : List StepDef) (resume : Dict String StepInfo)
    (done : List StepDef) (step : StepDef) (past : Trace) (request : DispatchRequest) : Prop where
  /-- The dispatcher gets the step's own handler and params. -/
  asked : request.stepName = step.name ∧ request.handlerName = step.handlerName
    ∧ request.params = step.params
  /-- The needs are settled. -/
  needs : ∀ d ∈ step.needs, ∃ t ∈ steps, t.name = d
    ∧ ∃ status, request.progress.status? d = some status ∧ Settled t status
  /-- No required step has failed in this run, in memory or on the control plane. -/
  noneFailed : ∀ t ∈ steps, t.optional = false → request.progress.status? t.name ≠ some .failed
  /-- No step is suspended in this run. -/
  noneSuspended : ∀ n, request.progress.status? n ≠ some .suspended
  /-- No update sent so far says otherwise. -/
  updates : ∀ e ∈ past, UpdateSettles steps e
  /-- No step up to this one was found suspended by an earlier run. -/
  noneFound : ∀ s ∈ done ++ [step],
    (resume.get? s.name).bind StepInfo.resumeStatus ≠ some .suspended

/-- The event, if it is a dispatch, is a safe dispatch of a step of the order. -/
def DispatchIsSafe (steps ordered : List StepDef) (resume : Dict String StepInfo) (past : Trace)
    (ev : ExecEvent) : Prop :=
  ∀ request, dispatchRequest ev = some request →
    ∃ done step rest, ordered = done ++ step :: rest
      ∧ SafeDispatch steps resume done step past request

/-- How often a step was dispatched. -/
def dispatchCount (name : String) (tr : Trace) : Nat :=
  tr.countP fun e => dispatchedStep e = some name

/-- An update is no dispatch. -/
theorem dispatchRequest_eq_none {ev : ExecEvent} (h : dispatchedStep ev = none) :
    dispatchRequest ev = none := by
  obtain ⟨e, r⟩ := ev
  cases e with
  | dispatch request => cases h
  | persist site update => rfl

/-- **From a healthy loop every attempt is a safe dispatch.** -/
theorem Healthy.safeDispatch {steps ordered done rest : List StepDef} {step : StepDef}
    {resume : Dict String StepInfo} {st : ExecState} {past : Trace} {attempt : Nat}
    (hv : ValidOrder steps ordered) (hsplit : ordered = done ++ step :: rest)
    (hh : Healthy done st) (hpast : ∀ e ∈ past, UpdateSettles steps e)
    (hfound : ∀ s ∈ done ++ [step],
      (resume.get? s.name).bind StepInfo.resumeStatus ≠ some .suspended) :
    SafeDispatch steps resume done step past (attemptRequest step st attempt) := by
  have hself : (attemptRequest step st attempt).progress.status? step.name
      = some .inProgress := status?_set_self _ _ _
  have hother : ∀ n, n ≠ step.name →
      (attemptRequest step st attempt).progress.status? n = st.progress.status? n :=
    fun n hn => status?_congr (Dict.get?_set_ne _ _ _ hn)
  -- what the in-memory progress says of a step behind the loop
  have hdone : ∀ s ∈ done, ∃ status,
      (attemptRequest step st attempt).progress.status? s.name = some status
        ∧ Settled s status := by
    intro s hs
    obtain ⟨status, hget, hset⟩ := hh.settled s hs
    refine ⟨status, ?_, hset⟩
    rw [hother _ (hv.name_ne hsplit hs), hh.recorded s hs, hget]
  -- and of any other step
  have hahead : ∀ n, n ∉ done.map StepDef.name → ∀ status,
      (attemptRequest step st attempt).progress.status? n = some status →
      status = .inProgress ∨ status = .pending := by
    intro n hn status hstat
    by_cases hname : n = step.name
    · subst hname
      rw [hself] at hstat
      exact .inl (Option.some.inj hstat).symm
    · rw [hother n hname] at hstat
      rcases hh.waiting n hn with h | h
      · rw [h] at hstat
        cases hstat
      · rw [h] at hstat
        exact .inr (Option.some.inj hstat).symm
  have hsub : ∀ s ∈ done, s ∈ steps := by
    intro s hs
    refine hv.mem_steps ?_
    rw [hsplit]
    exact List.mem_append_left _ hs
  have hnd : (steps.map StepDef.name).Nodup :=
    ((hv.perm.map StepDef.name).nodup_iff).mp hv.nodup
  refine ⟨⟨rfl, rfl, rfl⟩, ?needs, ?noneFailed, ?noneSuspended, hpast, hfound⟩
  case needs =>
    intro d hd
    obtain ⟨t, ht, rfl⟩ := List.mem_map.mp (hv.needs_done hsplit d hd)
    exact ⟨t, hsub t ht, rfl, hdone t ht⟩
  case noneFailed =>
    intro t ht hopt hfailed
    by_cases hin : t.name ∈ done.map StepDef.name
    · obtain ⟨s, hs, hname⟩ := List.mem_map.mp hin
      obtain rfl : s = t := List.inj_on_of_nodup_map hnd (hsub s hs) ht hname
      obtain ⟨status, hstat, hset⟩ := hdone s hs
      obtain rfl : status = .failed := Option.some.inj (hstat.symm.trans hfailed)
      rw [hset.optional_of_failed] at hopt
      cases hopt
    · rcases hahead _ hin _ hfailed with h | h <;> cases h
  case noneSuspended =>
    intro n hsus
    by_cases hin : n ∈ done.map StepDef.name
    · obtain ⟨s, hs, rfl⟩ := List.mem_map.mp hin
      obtain ⟨status, hstat, hset⟩ := hdone s hs
      exact hset.ne_suspended (Option.some.inj (hstat.symm.trans hsus))
    · rcases hahead _ hin _ hsus with h | h <;> cases h

/-! ## §3. One iteration, then a run. -/

/-- What is known of the calls made while `done` was worked off. -/
structure DispatchInv (steps ordered : List StepDef) (resume : Dict String StepInfo)
    (done : List StepDef) (tr : Trace) : Prop where
  safe : Along (DispatchIsSafe steps ordered resume) [] tr
  updates : ∀ e ∈ tr, UpdateSettles steps e
  noneFound : ∀ s ∈ done, (resume.get? s.name).bind StepInfo.resumeStatus ≠ some .suspended
  counted : ∀ n, dispatchCount n tr ≤ ((findStep done n).map fun s => s.maxAttempts.toNat).getD 0

/-- What is known at the end of a run. -/
structure DispatchPost (steps ordered : List StepDef) (resume : Dict String StepInfo)
    (tr : Trace) : Prop where
  safe : Along (DispatchIsSafe steps ordered resume) [] tr
  counted : ∀ n, dispatchCount n tr ≤ ((findStep ordered n).map fun s => s.maxAttempts.toNat).getD 0

section Run

variable {rt : Runtime} {steps ordered done rest : List StepDef} {resume : Dict String StepInfo}
  {step : StepDef} {st : ExecState} {tr₀ tr : Trace} {exit : StepExit}

theorem findStep_append (l l' : List StepDef) (n : String) :
    findStep (l ++ l') n = (findStep l n).or (findStep l' n) := by
  simp only [findStep, List.find?_append]

theorem findStep_eq_none {l : List StepDef} {n : String} :
    findStep l n = none ↔ n ∉ l.map StepDef.name := by
  simp only [findStep, List.find?_eq_none, beq_iff_eq, List.mem_map, not_exists, not_and]

/-- The dispatches of one more iteration are safe. -/
theorem DispatchInv.safe_append (hv : ValidOrder steps ordered)
    (hsplit : ordered = done ++ step :: rest) (hh : Healthy done st)
    (hinv : DispatchInv steps ordered resume done tr₀)
    (hrun : StepRun rt steps ordered resume step st tr exit) :
    Along (DispatchIsSafe steps ordered resume) [] (tr₀ ++ tr) := by
  rw [along_append]
  refine ⟨hinv.safe, ?_⟩
  rw [List.nil_append]
  obtain ⟨attempts, updates, rfl, hcalls⟩ := hrun.calls
  rw [along_append]
  refine ⟨?_, ?_⟩
  · -- an attempt: what came before are the earlier iterations and attempts
    refine along_of_forall attempts tr₀ hcalls.isAttempt ?_
    intro more e hmore he request hreq
    obtain ⟨attempt, hatt⟩ := (hcalls.isAttempt e he).dispatchRequest_eq
    rw [hatt] at hreq
    injection hreq with hreq
    subst hreq
    refine ⟨done, step, rest, hsplit, hh.safeDispatch hv hsplit ?_ ?_⟩
    · intro e' he'
      rcases List.mem_append.mp he' with he' | he'
      · exact hinv.updates e' he'
      · exact (hmore e' he').updateSettles
    · intro s hs
      rcases List.mem_append.mp hs with hs | hs
      · exact hinv.noneFound s hs
      · rw [List.mem_singleton.mp hs]
        refine hrun.not_found_suspended (.inl ?_)
        intro hnil
        rw [(List.append_eq_nil_iff.mp hnil).1] at he
        cases he
  · -- an update is no dispatch
    refine along_of_forall updates _ hcalls.isUpdate ?_
    intro more e _ he request hreq
    rw [dispatchRequest_eq_none (hcalls.isUpdate e he)] at hreq
    cases hreq

/-- One more iteration dispatches its own step at most `max_attempts` times, and
no other. -/
theorem StepRun.dispatchCount_le (hrun : StepRun rt steps ordered resume step st tr exit)
    (n : String) : dispatchCount n tr ≤ if n = step.name then step.maxAttempts.toNat else 0 := by
  obtain ⟨attempts, updates, rfl, hcalls⟩ := hrun.calls
  have hupd : dispatchCount n updates = 0 := by
    rw [dispatchCount, List.countP_eq_zero]
    intro e he
    rw [hcalls.isUpdate e he]
    simp
  have hsum : dispatchCount n (attempts ++ updates) = dispatchCount n attempts := by
    rw [dispatchCount, List.countP_append, ← dispatchCount, ← dispatchCount, hupd, Nat.add_zero]
  rw [hsum]
  split
  next =>
    exact Nat.le_trans List.countP_le_length hcalls.length_le
  next hne =>
    rw [Nat.le_zero, dispatchCount, List.countP_eq_zero]
    intro e he
    rw [(hcalls.isAttempt e he).dispatchedStep_eq]
    simpa using Ne.symm hne

theorem DispatchInv.counted_append (hfresh : step.name ∉ done.map StepDef.name)
    (hinv : DispatchInv steps ordered resume done tr₀)
    (hrun : StepRun rt steps ordered resume step st tr exit) (n : String) :
    dispatchCount n (tr₀ ++ tr)
      ≤ ((findStep (done ++ [step]) n).map fun s => s.maxAttempts.toNat).getD 0 := by
  have hsum : dispatchCount n (tr₀ ++ tr) = dispatchCount n tr₀ + dispatchCount n tr :=
    List.countP_append
  have hold := hinv.counted n
  have hnew := hrun.dispatchCount_le n
  rw [hsum, findStep_append]
  by_cases hn : n = step.name
  · -- not dispatched before, as its name is new
    subst hn
    rw [findStep_eq_none.mpr hfresh] at hold ⊢
    simp only [findStep, List.find?_cons_of_pos, BEq.rfl, Option.none_or, Option.map_some,
      Option.getD_some, Option.map_none, Option.getD_none, if_true] at hold hnew ⊢
    omega
  · have hone : findStep [step] n = none := by
      rw [findStep_eq_none]
      simpa using hn
    rw [hone, Option.or_none]
    rw [if_neg hn] at hnew
    omega

/-- **The invariant of the calls is kept by every iteration that goes on.** -/
theorem DispatchInv.next (hv : ValidOrder steps ordered)
    (hsplit : ordered = done ++ step :: rest) (hh : Healthy done st)
    (hinv : DispatchInv steps ordered resume done tr₀) {st' : ExecState}
    (hrun : StepRun rt steps ordered resume step st tr (.next st')) :
    DispatchInv steps ordered resume (done ++ [step]) (tr₀ ++ tr) := by
  have hmem : step ∈ ordered := by
    rw [hsplit]
    simp
  refine ⟨hinv.safe_append hv hsplit hh hrun, ?updates, ?noneFound,
    hinv.counted_append (hv.fresh hsplit) hrun⟩
  case updates =>
    intro e he
    rcases List.mem_append.mp he with he | he
    · exact hinv.updates e he
    · exact hrun.updateSettles hv hmem e he
  case noneFound =>
    intro s hs
    rcases List.mem_append.mp hs with hs | hs
    · exact hinv.noneFound s hs
    · rw [List.mem_singleton.mp hs]
      exact hrun.not_found_suspended (.inr ⟨st', rfl⟩)

/-- Wherever the loop leaves, its calls were safe. -/
theorem DispatchInv.post (hv : ValidOrder steps ordered)
    (hsplit : ordered = done ++ step :: rest) (hh : Healthy done st)
    (hinv : DispatchInv steps ordered resume done tr₀)
    (hrun : StepRun rt steps ordered resume step st tr exit) :
    DispatchPost steps ordered resume (tr₀ ++ tr) := by
  refine ⟨hinv.safe_append hv hsplit hh hrun, fun n => ?_⟩
  refine Nat.le_trans (hinv.counted_append (hv.fresh hsplit) hrun n) ?_
  rw [hsplit, show done ++ step :: rest = (done ++ [step]) ++ rest by simp, findStep_append _ rest]
  cases findStep (done ++ [step]) n with
  | none => simp
  | some s => simp

end Run

/-- The calls of a complete run of the acting part. -/
theorem runPipeline_dispatchPost {rt : Runtime} {sorter : Sorter} (hsound : sorter.Sound)
    {steps : List StepDef} {existing : Option ExistingProgress} {tr : Trace}
    {out : Except ExecuteError ExecState}
    (h : (runPipeline rt sorter steps existing).Runs tr out) :
    tr = [] ∨ ∃ ordered, resolveDag sorter steps = .ok ordered
      ∧ DispatchPost steps ordered (resumeStatuses existing) tr := by
  refine runPipeline_rule hsound
    (fun ordered done _ tr₀ => resolveDag sorter steps = .ok ordered
      ∧ DispatchInv steps ordered (resumeStatuses existing) done tr₀)
    (fun tr _ => tr = [] ∨ ∃ ordered, resolveDag sorter steps = .ok ordered
      ∧ DispatchPost steps ordered (resumeStatuses existing) tr) ?_ ?_ ?_ ?_ ?_ ?_ h
  · intro e _
    exact .inl rfl
  · intro ordered hord
    exact ⟨hord, ⟨trivial, by simp, by simp, fun n => by simp [dispatchCount]⟩⟩
  · intro ordered done step rest st tr₀ tr st' hv hsplit hh hinv hrun
    exact ⟨hinv.1, hinv.2.next hv hsplit hh hrun⟩
  · intro ordered st tr₀ hv hh hinv
    exact .inr ⟨ordered, hinv.1, hinv.2.safe, hinv.2.counted⟩
  · intro ordered done step rest st tr₀ tr st' hv hsplit hh hinv hrun
    exact .inr ⟨ordered, hinv.1, hinv.2.post hv hsplit hh hrun⟩
  · intro ordered done step rest st tr₀ tr e hv hsplit hh hinv hrun
    exact .inr ⟨ordered, hinv.1, hinv.2.post hv hsplit hh hrun⟩

/-! ## §4. Every cut run of `execute`. -/

/-- A complete run that `execute` makes is one of the acting part, or is silent. -/
theorem execute_dispatchPost {rt : Runtime} {sorter : Sorter} (hsound : sorter.Sound)
    {pipeline : PipelineDef} {existing : Option ExistingProgress} {tr : Trace}
    {out : Except ExecuteError PipelineResult}
    (h : (execute rt sorter pipeline existing).Runs tr out) :
    tr = [] ∨ ∃ ordered, resolveDag sorter pipeline.steps = .ok ordered
      ∧ DispatchPost pipeline.steps ordered (resumeStatuses existing) tr := by
  rcases runs_execute h with ⟨-, rfl⟩ | ⟨out', hrun, -⟩
  · exact .inl rfl
  · exact runPipeline_dispatchPost hsound hrun

theorem toNat_le_max_one {s : StepDef} {n : Nat} (h : n ≤ s.maxAttempts.toNat) :
    (n : Int) ≤ max 1 s.maxAttempts := by
  omega

/-- **Dispatch safety.**  In every run of `execute`, cut anywhere: each dispatch is
a safe dispatch of a step of the resolved order, and no step is dispatched more
than `max 1 max_attempts` times. -/
theorem execute_dispatch_safe (rt : Runtime) (sorter : Sorter) (hsound : sorter.Sound)
    (pipeline : PipelineDef) (existing : Option ExistingProgress) (tr : Trace)
    (left : Exec (Except ExecuteError PipelineResult))
    (h : (execute rt sorter pipeline existing).Reaches tr left) :
    (∀ past ev after request, tr = past ++ ev :: after → dispatchRequest ev = some request →
      ∃ ordered done step rest, resolveDag sorter pipeline.steps = .ok ordered
        ∧ ordered = done ++ step :: rest
        ∧ SafeDispatch pipeline.steps (resumeStatuses existing) done step past request)
    ∧ ∀ s ∈ pipeline.steps, (dispatchCount s.name tr : Int) ≤ max 1 s.maxAttempts := by
  -- the cut run is the beginning of a complete one
  obtain ⟨tr', out, hrun⟩ := h.extend
  rcases execute_dispatchPost hsound hrun with hnil | ⟨ordered, hord, hpost⟩
  · obtain ⟨rfl, -⟩ := List.append_eq_nil_iff.mp hnil
    refine ⟨by simp, fun s _ => toNat_le_max_one (Nat.zero_le _)⟩
  · have hv := validOrder_of_resolveDag hsound hord
    refine ⟨?_, ?_⟩
    · intro past ev after request hsplit hreq
      have hsafe := ((along_append tr tr' []).mp hpost.safe).1
      rw [along_iff] at hsafe
      obtain ⟨done, step, rest, hdone, hstep⟩ := hsafe past ev after hsplit request hreq
      exact ⟨ordered, done, step, rest, hord, hdone, hstep⟩
    · intro s hs
      have hcount := hpost.counted s.name
      have hfind : findStep ordered s.name = some s := by
        have hperm : ValidOrder ordered ordered := ⟨List.Perm.refl _, hv.nodup, hv.needsFirst⟩
        exact hperm.findStep_eq (hv.perm.mem_iff.mpr hs)
      rw [hfind] at hcount
      have hle : dispatchCount s.name tr ≤ dispatchCount s.name (tr ++ tr') := by
        rw [dispatchCount, dispatchCount, List.countP_append]
        exact Nat.le_add_right _ _
      exact toNat_le_max_one (Nat.le_trans hle hcount)

/-- Two steps, the second needs the first and may be tried twice. -/
def chainPipeline : PipelineDef :=
  { steps :=
      [{ name := "configure", needs := ["provision"], retry := some { maxAttempts := some 2 } },
       { name := "provision" }] }

/-- Every dispatch of `configure` raises, the others return an empty dict. -/
def flakyDispatcher (request : DispatchRequest) : DispatchOutcome :=
  if request.stepName = "configure" then .raised "unreachable" else .returned Dict.empty

/-- The calls of that run. -/
def chainTrace : Trace :=
  ((execute { context := { sessionId := "s1" }, simpleEval := fun _ _ => .caught "SyntaxError" }
    staticOrder chainPipeline none).runWith (answering flakyDispatcher)).1

theorem execute_dispatch_safe_chain :
    chainTrace.filterMap dispatchedStep = ["provision", "configure", "configure"]
      ∧ ∀ s ∈ chainPipeline.steps, (dispatchCount s.name chainTrace : Int) ≤ max 1 s.maxAttempts :=
  ⟨by decide,
    (execute_dispatch_safe _ staticOrder staticOrder_sound chainPipeline none chainTrace _
      (Resumption.runWith_runs _ _).reaches).2⟩

end CmlCloudManager.Pipeline
