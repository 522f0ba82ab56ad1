/-
  CmlCloudManager.Pipeline.LoopInvariant
  ──────────────────────────────────────
  **THE LOOP INVARIANT OF THE EXECUTOR AND ITS RULE.**

  While the main loop goes on, every step behind it is settled: completed,
  skipped, or failed and optional.  `Healthy done st` says so, together with
  the agreement of `step_statuses` and the in-memory `progress` and the fact
  that nothing ahead of the loop has a status yet.  It is kept by every
  iteration that does not leave the loop (`Healthy.next`), whatever was
  resumed and whatever the dispatcher answered.

  `LoopRun.rule` is the induction over a run, done once: a property of
  (steps behind, state, calls made so far) that one iteration preserves holds
  at the end.  Later modules only supply the property.
-/
import CmlCloudManager.Pipeline.ExecutorRuns

namespace CmlCloudManager.Pipeline

open CmlCloudManager.Foundation

/-! ## §1. Marking a step. -/

section Mark

variable (st : ExecState) (name : String) (status : StepStatus) (info : StepInfo)

@[simp] theorem mark_stepStatuses :
    (st.mark name status info).stepStatuses = st.stepStatuses.set name status := rfl

@[simp] theorem mark_progress :
    (st.mark name status info).progress = st.progress.set name info := rfl

@[simp] theorem mark_stepsData : (st.mark name status info).stepsData = st.stepsData := rfl

@[simp] theorem mark_errorMessage :
    (st.mark name status info).errorMessage = st.errorMessage := rfl

@[simp] theorem mark_pipelineSuspended :
    (st.mark name status info).pipelineSuspended = st.pipelineSuspended := rfl

@[simp] theorem mark_failed :
    (st.mark name status info).failed = st.failed + if status = .failed then 1 else 0 := rfl

end Mark

/-! ## §2. Valid orders. -/

/-- What `resolveDag` guarantees of the order the loop follows. -/
structure ValidOrder (steps ordered : List StepDef) : Prop where
  perm : ordered.Perm steps
  nodup : (ordered.map StepDef.name).Nodup
  needsFirst : NeedsFirst [] ordered

theorem validOrder_of_resolveDag {sorter : Sorter} (hsound : sorter.Sound)
    {steps ordered : List StepDef} (h : resolveDag sorter steps = .ok ordered) :
    ValidOrder steps ordered := by
  obtain ⟨hperm, hnd, hneeds⟩ := resolveDag_ok hsound h
  exact ⟨hperm, hnd, hneeds⟩

theorem needsFirst_split {done rest : List StepDef} {step : StepDef} {before : List String}
    (h : NeedsFirst before (done ++ step :: rest)) :
    ∀ d ∈ step.needs, d ∈ before ∨ d ∈ done.map StepDef.name := by
  induction done generalizing before with
  | nil =>
      intro d hd
      exact .inl (h.1 d hd)
  | cons s done ih =>
      -- further on `s` counts as one of the names before
      intro d hd
      rcases ih h.2 d hd with hmem | hmem
      · rcases List.mem_cons.mp hmem with rfl | hmem
        · exact .inr (by simp)
        · exact .inl hmem
      · exact .inr (List.mem_cons_of_mem _ hmem)

section Split

variable {steps ordered done rest : List StepDef} {step : StepDef}

/-- The needs of the step the loop is at are behind it. -/
theorem ValidOrder.needs_done (hv : ValidOrder steps ordered)
    (hsplit : ordered = done ++ step :: rest) :
    ∀ d ∈ step.needs, d ∈ done.map StepDef.name := by
  intro d hd
  rcases needsFirst_split (hsplit ▸ hv.needsFirst) d hd with h | h
  · cases h
  · exact h

/-- The step the loop is at is not behind it. -/
theorem ValidOrder.fresh (hv : ValidOrder steps ordered) (hsplit : ordered = done ++ step :: rest) :
    step.name ∉ done.map StepDef.name := by
  have hnd := hv.nodup
  rw [hsplit, List.map_append, List.map_cons, List.nodup_append] at hnd
  intro hmem
  exact hnd.2.2 _ hmem _ List.mem_cons_self rfl

/-- The steps behind it have other names. -/
theorem ValidOrder.name_ne (hv : ValidOrder steps ordered)
    (hsplit : ordered = done ++ step :: rest) {s : StepDef} (hs : s ∈ done) :
    s.name ≠ step.name := by
  intro heq
  exact hv.fresh hsplit (List.mem_map.mpr ⟨s, hs, heq⟩)

theorem ValidOrder.mem_steps (hv : ValidOrder steps ordered) {s : StepDef} (hs : s ∈ ordered) :
    s ∈ steps := hv.perm.mem_iff.mp hs

/-- A step is found under its own name. -/
theorem ValidOrder.findStep_eq (hv : ValidOrder steps ordered) {s : StepDef} (hs : s ∈ ordered) :
    findStep steps s.name = some s := by
  have hnd : (steps.map StepDef.name).Nodup :=
    ((hv.perm.map StepDef.name).nodup_iff).mp hv.nodup
  cases hf : findStep steps s.name with
  | none =>
      have := List.find?_eq_none.mp hf s (hv.mem_steps hs)
      simp at this
  | some t =>
      have ht := List.mem_of_find?_eq_some hf
      have hname : t.name = s.name := by simpa using List.find?_some hf
      rw [List.inj_on_of_nodup_map hnd ht (hv.mem_steps hs) hname]

end Split

/-! ## §3. The invariant. -/

/-- The status of a step that the loop may leave behind. -/
def Settled (s : StepDef) (status : StepStatus) : Prop :=
  status = .completed ∨ status = .skipped ∨ (status = .failed ∧ s.optional = true)

theorem Settled.ne_suspended {s : StepDef} {status : StepStatus} (h : Settled s status) :
    status ≠ .suspended := by
  rintro rfl
  rcases h with h | h | ⟨h, -⟩ <;> cases h

/-- Only an optional step is left behind failed. -/
theorem Settled.optional_of_failed {s : StepDef} (h : Settled s .failed) : s.optional = true := by
  rcases h with h | h | ⟨-, h⟩
  · cases h
  · cases h
  · exact h

/-- **The loop invariant**: `done` is behind the loop. -/
structure Healthy (done : List StepDef) (st : ExecState) : Prop where
  settled : ∀ s ∈ done, ∃ status, st.stepStatuses.get? s.name = some status ∧ Settled s status
  only : ∀ n, st.stepStatuses.contains n = true → n ∈ done.map StepDef.name
  recorded : ∀ s ∈ done, st.progress.status? s.name = st.stepStatuses.get? s.name
  waiting : ∀ n, n ∉ done.map StepDef.name →
    st.progress.status? n = none ∨ st.progress.status? n = some .pending
  noError : st.errorMessage = none
  notSuspended : st.pipelineSuspended = false

/-- What an iteration that goes on changes in the books. -/
structure Booked (st : ExecState) (step : StepDef) (status : StepStatus) (st' : ExecState) :
    Prop where
  statuses : st'.stepStatuses = st.stepStatuses.set step.name status
  progress_self : st'.progress.status? step.name = some status
  progress_ne : ∀ n, n ≠ step.name → st'.progress.get? n = st.progress.get? n
  errorMessage : st'.errorMessage = st.errorMessage
  pipelineSuspended : st'.pipelineSuspended = st.pipelineSuspended

theorem status?_set_self (p : Progress) (name : String) (info : StepInfo) :
    Progress.status? (p.set name info) name = info.status := by
  simp [Progress.status?]

theorem status?_congr {p q : Progress} {name : String} (h : p.get? name = q.get? name) :
    p.status? name = q.status? name := by
  rw [Progress.status?, Progress.status?, h]

/-- Marking a step after its attempts books its status. -/
theorem booked_mark {step : StepDef} {st st' : ExecState} {tr : Trace}
    {out : Except String Payload} (run : AttemptRun step st tr out st') {status : StepStatus}
    {info : StepInfo} (hinfo : info.status = some status) :
    Booked st step status (st'.mark step.name status info) := by
  have hframe := run.frame
  constructor
  case statuses => rw [mark_stepStatuses, run.stepStatuses]
  case progress_self => rw [mark_progress, status?_set_self, hinfo]
  case progress_ne =>
    -- the attempts wrote the progress of this step only
    intro n hn
    rw [mark_progress, Dict.get?_set_ne _ _ _ hn, run.progress_frame n hn]
  case errorMessage => rw [mark_errorMessage, hframe]
  case pipelineSuspended => rw [mark_pipelineSuspended, hframe]

/-- Marking a step that was not dispatched. -/
theorem booked_mark_self {step : StepDef} {st : ExecState} {status : StepStatus}
    {info : StepInfo} (hinfo : info.status = some status) :
    Booked st step status (st.mark step.name status info) := by
  refine ⟨rfl, ?_, ?_, rfl, rfl⟩
  · rw [mark_progress, status?_set_self, hinfo]
  · intro n hn
    rw [mark_progress, Dict.get?_set_ne _ _ _ hn]

/-- `steps_data` is not part of the books. -/
theorem Booked.stored {step : StepDef} {st st' : ExecState} {status : StepStatus}
    (h : Booked st step status st') (data : Dict String Payload) :
    Booked st step status { st' with stepsData := data } :=
  ⟨h.statuses, h.progress_self, h.progress_ne, h.errorMessage, h.pipelineSuspended⟩

section Step

variable {rt : Runtime} {steps ordered : List StepDef} {resume : Dict String StepInfo}
  {step : StepDef} {st st' : ExecState} {tr : Trace}

theorem resumeStep_next {prev : StepInfo} (h : resumeStep step st prev = some (.next st')) :
    (prev.resumeStatus = some .completed ∧ Booked st step .completed st'
        ∧ st'.failed = st.failed)
      ∨ (prev.resumeStatus = some .skipped ∧ Booked st step .skipped st'
        ∧ st'.failed = st.failed) := by
  unfold resumeStep at h
  split at h
  next hs =>
    simp only [Option.some.injEq, StepExit.next.injEq] at h
    subst h
    refine .inl ⟨hs, ?_, ?_⟩
    · split
      · exact booked_mark_self rfl
      · exact (booked_mark_self rfl).stored _
    · split <;> rfl
  next hs =>
    simp only [Option.some.injEq, StepExit.next.injEq] at h
    subst h
    exact .inr ⟨hs, booked_mark_self rfl, rfl⟩
  next => simp at h
  next => cases h

theorem resumeStep_stop {prev : StepInfo} (h : resumeStep step st prev = some (.stop st')) :
    prev.resumeStatus = some .suspended ∧ st'.pipelineSuspended = true := by
  unfold resumeStep at h
  split at h
  next => simp at h
  next => simp at h
  next hs =>
    simp only [Option.some.injEq, StepExit.stop.injEq] at h
    subst h
    exact ⟨hs, rfl⟩
  next => cases h

theorem resumeStep_raised {prev : StepInfo} {e : ExecuteError} :
    resumeStep step st prev ≠ some (.raised e) := by
  unfold resumeStep
  split <;> simp

theorem Failure.attemptRun {site : PersistSite} {cause : Value} {info : StepInfo}
    (h : Failure step st tr site cause info st') :
    (∃ out, AttemptRun step st tr out st') ∧ info.status = some .failed := by
  cases h with
  | handler run _ => exact ⟨⟨_, run⟩, rfl⟩
  | exception run => exact ⟨⟨_, run⟩, rfl⟩

/-- **An iteration that goes on** books a settled status for its step. -/
theorem StepRun.booked (h : StepRun rt steps ordered resume step st tr (.next st')) :
    ∃ status, Settled step status ∧ Booked st step status st' := by
  cases h with
  | resumed h =>
      obtain ⟨prev, hprev, hexit⟩ := Option.bind_eq_some_iff.mp h
      rcases resumeStep_next hexit with ⟨-, hb, -⟩ | ⟨-, hb, -⟩
      · exact ⟨_, .inl rfl, hb⟩
      · exact ⟨_, .inr (.inl rfl), hb⟩
  | blocked hnew h => exact ⟨.skipped, .inr (.inl rfl), booked_mark_self rfl⟩
  | skipWhen hnew h => exact ⟨.skipped, .inr (.inl rfl), booked_mark_self rfl⟩
  | handlerSkipped hnew hup hskip run hstatus =>
      exact ⟨.skipped, .inr (.inl rfl), (booked_mark run rfl).stored _⟩
  | completed hnew hup hskip run hstatus =>
      exact ⟨.completed, .inl rfl, (booked_mark run rfl).stored _⟩
  | failedOptional hnew hup hskip fail hopt =>
      obtain ⟨⟨out, run⟩, hinfo⟩ := fail.attemptRun
      exact ⟨.failed, .inr (.inr ⟨rfl, hopt⟩), booked_mark run hinfo⟩

/-- **The invariant is kept by every iteration that goes on.** -/
theorem Healthy.next {done : List StepDef} (hh : Healthy done st)
    (hfresh : step.name ∉ done.map StepDef.name)
    (h : StepRun rt steps ordered resume step st tr (.next st')) :
    Healthy (done ++ [step]) st' := by
  obtain ⟨status, hset, hb⟩ := h.booked
  -- names are unique, so that the steps before are not touched
  have hne : ∀ s ∈ done, s.name ≠ step.name := by
    intro s hs heq
    exact hfresh (List.mem_map.mpr ⟨s, hs, heq⟩)
  constructor
  case settled =>
    intro s hs
    rcases List.mem_append.mp hs with hs | hs
    · rw [hb.statuses, Dict.get?_set_ne _ _ _ (hne s hs)]
      exact hh.settled s hs
    · rw [List.mem_singleton.mp hs, hb.statuses, Dict.get?_set_self]
      exact ⟨status, rfl, hset⟩
  case only =>
    intro n hn
    rw [Dict.contains_iff_mem_keys, hb.statuses, Dict.mem_keys_set,
      ← Dict.contains_iff_mem_keys] at hn
    rw [List.map_append, List.mem_append]
    rcases hn with rfl | hn
    · exact .inr (by simp)
    · exact .inl (hh.only n hn)
  case recorded =>
    intro s hs
    rcases List.mem_append.mp hs with hs | hs
    · rw [status?_congr (hb.progress_ne _ (hne s hs)), hb.statuses,
        Dict.get?_set_ne _ _ _ (hne s hs)]
      exact hh.recorded s hs
    · rw [List.mem_singleton.mp hs, hb.progress_self, hb.statuses, Dict.get?_set_self]
  case waiting =>
    intro n hn
    rw [List.map_append, List.mem_append, not_or] at hn
    have hne' : n ≠ step.name := by simpa using hn.2
    rw [status?_congr (hb.progress_ne n hne')]
    exact hh.waiting n hn.1
  case noError => rw [hb.errorMessage, hh.noError]
  case notSuspended => rw [hb.pipelineSuspended, hh.notSuspended]

/-- A healthy loop never finds an upstream failure that blocks. -/
theorem Healthy.not_blocked {done rest : List StepDef} (hv : ValidOrder steps ordered)
    (hsplit : ordered = done ++ step :: rest) (hh : Healthy done st) :
    upstreamBlocked steps st step.needs = none := by
  unfold upstreamBlocked
  rw [List.find?_eq_none]
  intro d hd hblocked
  obtain ⟨s, hs, rfl⟩ := List.mem_map.mp (hv.needs_done hsplit d hd)
  obtain ⟨status, hget, hset⟩ := hh.settled s hs
  have hord : s ∈ ordered := by
    rw [hsplit]
    exact List.mem_append_left _ hs
  -- a settled need blocks only as failed and required
  rw [hget, hv.findStep_eq hord] at hblocked
  simp only [Bool.and_eq_true, beq_iff_eq, Option.some.injEq, Option.map_some,
    Option.getD_some, Bool.not_eq_true'] at hblocked
  rcases hset with h | h | h
  · simp [h] at hblocked
  · simp [h] at hblocked
  · simp [h.2] at hblocked

end Step

theorem buildInitialProgress_status? (n : String) :
    ∀ (l : List StepDef) (i : Nat) (acc : Progress),
      (acc.status? n = none ∨ acc.status? n = some .pending) →
      (buildInitialProgress l i acc).status? n = none
        ∨ (buildInitialProgress l i acc).status? n = some .pending
  | [], _, _, h => h
  | s :: rest, i, acc, h => by
      refine buildInitialProgress_status? n rest (i + 1) _ ?_
      by_cases hn : n = s.name
      · subst hn
        exact .inr (by rw [status?_set_self])
      · rw [status?_congr (Dict.get?_set_ne _ _ _ hn)]
        exact h

theorem healthy_initial (context : PipelineContext) (ordered : List StepDef) :
    Healthy [] (initialState context ordered) := by
  refine ⟨by simp, ?only, by simp, ?waiting, rfl, rfl⟩
  case only =>
    intro n hn
    exact absurd hn (by simp [initialState, Dict.contains])
  case waiting =>
    intro n _
    exact buildInitialProgress_status? n ordered 0 Dict.empty (.inl rfl)

/-! ## §4. The rule. -/

/-- **Induction over a run of the loop.**  `Inv` speaks of the steps behind, the
state and the calls made so far; it is established before the first iteration,
kept by each iteration that goes on, and turned into `Post` wherever the loop
ends. -/
theorem LoopRun.rule {rt : Runtime} {steps ordered : List StepDef}
    {resume : Dict String StepInfo} (hv : ValidOrder steps ordered)
    {Inv : List StepDef → ExecState → Trace → Prop}
    {Post : Trace → Except ExecuteError ExecState → Prop}
    (next : ∀ done step rest st tr₀ tr st', ordered = done ++ step :: rest → Healthy done st →
      Inv done st tr₀ → StepRun rt steps ordered resume step st tr (.next st') →
      Inv (done ++ [step]) st' (tr₀ ++ tr))
    (finish : ∀ st tr₀, Healthy ordered st → Inv ordered st tr₀ → Post tr₀ (.ok st))
    (stop : ∀ done step rest st tr₀ tr st', ordered = done ++ step :: rest → Healthy done st →
      Inv done st tr₀ → StepRun rt steps ordered resume step st tr (.stop st') →
      Post (tr₀ ++ tr) (.ok st'))
    (raised : ∀ done step rest st tr₀ tr e, ordered = done ++ step :: rest → Healthy done st →
      Inv done st tr₀ → StepRun rt steps ordered resume step st tr (.raised e) →
      Post (tr₀ ++ tr) (.error e)) :
    ∀ {rest : List StepDef} {st : ExecState} {tr : Trace} {out : Except ExecuteError ExecState},
      LoopRun rt steps ordered resume rest st tr out →
      ∀ (done : List StepDef) (tr₀ : Trace), ordered = done ++ rest → Healthy done st →
        Inv done st tr₀ → Post (tr₀ ++ tr) out := by
  intro rest st tr out h
  induction h with
  | nil =>
      intro done tr₀ hsplit hh hinv
      rw [List.append_nil] at hsplit ⊢
      subst hsplit
      exact finish _ _ hh hinv
  | @next step rest st tr st' tr' out head tail ih =>
      -- the step joins those behind the loop, its calls the calls made so far
      intro done tr₀ hsplit hh hinv
      rw [← List.append_assoc]
      refine ih (done ++ [step]) (tr₀ ++ tr) (by rw [hsplit]; simp)
        (hh.next (hv.fresh hsplit) head) ?_
      exact next done step rest st tr₀ tr st' hsplit hh hinv head
  | stop head =>
      intro done tr₀ hsplit hh hinv
      exact stop _ _ _ _ _ _ _ hsplit hh hinv head
  | raised head =>
      intro done tr₀ hsplit hh hinv
      exact raised _ _ _ _ _ _ _ hsplit hh hinv head

/-- The rule for the acting part of `execute`: a rejected definition makes no call. -/
theorem runPipeline_rule {rt : Runtime} {sorter : Sorter} (hsound : sorter.Sound)
    {steps : List StepDef} {existing : Option ExistingProgress}
    (Inv : List StepDef → List StepDef → ExecState → Trace → Prop)
    (Post : Trace → Except ExecuteError ExecState → Prop)
    (rejected : ∀ e, resolveDag sorter steps = .error e → Post [] (.error e))
    (start : ∀ ordered, resolveDag sorter steps = .ok ordered →
      Inv ordered [] (initialState rt.context ordered) [])
    (next : ∀ ordered done step rest st tr₀ tr st', ValidOrder steps ordered →
      ordered = done ++ step :: rest → Healthy done st → Inv ordered done st tr₀ →
      StepRun rt steps ordered (resumeStatuses existing) step st tr (.next st') →
      Inv ordered (done ++ [step]) st' (tr₀ ++ tr))
    (finish : ∀ ordered st tr₀, ValidOrder steps ordered → Healthy ordered st →
      Inv ordered ordered st tr₀ → Post tr₀ (.ok st))
    (stop : ∀ ordered done step rest st tr₀ tr st', ValidOrder steps ordered →
      ordered = done ++ step :: rest → Healthy done st → Inv ordered done st tr₀ →
      StepRun rt steps ordered (resumeStatuses existing) step st tr (.stop st') →
      Post (tr₀ ++ tr) (.ok st'))
    (raised : ∀ ordered done step rest st tr₀ tr e, ValidOrder steps ordered →
      ordered = done ++ step :: rest → Healthy done st → Inv ordered done st tr₀ →
      StepRun rt steps ordered (resumeStatuses existing) step st tr (.raised e) →
      Post (tr₀ ++ tr) (.error e))
    {tr : Trace} {out : Except ExecuteError ExecState}
    (h : (runPipeline rt sorter steps existing).Runs tr out) : Post tr out := by
  rcases runs_runPipeline h with ⟨e, he, rfl, rfl⟩ | ⟨ordered, hord, hloop⟩
  · exact rejected e he
  · have hv := validOrder_of_resolveDag hsound hord
    exact hloop.rule hv
      (fun done step rest st tr₀ tr st' hs hh hi hr =>
        next ordered done step rest st tr₀ tr st' hv hs hh hi hr)
      (fun st tr₀ hh hi => finish ordered st tr₀ hv hh hi)
      (fun done step rest st tr₀ tr st' hs hh hi hr =>
        stop ordered done step rest st tr₀ tr st' hv hs hh hi hr)
      (fun done step rest st tr₀ tr e hs hh hi hr =>
        raised ordered done step rest st tr₀ tr e hv hs hh hi hr)
      [] [] rfl (healthy_initial rt.context ordered) (start ordered hord)

end CmlCloudManager.Pipeline
