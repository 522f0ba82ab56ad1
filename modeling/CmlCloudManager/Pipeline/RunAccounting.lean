/-
  CmlCloudManager.Pipeline.RunAccounting
  ──────────────────────────────────────
  **THE BOOKS OF A RUN.**

  `execute` keeps its books in four places that are written separately: the four
  counters, `step_statuses`, the progress, and the updates sent to the control plane.
  `Balanced` says that they agree after a part of a run,

    • each counter is the number of steps with that status,
    • the last status persisted for a step with a status is that status,
    • nothing was asked or sent about a step without one,

  and every iteration keeps it (`StepRun.balanced`), the one that aborts included.
  `Concluded` is what the state says when the loop is over.  Together they make the
  `PipelineResult` right (`Accounted`).

  The one run that returns no result is the run in which the check of a `skip_when`
  raises something `_evaluate_skip` does not catch (`run_accounted_iff`).
-/
import CmlCloudManager.Pipeline.Handlers
import CmlCloudManager.Pipeline.Verdicts

namespace CmlCloudManager.Pipeline

open CmlCloudManager.Foundation

/-! ## §1. The counters. -/

/-- The counter of a status. -/
def ExecState.counter (st : ExecState) : StepStatus → Nat
  | .completed => st.completed
  | .failed => st.failed
  | .skipped => st.skipped
  | .suspended => st.suspendedCount
  | .pending => 0
  | .inProgress => 0

/-- The number of steps that have the status. -/
def stepsWith (statuses : Dict String StepStatus) (l : List StepDef) (status : StepStatus) : Nat :=
  l.countP fun s => statuses.get? s.name = some status

theorem counter_mark (st : ExecState) (name : String) {status : StepStatus} (info : StepInfo)
    (hsent : status ∈ sentStatusList) (status' : StepStatus) :
    (st.mark name status info).counter status'
      = st.counter status' + if status = status' then 1 else 0 := by
  have hcases : status = .completed ∨ status = .failed ∨ status = .skipped
      ∨ status = .suspended := by simpa [sentStatusList] using hsent
  rcases hcases with rfl | rfl | rfl | rfl <;> cases status' <;> rfl

theorem stepsWith_congr {statuses statuses' : Dict String StepStatus} {l : List StepDef}
    (h : ∀ s ∈ l, statuses'.get? s.name = statuses.get? s.name) (status : StepStatus) :
    stepsWith statuses' l status = stepsWith statuses l status := by
  refine List.countP_congr fun s hs => ?_
  rw [h s hs]

/-- A step that gets its first status is counted with it. -/
theorem stepsWith_set {statuses : Dict String StepStatus} {l : List StepDef}
    (hnodup : (l.map StepDef.name).Nodup) {step : StepDef} (hmem : step ∈ l)
    (hfresh : statuses.get? step.name = none) (status status' : StepStatus) :
    stepsWith (statuses.set step.name status) l status'
      = stepsWith statuses l status' + if status = status' then 1 else 0 := by
  obtain ⟨before, after, rfl⟩ := List.append_of_mem hmem
  rw [List.map_append, List.map_cons, List.nodup_append, List.nodup_cons] at hnodup
  obtain ⟨-, ⟨hafter, -⟩, hbefore⟩ := hnodup
  -- the other steps have other names
  have hleft : stepsWith (statuses.set step.name status) before status'
      = stepsWith statuses before status' := by
    refine stepsWith_congr (fun s hs => Dict.get?_set_ne _ _ _ fun heq => ?_) status'
    exact hbefore s.name (List.mem_map.mpr ⟨s, hs, rfl⟩) step.name List.mem_cons_self heq
  have hright : stepsWith (statuses.set step.name status) after status'
      = stepsWith statuses after status' := by
    refine stepsWith_congr (fun s hs => Dict.get?_set_ne _ _ _ fun heq => ?_) status'
    exact hafter (heq ▸ List.mem_map.mpr ⟨s, hs, rfl⟩)
  unfold stepsWith at hleft hright ⊢
  rw [List.countP_append, List.countP_append, List.countP_cons, List.countP_cons, hleft, hright,
    Dict.get?_set_self, hfresh]
  simp only [Option.some.injEq, decide_eq_true_eq, reduceCtorEq, decide_false, Bool.false_eq_true,
    if_false]
  omega

/-- A step has one status at most. -/
theorem sum_stepsWith_le (statuses : Dict String StepStatus) :
    ∀ l : List StepDef,
      stepsWith statuses l .completed + stepsWith statuses l .failed
        + stepsWith statuses l .skipped + stepsWith statuses l .suspended ≤ l.length
  | [] => Nat.le_refl _
  | s :: l => by
      have ih := sum_stepsWith_le statuses l
      unfold stepsWith at ih ⊢
      simp only [List.countP_cons, List.length_cons]
      cases hs : statuses.get? s.name with
      | none => simp only [reduceCtorEq, decide_false, Bool.false_eq_true, if_false]; omega
      | some status => cases status <;> simp <;> omega

/-- Where every step has one that is counted, they are all counted. -/
theorem sum_stepsWith_eq {statuses : Dict String StepStatus} :
    ∀ {l : List StepDef}, (∀ s ∈ l, ∃ status ∈ sentStatusList,
        statuses.get? s.name = some status) →
      stepsWith statuses l .completed + stepsWith statuses l .failed
        + stepsWith statuses l .skipped + stepsWith statuses l .suspended = l.length
  | [], _ => rfl
  | s :: l, h => by
      have ih := sum_stepsWith_eq fun t ht => h t (List.mem_cons_of_mem _ ht)
      obtain ⟨status, hsent, hs⟩ := h s List.mem_cons_self
      have hcases : status = .completed ∨ status = .failed ∨ status = .skipped
          ∨ status = .suspended := by simpa [sentStatusList] using hsent
      unfold stepsWith at ih ⊢
      simp only [List.countP_cons, List.length_cons, hs]
      rcases hcases with rfl | rfl | rfl | rfl <;> simp <;> omega

/-! ## §2. What was persisted of a step. -/

/-- The last status the control plane was told, by the run or by what it was resumed from. -/
def lastPersisted (resume : Dict String StepInfo) (tr : Trace) (name : String) :
    Option StepStatus :=
  ((updatesOf name tr).getLast?.map fun sent => sent.2.stepStatus).or
    ((resume.get? name).bind StepInfo.resumeStatus)

/-- The control plane has this status, and from the run itself if the run dispatched the step. -/
structure Noted (resume : Dict String StepInfo) (tr : Trace) (name : String)
    (status : StepStatus) : Prop where
  last : lastPersisted resume tr name = some status
  told : dispatchesOf name tr ≠ [] → updatesOf name tr ≠ []

section Noted

variable {rt : Runtime} {resume : Dict String StepInfo} {tr tr' : Trace} {name : String}
  {status : StepStatus}

theorem Noted.congr (h : Noted resume tr name status)
    (heq : eventsOf name tr' = eventsOf name tr) : Noted resume tr' name status := by
  obtain ⟨hlast, htold⟩ := h
  unfold lastPersisted updatesOf at hlast
  unfold dispatchesOf updatesOf at htold
  constructor
  case last =>
    unfold lastPersisted updatesOf
    rw [heq, hlast]
  case told =>
    unfold dispatchesOf updatesOf
    rw [heq]
    exact htold

/-- One update says it. -/
theorem noted_of_update {site : PersistSite} {rd : Option Payload} {err : Option Value}
    (h : updatesOf name tr = [(site, progressUpdate rt name status rd err)]) :
    Noted resume tr name status := by
  constructor
  case last =>
    unfold lastPersisted
    rw [h]
    rfl
  case told =>
    intro _
    rw [h]
    exact List.cons_ne_nil _ _

/-- Nothing was sent, and the run was resumed with it. -/
theorem noted_of_resumed (h : (resume.get? name).bind StepInfo.resumeStatus = some status) :
    Noted resume [] name status :=
  ⟨h, fun hne => absurd rfl hne⟩

end Noted

/-! ## §3. The books agree. -/

/-- **The books agree** after the calls of `tr`. -/
structure Balanced (ordered : List StepDef) (resume : Dict String StepInfo) (tr : Trace)
    (st : ExecState) : Prop where
  counted : ∀ status, st.counter status = stepsWith st.stepStatuses ordered status
  noted : ∀ s ∈ ordered, ∀ status, st.stepStatuses.get? s.name = some status →
    Noted resume tr s.name status
  silent : ∀ s ∈ ordered, st.stepStatuses.get? s.name = none → eventsOf s.name tr = []

/-- The order of the steps does not matter. -/
theorem Balanced.perm {ordered steps : List StepDef} {resume : Dict String StepInfo} {tr : Trace}
    {st : ExecState} (h : Balanced ordered resume tr st) (hperm : ordered.Perm steps) :
    Balanced steps resume tr st where
  counted := fun status => (h.counted status).trans (hperm.countP_eq _)
  noted := fun s hs => h.noted s (hperm.mem_iff.mpr hs)
  silent := fun s hs => h.silent s (hperm.mem_iff.mpr hs)

/-- A step gets a status, and its counter goes up. -/
structure Entered (st : ExecState) (step : StepDef) (status : StepStatus) (st' : ExecState) :
    Prop where
  statuses : st'.stepStatuses = st.stepStatuses.set step.name status
  counters : ∀ status', st'.counter status'
    = st.counter status' + if status = status' then 1 else 0

section Enter

variable {ordered : List StepDef} {resume : Dict String StepInfo} {step : StepDef}
  {st st' : ExecState} {tr own : Trace} {status : StepStatus}

theorem entered_mark (hsent : status ∈ sentStatusList) (info : StepInfo) :
    Entered st step status (st.mark step.name status info) :=
  ⟨rfl, counter_mark st step.name info hsent⟩

/-- The attempts enter nothing. -/
theorem AttemptRun.entered {out : Except String Payload} (run : AttemptRun step st tr out st')
    (hsent : status ∈ sentStatusList) (info : StepInfo) :
    Entered st step status (st'.mark step.name status info) := by
  have h := @entered_mark step st' status hsent info
  rw [run.frame] at h ⊢
  exact ⟨h.statuses, h.counters⟩

/-- `steps_data` is not part of the books. -/
theorem Entered.stored (h : Entered st step status st') (data : Dict String Payload) :
    Entered st step status { st' with stepsData := data } :=
  ⟨h.statuses, h.counters⟩

/-- **The books still agree** when a step without a status gets one and is reported. -/
theorem Balanced.enter (hnodup : (ordered.map StepDef.name).Nodup) (hmem : step ∈ ordered)
    (hfresh : st.stepStatuses.get? step.name = none) (h : Balanced ordered resume tr st)
    (hentered : Entered st step status st') (hown : ∀ e ∈ own, concerns e = step.name)
    (hnoted : Noted resume own step.name status) : Balanced ordered resume (tr ++ own) st' := by
  -- the calls concern this step, so the books of the others stay as they are
  have hothers : ∀ s : StepDef, s.name ≠ step.name →
      st'.stepStatuses.get? s.name = st.stepStatuses.get? s.name
        ∧ eventsOf s.name (tr ++ own) = eventsOf s.name tr := by
    intro s hne
    have hnone : eventsOf s.name own = [] :=
      eventsOf_eq_nil fun e he heq => hne (heq.symm.trans (hown e he))
    rw [hentered.statuses, Dict.get?_set_ne _ _ _ hne, eventsOf_append, hnone, List.append_nil]
    exact ⟨rfl, rfl⟩
  constructor
  case counted =>
    intro status'
    rw [hentered.counters, h.counted, hentered.statuses, stepsWith_set hnodup hmem hfresh]
  case noted =>
    intro s hs status' hget
    by_cases hne : s.name = step.name
    · rw [hne, hentered.statuses, Dict.get?_set_self] at hget
      obtain rfl := Option.some.inj hget
      rw [hne]
      refine hnoted.congr ?_
      rw [eventsOf_append, h.silent step hmem hfresh, List.nil_append]
    · obtain ⟨hsame, hevents⟩ := hothers s hne
      rw [hsame] at hget
      exact (h.noted s hs status' hget).congr hevents
  case silent =>
    intro s hs hget
    by_cases hne : s.name = step.name
    · rw [hne, hentered.statuses, Dict.get?_set_self] at hget
      cases hget
    · obtain ⟨hsame, hevents⟩ := hothers s hne
      rw [hevents]
      exact h.silent s hs (hsame ▸ hget)

/-- So do they after an abort. -/
theorem Balanced.abort (rt : Runtime) (hnodup : (ordered.map StepDef.name).Nodup) :
    ∀ (l : List StepDef) (st : ExecState) (tr : Trace), (∀ s ∈ l, s ∈ ordered) →
      Balanced ordered resume tr st →
      Balanced ordered resume (tr ++ abortTrace rt l st) (abortState l st)
  | [], st, tr, _, h => by
      rw [abortTrace, List.append_nil]
      exact h
  | remaining :: rest, st, tr, hsub, h => by
      have hrest : ∀ s ∈ rest, s ∈ ordered := fun s hs => hsub s (List.mem_cons_of_mem _ hs)
      unfold abortTrace abortState
      split
      next => exact h.abort rt hnodup rest st tr hrest
      next hnew =>
        have hfresh : st.stepStatuses.get? remaining.name = none := by
          rw [← Dict.contains_eq_false_iff]
          exact Bool.eq_false_iff.mpr hnew
        rw [← List.singleton_append, ← List.append_assoc]
        refine Balanced.abort rt hnodup rest _ _ hrest ?_
        refine h.enter hnodup (hsub _ List.mem_cons_self) hfresh (entered_mark (by decide) _)
          (by simp) (noted_of_update (dispatchesOf_persistEvent rt _ _ _ _ _).2)

end Enter

section Iteration

variable {rt : Runtime} {steps ordered : List StepDef} {resume : Dict String StepInfo}
  {step : StepDef} {st st' : ExecState} {tr own : Trace} {exit : StepExit}

/-- A resumed step is entered with the status it was left with. -/
theorem resumeStep_entered {prev : StepInfo} (h : resumeStep step st prev = some exit)
    (hexit : exit.state? = some st') :
    ∃ status, prev.resumeStatus = some status ∧ Entered st step status st' := by
  unfold resumeStep at h
  split at h
  next hstatus =>
    obtain rfl := Option.some.inj h
    obtain rfl := Option.some.inj hexit
    refine ⟨.completed, hstatus, ?_⟩
    split
    next => exact entered_mark (by decide) _
    next => exact (entered_mark (by decide) _).stored _
  next hstatus =>
    obtain rfl := Option.some.inj h
    obtain rfl := Option.some.inj hexit
    exact ⟨.skipped, hstatus, entered_mark (by decide) _⟩
  next hstatus =>
    obtain rfl := Option.some.inj h
    obtain rfl := Option.some.inj hexit
    have hmark : Entered st step .suspended (st.mark step.name .suspended prev) :=
      entered_mark (by decide) _
    exact ⟨.suspended, hstatus, hmark.statuses, hmark.counters⟩
  next => cases h

/-- **Every iteration leaves the books in agreement.** -/
theorem StepRun.balanced (hnodup : (ordered.map StepDef.name).Nodup) (hmem : step ∈ ordered)
    (hfresh : st.stepStatuses.get? step.name = none) (hbal : Balanced ordered resume tr st)
    (h : StepRun rt steps ordered resume step st own exit) (hexit : exit.state? = some st') :
    Balanced ordered resume (tr ++ own) st' := by
  -- attempts, one update, and the step has its status
  have reported : ∀ {attempts : Trace} {out : Except String Payload} {st₁ st₂ : ExecState}
      {site : PersistSite} {status : StepStatus} {rd : Option Payload} {err : Option Value},
      AttemptRun step st attempts out st₁ → Entered st step status st₂ →
      Balanced ordered resume
        (tr ++ (attempts ++ [persistEvent rt site step.name status rd err])) st₂ :=
    fun run hentered => hbal.enter hnodup hmem hfresh hentered
      (attempts_concern run.attempts (by simp))
      (noted_of_update (calls_of_step run.attempts _ _ _ _).2)
  have skipped : ∀ {site : PersistSite} {info : StepInfo},
      Balanced ordered resume (tr ++ [persistEvent rt site step.name .skipped none none])
        (st.mark step.name .skipped info) :=
    hbal.enter hnodup hmem hfresh (entered_mark (by decide) _) (by simp)
      (noted_of_update (dispatchesOf_persistEvent rt _ _ _ _ _).2)
  cases h with
  | resumed h =>
      obtain ⟨prev, hprev, hresumed⟩ := Option.bind_eq_some_iff.mp h
      obtain ⟨status, hstatus, hentered⟩ := resumeStep_entered hresumed hexit
      refine hbal.enter hnodup hmem hfresh hentered (by simp) (noted_of_resumed ?_)
      rw [hprev]
      exact hstatus
  | blocked hnew h =>
      obtain rfl := Option.some.inj hexit
      exact skipped
  | crashed hnew h => cases hexit
  | skipWhen hnew h =>
      obtain rfl := Option.some.inj hexit
      exact skipped
  | handlerSkipped hnew hup hskip run hstatus =>
      obtain rfl := Option.some.inj hexit
      exact reported run ((run.entered (by decide) _).stored _)
  | suspended hnew hup hskip run hstatus =>
      obtain rfl := Option.some.inj hexit
      have hmark := run.entered (show StepStatus.suspended ∈ sentStatusList by decide) {}
      exact reported run ⟨hmark.statuses, hmark.counters⟩
  | completed hnew hup hskip run hstatus =>
      obtain rfl := Option.some.inj hexit
      exact reported run ((run.entered (by decide) _).stored _)
  | failedOptional hnew hup hskip fail hopt =>
      obtain rfl := Option.some.inj hexit
      obtain ⟨⟨out, run⟩, -⟩ := fail.attemptRun
      exact reported run (run.entered (by decide) _)
  | @failedRequired attempts site cause info st₁ hnew hup hskip fail hopt =>
      obtain rfl := Option.some.inj hexit
      obtain ⟨⟨out, run⟩, -⟩ := fail.attemptRun
      -- the failure is entered and reported, then the abort goes over the order
      rw [← List.singleton_append, ← List.append_assoc attempts, ← List.append_assoc tr]
      refine Balanced.abort rt hnodup ordered _ _ (fun s hs => hs) ?_
      have hmark := run.entered (show StepStatus.failed ∈ sentStatusList by decide) info
      exact reported run ⟨hmark.statuses, hmark.counters⟩

end Iteration

/-! ## §4. How the loop ends. -/

/-- The abort skips what has no status. -/
theorem abortState_skips {name : String} :
    ∀ (l : List StepDef) (st : ExecState), name ∈ l.map StepDef.name →
      st.stepStatuses.get? name = none →
      (abortState l st).stepStatuses.get? name = some .skipped
  | remaining :: rest, st, hmem, hnone => by
      unfold abortState
      split
      next hseen =>
        have hne : name ≠ remaining.name := by
          rintro rfl
          rw [Dict.contains, hnone] at hseen
          cases hseen
        exact abortState_skips rest st ((List.mem_cons.mp hmem).resolve_left hne) hnone
      next =>
        by_cases hname : name = remaining.name
        · subst hname
          exact abortState_get? rest _ (Dict.get?_set_self _ _ _)
        · refine abortState_skips rest _ ((List.mem_cons.mp hmem).resolve_left hname) ?_
          rw [mark_stepStatuses, Dict.get?_set_ne _ _ _ hname, hnone]

/-- What the state says of the steps when the loop is over. -/
structure Concluded (ordered : List StepDef) (final : ExecState) : Prop where
  suspended_iff : final.pipelineSuspended = true
    ↔ ∃ s ∈ ordered, final.stepStatuses.get? s.name = some .suspended
  failed_iff : final.errorMessage.isSome = true
    ↔ ∃ s ∈ ordered, final.stepStatuses.get? s.name = some .failed ∧ s.optional = false
  halted : final.pipelineSuspended = true → final.errorMessage = none
  counted : final.pipelineSuspended = false →
    ∀ s ∈ ordered, final.stepStatuses.get? s.name ≠ none
  alone : stepsWith final.stepStatuses ordered .suspended ≤ 1

/-- The order of the steps does not matter. -/
theorem Concluded.perm {ordered steps : List StepDef} {final : ExecState}
    (h : Concluded ordered final) (hperm : ordered.Perm steps) : Concluded steps final where
  suspended_iff := h.suspended_iff.trans (exists_congr fun _ => and_congr_left' hperm.mem_iff)
  failed_iff := h.failed_iff.trans (exists_congr fun _ => and_congr_left' hperm.mem_iff)
  halted := h.halted
  counted := fun hsus s hs => h.counted hsus s (hperm.mem_iff.mpr hs)
  alone := Nat.le_trans (Nat.le_of_eq (hperm.countP_eq _).symm) h.alone

/-- The loop is left at `step`: `rest` is ahead of it. -/
inductive Halted (step : StepDef) (rest : List StepDef) (final : ExecState) : Prop where
  | suspended (own : final.stepStatuses.get? step.name = some .suspended)
      (ahead : ∀ s ∈ rest, final.stepStatuses.get? s.name = none)
      (herr : final.errorMessage = none) (hsus : final.pipelineSuspended = true)
  | aborted (hopt : step.optional = false)
      (own : final.stepStatuses.get? step.name = some .failed)
      (ahead : ∀ s ∈ rest, final.stepStatuses.get? s.name = some .skipped)
      (herr : final.errorMessage.isSome = true) (hsus : final.pipelineSuspended = false)

/-- No step behind the loop is suspended, or failed and required. -/
def AllSettled (done : List StepDef) (final : ExecState) : Prop :=
  ∀ s ∈ done, ∃ status, final.stepStatuses.get? s.name = some status ∧ Settled s status

section Ends

variable {rt : Runtime} {steps ordered done rest : List StepDef} {resume : Dict String StepInfo}
  {step : StepDef} {st final : ExecState} {own : Trace}

theorem AllSettled.not_suspended (h : AllSettled done final) {s : StepDef} (hs : s ∈ done) :
    final.stepStatuses.get? s.name ≠ some .suspended := by
  obtain ⟨status, hget, hsettled⟩ := h s hs
  rw [hget]
  intro heq
  exact hsettled.ne_suspended (Option.some.inj heq)

theorem AllSettled.optional (h : AllSettled done final) {s : StepDef} (hs : s ∈ done)
    (hfailed : final.stepStatuses.get? s.name = some .failed) : s.optional = true := by
  obtain ⟨status, hget, hsettled⟩ := h s hs
  rw [hget] at hfailed
  obtain rfl := Option.some.inj hfailed
  exact hsettled.optional_of_failed

theorem AllSettled.counted (h : AllSettled done final) {s : StepDef} (hs : s ∈ done) :
    final.stepStatuses.get? s.name ≠ none := by
  obtain ⟨status, hget, -⟩ := h s hs
  rw [hget]
  exact Option.some_ne_none status

theorem AllSettled.stepsWith_suspended (h : AllSettled done final) :
    stepsWith final.stepStatuses done .suspended = 0 := by
  refine List.countP_eq_zero.mpr fun s hs => ?_
  rw [decide_eq_true_iff]
  exact h.not_suspended hs

/-- Past all steps. -/
theorem AllSettled.concluded (h : AllSettled ordered final) (herr : final.errorMessage = none)
    (hsus : final.pipelineSuspended = false) : Concluded ordered final := by
  constructor
  case suspended_iff =>
    rw [hsus]
    constructor
    · intro hfalse
      cases hfalse
    · rintro ⟨s, hs, hget⟩
      exact absurd hget (h.not_suspended hs)
  case failed_iff =>
    rw [herr]
    constructor
    · intro hfalse
      cases hfalse
    · rintro ⟨s, hs, hget, hopt⟩
      rw [h.optional hs hget] at hopt
      cases hopt
  case halted => exact fun _ => herr
  case counted => exact fun _ s hs => h.counted hs
  case alone =>
    rw [h.stepsWith_suspended]
    exact Nat.zero_le 1

/-- At a step. -/
theorem Halted.concluded (hsettled : AllSettled done final) (h : Halted step rest final) :
    Concluded (done ++ step :: rest) final := by
  have hmem : step ∈ done ++ step :: rest := by simp
  -- the steps before have settled: only this one and those ahead may be suspended
  have hcount : stepsWith final.stepStatuses (done ++ step :: rest) .suspended
      = (if final.stepStatuses.get? step.name = some .suspended then 1 else 0)
        + stepsWith final.stepStatuses rest .suspended := by
    have hdone := hsettled.stepsWith_suspended
    unfold stepsWith at hdone ⊢
    rw [List.countP_append, List.countP_cons, hdone]
    simp only [decide_eq_true_eq]
    omega
  have hparts : ∀ {s : StepDef}, s ∈ done ++ step :: rest → s ∈ done ∨ s = step ∨ s ∈ rest := by
    intro s hs
    simpa using hs
  cases h with
  | suspended own ahead herr hsus =>
      have hahead : ∀ s ∈ rest, ∀ status, final.stepStatuses.get? s.name ≠ some status := by
        intro s hs status heq
        rw [ahead s hs] at heq
        cases heq
      constructor
      case suspended_iff => exact ⟨fun _ => ⟨step, hmem, own⟩, fun _ => hsus⟩
      case failed_iff =>
        rw [herr]
        constructor
        · intro hfalse
          cases hfalse
        · rintro ⟨s, hs, hget, hopt⟩
          rcases hparts hs with hs | rfl | hs
          · rw [hsettled.optional hs hget] at hopt
            cases hopt
          · rw [own] at hget
            cases hget
          · exact absurd hget (hahead s hs _)
      case halted => exact fun _ => herr
      case counted =>
        intro hfalse
        rw [hsus] at hfalse
        cases hfalse
      case alone =>
        -- nothing ahead has a status, so this step is the only one that is suspended
        have hrest : stepsWith final.stepStatuses rest .suspended = 0 :=
          List.countP_eq_zero.mpr fun s hs => by simpa using hahead s hs .suspended
        rw [if_pos own] at hcount
        omega
  | aborted hopt own ahead herr hsus =>
      constructor
      case suspended_iff =>
        rw [hsus]
        constructor
        · intro hfalse
          cases hfalse
        · rintro ⟨s, hs, hget⟩
          rcases hparts hs with hs | rfl | hs
          · exact absurd hget (hsettled.not_suspended hs)
          · rw [own] at hget
            cases hget
          · rw [ahead s hs] at hget
            cases hget
      case failed_iff => exact ⟨fun _ => ⟨step, hmem, own, hopt⟩, fun _ => herr⟩
      case halted =>
        intro hfalse
        rw [hsus] at hfalse
        cases hfalse
      case counted =>
        intro _ s hs
        rcases hparts hs with hs | rfl | hs
        · exact hsettled.counted hs
        · rw [own]
          exact Option.some_ne_none _
        · rw [ahead s hs]
          exact Option.some_ne_none _
      case alone =>
        have hrest : stepsWith final.stepStatuses rest .suspended = 0 :=
          List.countP_eq_zero.mpr fun s hs => by rw [ahead s hs]; decide
        rw [if_neg (by rw [own]; decide)] at hcount
        omega

/-- What is ahead of a healthy loop has no status. -/
theorem Healthy.ahead (hv : ValidOrder steps ordered) (hsplit : ordered = done ++ step :: rest)
    (hh : Healthy done st) {s : StepDef} (hs : s ∈ rest) :
    s.name ≠ step.name ∧ st.stepStatuses.get? s.name = none := by
  have hnodup := hv.nodup
  rw [hsplit, List.map_append, List.map_cons, List.nodup_append, List.nodup_cons] at hnodup
  obtain ⟨-, ⟨hstep, -⟩, hdone⟩ := hnodup
  have hname : s.name ∈ rest.map StepDef.name := List.mem_map.mpr ⟨s, hs, rfl⟩
  refine ⟨fun heq => hstep (heq ▸ hname), ?_⟩
  rw [← Dict.contains_eq_false_iff, Bool.eq_false_iff]
  intro hseen
  exact hdone _ (hh.only _ hseen) _ (List.mem_cons_of_mem _ hname) rfl

/-- The step the loop is at has no status. -/
theorem Healthy.own_fresh (hv : ValidOrder steps ordered) (hsplit : ordered = done ++ step :: rest)
    (hh : Healthy done st) : st.stepStatuses.get? step.name = none := by
  rw [← Dict.contains_eq_false_iff, Bool.eq_false_iff]
  exact fun hseen => hv.fresh hsplit (hh.only _ hseen)

/-- **An iteration that leaves the loop** has suspended its step, or aborts. -/
theorem StepRun.halted (hv : ValidOrder steps ordered) (hsplit : ordered = done ++ step :: rest)
    (hh : Healthy done st) (h : StepRun rt steps ordered resume step st own (.stop final)) :
    Halted step rest final := by
  -- a suspension, new or resumed, leaves everything ahead without a status
  have suspended : ∀ st₁ : ExecState, st₁.stepStatuses = st.stepStatuses →
      final.stepStatuses = st₁.stepStatuses.set step.name .suspended →
      final.errorMessage = none → final.pipelineSuspended = true → Halted step rest final := by
    intro st₁ hsame hset herr hsus
    refine .suspended ?_ (fun s hs => ?_) herr hsus
    · rw [hset, Dict.get?_set_self]
    · obtain ⟨hne, hnone⟩ := hh.ahead hv hsplit hs
      rw [hset, Dict.get?_set_ne _ _ _ hne, hsame, hnone]
  cases h with
  | resumed h =>
      obtain ⟨prev, -, hexit⟩ := Option.bind_eq_some_iff.mp h
      obtain ⟨hstatus, -⟩ := resumeStep_stop hexit
      simp only [resumeStep, hstatus, Option.some.injEq, StepExit.stop.injEq] at hexit
      subst hexit
      exact suspended st rfl rfl hh.noError rfl
  | suspended hnew hup hskip run hstatus =>
      refine suspended _ run.stepStatuses rfl ?_ rfl
      rw [← hh.noError, run.frame]
      rfl
  | @failedRequired attempts site cause info st₁ hnew hup hskip fail hopt =>
      obtain ⟨⟨out, run⟩, -⟩ := fail.attemptRun
      obtain ⟨herr, hsus⟩ := abortState_errorMessage ordered (failedState step cause info st₁)
      refine .aborted hopt (get?_aborted cause info) (fun s hs => ?_) ?_ ?_
      · obtain ⟨hne, hnone⟩ := hh.ahead hv hsplit hs
        refine abortState_skips ordered _ ?_ ?_
        · rw [hsplit]
          exact List.mem_map.mpr ⟨s, by simp [hs], rfl⟩
        · show (st₁.stepStatuses.set step.name _).get? s.name = none
          rw [Dict.get?_set_ne _ _ _ hne, run.stepStatuses, hnone]
      · rw [herr]
        rfl
      · rw [hsus, ← hh.notSuspended, run.frame]
        rfl

end Ends

/-- **The books at the end of a run**: they agree, and the state says how the loop ended. -/
theorem runPipeline_books {rt : Runtime} {sorter : Sorter} (hsound : sorter.Sound)
    {steps : List StepDef} {existing : Option ExistingProgress} {tr : Trace}
    {out : Except ExecuteError ExecState}
    (h : (runPipeline rt sorter steps existing).Runs tr out) {final : ExecState}
    (hout : out = .ok final) :
    Balanced steps (resumeStatuses existing) tr final ∧ Concluded steps final := by
  revert final
  refine runPipeline_rule hsound
    (fun ordered _ st tr => Balanced ordered (resumeStatuses existing) tr st)
    (fun tr out => ∀ {final : ExecState}, out = .ok final →
      Balanced steps (resumeStatuses existing) tr final ∧ Concluded steps final)
    ?rejected ?start ?next ?finish ?stop ?raised h
  case rejected =>
    intro e _ final hout
    cases hout
  case start =>
    intro ordered _
    refine ⟨fun status => ?_, fun s _ status hget => ?_, fun _ _ _ => rfl⟩
    · have hnone : stepsWith (initialState rt.context ordered).stepStatuses ordered status = 0 :=
        List.countP_eq_zero.mpr fun s _ => by simp [initialState]
      rw [hnone]
      cases status <;> rfl
    · cases hget
  case next =>
    intro ordered done step rest st tr₀ own st' hv hsplit hh hbal hrun
    exact hrun.balanced hv.nodup (by rw [hsplit]; simp) (hh.own_fresh hv hsplit) hbal rfl
  case finish =>
    intro ordered st tr₀ hv hh hbal final hout
    obtain rfl := Except.ok.inj hout
    have hsettled : AllSettled ordered st := hh.settled
    exact ⟨hbal.perm hv.perm, (hsettled.concluded hh.noError hh.notSuspended).perm hv.perm⟩
  case stop =>
    intro ordered done step rest st tr₀ own st' hv hsplit hh hbal hrun final hout
    obtain rfl := Except.ok.inj hout
    have hbal' : Balanced ordered (resumeStatuses existing) (tr₀ ++ own) st' :=
      hrun.balanced hv.nodup (by rw [hsplit]; simp) (hh.own_fresh hv hsplit) hbal rfl
    -- what is behind the loop stays settled
    have hleft : LoopRun rt steps ordered (resumeStatuses existing) (step :: rest) st own
        (.ok st') := .stop hrun
    have hsettled : AllSettled done st' := by
      intro s hs
      rw [hleft.get?_final hv done hsplit hh st' rfl s hs]
      exact hh.settled s hs
    refine ⟨hbal'.perm hv.perm, Concluded.perm ?_ hv.perm⟩
    rw [hsplit]
    exact (hrun.halted hv hsplit hh).concluded hsettled
  case raised =>
    intro ordered done step rest st tr₀ own e hv hsplit hh hbal hrun final hout
    cases hout

/-! ## §5. The result. -/

/-- **The result accounts for the run**: `statuses` are the statuses the run gave. -/
structure Accounted (steps : List StepDef) (resume : Dict String StepInfo) (tr : Trace)
    (statuses : Dict String StepStatus) (result : PipelineResult) : Prop where
  completed : result.stepsCompleted = stepsWith statuses steps .completed
  failed : result.stepsFailed = stepsWith statuses steps .failed
  skipped : result.stepsSkipped = stepsWith statuses steps .skipped
  suspended : result.stepsSuspended = stepsWith statuses steps .suspended
  /-- A step has no status that is not counted. -/
  counted : ∀ s ∈ steps, ∀ status, statuses.get? s.name = some status → status ∈ sentStatusList
  total_le : result.stepsCompleted + result.stepsFailed + result.stepsSkipped
    + result.stepsSuspended ≤ steps.length
  total : result.status ≠ .suspended → result.stepsCompleted + result.stepsFailed
    + result.stepsSkipped + result.stepsSuspended = steps.length
  suspended_one : result.stepsSuspended = if result.status = .suspended then 1 else 0
  failed_iff : result.status = .failed
    ↔ ∃ s ∈ steps, statuses.get? s.name = some .failed ∧ s.optional = false
  partial_iff : result.status = .partialSuccess
    ↔ (∃ s ∈ steps, statuses.get? s.name = some .failed)
      ∧ ∀ s ∈ steps, statuses.get? s.name ≠ some .suspended
        ∧ (statuses.get? s.name = some .failed → s.optional = true)
  completed_iff : result.status = .completed
    ↔ ∀ s ∈ steps, statuses.get? s.name ≠ some .failed ∧ statuses.get? s.name ≠ some .suspended
  /-- The status of a step is the last one persisted. -/
  persisted : ∀ s ∈ steps, ∀ status, statuses.get? s.name = some status →
    lastPersisted resume tr s.name = some status
  /-- A step that was dispatched has one, and the run itself has sent it. -/
  dispatched : ∀ s ∈ steps, dispatchesOf s.name tr ≠ [] →
    ∃ sent, (updatesOf s.name tr).getLast? = some sent
      ∧ statuses.get? s.name = some sent.2.stepStatus

section Status

variable {final : ExecState}

theorem terminalStatus_suspended_iff :
    terminalStatus final = .suspended ↔ final.pipelineSuspended = true := by
  unfold terminalStatus
  split
  next h => simp [h]
  next h =>
    split
    next => simp [h]
    next => split <;> simp [h]

theorem terminalStatus_failed_iff (hhalted : final.pipelineSuspended = true →
    final.errorMessage = none) :
    terminalStatus final = .failed ↔ final.errorMessage.isSome = true := by
  unfold terminalStatus
  split
  next h => simp [hhalted h]
  next =>
    split
    next h => simp [h]
    next h => split <;> simp [h]

theorem terminalStatus_partial_iff :
    terminalStatus final = .partialSuccess
      ↔ final.pipelineSuspended = false ∧ final.errorMessage.isSome = false ∧ 0 < final.failed := by
  unfold terminalStatus
  split
  next h => simp [h]
  next h =>
    split
    next h' => simp [h']
    next h' =>
      have hnone : final.errorMessage.isSome = false := Bool.eq_false_iff.mpr h'
      split
      next hpos => simp [hnone, Bool.eq_false_iff.mpr h, hpos]
      next hzero => simp [hzero]

theorem terminalStatus_completed_iff :
    terminalStatus final = .completed
      ↔ final.pipelineSuspended = false ∧ final.errorMessage.isSome = false
        ∧ final.failed = 0 := by
  unfold terminalStatus
  split
  next h => simp [h]
  next h =>
    split
    next h' => simp [h']
    next h' =>
      have hnone : final.errorMessage.isSome = false := Bool.eq_false_iff.mpr h'
      split
      next hpos => simp [hnone, Nat.ne_of_gt hpos]
      next hzero => simp [hnone, Bool.eq_false_iff.mpr h, Nat.eq_zero_of_not_pos hzero]

end Status

section Result

variable {steps : List StepDef} {resume : Dict String StepInfo} {tr : Trace}
  {final : ExecState}

/-- A status that is there is counted. -/
theorem Balanced.sent (h : Balanced steps resume tr final) {s : StepDef} (hs : s ∈ steps)
    {status : StepStatus} (hget : final.stepStatuses.get? s.name = some status) :
    status ∈ sentStatusList := by
  have hpos : stepsWith final.stepStatuses steps status ≠ 0 := by
    intro hzero
    exact List.countP_eq_zero.mp hzero s hs (decide_eq_true hget)
  rw [← h.counted] at hpos
  cases status with
  | pending => exact absurd rfl hpos
  | inProgress => exact absurd rfl hpos
  | _ => decide

theorem Balanced.exists_failed (h : Balanced steps resume tr final) :
    0 < final.failed ↔ ∃ s ∈ steps, final.stepStatuses.get? s.name = some .failed := by
  have hcount : final.failed = stepsWith final.stepStatuses steps .failed := h.counted .failed
  rw [hcount]
  unfold stepsWith
  rw [List.countP_pos_iff]
  simp only [decide_eq_true_eq]

theorem Balanced.none_failed (h : Balanced steps resume tr final) :
    final.failed = 0 ↔ ∀ s ∈ steps, final.stepStatuses.get? s.name ≠ some .failed := by
  have hpos : final.failed = 0 ↔ ¬ 0 < final.failed := by omega
  rw [hpos, h.exists_failed]
  simp only [not_exists, not_and, ne_eq]

/-- What the counters add up to. -/
theorem Balanced.sum_counters (h : Balanced steps resume tr final) :
    final.completed + final.failed + final.skipped + final.suspendedCount
      = stepsWith final.stepStatuses steps .completed + stepsWith final.stepStatuses steps .failed
        + stepsWith final.stepStatuses steps .skipped
        + stepsWith final.stepStatuses steps .suspended := by
  rw [← h.counted .completed, ← h.counted .failed, ← h.counted .skipped, ← h.counted .suspended]
  rfl

theorem Concluded.none_suspended (h : Concluded steps final) :
    final.pipelineSuspended = false
      ↔ ∀ s ∈ steps, final.stepStatuses.get? s.name ≠ some .suspended := by
  rw [← Bool.not_eq_true, h.suspended_iff]
  simp only [not_exists, not_and, ne_eq]

theorem Concluded.failures_optional (h : Concluded steps final) :
    final.errorMessage.isSome = false
      ↔ ∀ s ∈ steps, final.stepStatuses.get? s.name = some .failed → s.optional = true := by
  rw [← Bool.not_eq_true, h.failed_iff]
  simp only [not_exists, not_and, Bool.not_eq_false]

/-- **Books that agree, and a loop that is over, make the result right.** -/
theorem Balanced.accounted (rt : Runtime) (pipeline : PipelineDef)
    (hbal : Balanced steps resume tr final) (hend : Concluded steps final) :
    Accounted steps resume tr final.stepStatuses (finishPipeline rt pipeline final) := by
  have hsuspended : ¬ terminalStatus final = .suspended ↔ final.pipelineSuspended = false := by
    rw [terminalStatus_suspended_iff, Bool.not_eq_true]
  constructor
  case completed => exact hbal.counted .completed
  case failed => exact hbal.counted .failed
  case skipped => exact hbal.counted .skipped
  case suspended => exact hbal.counted .suspended
  case counted => exact fun s hs status hget => hbal.sent hs hget
  case total_le =>
    show final.completed + final.failed + final.skipped + final.suspendedCount ≤ steps.length
    rw [hbal.sum_counters]
    exact sum_stepsWith_le _ _
  case total =>
    intro hne
    show final.completed + final.failed + final.skipped + final.suspendedCount = steps.length
    rw [hbal.sum_counters]
    refine sum_stepsWith_eq fun s hs => ?_
    obtain ⟨status, hget⟩ := Option.ne_none_iff_exists'.mp
      (hend.counted (hsuspended.mp hne) s hs)
    exact ⟨status, hbal.sent hs hget, hget⟩
  case suspended_one =>
    show final.suspendedCount = if terminalStatus final = .suspended then 1 else 0
    have hone : final.suspendedCount = stepsWith final.stepStatuses steps .suspended :=
      hbal.counted .suspended
    have halone := hend.alone
    have hpos : 0 < stepsWith final.stepStatuses steps .suspended
        ↔ final.pipelineSuspended = true := by
      unfold stepsWith
      rw [hend.suspended_iff, List.countP_pos_iff]
      simp only [decide_eq_true_eq]
    rw [← terminalStatus_suspended_iff] at hpos
    split
    next h =>
      have h1 := hpos.mpr h
      omega
    next h =>
      have h0 := mt hpos.mp h
      omega
  case failed_iff =>
    show terminalStatus final = .failed ↔ _
    rw [terminalStatus_failed_iff hend.halted, hend.failed_iff]
  case partial_iff =>
    show terminalStatus final = .partialSuccess ↔ _
    rw [terminalStatus_partial_iff, hend.none_suspended, hend.failures_optional,
      hbal.exists_failed]
    constructor
    · rintro ⟨hsus, hreq, hfail⟩
      exact ⟨hfail, fun s hs => ⟨hsus s hs, hreq s hs⟩⟩
    · rintro ⟨hfail, hall⟩
      exact ⟨fun s hs => (hall s hs).1, fun s hs => (hall s hs).2, hfail⟩
  case completed_iff =>
    show terminalStatus final = .completed ↔ _
    rw [terminalStatus_completed_iff, hend.none_suspended, hend.failures_optional,
      hbal.none_failed]
    constructor
    · rintro ⟨hsus, -, hfail⟩
      exact fun s hs => ⟨hfail s hs, hsus s hs⟩
    · intro hall
      exact ⟨fun s hs => (hall s hs).2, fun s hs hfail => absurd hfail (hall s hs).1,
        fun s hs => (hall s hs).1⟩
  case persisted => exact fun s hs status hget =>
    (hbal.noted s hs status hget).last
  case dispatched =>
    intro s hs hdispatched
    cases hget : final.stepStatuses.get? s.name with
    | none =>
        -- nothing happened to a step without a status
        unfold dispatchesOf at hdispatched
        rw [hbal.silent s hs hget] at hdispatched
        exact absurd rfl hdispatched
    | some status =>
        obtain ⟨hlast, htold⟩ := hbal.noted s hs status hget
        obtain ⟨sent, hsent⟩ := Option.ne_none_iff_exists'.mp
          (mt List.getLast?_eq_none_iff.mp (htold hdispatched))
        refine ⟨sent, hsent, ?_⟩
        unfold lastPersisted at hlast
        rw [hsent] at hlast
        exact hlast.symm

end Result

/-! ## §6. Runs that return no result. -/

/-- The loop, started in a state over some steps, comes to a step in another state, after the
calls of the trace. -/
inductive ComesTo (rt : Runtime) (steps ordered : List StepDef) (resume : Dict String StepInfo) :
    List StepDef → ExecState → Trace → StepDef → ExecState → Prop where
  | here {step rest st} : ComesTo rt steps ordered resume (step :: rest) st [] step st
  | later {step rest st own st' before s s'}
      (run : (processStep rt steps ordered resume step st).Runs own (.next st'))
      (comes : ComesTo rt steps ordered resume rest st' before s s') :
      ComesTo rt steps ordered resume (step :: rest) st (own ++ before) s s'

/-- No `skip_when` that the run checks raises anything but what `_evaluate_skip` catches.  A step
that is resumed is not checked. -/
def SkipChecksEvaluate (rt : Runtime) (steps ordered : List StepDef)
    (resume : Dict String StepInfo) (tr : Trace) : Prop :=
  ∀ before after step st, tr = before ++ after →
    ComesTo rt steps ordered resume ordered (initialState rt.context ordered) before step st →
    ¬ Resumable (resume.get? step.name) → ∀ e, shouldSkip rt step st.stepsData ≠ .error e

section Checks

variable {rt : Runtime} {steps ordered : List StepDef} {resume : Dict String StepInfo}

theorem resumeStep_of_not_resumable {step : StepDef} {st : ExecState} {prev : Option StepInfo}
    (h : ¬ Resumable prev) : prev.bind (resumeStep step st) = none := by
  cases prev with
  | none => rfl
  | some info =>
      rw [Option.bind_some]
      unfold resumeStep
      split
      next hstatus => exact absurd (.inl hstatus) h
      next hstatus => exact absurd (.inr (.inl hstatus)) h
      next hstatus => exact absurd (.inr (.inr hstatus)) h
      next => rfl

/-- A check that raises ends the run. -/
theorem ComesTo.raises (hv : ValidOrder steps ordered) {rest : List StepDef} {st : ExecState}
    {before : Trace} {step : StepDef} {st' : ExecState}
    (h : ComesTo rt steps ordered resume rest st before step st')
    (hnew : ¬ Resumable (resume.get? step.name)) {e : ExecuteError}
    (hraises : shouldSkip rt step st'.stepsData = .error e) :
    ∀ {done : List StepDef} {after : Trace} {out : Except ExecuteError ExecState},
      ordered = done ++ rest → Healthy done st →
      (runLoop rt steps ordered resume rest st).Runs (before ++ after) out → out = .error e := by
  induction h with
  | @here step rest st =>
      intro done after out hsplit hh hrun
      have hprocess : processStep rt steps ordered resume step st = .done (.raised e) := by
        unfold processStep runStep
        rw [resumeStep_of_not_resumable hnew, hh.not_blocked hv hsplit, hraises]
      rw [runLoop_cons, hprocess] at hrun
      exact hrun.2
  | @later step rest st own st' before s s' run comes ih =>
      intro done after out hsplit hh hrun
      rw [runLoop_cons] at hrun
      obtain ⟨exit, tr₁, tr₂, htr, hstep, hafter⟩ := (Resumption.runs_bind _ _ _ _).mp hrun
      rw [List.append_assoc] at htr
      -- the iteration of the run is the one on the way to the step
      obtain ⟨rfl, rfl, rfl⟩ := run.unique_part hstep htr
      have hsplit' : ordered = (done ++ [step]) ++ rest := by
        rw [hsplit, List.append_assoc]
        rfl
      exact ih hnew hraises hsplit' (hh.next (hv.fresh hsplit) (runs_processStep run)) hafter

/-- A run that raises has come to a check that does. -/
theorem comesTo_of_raised :
    ∀ {rest : List StepDef} {st : ExecState} {tr : Trace} {e : ExecuteError},
      (runLoop rt steps ordered resume rest st).Runs tr (.error e) →
      ∃ step st', ComesTo rt steps ordered resume rest st tr step st'
        ∧ ¬ Resumable (resume.get? step.name) ∧ shouldSkip rt step st'.stepsData = .error e
  | [], _, _, _, h => by
      cases h.2
  | step :: rest, st, tr, e, h => by
      rw [runLoop_cons] at h
      obtain ⟨exit, own, after, rfl, hstep, hafter⟩ := (Resumption.runs_bind _ _ _ _).mp h
      cases exit with
      | next st' =>
          obtain ⟨s, s', hcomes, hrest⟩ := comesTo_of_raised hafter
          exact ⟨s, s', .later hstep hcomes, hrest⟩
      | stop st' => cases hafter.2
      | raised e' =>
          obtain ⟨rfl, heq⟩ := hafter
          obtain rfl := Except.error.inj heq
          cases runs_processStep hstep with
          | resumed hres =>
              obtain ⟨prev, -, hexit⟩ := Option.bind_eq_some_iff.mp hres
              exact absurd hexit resumeStep_raised
          | crashed hnew hraises => exact ⟨step, st, .here, not_resumable hnew, hraises⟩

end Checks

/-- **Run accounting**: `execute` returns a result that accounts for the run exactly when no
`skip_when` the run checks raises something that is not caught. -/
theorem run_accounted_iff (rt : Runtime) (sorter : Sorter) (hsound : sorter.Sound)
    (pipeline : PipelineDef) (hnonempty : pipeline.steps ≠ []) (ordered : List StepDef)
    (hvalid : resolveDag sorter pipeline.steps = .ok ordered)
    (existing : Option ExistingProgress) (tr : Trace) (out : Except ExecuteError PipelineResult)
    (hrun : (execute rt sorter pipeline existing).Runs tr out) :
    (∃ final, (runPipeline rt sorter pipeline.steps existing).Runs tr (.ok final)
        ∧ out = .ok (finishPipeline rt pipeline final)
        ∧ Accounted pipeline.steps (resumeStatuses existing) tr final.stepStatuses
            (finishPipeline rt pipeline final))
      ↔ SkipChecksEvaluate rt pipeline.steps ordered (resumeStatuses existing) tr := by
  have hv := validOrder_of_resolveDag hsound hvalid
  have hloop : ∀ out', (runPipeline rt sorter pipeline.steps existing).Runs tr out' →
      (runLoop rt pipeline.steps ordered (resumeStatuses existing) ordered
        (initialState rt.context ordered)).Runs tr out' := by
    intro out' h
    unfold runPipeline at h
    rwa [hvalid] at h
  constructor
  · rintro ⟨final, hfinal, -, -⟩ before after step st rfl hcomes hnew e hraises
    have hraised := hcomes.raises hv hnew hraises rfl (healthy_initial rt.context ordered)
      (hloop _ hfinal)
    cases hraised
  · intro hchecks
    rcases runs_execute hrun with ⟨hempty, -⟩ | ⟨out', hrun', rfl⟩
    · exact absurd hempty hnonempty
    · cases out' with
      | error e =>
          obtain ⟨step, st, hcomes, hnew, hraises⟩ := comesTo_of_raised (hloop _ hrun')
          exact absurd hraises (hchecks tr [] step st (List.append_nil _).symm hcomes hnew e)
      | ok final =>
          obtain ⟨hbal, hend⟩ := runPipeline_books hsound hrun' rfl
          exact ⟨final, hrun', rfl, hbal.accounted rt pipeline hend⟩

/-- Where the evaluator raises nothing else, every check evaluates. -/
theorem skipChecksEvaluate_of_caught {rt : Runtime} {steps ordered : List StepDef}
    {resume : Dict String StepInfo} {tr : Trace}
    (h : ∀ expression names exc, rt.simpleEval expression names ≠ .uncaught exc) :
    SkipChecksEvaluate rt steps ordered resume tr := by
  intro before after step st _ _ _ e hraises
  unfold shouldSkip at hraises
  split at hraises
  · cases hraises
  split at hraises
  · cases hraises
  unfold evaluateSkip at hraises
  dsimp only at hraises
  split at hraises
  · cases hraises
  · cases hraises
  next exc heval => exact h _ _ exc heval

/-- A pipeline whose first step was done by an earlier run; the others are skipped once `boot`
has data. -/
def resumedPipeline : PipelineDef where
  steps :=
    [{ name := "import" },
      { name := "boot", needs := ["import"], skipWhen := some "'boot' in $STEPS" },
      { name := "collect", needs := ["boot"], skipWhen := some "'boot' in $STEPS" }]

/-- The evaluator for that check. -/
def resumedRuntime : Runtime where
  context := { sessionId := "s1" }
  simpleEval := fun _ names => .value (.bool (names.steps.get? "boot").isSome)

/-- What the earlier run has stored. -/
def importStored : Option ExistingProgress :=
  some (.flat (Dict.ofList [("import", { status := some .completed })]))

/-- The run that takes it up, in an environment whose handlers return nothing. -/
def resumedRun : Trace × Except ExecuteError PipelineResult :=
  (execute resumedRuntime staticOrder resumedPipeline importStored).runWith
    (answering fun _ => .returned Dict.empty)

/-- One step is resumed, one is dispatched, one is skipped, and all three are accounted for. -/
theorem run_accounted_resumed :
    resumedRun.1.filterMap dispatchedStep = ["boot"]
      ∧ ∃ final, (runPipeline resumedRuntime staticOrder resumedPipeline.steps importStored).Runs
            resumedRun.1 (.ok final)
          ∧ resumedRun.2 = .ok (finishPipeline resumedRuntime resumedPipeline final)
          ∧ Accounted resumedPipeline.steps (resumeStatuses importStored) resumedRun.1
              final.stepStatuses (finishPipeline resumedRuntime resumedPipeline final) := by
  refine ⟨by decide, ?_⟩
  have hsteps : resumedPipeline.steps ≠ [] := List.cons_ne_nil _ _
  exact (run_accounted_iff resumedRuntime staticOrder staticOrder_sound resumedPipeline hsteps
    resumedPipeline.steps rfl importStored _ _ (Resumption.runWith_runs _ _)).mpr
    (skipChecksEvaluate_of_caught nofun)

/-- A step whose check divides by zero. -/
def dividingStep : StepDef where
  name := "collect"
  skipWhen := some "1 / 0"

/-- A context in which the evaluator raises what Python raises then. -/
def dividingRuntime : Runtime where
  context := { sessionId := "s1" }
  simpleEval := fun _ _ => .uncaught "ZeroDivisionError"

/-- The pipeline of one step in an environment whose handlers return nothing. -/
def soleRun (step : StepDef) : Trace × Except ExecuteError PipelineResult :=
  (execute dividingRuntime staticOrder { steps := [step] } none).runWith
    (answering fun _ => .returned Dict.empty)

/-- The check raises, and so does `execute`: there is no result to account for the step. -/
theorem raising_check_ends_run :
    resolveDag staticOrder [dividingStep] = .ok [dividingStep]
      ∧ soleRun dividingStep = ([], .error (.evaluation "ZeroDivisionError")) :=
  ⟨rfl, rfl⟩

end CmlCloudManager.Pipeline
