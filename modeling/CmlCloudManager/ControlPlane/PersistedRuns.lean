/-
  CmlCloudManager.ControlPlane.PersistedRuns
  ──────────────────────────────────────────
  **WHAT A RUN LEAVES ON THE CONTROL PLANE.**

  Every update of a run is handled by `UpdatePipelineProgress`, in order
  (`persistTrace`).  Seen from one pipeline of one session this is a fold of
  step deltas (`applyTrace`), and seen from one step only its own updates count:
  a step without updates keeps its record, a step with one update gets that
  delta.  A later run is resumed from what is there (`existingProgress`).
-/
import CmlCloudManager.ControlPlane.Callbacks
import CmlCloudManager.Pipeline.Reports

namespace CmlCloudManager.ControlPlane

open CmlCloudManager.Foundation
open CmlCloudManager.Pipeline

/-! ## §1. Persisting a trace. -/

/-- The control plane after the updates of a trace, each of them handled. -/
def persistTrace (repo : SessionRepository) (tr : Trace) : SessionRepository :=
  tr.foldl (fun r e => match persistedUpdate e with
    | some (_, update) => (handleUpdate r update).2
    | none => r) repo

/-- The progress of the pipeline after the updates of a trace. -/
def applyTrace (progress : Progress) (tr : Trace) : Progress :=
  tr.foldl (fun p e => match persistedUpdate e with
    | some (_, update) => applyUpdate p update
    | none => p) progress

/-- `_get_existing_progress` on a session as it is stored now. -/
def existingProgress (repo : SessionRepository) (sid pl : String) : Option ExistingProgress :=
  if (progressOf repo sid pl).isEmpty then none else some (.flat (progressOf repo sid pl))

/-- Every update of the trace is for this pipeline of this session and has a status
the control plane accepts. -/
def SentTo (sid pl : String) (tr : Trace) : Prop :=
  ∀ e ∈ tr, ∀ site update, persistedUpdate e = some (site, update) →
    update.sessionId = sid ∧ update.pipelineName = pl ∧ update.stepStatus ∈ sentStatusList

theorem sentStatusList_valid {status : StepStatus} (h : status ∈ sentStatusList) :
    status ∈ validStepStatuses := by
  simp only [sentStatusList, List.mem_cons, List.not_mem_nil, or_false] at h
  rcases h with rfl | rfl | rfl | rfl <;> decide

/-- **Persisting a trace** applies its deltas to the one pipeline they are sent to. -/
theorem progressOf_persistTrace {sid pl : String} (hpl : pl ∈ validPipelineNames) :
    ∀ (tr : Trace) (repo : SessionRepository), SentTo sid pl tr → (repo.get? sid).isSome →
      progressOf (persistTrace repo tr) sid pl = applyTrace (progressOf repo sid pl) tr
        ∧ ((persistTrace repo tr).get? sid).isSome
  | [], repo, _, hs => ⟨rfl, hs⟩
  | e :: tr, repo, hsent, hs => by
      have hrest : SentTo sid pl tr := fun e' he' => hsent e' (List.mem_cons_of_mem _ he')
      unfold persistTrace applyTrace
      rw [List.foldl_cons, List.foldl_cons]
      cases hu : persistedUpdate e with
      | none => exact progressOf_persistTrace hpl tr repo hrest hs
      | some su =>
          -- the handler accepts the update: name and status are valid, the session is there
          obtain ⟨site, update⟩ := su
          obtain ⟨hsid, hupl, hstatus⟩ := hsent e List.mem_cons_self site update hu
          have hone : progressOf (handleUpdate repo update).2 sid pl
              = applyUpdate (progressOf repo sid pl) update := by
            rw [handleUpdate_progressOf repo update (hupl ▸ hpl) (sentStatusList_valid hstatus)
              (hsid ▸ hs), if_pos ⟨hsid.symm, hupl.symm⟩]
          obtain ⟨hprog, hsome⟩ := progressOf_persistTrace hpl tr (handleUpdate repo update).2 hrest
            (handleUpdate_get?_isSome repo update sid hs)
          refine ⟨?_, hsome⟩
          show progressOf (persistTrace (handleUpdate repo update).2 tr) sid pl
            = applyTrace (applyUpdate (progressOf repo sid pl) update) tr
          rw [hprog, hone]

/-! ## §2. One step of the stored progress. -/

theorem updatesOf_cons_none {n : String} {e : ExecEvent} {tr : Trace}
    (h : persistedUpdate e = none) : updatesOf n (e :: tr) = updatesOf n tr := by
  unfold updatesOf eventsOf
  rw [List.filter_cons]
  split
  next => rw [List.filterMap_cons_none h]
  next => rfl

theorem concerns_of_update {e : ExecEvent} {site : PersistSite} {u : ProgressUpdate}
    (h : persistedUpdate e = some (site, u)) : concerns e = u.stepName := by
  obtain ⟨e, r⟩ := e
  cases e with
  | dispatch request => cases h
  | persist site' u' =>
      injection h with h
      injection h with _ h
      subst h
      rfl

theorem updatesOf_cons_some {n : String} {e : ExecEvent} {tr : Trace} {site : PersistSite}
    {u : ProgressUpdate} (h : persistedUpdate e = some (site, u)) :
    updatesOf n (e :: tr) = if u.stepName = n then (site, u) :: updatesOf n tr
      else updatesOf n tr := by
  unfold updatesOf eventsOf
  rw [List.filter_cons, concerns_of_update h]
  by_cases hn : u.stepName = n
  · simp only [hn, decide_true, if_true]
    rw [List.filterMap_cons_some h]
  · simp only [hn, decide_false, if_false, Bool.false_eq_true]

/-- A step without updates keeps its record. -/
theorem applyTrace_get?_nil {n : String} :
    ∀ (tr : Trace) (p : Progress), updatesOf n tr = [] → (applyTrace p tr).get? n = p.get? n
  | [], _, _ => rfl
  | e :: tr, p, h => by
      unfold applyTrace
      rw [List.foldl_cons]
      cases hu : persistedUpdate e with
      | none =>
          rw [updatesOf_cons_none hu] at h
          exact applyTrace_get?_nil tr p h
      | some su =>
          obtain ⟨site, u⟩ := su
          rw [updatesOf_cons_some hu] at h
          split at h
          next => cases h
          next hn =>
            show (applyTrace (applyUpdate p u) tr).get? n = _
            rw [applyTrace_get?_nil tr _ h, applyUpdate_get?_ne p u (Ne.symm hn)]

/-- A step with one update gets that delta, applied to its record or to a fresh one. -/
theorem applyTrace_get?_single {n : String} {site : PersistSite} {u : ProgressUpdate} :
    ∀ (tr : Trace) (p : Progress), updatesOf n tr = [(site, u)] →
      ∃ q : Progress, q.get? n = p.get? n
        ∧ (applyTrace p tr).get? n = some (applyStepDelta (stepOrInit q n) u)
  | [], _, h => by cases h
  | e :: tr, p, h => by
      unfold applyTrace
      rw [List.foldl_cons]
      cases hu : persistedUpdate e with
      | none =>
          rw [updatesOf_cons_none hu] at h
          exact applyTrace_get?_single tr p h
      | some su =>
          obtain ⟨site', u'⟩ := su
          rw [updatesOf_cons_some hu] at h
          split at h
          next hn =>
            -- this is the update, and none follows
            injection h with hhead htail
            injection hhead with _ hhead
            subst hhead
            refine ⟨p, rfl, ?_⟩
            show (applyTrace (applyUpdate p u') tr).get? n = _
            rw [applyTrace_get?_nil tr _ htail, ← hn, applyUpdate_get?_self]
          next hn =>
            -- an update of another step leaves the record alone
            obtain ⟨q, hq, hget⟩ := applyTrace_get?_single tr (applyUpdate p u') h
            exact ⟨q, hq.trans (applyUpdate_get?_ne p u' (Ne.symm hn)), hget⟩

/-- The status of a step with one update is the status sent. -/
theorem applyTrace_status?_single {n : String} {site : PersistSite} {u : ProgressUpdate}
    {tr : Trace} {p : Progress} (h : updatesOf n tr = [(site, u)])
    (hstatus : u.stepStatus ∈ sentStatusList) :
    (applyTrace p tr).status? n = some u.stepStatus := by
  obtain ⟨q, -, hget⟩ := applyTrace_get?_single tr p h
  rw [Progress.status?, hget]
  exact applyStepDelta_status _ _ hstatus

/-- The status of a step without updates is what it was. -/
theorem applyTrace_status?_nil {n : String} {tr : Trace} {p : Progress}
    (h : updatesOf n tr = []) : (applyTrace p tr).status? n = p.status? n := by
  rw [Progress.status?, applyTrace_get?_nil tr p h]
  rfl

/-! ## §3. Resuming from the stored progress. -/

/-- What a run finds of a step is its stored record, if that carries a status. -/
theorem existingProgress_get? (repo : SessionRepository) (sid pl n : String) :
    (resumeStatuses (existingProgress repo sid pl)).get? n
      = ((progressOf repo sid pl).get? n).filter fun info => info.status.isSome := by
  unfold existingProgress
  split
  next hempty =>
    -- empty progress counts as none, and has no records either
    rw [(Dict.isEmpty_iff _).mp hempty n]
    rfl
  next => exact resumeStatuses_flat _ _

theorem resumeStatus_existing (repo : SessionRepository) (sid pl n : String) :
    ((resumeStatuses (existingProgress repo sid pl)).get? n).bind StepInfo.resumeStatus
      = (progressOf repo sid pl).status? n := by
  rw [existingProgress_get?, Progress.status?]
  cases hget : (progressOf repo sid pl).get? n with
  | none => rfl
  | some info =>
      cases hst : info.status with
      | none => simp [Option.filter, hst]
      | some status => simp [Option.filter, hst, StepInfo.resumeStatus]

/-- A step is resumable when it is stored completed, skipped or suspended. -/
theorem resumable_existing (repo : SessionRepository) (sid pl n : String) :
    Resumable ((resumeStatuses (existingProgress repo sid pl)).get? n)
      ↔ (progressOf repo sid pl).status? n = some .completed
        ∨ (progressOf repo sid pl).status? n = some .skipped
        ∨ (progressOf repo sid pl).status? n = some .suspended := by
  unfold Resumable
  rw [resumeStatus_existing]

/-- The updates of a run carry its session and its pipeline. -/
theorem sentTo_of_report {rt : Runtime} {steps : List StepDef}
    {resume : Dict String StepInfo} {tr : Trace} {sid pl : String}
    (hsid : rt.context.sessionId = sid) (hname : rt.pipelineName = some pl) (hpl : pl ≠ "")
    (hreport : ∀ s ∈ steps, Report rt (resume.get? s.name) s (eventsOf s.name tr))
    (hmem : ∀ e ∈ tr, ∃ s ∈ steps, concerns e = s.name) : SentTo sid pl tr := by
  intro e he site u hu
  obtain ⟨s, hs, hc⟩ := hmem e he
  obtain ⟨status, rd, err, rfl, hstatus⟩ :=
    (hreport s hs).update (mem_eventsOf.mpr ⟨he, hc⟩) hu
  refine ⟨hsid, ?_, hstatus⟩
  exact progressUpdate_pipelineName hname hpl

theorem ne_empty_of_valid {pl : String} (h : pl ∈ validPipelineNames) : pl ≠ "" := by
  intro heq
  subst heq
  revert h
  decide

/-! ## §4. Cut runs. -/

/-- A run of `execute` that may have been cut: the calls it made, what was left to do. -/
structure CutRun where
  rt : Runtime
  sorter : Sorter
  tr : Trace
  left : Exec (Except ExecuteError PipelineResult)

/-- The record is a cut run of the pipeline for this session, resumed from what is
stored when it starts. -/
structure IsCutRun (pipeline : PipelineDef) (sid pl : String) (repo : SessionRepository)
    (r : CutRun) : Prop where
  sound : r.sorter.Sound
  session : r.rt.context.sessionId = sid
  named : r.rt.pipelineName = some pl
  reaches : (execute r.rt r.sorter pipeline (existingProgress repo sid pl)).Reaches r.tr r.left

section Cut

variable {pipeline : PipelineDef} {sid pl : String} {repo : SessionRepository} {r : CutRun}

/-- The updates of a cut run go to its own pipeline. -/
theorem IsCutRun.sentTo (hpl : pl ∈ validPipelineNames) (run : IsCutRun pipeline sid pl repo r) :
    SentTo sid pl r.tr := by
  -- a cut run is the first part of a whole one
  obtain ⟨tr', out, hrun⟩ := run.reaches.extend
  obtain ⟨hreport, hmem⟩ := execute_report run.sound hrun
  have hall := sentTo_of_report run.session run.named (ne_empty_of_valid hpl) hreport hmem
  exact fun e he => hall e (List.mem_append_left _ he)

/-- A cut run acts on the stored progress by its updates. -/
theorem IsCutRun.progressOf_persist (hpl : pl ∈ validPipelineNames)
    (run : IsCutRun pipeline sid pl repo r) (hs : (repo.get? sid).isSome) :
    progressOf (persistTrace repo r.tr) sid pl = applyTrace (progressOf repo sid pl) r.tr
      ∧ ((persistTrace repo r.tr).get? sid).isSome :=
  progressOf_persistTrace hpl r.tr repo (run.sentTo hpl) hs

/-- Every event of a cut run concerns a step of the pipeline. -/
theorem IsCutRun.concerns_mem (run : IsCutRun pipeline sid pl repo r) :
    ∀ e ∈ r.tr, ∃ s ∈ pipeline.steps, concerns e = s.name := by
  obtain ⟨tr', out, hrun⟩ := run.reaches.extend
  intro e he
  exact (execute_report run.sound hrun).2 e (List.mem_append_left _ he)

end Cut

end CmlCloudManager.ControlPlane
