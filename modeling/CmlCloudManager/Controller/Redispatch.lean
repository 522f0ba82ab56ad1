/-
  CmlCloudManager.Controller.Redispatch
  ─────────────────────────────────────
  **FINISHED WORK IS NOT DISPATCHED AGAIN, IF THE SNAPSHOT KNOWS OF IT.**

  The executor skips what the progress it was given calls completed, skipped or
  suspended; it never asks the control plane.  That progress is part of the
  session snapshot a reconcile call was given, and a poll reads all sessions
  before it reconciles the first, so the snapshot may be older than the last run.

    • `snapshot_redispatch` — a run that completes a step and then fails, and a
      retry from a snapshot read before: the completed step is dispatched again,
    • `no_redispatch` — if every run starts from progress that covers what is
      stored at that moment, no step is dispatched while it is stored as completed
      or suspended, whatever else goes on.
-/
import CmlCloudManager.Controller.TrackedRuns

namespace CmlCloudManager.Controller

open CmlCloudManager.Foundation
open CmlCloudManager.Pipeline
open CmlCloudManager.ControlPlane

/-! ## §1. Finished steps. -/

/-- A stored status that should keep the step from being dispatched. -/
def FinishedWork (status : Option StepStatus) : Prop :=
  status = some .completed ∨ status = some .suspended

instance (status : Option StepStatus) : Decidable (FinishedWork status) :=
  inferInstanceAs (Decidable (_ ∨ _))

/-- The step, with its session and pipeline, that an action dispatches. -/
def dispatchedBy (w : World) : Action → Option (String × String × String)
  | .advance i =>
      match w.taskOf i with
      | some (h, .ready (.await (.dispatch request) _)) =>
          some (h.sessionId, h.pipelineName, request.stepName)
      | _ => none
  | _ => none

/-- The progress a run starts from covers the stored one: what is stored as completed or
suspended is resumed and not dispatched. -/
def Covers (spec : RunSpec) (repo : SessionRepository) : Prop :=
  ∀ s ∈ spec.pipelineDef.steps,
    FinishedWork ((progressOf repo spec.sessionId spec.pipelineName).status? s.name) →
    Resumable ((resumeStatuses spec.existingProgress).get? s.name)

instance (spec : RunSpec) (repo : SessionRepository) : Decidable (Covers spec repo) :=
  inferInstanceAs (Decidable (∀ s ∈ spec.pipelineDef.steps, _ → _))

/-- If the action starts a run, it starts it from covering progress. -/
def StartsCovered (cat : Catalog) (w : World) (a : Action) : Prop :=
  ∀ w' i h, step cat w a = some w' → Starts w w' i h → Covers h.spec w.repo

/-! ## §2. What a run leaves to be dispatched. -/

/-- A step that the run has neither resumed nor reported on is not stored as finished. -/
def OpenSteps (repo : SessionRepository) (spec : RunSpec) (tr : Trace) : Prop :=
  ∀ s ∈ spec.pipelineDef.steps, updatesOf s.name tr = [] →
    ¬ Resumable ((resumeStatuses spec.existingProgress).get? s.name) →
    ¬ FinishedWork ((progressOf repo spec.sessionId spec.pipelineName).status? s.name)

/-- A callback finishes only what was suspended. -/
theorem handleCallback_finished {now : String} {repo : SessionRepository} {cmd : CallbackCommand}
    {sid pl n : String}
    (h : FinishedWork ((progressOf (handleCallback now repo cmd) sid pl).status? n)) :
    FinishedWork ((progressOf repo sid pl).status? n) := by
  unfold Progress.status? at h ⊢
  rw [handleCallback_get?] at h
  split at h
  next n' info hf =>
    split at h
    next hc =>
      obtain ⟨-, -, rfl⟩ := hc
      -- the step that the callback writes was stored as suspended
      rw [(findByCorrelation_some hf).1]
      rw [Option.bind_some] at h ⊢
      unfold callbackInfo at h
      split at h
      next hacts =>
        cases cmd with
        | resume request =>
            exact .inr (by simpa [CallbackCommand.acts] using hacts)
        | fail request => rcases h with h | h <;> cases h
      next => exact h
    next => exact h
  next => exact h

theorem deliver_finished {er : EventRuntime} {now : String} {repo : SessionRepository}
    {ev : ScenarioEngineEvent} {sid pl n : String}
    (h : FinishedWork ((progressOf (deliver er now repo ev).1 sid pl).status? n)) :
    FinishedWork ((progressOf repo sid pl).status? n) := by
  cases hc : callbackOf er ev with
  | none =>
      unfold deliver at h
      rw [hc] at h
      exact h
  | some cmd =>
      rw [deliver_repo hc] at h
      exact handleCallback_finished h

theorem updatesOf_snoc_dispatch (n : String) (tr : Trace) (request : DispatchRequest)
    (outcome : DispatchOutcome) :
    updatesOf n (tr ++ [⟨.dispatch request, outcome⟩]) = updatesOf n tr := by
  rw [updatesOf_append, updatesOf_cons_none rfl]
  exact List.append_nil _

/-- A run without own updates on a step has none on it after an update on another. -/
theorem updatesOf_snoc_persist {n : String} {tr : Trace} {site : PersistSite}
    {update : ProgressUpdate}
    (h : updatesOf n (tr ++ [⟨.persist site update, ()⟩]) = []) :
    updatesOf n tr = [] ∧ n ≠ update.stepName := by
  have hone : persistedUpdate ⟨.persist site update, ()⟩ = some (site, update) := rfl
  rw [updatesOf_append, updatesOf_cons_some hone] at h
  obtain ⟨hbefore, hlast⟩ := List.append_eq_nil_iff.mp h
  refine ⟨hbefore, ?_⟩
  intro hn
  rw [if_pos hn.symm] at hlast
  cases hlast

theorem openSteps_stable : Stable OpenSteps where
  dispatched := by
    intro repo spec tr request outcome hopen s hs hno
    exact hopen s hs ((updatesOf_snoc_dispatch _ _ _ _).symm.trans hno)
  lost := by
    intro repo spec tr site update hopen s hs hno
    exact hopen s hs (updatesOf_snoc_persist hno).1
  stored := by
    intro repo spec tr site update hopen s hs hno hnew
    obtain ⟨hno, hne⟩ := updatesOf_snoc_persist hno
    unfold Progress.status?
    rw [handleUpdate_get?_other repo update (fun hc => hne hc.2.2)]
    exact hopen s hs hno hnew
  foreign := by
    intro repo spec tr update hother hopen s hs hno hnew
    unfold Progress.status?
    rw [handleUpdate_get?_other repo update (fun hc => hother ⟨hc.1.symm, hc.2.1.symm⟩)]
    exact hopen s hs hno hnew
  delivered := by
    intro repo spec tr er now ev hopen s hs hno hnew hfin
    exact hopen s hs hno hnew (deliver_finished hfin)

/-- The step a run dispatches is an open one. -/
theorem dispatch_open {spec : RunSpec} {setup : Setup} {tr : Trace} {request : DispatchRequest}
    {k : Effect.Response (.dispatch request) → Exec (Except ExecuteError PipelineResult)}
    (h : (spec.program setup).Reaches tr (.await (.dispatch request) k)) :
    ∃ s ∈ spec.pipelineDef.steps, s.name = request.stepName ∧ updatesOf s.name tr = []
      ∧ ¬ Resumable ((resumeStatuses spec.existingProgress).get? s.name) := by
  -- let the dispatch end in some way: the report of that run speaks of what was before it
  obtain ⟨tr', out, hrun⟩ := (h.step DispatchOutcome.timedOut).extend
  obtain ⟨hreport, hmem⟩ := execute_report setup.sound hrun
  rw [List.append_assoc] at hreport hmem
  obtain ⟨s, hs, hname⟩ := hmem ⟨.dispatch request, DispatchOutcome.timedOut⟩ (by simp)
  have hreq : request.stepName = s.name := hname
  have hrep := hreport s hs
  rw [eventsOf_append] at hrep
  have hown : eventsOf s.name ([⟨.dispatch request, DispatchOutcome.timedOut⟩] ++ tr')
      = ⟨.dispatch request, DispatchOutcome.timedOut⟩ :: eventsOf s.name tr' := by
    unfold eventsOf
    rw [List.singleton_append, List.filter_cons_of_pos (by simpa using hname)]
  rw [hown] at hrep
  obtain ⟨hnew, hbefore⟩ := hrep.before_dispatch rfl
  refine ⟨s, hs, hreq.symm, ?_, hnew⟩
  unfold updatesOf
  rw [List.filterMap_eq_nil_iff]
  exact hbefore

/-! ## §3. Whole runs. -/

theorem dispatchedBy_some {w : World} {a : Action} {sid pl n : String}
    (h : dispatchedBy w a = some (sid, pl, n)) :
    ∃ i g request k, w.handlers.get? i = some g ∧ g.sessionId = sid ∧ g.pipelineName = pl
      ∧ request.stepName = n ∧ g.task = some (.ready (.await (.dispatch request) k)) := by
  cases a with
  | advance i =>
      simp only [dispatchedBy] at h
      split at h
      next g request k ht =>
        injection h with h
        injection h with hsid h
        injection h with hpl hn
        obtain ⟨hget, htask⟩ := taskOf_eq ht
        exact ⟨i, g, request, k, hget, hsid, hpl, hn, htask⟩
      next => cases h
  | _ => cases h

/-- **No re-dispatch of finished work**: in every run of the system whose starts are
covered, no action dispatches a step that is stored as completed or suspended. -/
theorem no_redispatch {cat : Catalog} {repo : SessionRepository} {acts : List Action} {w : World}
    (run : Run (step cat) (StartsCovered cat) (World.initial repo) acts w) {a : Action}
    {sid pl n : String} (hdispatch : dispatchedBy w a = some (sid, pl, n)) :
    ¬ FinishedWork ((progressOf w.repo sid pl).status? n) := by
  have hinv : ControlInv cat none w ∧ Tracked OpenSteps w := by
    refine @Run.invariant _ _ _ _ (fun w => ControlInv cat none w ∧ Tracked OpenSteps w) ?_ _ _ _
      run ?_
    · -- a run that starts covered has no open step that is finished
      intro t a u hinv hcovered hstep
      refine ⟨hinv.1.step hstep, hinv.2.step openSteps_stable hinv.1 hstep ?_⟩
      intro i h hs s hmem _ hnew hfin
      exact hnew (hcovered u i h hstep hs s hmem hfin)
    · exact ⟨controlInv_initial cat repo, by intro i h left hget; cases hget⟩
  obtain ⟨i, g, request, k, hget, rfl, rfl, rfl, htask⟩ := dispatchedBy_some hdispatch
  obtain ⟨setup, tr, hreach, hopen⟩ := hinv.2 i g _ hget (by rw [htask]; rfl)
  obtain ⟨s, hs, hname, hno, hnew⟩ := dispatch_open hreach
  rw [← hname]
  exact hopen s hs hno hnew

/-! ## §4. Two retries. -/

/-- The check of `StartsCovered`, computed. -/
def startsCovered (cat : Catalog) (w : World) (a : Action) : Bool :=
  match step cat w a with
  | none => true
  | some w' => w'.handlers.entries.all fun e =>
      !(e.2.isRunning && !((w.handlers.get? e.1).map LifecyclePhaseHandler.isRunning).getD false)
        || decide (Covers e.2.spec w.repo)

theorem startsCovered_sound {cat : Catalog} (w : World) (a : Action)
    (h : startsCovered cat w a = true) : StartsCovered cat w a := by
  intro w' i g hstep ⟨hget, hrun, hstopped⟩
  unfold startsCovered at h
  rw [hstep] at h
  have hone := List.all_eq_true.mp h (i, g) ((Dict.get?_eq_some_iff _ _ _).mp hget)
  have hidle : ((w.handlers.get? i).map LifecyclePhaseHandler.isRunning).getD false = false := by
    cases hw : w.handlers.get? i with
    | none => rfl
    | some g' => exact hstopped g' hw
  simpa [hrun, hidle] using hone

/-- Two required steps. -/
def bootThenLink : Catalog :=
  oneDefinition { steps := [{ name := "boot" }, { name := "link", needs := ["boot"] }] }

/-- The first run completes `boot` and fails at `link`. -/
def failedCycle : List Action :=
  firstCycle
    ++ oneStep 0 (.returned (Dict.ofList [("lab", .str "l1")]))
    ++ oneStep 0 (.raised "no route")
    ++ [.advance 0, .recorded 0]

/-- **A completed step is dispatched again**: the retry is given the snapshot of the first
cycle, which does not know of `boot`, and dispatches it while it is stored as completed. -/
theorem snapshot_redispatch :
    ∃ w, Reachable bootThenLink w
      ∧ dispatchedBy w (.advance 1) = some ("s1", "instantiate", "boot")
      ∧ (progressOf w.repo "s1" "instantiate").status? "boot" = some .completed := by
  have hrun : (exec (step bootThenLink) (fun _ _ => true)
      (failedCycle ++ [.enter 0 "instantiate" plainSetup]) (World.initial newSession)).map
      (fun w => (dispatchedBy w (.advance 1),
        (progressOf w.repo "s1" "instantiate").status? "boot"))
      = some (some ("s1", "instantiate", "boot"), some .completed) := by decide
  obtain ⟨w, hw, hcheck⟩ := Option.map_eq_some_iff.mp hrun
  rw [Prod.mk.injEq] at hcheck
  exact ⟨w, reachable_exec hw, hcheck⟩

/-- The retry is given a snapshot read after the first run: it goes on with `link`. -/
theorem no_redispatch_refreshed :
    ∃ w acts, Run (step bootThenLink) (StartsCovered bootThenLink) (World.initial newSession) acts w
      ∧ dispatchedBy w (.advance 1) = some ("s1", "instantiate", "link")
      ∧ ¬ FinishedWork ((progressOf w.repo "s1" "instantiate").status? "link") := by
  have hrun : (exec (step bootThenLink) (startsCovered bootThenLink)
      (failedCycle ++ [.fetchSession "s1", .enter 1 "instantiate" plainSetup])
      (World.initial newSession)).map (fun w => dispatchedBy w (.advance 1))
      = some (some ("s1", "instantiate", "link")) := by decide
  obtain ⟨w, hw, hdispatch⟩ := Option.map_eq_some_iff.mp hrun
  have run := exec_run (@startsCovered_sound bootThenLink) _ .nil hw
  exact ⟨w, _, run, hdispatch, no_redispatch run hdispatch⟩

end CmlCloudManager.Controller
