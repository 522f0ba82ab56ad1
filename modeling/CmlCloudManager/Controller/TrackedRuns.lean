/-
  CmlCloudManager.Controller.TrackedRuns
  ──────────────────────────────────────
  **WHAT THE RUNNING TASKS HAVE DONE SO FAR.**

  A task in the middle of `execute` is a program that was reached from the start
  of its handler along some trace.  `Tracked P w` says so for every task, with a
  property `P` of the stored progress and the calls made so far.

  `Tracked.step` is the rule: `P` has to survive the task's own calls, the writes
  of the runs of OTHER pipelines (by single flight there are no others) and the
  Scenario Engine events, and has to hold when a run starts.
-/
import CmlCloudManager.Controller.SingleFlight

namespace CmlCloudManager.Controller

open CmlCloudManager.Foundation
open CmlCloudManager.Pipeline
open CmlCloudManager.ControlPlane

/-! ## §1. Tasks and their traces. -/

/-- What remains of `execute`; the call a task waits for has not been answered. -/
def TaskState.left? : TaskState → Option (Exec (Except ExecuteError PipelineResult))
  | .ready left => some left
  | .waiting e k => some (.await e k)
  | .completing => none
  | .finished => none

/-- Every task was reached from its handler's start along a trace with `P`. -/
def Tracked (P : SessionRepository → RunSpec → Trace → Prop) (w : World) : Prop :=
  ∀ i h left, w.handlers.get? i = some h → h.task.bind TaskState.left? = some left →
    ∃ setup tr, (h.spec.program setup).Reaches tr left ∧ P w.repo h.spec tr

/-- What `P` has to survive while a run goes on. -/
structure Stable (P : SessionRepository → RunSpec → Trace → Prop) : Prop where
  dispatched : ∀ {repo spec tr} request outcome, P repo spec tr →
    P repo spec (tr ++ [⟨.dispatch request, outcome⟩])
  /-- An update of the run's own, lost or stored. -/
  lost : ∀ {repo spec tr} site update, P repo spec tr →
    P repo spec (tr ++ [⟨.persist site update, ()⟩])
  stored : ∀ {repo spec tr} site update, P repo spec tr →
    P (handleUpdate repo update).2 spec (tr ++ [⟨.persist site update, ()⟩])
  foreign : ∀ {repo spec tr} (update : ProgressUpdate),
    ¬ (update.sessionId = spec.sessionId ∧ update.pipelineName = spec.pipelineName) →
    P repo spec tr → P (handleUpdate repo update).2 spec tr
  delivered : ∀ {repo spec tr} er now ev, P repo spec tr → P (deliver er now repo ev).1 spec tr

/-- The action starts a run of handler `i`, which is `h` then. -/
def Starts (w w' : World) (i : Nat) (h : LifecyclePhaseHandler) : Prop :=
  w'.handlers.get? i = some h ∧ h.isRunning = true
    ∧ ∀ g, w.handlers.get? i = some g → g.isRunning = false

section Rule

variable {cat : Catalog} {w w' : World} {P : SessionRepository → RunSpec → Trace → Prop}

/-- An action that leaves handlers and progress alone. -/
theorem Tracked.frame (ht : Tracked P w) (hh : w'.handlers = w.handlers)
    (hr : w'.repo = w.repo) : Tracked P w' := by
  unfold Tracked
  rw [hh, hr]
  exact ht

/-- An action that changes one handler. -/
theorem Tracked.set (ht : Tracked P w) {i : Nat} {h : LifecyclePhaseHandler}
    (hh : w'.handlers = w.handlers.set i h) (hr : w'.repo = w.repo)
    (hone : ∀ left, h.task.bind TaskState.left? = some left →
      ∃ setup tr, (h.spec.program setup).Reaches tr left ∧ P w.repo h.spec tr) :
    Tracked P w' := by
  intro j g left hj hleft
  rw [hh] at hj
  rw [hr]
  rcases Dict.get?_set_eq_some hj with ⟨-, rfl⟩ | ⟨-, hj⟩
  · exact hone left hleft
  · exact ht j g left hj hleft

/-- An action that starts a run. -/
theorem Tracked.start (ht : Tracked P w) {i : Nat} {h : LifecyclePhaseHandler} {setup : Setup}
    (hh : w'.handlers = w.handlers.set i (h.start setup)) (hr : w'.repo = w.repo)
    (hstopped : ∀ g, w.handlers.get? i = some g → g.isRunning = false)
    (hstart : ∀ i h, Starts w w' i h → P w.repo h.spec []) : Tracked P w' := by
  refine ht.set hh hr ?_
  intro left hleft
  -- the run begins with all of its program left
  injection hleft with hleft
  subst hleft
  refine ⟨setup, [], rfl, hstart i (h.start setup) ⟨?_, rfl, hstopped⟩⟩
  rw [hh]
  exact Dict.get?_set_self _ _ _

/-- What a phase call does to the handlers: nothing, or it starts one new. -/
theorem PhaseExit.handlers {c : PhaseCall} {setup : Setup} (exit : PhaseExit w c setup w') :
    w'.repo = w.repo ∧ (w'.handlers = w.handlers
      ∨ ∃ h : LifecyclePhaseHandler,
        w'.handlers = w.handlers.set w.nextHandler (h.start setup)) := by
  cases exit with
  | loading => exact ⟨rfl, .inl rfl⟩
  | undefinedPipeline => exact ⟨rfl, .inl rfl⟩
  | started pipeline => exact ⟨rfl, .inr ⟨_, rfl⟩⟩

theorem CheckExit.handlers {c : PhaseCall} {setup : Setup} (exit : CheckExit w c setup w') :
    w'.repo = w.repo ∧ (w'.handlers = w.handlers
      ∨ ∃ h : LifecyclePhaseHandler,
        w'.handlers = w.handlers.set w.nextHandler (h.start setup)) := by
  cases exit with
  | busy => exact ⟨rfl, .inl rfl⟩
  | noHandler hnone exit => exact exit.handlers
  | done hact hget hstopped hresult hstatus => exact ⟨rfl, .inl rfl⟩
  | restart hact hget hstopped hresult exit => exact exit.handlers
  | retry hact hget hstopped hresult hstatus hleft exit => exact exit.handlers
  | outOfRetries hact hget hstopped hresult hstatus hnone =>
      unfold exhaustRetries
      split <;> exact ⟨rfl, .inl rfl⟩

theorem cacheDefinition_frame (w : World) (c : PhaseCall) (d : Option LabletDefinition) :
    (cacheDefinition w c d).repo = w.repo ∧ (cacheDefinition w c d).handlers = w.handlers
      ∧ (cacheDefinition w c d).nextHandler = w.nextHandler := by
  cases d <;> exact ⟨rfl, rfl, rfl⟩

theorem completeHandler_frame (w : World) (i : Nat) (h : LifecyclePhaseHandler) :
    (completeHandler w i h).handlers = w.handlers.set i { h with task := some .finished }
      ∧ (completeHandler w i h).repo = w.repo
      ∧ (completeHandler w i h).activeHandlers = w.activeHandlers := by
  unfold completeHandler
  dsimp only
  split <;> exact ⟨rfl, rfl, rfl⟩

theorem Tracked.phase (inv : ControlInv cat none w) (ht : Tracked P w) {setup : Setup}
    (hmove : w'.repo = w.repo ∧ (w'.handlers = w.handlers
      ∨ ∃ h : LifecyclePhaseHandler,
        w'.handlers = w.handlers.set w.nextHandler (h.start setup)))
    (hstart : ∀ i h, Starts w w' i h → P w.repo h.spec []) : Tracked P w' := by
  obtain ⟨hr, hh | ⟨h, hh⟩⟩ := hmove
  · exact ht.frame hh hr
  · refine ht.start hh hr ?_ hstart
    intro g hg
    rw [inv.fresh] at hg
    cases hg

/-- A call of a tracked run is the next one of its trace. -/
theorem Tracked.of_waiting (ht : Tracked P w) {i : Nat} {h : LifecyclePhaseHandler} {e : Effect}
    {k : e.Response → Exec (Except ExecuteError PipelineResult)}
    (hget : w.handlers.get? i = some h) (htask : h.task = some (.waiting e k)) :
    ∃ setup tr, (h.spec.program setup).Reaches tr (.await e k) ∧ P w.repo h.spec tr :=
  ht i h _ hget (by rw [htask]; rfl)

/-- The updates a run sends carry its session and its pipeline. -/
theorem sent_update {spec : RunSpec} {setup : Setup} {tr : Trace} {site : PersistSite}
    {update : ProgressUpdate}
    {k : Effect.Response (.persist site update) → Exec (Except ExecuteError PipelineResult)}
    (hpl : spec.pipelineName ∈ validPipelineNames)
    (h : (spec.program setup).Reaches tr (.await (.persist site update) k)) :
    update.sessionId = spec.sessionId ∧ update.pipelineName = spec.pipelineName := by
  obtain ⟨tr', out, hrun⟩ := (h.step ()).extend
  obtain ⟨hreport, hmem⟩ := execute_report setup.sound hrun
  obtain ⟨hsid, hname, -⟩ :=
    @sentTo_of_report (spec.runtime setup) _ _ _ _ _ rfl rfl (ne_empty_of_valid hpl) hreport hmem
      ⟨.persist site update, ()⟩ (by simp) site update rfl
  exact ⟨hsid, hname⟩

/-- **The rule for running tasks.** -/
theorem Tracked.step {a : Action} (stable : Stable P) (inv : ControlInv cat none w)
    (ht : Tracked P w) (hstep : step cat w a = some w')
    (hstart : ∀ i h, Starts w w' i h → P w.repo h.spec []) : Tracked P w' := by
  cases step_moves hstep with
  | fetchSession hget => exact ht.frame rfl rfl
  | enter hsnap hpl hlock => exact ht.phase inv (checkHandler_exit _ _ _).handlers hstart
  | @definitionFetched sid served setup c hcall hpoint =>
      have hmove := (continueWith_exit (cacheDefinition w c (answerOf cat c served)) c
        (answerOf cat c served) setup).handlers
      have hsame := cacheDefinition_frame w c (answerOf cat c served)
      rw [hsame.1, hsame.2.1, hsame.2.2] at hmove
      exact ht.phase inv hmove hstart
  | cleanedUp hcall hpoint => exact ht.frame rfl rfl
  | terminateReturned hcall hpoint => exact ht.frame rfl rfl
  | @called i h e k hget htask =>
      -- the call is made: what is left is the same, now waiting for the response
      refine ht.set rfl rfl ?_
      intro left hleft
      injection hleft with hleft
      subst hleft
      exact ht i h _ hget (by rw [htask]; rfl)
  | @finished i h out hget htask =>
      cases out with
      | ok result => exact ht.set rfl rfl (by intro left hleft; cases hleft)
      | error e => exact ht.set rfl rfl (by intro left hleft; cases hleft)
  | @dispatchReturned i h request k outcome hget htask =>
      refine ht.set rfl rfl ?_
      intro left hleft
      injection hleft with hleft
      subst hleft
      obtain ⟨setup, tr, hreach, hP⟩ := ht.of_waiting hget htask
      exact ⟨setup, _, hreach.step outcome, stable.dispatched request outcome hP⟩
  | @persistReturned i h site update k stored hget htask =>
      obtain ⟨setup, tr, hreach, hP⟩ := ht.of_waiting hget htask
      obtain ⟨hsid, hname⟩ := sent_update (inv.named i h hget) hreach
      intro j g left hnew hleft
      rcases Dict.get?_set_eq_some hnew with ⟨-, rfl⟩ | ⟨hji, hj⟩
      · -- the run's own update
        injection hleft with hleft
        subst hleft
        refine ⟨setup, _, hreach.step (), ?_⟩
        cases stored with
        | true => exact stable.stored site update hP
        | false => exact stable.lost site update hP
      · -- any other running handler is one of another pipeline
        obtain ⟨setup', tr', hreach', hP'⟩ := ht j g left hj hleft
        refine ⟨setup', tr', hreach', ?_⟩
        cases stored with
        | false => exact hP'
        | true =>
            refine stable.foreign update ?_ hP'
            rintro ⟨hsid', hname'⟩
            -- two running handlers of one key are one handler
            have hkey : g.key = h.key := by
              unfold LifecyclePhaseHandler.key
              rw [show g.sessionId = h.sessionId from hsid'.symm.trans hsid,
                show g.pipelineName = h.pipelineName from hname'.symm.trans hname]
            have hrun : g.isRunning = true := by
              obtain ⟨t, hgt, hlt⟩ := Option.bind_eq_some_iff.mp hleft
              refine isRunning_of_task hgt ?_
              intro heq
              subst heq
              cases hlt
            have hact := inv.running j g hj hrun
            rw [hkey, inv.running i h hget (isRunning_of_task htask (by simp))] at hact
            exact hji (Option.some.inj hact).symm
  | @recorded i h hget htask =>
      obtain ⟨hh, hr, -⟩ := completeHandler_frame w i h
      exact ht.set hh hr (by intro left hleft; cases hleft)
  | event =>
      intro i h left hget hleft
      obtain ⟨setup, tr, hreach, hP⟩ := ht i h left hget hleft
      exact ⟨setup, tr, hreach, stable.delivered _ _ _ hP⟩
  | @signal n setup sig hsig =>
      rcases signalHandler_cases { w with signals := w.signals.eraseIdx n } sig setup with
        heq | ⟨i, h, -, hget, hstopped, heq⟩
      · rw [heq]
        exact ht.frame rfl rfl
      · rw [heq] at hstart ⊢
        refine ht.start rfl rfl ?_ hstart
        intro g hg
        rw [← Option.some.inj (hget.symm.trans hg)]
        exact hstopped

end Rule

end CmlCloudManager.Controller
