/-
  CmlCloudManager.Pipeline.Visits
  ───────────────────────────────
  **ONE STEP SEEN FROM A WHOLE RUN.**

  A run of the loop is cut up by step: every event concerns one step, and the
  events of a step stand together.  For each step of the order there are three
  possibilities,

    • `Visit`   — the loop came to the step; its events are those of ONE iteration,
    • `aborted` — a required step failed before it: one `skipped` update, no dispatch,
    • `halted`  — the loop left before it for another reason: no event at all.

  `LoopRun.visit_or_passed` is the case analysis; what the later modules say
  about a step in a run is read off from it.
-/
import CmlCloudManager.Pipeline.LoopInvariant

namespace CmlCloudManager.Pipeline

open CmlCloudManager.Foundation

/-! ## §1. The step an event concerns. -/

/-- The step an event is about. -/
def concerns : ExecEvent → String
  | ⟨.dispatch request, _⟩ => request.stepName
  | ⟨.persist _ update, _⟩ => update.stepName

@[simp] theorem concerns_persistEvent (rt : Runtime) (site : PersistSite) (name : String)
    (status : StepStatus) (rd : Option Payload) (err : Option Value) :
    concerns (persistEvent rt site name status rd err) = name := rfl

theorem IsAttempt.concerns_eq {step : StepDef} {st : ExecState} {e : ExecEvent}
    (h : IsAttempt step st e) : concerns e = step.name := by
  obtain ⟨attempt, outcome, rfl⟩ := h
  rfl

theorem concerns_of_dispatchedStep {e : ExecEvent} {name : String}
    (h : dispatchedStep e = some name) : concerns e = name := by
  obtain ⟨e, r⟩ := e
  cases e with
  | dispatch request => exact Option.some.inj h
  | persist site update => cases h

/-- The events of a trace that concern a step. -/
def eventsOf (name : String) (tr : Trace) : Trace :=
  tr.filter fun e => concerns e = name

theorem eventsOf_append (name : String) (tr tr' : Trace) :
    eventsOf name (tr ++ tr') = eventsOf name tr ++ eventsOf name tr' :=
  List.filter_append ..

theorem mem_eventsOf {name : String} {tr : Trace} {e : ExecEvent} :
    e ∈ eventsOf name tr ↔ e ∈ tr ∧ concerns e = name := by
  simp [eventsOf]

theorem eventsOf_eq_self {name : String} {tr : Trace} (h : ∀ e ∈ tr, concerns e = name) :
    eventsOf name tr = tr := by
  rw [eventsOf, List.filter_eq_self]
  intro e he
  exact decide_eq_true (h e he)

theorem eventsOf_eq_nil {name : String} {tr : Trace} (h : ∀ e ∈ tr, concerns e ≠ name) :
    eventsOf name tr = [] := by
  rw [eventsOf, List.filter_eq_nil_iff]
  intro e he
  simpa using h e he

/-- The dispatches of a step. -/
def dispatchesOf (name : String) (tr : Trace) : Trace :=
  (eventsOf name tr).filter fun e => (dispatchedStep e).isSome

/-- The updates sent for a step. -/
def updatesOf (name : String) (tr : Trace) : List (PersistSite × ProgressUpdate) :=
  (eventsOf name tr).filterMap persistedUpdate

theorem dispatchesOf_append (name : String) (tr tr' : Trace) :
    dispatchesOf name (tr ++ tr') = dispatchesOf name tr ++ dispatchesOf name tr' := by
  rw [dispatchesOf, eventsOf_append, List.filter_append]
  rfl

theorem updatesOf_append (name : String) (tr tr' : Trace) :
    updatesOf name (tr ++ tr') = updatesOf name tr ++ updatesOf name tr' := by
  rw [updatesOf, eventsOf_append, List.filterMap_append]
  rfl

/-- Attempts of a step are its dispatches. -/
theorem dispatchesOf_attempts {step : StepDef} {st : ExecState} {attempts : Trace}
    (h : ∀ e ∈ attempts, IsAttempt step st e) :
    dispatchesOf step.name attempts = attempts ∧ updatesOf step.name attempts = [] := by
  rw [dispatchesOf, updatesOf, eventsOf_eq_self fun e he => (h e he).concerns_eq]
  refine ⟨List.filter_eq_self.mpr ?_, List.filterMap_eq_nil_iff.mpr ?_⟩
  · intro e he
    obtain ⟨attempt, outcome, rfl⟩ := h e he
    rfl
  · intro e he
    obtain ⟨attempt, outcome, rfl⟩ := h e he
    rfl

/-- An update of a step is no dispatch. -/
theorem dispatchesOf_persistEvent (rt : Runtime) (site : PersistSite) (name : String)
    (status : StepStatus) (rd : Option Payload) (err : Option Value) :
    dispatchesOf name [persistEvent rt site name status rd err] = []
      ∧ updatesOf name [persistEvent rt site name status rd err]
        = [(site, progressUpdate rt name status rd err)] := by
  rw [dispatchesOf, updatesOf, eventsOf_eq_self (by simp)]
  exact ⟨rfl, rfl⟩

/-! ## §2. The abort loop, step by step. -/

/-- The abort sends one update for each step without a status. -/
theorem eventsOf_abortTrace (rt : Runtime) (name : String) :
    ∀ (l : List StepDef) (st : ExecState),
      eventsOf name (abortTrace rt l st)
        = if name ∈ l.map StepDef.name ∧ st.stepStatuses.contains name = false
          then [persistEvent rt .aborted name .skipped none none] else []
  | [], st => by simp [abortTrace, eventsOf]
  | remaining :: rest, st => by
      unfold abortTrace
      split
      next hseen =>
        -- a step with a status is left out
        rw [eventsOf_abortTrace rt name rest st]
        by_cases hn : name = remaining.name
        · subst hn
          simp [hseen]
        · simp [hn]
      next hnew =>
        set st' := st.mark remaining.name .skipped
          { status := some .skipped, reason := some (.str "pipeline aborted") }
        have hcons : ∀ tl : Trace, eventsOf name
            (persistEvent rt .aborted remaining.name .skipped none none :: tl)
              = eventsOf name [persistEvent rt .aborted remaining.name .skipped none none]
                ++ eventsOf name tl :=
          fun tl => eventsOf_append name [_] tl
        rw [hcons, eventsOf_abortTrace rt name rest st']
        by_cases hn : name = remaining.name
        · -- its update is sent now, and its new status keeps it out of the rest
          subst hn
          have hset : st'.stepStatuses.contains remaining.name = true := by
            rw [Dict.contains_iff_mem_keys]
            exact (Dict.mem_keys_set _ _ _ _).mpr (.inl rfl)
          have hnot : st.stepStatuses.contains remaining.name = false := Bool.eq_false_iff.mpr hnew
          rw [hset, hnot, eventsOf_eq_self (by simp)]
          simp
        · have hsame : st'.stepStatuses.contains name = st.stepStatuses.contains name := by
            rw [Dict.contains, Dict.contains]
            exact congrArg _ (Dict.get?_set_ne _ _ _ hn)
          rw [hsame, eventsOf_eq_nil (by simpa using Ne.symm hn)]
          simp [hn]

theorem abortState_errorMessage :
    ∀ (l : List StepDef) (st : ExecState), (abortState l st).errorMessage = st.errorMessage
      ∧ (abortState l st).pipelineSuspended = st.pipelineSuspended
  | [], _ => ⟨rfl, rfl⟩
  | remaining :: rest, st => by
      unfold abortState
      split
      next => exact abortState_errorMessage rest st
      next =>
        obtain ⟨herr, hsus⟩ := abortState_errorMessage rest (st.mark remaining.name .skipped
          { status := some .skipped, reason := some (.str "pipeline aborted") })
        exact ⟨herr, hsus⟩

/-- The abort changes no status that is there. -/
theorem abortState_get? {name : String} {status : StepStatus} :
    ∀ (l : List StepDef) (st : ExecState), st.stepStatuses.get? name = some status →
      (abortState l st).stepStatuses.get? name = some status
  | [], _, h => h
  | remaining :: rest, st, h => by
      unfold abortState
      split
      next => exact abortState_get? rest st h
      next hnew =>
        refine abortState_get? rest _ ?_
        rw [mark_stepStatuses, Dict.get?_set_ne _ _ _ ?_, h]
        rintro rfl
        rw [Dict.contains, h] at hnew
        exact hnew rfl

/-! ## §3. The events of one iteration. -/

/-- What remains of the loop after an iteration. -/
def Continues (rt : Runtime) (steps ordered : List StepDef) (resume : Dict String StepInfo)
    (rest : List StepDef) : StepExit → Trace → Except ExecuteError ExecState → Prop
  | .next st', tr, out => LoopRun rt steps ordered resume rest st' tr out
  | .stop st', tr, out => tr = [] ∧ out = .ok st'
  | .raised e, tr, out => tr = [] ∧ out = .error e

section Iteration

variable {rt : Runtime} {steps ordered : List StepDef} {resume : Dict String StepInfo}
  {step : StepDef} {st : ExecState} {tr : Trace}

theorem attempts_concern {attempts updates : Trace} (hatt : ∀ e ∈ attempts, IsAttempt step st e)
    (hupd : ∀ e ∈ updates, concerns e = step.name) :
    ∀ e ∈ attempts ++ updates, concerns e = step.name := by
  intro e he
  rcases List.mem_append.mp he with he | he
  · exact (hatt e he).concerns_eq
  · exact hupd e he

/-- Attempts and one update of a step are all its own. -/
theorem eventsOf_own {attempts : Trace} {ev : ExecEvent}
    (hatt : ∀ e ∈ attempts, IsAttempt step st e) (hev : concerns ev = step.name) :
    eventsOf step.name (attempts ++ [ev]) = attempts ++ [ev] :=
  eventsOf_eq_self (attempts_concern hatt (by simpa using hev))

/-- The state in which a required failure is recorded has a status for its step. -/
theorem contains_failedState {cause : Value} {info : StepInfo} {st' : ExecState} :
    (failedState step cause info st').stepStatuses.contains step.name = true := by
  rw [Dict.contains_iff_mem_keys]
  exact (Dict.mem_keys_set _ _ _ _).mpr (.inl rfl)

/-- So the abort that follows says nothing of it. -/
theorem eventsOf_abort_self {cause : Value} {info : StepInfo} {st' : ExecState} :
    eventsOf step.name (abortTrace rt ordered (failedState step cause info st')) = [] := by
  rw [eventsOf_abortTrace, contains_failedState]
  simp

/-- **The events of an iteration**: they concern its step, but for the updates an
abort sends for steps that have no status yet. -/
theorem StepRun.concerns_or {exit : StepExit}
    (h : StepRun rt steps ordered resume step st tr exit) :
    ∀ e ∈ tr, concerns e = step.name
      ∨ (dispatchedStep e = none ∧ st.stepStatuses.contains (concerns e) = false
        ∧ ∃ st', exit = .stop st') := by
  have own : ∀ {l : Trace}, (∀ e ∈ l, concerns e = step.name) → ∀ e ∈ l,
      concerns e = step.name ∨ (dispatchedStep e = none
        ∧ st.stepStatuses.contains (concerns e) = false ∧ ∃ st', exit = .stop st') :=
    fun hl e he => .inl (hl e he)
  cases h with
  | resumed h => simp
  | blocked hnew h => exact own (by simp)
  | crashed hnew h => simp
  | skipWhen hnew h => exact own (by simp)
  | handlerSkipped hnew hup hskip run hstatus => exact own (attempts_concern run.attempts (by simp))
  | suspended hnew hup hskip run hstatus => exact own (attempts_concern run.attempts (by simp))
  | completed hnew hup hskip run hstatus => exact own (attempts_concern run.attempts (by simp))
  | failedOptional hnew hup hskip fail hopt =>
      obtain ⟨⟨out, run⟩, -⟩ := fail.attemptRun
      exact own (attempts_concern run.attempts (by simp))
  | @failedRequired tr₁ site cause info st' hnew hup hskip fail hopt =>
      obtain ⟨⟨out, run⟩, -⟩ := fail.attemptRun
      intro e he
      rcases List.mem_append.mp he with he | he
      · exact .inl (run.attempts e he).concerns_eq
      · rcases List.mem_cons.mp he with rfl | he
        · exact .inl rfl
        · -- an update of the abort loop
          have hmem : e ∈ eventsOf (concerns e)
              (abortTrace rt ordered (failedState step cause info st')) :=
            mem_eventsOf.mpr ⟨he, rfl⟩
          rw [eventsOf_abortTrace] at hmem
          split at hmem
          next hc =>
            refine .inr ⟨?_, ?_, _, rfl⟩
            · rw [List.mem_singleton.mp hmem]
              rfl
            · have hfree := hc.2
              rw [Dict.contains_eq_false_iff] at hfree ⊢
              rw [← run.stepStatuses]
              have hne : concerns e ≠ step.name := by
                intro heq
                have hown := @contains_failedState step cause info st'
                rw [← heq, hc.2] at hown
                cases hown
              rwa [failedState, mark_stepStatuses, Dict.get?_set_ne _ _ _ hne] at hfree
          next => cases hmem

/-- An iteration that goes on only has events of its own step. -/
theorem StepRun.concerns_next {st' : ExecState}
    (h : StepRun rt steps ordered resume step st tr (.next st')) :
    ∀ e ∈ tr, concerns e = step.name := by
  intro e he
  rcases h.concerns_or e he with h | ⟨-, -, st'', h⟩
  · exact h
  · cases h

/-- What an iteration with attempts and one update leaves of its step. -/
theorem calls_of_step {attempts : Trace} (hatt : ∀ e ∈ attempts, IsAttempt step st e)
    (site : PersistSite) (status : StepStatus) (rd : Option Payload) (err : Option Value) :
    dispatchesOf step.name (attempts ++ [persistEvent rt site step.name status rd err]) = attempts
      ∧ updatesOf step.name (attempts ++ [persistEvent rt site step.name status rd err])
        = [(site, progressUpdate rt step.name status rd err)] := by
  obtain ⟨hd, hu⟩ := dispatchesOf_attempts hatt
  obtain ⟨hd', hu'⟩ := dispatchesOf_persistEvent rt site step.name status rd err
  rw [dispatchesOf_append, updatesOf_append, hd, hu, hd', hu', List.append_nil, List.nil_append]
  exact ⟨rfl, rfl⟩

/-- The abort that follows a required failure does not concern the failed step. -/
theorem calls_of_failed_step {attempts : Trace} (hatt : ∀ e ∈ attempts, IsAttempt step st e)
    (site : PersistSite) (cause : Value) (info : StepInfo) (st' : ExecState) :
    dispatchesOf step.name (attempts ++ persistEvent rt site step.name .failed none (some cause)
          :: abortTrace rt ordered (failedState step cause info st')) = attempts
      ∧ updatesOf step.name (attempts ++ persistEvent rt site step.name .failed none (some cause)
          :: abortTrace rt ordered (failedState step cause info st'))
        = [(site, progressUpdate rt step.name .failed none (some cause))] := by
  obtain ⟨hd, hu⟩ := @calls_of_step rt step st attempts hatt site .failed none (some cause)
  rw [← List.singleton_append, ← List.append_assoc, dispatchesOf_append, updatesOf_append, hd, hu,
    dispatchesOf, updatesOf, eventsOf_abort_self]
  simp

end Iteration

/-! ## §4. What is behind the loop is left alone. -/

section Behind

variable {rt : Runtime} {steps ordered : List StepDef} {resume : Dict String StepInfo}

theorem Healthy.contains {done : List StepDef} {st : ExecState} (hh : Healthy done st)
    {s : StepDef} (hs : s ∈ done) : st.stepStatuses.contains s.name = true := by
  obtain ⟨status, hget, -⟩ := hh.settled s hs
  rw [Dict.contains, hget]
  rfl

/-- **No later event concerns a step behind the loop.** -/
theorem LoopRun.concerns_ahead (hv : ValidOrder steps ordered) :
    ∀ {rest : List StepDef} {st : ExecState} {tr : Trace} {out : Except ExecuteError ExecState},
      LoopRun rt steps ordered resume rest st tr out →
      ∀ done, ordered = done ++ rest → Healthy done st →
        ∀ e ∈ tr, ∀ s ∈ done, concerns e ≠ s.name := by
  intro rest st tr out h
  induction h with
  | nil => simp
  | @next step rest st tr st' tr' out head tail ih =>
      intro done hsplit hh e he s hs
      rcases List.mem_append.mp he with he | he
      · rw [head.concerns_next e he]
        exact Ne.symm (hv.name_ne hsplit hs)
      · exact ih (done ++ [step]) (by rw [hsplit]; simp) (hh.next (hv.fresh hsplit) head) e he s
          (List.mem_append_left _ hs)
  | @stop step rest st tr st' head =>
      intro done hsplit hh e he s hs heq
      rcases head.concerns_or e he with h | ⟨-, hfree, -⟩
      · exact hv.name_ne hsplit hs (heq.symm.trans h)
      · -- the abort leaves out the steps that have a status
        rw [heq, hh.contains hs] at hfree
        cases hfree
  | @raised step rest st tr e' head =>
      intro done hsplit hh e he s hs heq
      rcases head.concerns_or e he with h | ⟨-, -, st', h⟩
      · exact hv.name_ne hsplit hs (heq.symm.trans h)
      · cases h

/-- **Statuses are final**: a status behind the loop is still there at the end. -/
theorem LoopRun.get?_final (hv : ValidOrder steps ordered) :
    ∀ {rest : List StepDef} {st : ExecState} {tr : Trace} {out : Except ExecuteError ExecState},
      LoopRun rt steps ordered resume rest st tr out →
      ∀ done, ordered = done ++ rest → Healthy done st →
        ∀ st', out = .ok st' → ∀ s ∈ done,
          st'.stepStatuses.get? s.name = st.stepStatuses.get? s.name := by
  intro rest st tr out h
  induction h with
  | nil =>
      intro done hsplit hh st' hout s hs
      injection hout with hout
      rw [hout]
  | @next step rest st tr st₁ tr' out head tail ih =>
      intro done hsplit hh st' hout s hs
      have hne := hv.name_ne hsplit hs
      obtain ⟨status, -, hb⟩ := head.booked
      rw [ih (done ++ [step]) (by rw [hsplit]; simp) (hh.next (hv.fresh hsplit) head) st' hout s
        (List.mem_append_left _ hs), hb.statuses, Dict.get?_set_ne _ _ _ hne]
  | @stop step rest st tr st₁ head =>
      intro done hsplit hh st' hout s hs
      injection hout with hout
      subst hout
      have hne := hv.name_ne hsplit hs
      obtain ⟨status, hget, -⟩ := hh.settled s hs
      -- the loop leaves at `step`: resumed as suspended, suspended, or failed and required
      cases head with
      | resumed h =>
          obtain ⟨prev, -, hexit⟩ := Option.bind_eq_some_iff.mp h
          obtain ⟨hsus, -⟩ := resumeStep_stop hexit
          simp only [resumeStep, hsus, Option.some.injEq, StepExit.stop.injEq] at hexit
          subst hexit
          exact Dict.get?_set_ne _ _ _ hne
      | suspended hnew hup hskip run hstatus =>
          show (Dict.set _ step.name _).get? s.name = _
          rw [Dict.get?_set_ne _ _ _ hne, run.stepStatuses]
      | failedRequired hnew hup hskip fail hopt =>
          obtain ⟨⟨out, run⟩, -⟩ := fail.attemptRun
          rw [hget]
          refine abortState_get? _ _ ?_
          show (Dict.set _ step.name _).get? s.name = _
          rw [Dict.get?_set_ne _ _ _ hne, run.stepStatuses, hget]
  | raised head =>
      intro done hsplit hh st' hout
      cases hout

end Behind

/-! ## §5. Visited, aborted or never reached. -/

/-- **The loop came to the step**: `own` are the calls of its iteration. -/
inductive Visit (rt : Runtime) (steps ordered : List StepDef) (resume : Dict String StepInfo)
    (step : StepDef) (tr : Trace) (out : Except ExecuteError ExecState) : Prop where
  | mk (done rest : List StepDef) (st : ExecState) (before own after : Trace) (exit : StepExit)
      (hsplit : ordered = done ++ step :: rest) (healthy : Healthy done st)
      (htr : tr = before ++ own ++ after)
      (run : StepRun rt steps ordered resume step st own exit)
      (tail : Continues rt steps ordered resume rest exit after out)
      (hbefore : ∀ e ∈ before, concerns e ∈ done.map StepDef.name)
      (hafter : ∀ e ∈ after, concerns e ≠ step.name)

/-- The loop left before it came to the step. -/
inductive Passed (rt : Runtime) (step : StepDef) (tr : Trace) :
    Except ExecuteError ExecState → Prop where
  | aborted {st} (events : eventsOf step.name tr
        = [persistEvent rt .aborted step.name .skipped none none])
      (herr : st.errorMessage.isSome = true) : Passed rt step tr (.ok st)
  | halted {st} (events : eventsOf step.name tr = []) (hsus : st.pipelineSuspended = true) :
      Passed rt step tr (.ok st)
  | raised {e} (events : eventsOf step.name tr = []) : Passed rt step tr (.error e)

section Cases

variable {rt : Runtime} {steps ordered : List StepDef} {resume : Dict String StepInfo}

/-- A step ahead of the one at which the loop leaves. -/
theorem StepRun.passed (hv : ValidOrder steps ordered) {done rest : List StepDef}
    {step : StepDef} {st : ExecState} {before own : Trace} {exit : StepExit}
    (hsplit : ordered = done ++ step :: rest) (hh : Healthy done st)
    (run : StepRun rt steps ordered resume step st own exit) {out : Except ExecuteError ExecState}
    (hout : Continues rt steps ordered resume rest exit [] out) (hleave : ∀ st', exit ≠ .next st')
    (hbefore : ∀ e ∈ before, concerns e ∈ done.map StepDef.name) {s : StepDef} (hs : s ∈ rest) :
    Passed rt s (before ++ own) out := by
  -- the step is neither behind the loop nor the one it is at
  have hnd := hv.nodup
  rw [hsplit, List.map_append, List.map_cons, List.nodup_append, List.nodup_cons] at hnd
  have hs' : s.name ∈ rest.map StepDef.name := List.mem_map.mpr ⟨s, hs, rfl⟩
  have hdone : s.name ∉ done.map StepDef.name :=
    fun hmem => hnd.2.2 _ hmem _ (List.mem_cons_of_mem _ hs') rfl
  have hstep : step.name ≠ s.name := by
    intro heq
    rw [← heq] at hs'
    exact hnd.2.1.1 hs'
  have hsilent : eventsOf s.name before = [] :=
    eventsOf_eq_nil fun e he heq => hdone (heq ▸ hbefore e he)
  have hattempts : ∀ {attempts : Trace} {ev : ExecEvent}, (∀ e ∈ attempts, IsAttempt step st e) →
      concerns ev = step.name → eventsOf s.name (attempts ++ [ev]) = [] := by
    intro attempts ev hatt hev
    refine eventsOf_eq_nil fun e he heq => hstep ?_
    rw [← heq]
    exact (attempts_concern hatt (by simpa using hev) e he).symm
  cases run with
  | @resumed exit h =>
      cases exit with
      | next st' => exact absurd rfl (hleave st')
      | stop st' =>
          obtain ⟨-, rfl⟩ := hout
          obtain ⟨prev, -, hexit⟩ := Option.bind_eq_some_iff.mp h
          obtain ⟨-, hsus⟩ := resumeStep_stop hexit
          exact .halted (by rw [eventsOf_append, hsilent]; rfl) hsus
      | raised e =>
          obtain ⟨-, rfl⟩ := hout
          exact .raised (by rw [eventsOf_append, hsilent]; rfl)
  | blocked hnew h => exact absurd rfl (hleave _)
  | crashed hnew h =>
      obtain ⟨-, rfl⟩ := hout
      exact .raised (by rw [eventsOf_append, hsilent]; rfl)
  | skipWhen hnew h => exact absurd rfl (hleave _)
  | handlerSkipped hnew hup hskip run hstatus => exact absurd rfl (hleave _)
  | suspended hnew hup hskip run hstatus =>
      obtain ⟨-, rfl⟩ := hout
      refine .halted ?_ rfl
      rw [eventsOf_append, hsilent, List.nil_append, hattempts run.attempts rfl]
  | completed hnew hup hskip run hstatus => exact absurd rfl (hleave _)
  | failedOptional hnew hup hskip fail hopt => exact absurd rfl (hleave _)
  | @failedRequired tr₁ site cause info st' hnew hup hskip fail hopt =>
      obtain ⟨-, rfl⟩ := hout
      obtain ⟨⟨out, run⟩, -⟩ := fail.attemptRun
      refine .aborted ?_ ?_
      · -- the abort loop finds the step without a status
        have hfree : (failedState step cause info st').stepStatuses.contains s.name = false := by
          rw [Dict.contains_eq_false_iff]
          show (Dict.set _ step.name _).get? s.name = _
          rw [Dict.get?_set_ne _ _ _ (Ne.symm hstep), run.stepStatuses,
            ← Dict.contains_eq_false_iff]
          exact Bool.eq_false_iff.mpr fun hc => hdone (hh.only _ hc)
        have hin : s.name ∈ ordered.map StepDef.name := by
          rw [hsplit]
          simp only [List.map_append, List.map_cons, List.mem_append, List.mem_cons]
          exact .inr (.inr hs')
        rw [eventsOf_append, hsilent, List.nil_append,
          show tr₁ ++ persistEvent rt site step.name .failed none (some cause)
              :: abortTrace rt ordered (failedState step cause info st')
            = (tr₁ ++ [persistEvent rt site step.name .failed none (some cause)])
              ++ abortTrace rt ordered (failedState step cause info st') by simp,
          eventsOf_append, hattempts run.attempts rfl, List.nil_append, eventsOf_abortTrace,
          if_pos ⟨hin, hfree⟩]
      · rw [(abortState_errorMessage _ _).1]
        rfl

/-- Where the loop leaves, it has come to its step and to none ahead of it. -/
theorem StepRun.visit_or_passed (hv : ValidOrder steps ordered) {done rest : List StepDef}
    {step : StepDef} {st : ExecState} {before own : Trace} {exit : StepExit}
    (hsplit : ordered = done ++ step :: rest) (hh : Healthy done st)
    (run : StepRun rt steps ordered resume step st own exit) {out : Except ExecuteError ExecState}
    (hout : Continues rt steps ordered resume rest exit [] out) (hleave : ∀ st', exit ≠ .next st')
    (hbefore : ∀ e ∈ before, concerns e ∈ done.map StepDef.name) {s : StepDef}
    (hs : s ∈ step :: rest) :
    Visit rt steps ordered resume s (before ++ own) out ∨ Passed rt s (before ++ own) out := by
  rcases List.mem_cons.mp hs with rfl | hs
  · refine .inl (.mk done rest st before own [] exit hsplit hh ?_ run hout hbefore (by simp))
    rw [List.append_nil]
  · exact .inr (run.passed hv hsplit hh hout hleave hbefore hs)

/-- The events of a visited step are those of its iteration. -/
theorem eventsOf_visited {step : StepDef} {done : List StepDef} {before own after : Trace}
    (hfresh : step.name ∉ done.map StepDef.name)
    (hbefore : ∀ e ∈ before, concerns e ∈ done.map StepDef.name)
    (hafter : ∀ e ∈ after, concerns e ≠ step.name) :
    eventsOf step.name (before ++ own ++ after) = eventsOf step.name own := by
  have hsilent : eventsOf step.name before = [] :=
    eventsOf_eq_nil fun e he heq => hfresh (heq ▸ hbefore e he)
  rw [eventsOf_append, eventsOf_append, eventsOf_eq_nil hafter, hsilent, List.nil_append,
    List.append_nil]

/-- The status an iteration gives its step is the one the run ends with. -/
theorem Continues.get?_final (hv : ValidOrder steps ordered) {done rest : List StepDef}
    {step : StepDef} {st st' : ExecState} {own after : Trace} {exit : StepExit}
    {out : Except ExecuteError ExecState} (hsplit : ordered = done ++ step :: rest)
    (hh : Healthy done st) (run : StepRun rt steps ordered resume step st own exit)
    (tail : Continues rt steps ordered resume rest exit after out)
    (hexit : exit = .next st' ∨ exit = .stop st') {final : ExecState} (hout : out = .ok final) :
    final.stepStatuses.get? step.name = st'.stepStatuses.get? step.name := by
  rcases hexit with rfl | rfl
  · exact LoopRun.get?_final hv tail (done ++ [step]) (by rw [hsplit]; simp)
      (hh.next (hv.fresh hsplit) run) final hout step (by simp)
  · obtain ⟨-, hout'⟩ := tail
    rw [hout] at hout'
    injection hout' with hout'
    rw [hout']

/-- **Every step of the order is visited, or the loop left before it.** -/
theorem LoopRun.visit_or_passed (hv : ValidOrder steps ordered) :
    ∀ {rest : List StepDef} {st : ExecState} {tr : Trace} {out : Except ExecuteError ExecState},
      LoopRun rt steps ordered resume rest st tr out →
      ∀ done before, ordered = done ++ rest → Healthy done st →
        (∀ e ∈ before, concerns e ∈ done.map StepDef.name) →
        ∀ s ∈ rest, Visit rt steps ordered resume s (before ++ tr) out
          ∨ Passed rt s (before ++ tr) out := by
  intro rest st tr out h
  induction h with
  | nil => simp
  | @next step rest st tr st' tr' out head tail ih =>
      intro done before hsplit hh hbefore s hs
      have hh' := hh.next (hv.fresh hsplit) head
      have hsplit' : ordered = (done ++ [step]) ++ rest := by
        rw [hsplit]
        simp
      rcases List.mem_cons.mp hs with rfl | hs
      · -- the step of this iteration: what follows does not come back to it
        refine .inl (.mk done rest st before tr tr' _ hsplit hh (by simp) head tail hbefore ?_)
        intro e he
        exact tail.concerns_ahead hv _ hsplit' hh' e he s (by simp)
      · rw [← List.append_assoc]
        refine ih (done ++ [step]) (before ++ tr) hsplit' hh' ?_ s hs
        intro e he
        rw [List.map_append, List.mem_append]
        rcases List.mem_append.mp he with he | he
        · exact .inl (hbefore e he)
        · exact .inr (by simp [head.concerns_next e he])
  | @stop step rest st tr st' head =>
      intro done before hsplit hh hbefore s hs
      exact head.visit_or_passed hv hsplit hh ⟨rfl, rfl⟩ (by simp) hbefore hs
  | @raised step rest st tr e head =>
      intro done before hsplit hh hbefore s hs
      exact head.visit_or_passed hv hsplit hh ⟨rfl, rfl⟩ (by simp) hbefore hs

/-- The case analysis for a run of the acting part. -/
theorem runPipeline_visit_or_passed {sorter : Sorter} (hsound : sorter.Sound)
    {existing : Option ExistingProgress} {tr : Trace} {out : Except ExecuteError ExecState}
    (h : (runPipeline rt sorter steps existing).Runs tr out) :
    (∃ e, resolveDag sorter steps = .error e ∧ tr = [] ∧ out = .error e)
      ∨ ∃ ordered, resolveDag sorter steps = .ok ordered ∧ ValidOrder steps ordered
        ∧ LoopRun rt steps ordered (resumeStatuses existing) ordered
            (initialState rt.context ordered) tr out
        ∧ ∀ s ∈ steps, Visit rt steps ordered (resumeStatuses existing) s tr out
          ∨ Passed rt s tr out := by
  rcases runs_runPipeline h with hrej | ⟨ordered, hord, hloop⟩
  · exact .inl hrej
  · have hv := validOrder_of_resolveDag hsound hord
    refine .inr ⟨ordered, hord, hv, hloop, fun s hs => ?_⟩
    have hvp := hloop.visit_or_passed hv [] [] rfl (healthy_initial rt.context ordered) (by simp) s
      (hv.perm.mem_iff.mpr hs)
    simpa using hvp

end Cases

end CmlCloudManager.Pipeline
