/-
  CmlCloudManager.Pipeline.FailureSignals
  ───────────────────────────────────────
  **TWO WAYS TO REPORT A FAILURE.**

  A handler returns a result whose status is `failed`, or it raises.  Both end in
  `failStep`, but only the second one passes through the attempts: what is returned
  ends them.

    • `Like` relates the states of two runs that differ in no more than how failures
      were reported, and every program of the executor keeps it (`loop_coupled`),
    • a failure returned while attempts are left costs the ones that are left
      (`loop_more`),

  so that the two ways agree exactly on the runs in which the step returns a failure
  at its last attempt at most (`failure_signals_agree_iff`).
-/
import CmlCloudManager.Foundation.Coupling
import CmlCloudManager.Pipeline.DispatchSafety
import CmlCloudManager.Pipeline.Handlers

namespace CmlCloudManager.Pipeline

open CmlCloudManager.Foundation

/-! ## §1. Returned and raised. -/

/-- The same handlers, but for one step that raises the failures it would return. -/
def raising (name : String) (message : Payload → String) (handlers : Handlers) : Handlers :=
  fun call =>
    match handlers call with
    | .returned result =>
        if call.stepName = name ∧ handlerStatus result = .failed then .raised (message result)
        else .returned result
    | outcome => outcome

/-- A dispatch with its outcome. -/
def dispatchEvent (request : DispatchRequest) (outcome : DispatchOutcome) : ExecEvent :=
  ⟨.dispatch request, outcome⟩

/-- The step returns a failure, and attempts are left. -/
def EarlyFailure (step : StepDef) (ev : ExecEvent) : Prop :=
  ∃ request result, ev = dispatchEvent request (.returned result)
    ∧ request.stepName = step.name ∧ handlerStatus result = .failed
    ∧ (request.attempt : Int) < step.maxAttempts

/-- The same, as a check. -/
def earlyFailure (step : StepDef) : ExecEvent → Bool
  | ⟨.dispatch request, .returned result⟩ =>
      decide (request.stepName = step.name ∧ handlerStatus result = .failed
        ∧ (request.attempt : Int) < step.maxAttempts)
  | _ => false

theorem earlyFailure_eq_true {step : StepDef} {ev : ExecEvent} :
    earlyFailure step ev = true ↔ EarlyFailure step ev := by
  constructor
  · intro h
    unfold earlyFailure at h
    split at h
    next request result => exact ⟨request, result, rfl, of_decide_eq_true h⟩
    next => cases h
  · rintro ⟨request, result, rfl, hearly⟩
    exact decide_eq_true hearly

instance (step : StepDef) (ev : ExecEvent) : Decidable (EarlyFailure step ev) :=
  decidable_of_iff _ earlyFailure_eq_true

/-! ## §2. States that differ in the reports of failures. -/

/-- The states agree but for the text of the error and the records of failed steps. -/
def Like (a b : ExecState) : Prop :=
  ∃ error progress, b = { a with errorMessage := error, progress := progress }
    ∧ error.isSome = a.errorMessage.isSome
    ∧ ∀ name, (progress.get? name).map StepInfo.outline
        = (a.progress.get? name).map StepInfo.outline

theorem Like.refl (st : ExecState) : Like st st :=
  ⟨st.errorMessage, st.progress, rfl, rfl, fun _ => rfl⟩

theorem Like.upstreamBlocked_eq {a b : ExecState} (h : Like a b) (steps : List StepDef)
    (needs : List String) : upstreamBlocked steps b needs = upstreamBlocked steps a needs := by
  obtain ⟨error, progress, rfl, -, -⟩ := h
  rfl

theorem Like.stepsData_eq {a b : ExecState} (h : Like a b) : b.stepsData = a.stepsData := by
  obtain ⟨error, progress, rfl, -, -⟩ := h
  rfl

/-- Marking a step with records of one outline. -/
theorem Like.mark {a b : ExecState} (h : Like a b) (name : String) (status : StepStatus)
    {info info' : StepInfo} (hinfo : info'.outline = info.outline) :
    Like (a.mark name status info) (b.mark name status info') := by
  obtain ⟨error, progress, rfl, herror, hprogress⟩ := h
  refine ⟨error, progress.set name info', rfl, herror, fun other => ?_⟩
  rw [mark_progress]
  by_cases hother : other = name
  · rw [hother, Dict.get?_set_self, Dict.get?_set_self]
    exact congrArg some hinfo
  · rw [Dict.get?_set_ne _ _ _ hother, Dict.get?_set_ne _ _ _ hother]
    exact hprogress other

/-- The texts of the errors may differ. -/
theorem Like.withError {a b : ExecState} (h : Like a b) (error error' : Option String)
    (herror : error'.isSome = error.isSome) :
    Like { a with errorMessage := error } { b with errorMessage := error' } := by
  obtain ⟨-, progress, rfl, -, hprogress⟩ := h
  exact ⟨error', progress, rfl, herror, hprogress⟩

/-- The records of a failure have one outline. -/
theorem outline_of_failed {info info' : StepInfo} (h : info.status = some .failed)
    (h' : info'.status = some .failed) : info'.outline = info.outline := by
  unfold StepInfo.outline
  rw [if_pos h, if_pos h']

/-- The exits of the loop body, from such states. -/
inductive ExitsLike : StepExit → StepExit → Prop where
  | next {a b} (h : Like a b) : ExitsLike (.next a) (.next b)
  | stop {a b} (h : Like a b) : ExitsLike (.stop a) (.stop b)
  | raised (e) : ExitsLike (.raised e) (.raised e)

/-- How the attempts of a step end in the two runs. -/
inductive AttemptsAgree : Except String Payload → Except String Payload → Prop where
  | same (result) : AttemptsAgree (.ok result) (.ok result)
  | reported {result} (text) (h : handlerStatus result = .failed) :
      AttemptsAgree (.ok result) (.error text)
  | raised (text text') : AttemptsAgree (.error text) (.error text')

/-- What can be seen of an event: a dispatch, or the status of a step that is told. -/
inductive Sight where
  | dispatched (stepName : String)
  | told (stepName : String) (status : StepStatus)

def sight : ExecEvent → Sight
  | ⟨.dispatch request, _⟩ => .dispatched request.stepName
  | ⟨.persist _ update, _⟩ => .told update.stepName update.stepStatus

theorem dispatchCount_of_sights {name : String} {tr tr' : Trace}
    (h : tr.map sight = tr'.map sight) : dispatchCount name tr = dispatchCount name tr' := by
  have hcount : ∀ tr : Trace, dispatchCount name tr
      = (tr.map sight).countP fun s =>
          match s with
          | .dispatched stepName => decide (stepName = name)
          | .told _ _ => false := by
    intro tr
    rw [List.countP_map]
    refine List.countP_congr fun ev _ => ?_
    obtain ⟨e, r⟩ := ev
    cases e with
    | dispatch request => simp [dispatchedStep, sight]
    | persist site update => simp [dispatchedStep, sight]
  rw [hcount, hcount, h]

/-! ## §3. The programs keep them alike. -/

section Coupled

variable {handlers : Handlers} {message : Payload → String} {failing : StepDef}

/-- The run with the handlers, and the run in which `failing` raises. -/
abbrev Coupled {α β : Type} (handlers : Handlers) (message : Payload → String)
    (failing : StepDef) (rel : α → β → Prop) (p : Exec α) (q : Exec β) : Prop :=
  Resumption.CoupledUnless (handledBy handlers)
    (handledBy (raising failing.name message handlers)) sight (EarlyFailure failing) rel p q

theorem persist_coupled {α β : Type} {rel : α → β → Prop} (rt : Runtime) (site site' : PersistSite)
    (name : String) (status : StepStatus) (rd rd' : Option Payload) (err err' : Option Value)
    {f : Unit → Exec α} {g : Unit → Exec β}
    (hfg : Coupled handlers message failing rel (f ()) (g ())) :
    Coupled handlers message failing rel
      ((persistProgress rt site name status rd err).bind f)
      ((persistProgress rt site' name status rd' err').bind g) :=
  Resumption.coupled_await rfl fun _ => hfg

/-- The calls of two attempts from such states are one. -/
theorem attempt_call {step : StepDef} {a b : ExecState} (h : Like a b) (attempt : Nat) :
    (attemptRequest step b attempt).call = (attemptRequest step a attempt).call := by
  obtain ⟨error, progress, rfl, -, hprogress⟩ := h
  unfold DispatchRequest.call attemptRequest
  congr 1
  funext name
  dsimp only
  by_cases hname : name = step.name
  · rw [hname, Dict.get?_set_self, Dict.get?_set_self]
  · rw [Dict.get?_set_ne _ _ _ hname, Dict.get?_set_ne _ _ _ hname]
    exact hprogress name

theorem Like.attempting {a b : ExecState} (h : Like a b) (step : StepDef) (attempt : Nat) :
    Like (attemptingState step a attempt) (attemptingState step b attempt) := by
  obtain ⟨error, progress, rfl, herror, hprogress⟩ := h
  refine ⟨error, _, rfl, herror, fun name => ?_⟩
  show (Dict.get? (progress.set _ _) name).map _ = (Dict.get? (a.progress.set _ _) name).map _
  by_cases hname : name = step.name
  · rw [hname, Dict.get?_set_self, Dict.get?_set_self]
  · rw [Dict.get?_set_ne _ _ _ hname, Dict.get?_set_ne _ _ _ hname]
    exact hprogress name

/-- What the raising handlers answer. -/
theorem raising_cases (handlers : Handlers) (message : Payload → String) (failing : StepDef)
    (call : HandlerCall) :
    raising failing.name message handlers call = handlers call
      ∨ ∃ result, handlers call = .returned result ∧ call.stepName = failing.name
        ∧ handlerStatus result = .failed
        ∧ raising failing.name message handlers call = .raised (message result) := by
  unfold raising
  cases handlers call with
  | returned result =>
      dsimp only
      split
      next h => exact .inr ⟨result, rfl, h.1, h.2, rfl⟩
      next => exact .inl rfl
  | returnedOther result => exact .inl rfl
  | raised text => exact .inl rfl
  | timedOut => exact .inl rfl

/-- The results of the attempts, with the states they leave. -/
def AttemptsLike (x y : Except String Payload × ExecState) : Prop :=
  AttemptsAgree x.1 y.1 ∧ Like x.2 y.2

/-- A failure that is returned while attempts are left. -/
theorem earlyFailure_iff {step : StepDef} {st : ExecState} {attempt left : Nat} {result : Payload}
    (hname : step.name = failing.name → step = failing)
    (hleft : attempt + (left + 1) = step.maxAttempts.toNat + 1) (hself : step.name = failing.name)
    (hfailed : handlerStatus result = .failed) :
    EarlyFailure failing (dispatchEvent (attemptRequest step st attempt) (.returned result))
      ↔ left ≠ 0 := by
  have hstep := hname hself
  have hattempt := attempt_attemptRequest step st attempt
  constructor
  · rintro ⟨request, result', hev, -, -, hlate⟩ hzero
    injection hev with he _
    injection he with he
    rw [← he, hattempt, ← hstep] at hlate
    omega
  · intro hpos
    refine ⟨_, result, rfl, hself, hfailed, ?_⟩
    rw [hattempt, ← hstep]
    omega

/-- **The attempts agree** unless a failure is returned while some are left. -/
theorem attempts_coupled {step : StepDef} (hself : step.name = failing.name → step = failing) :
    ∀ (left attempt : Nat) (lastError lastError' : Option String) {a b : ExecState}, Like a b →
      attempt + left = step.maxAttempts.toNat + 1 →
      Coupled handlers message failing AttemptsLike (attemptStep step left attempt lastError a)
        (attemptStep step left attempt lastError' b)
  | 0, _, _, _, _, _, h, _ => Resumption.coupled_done ⟨.raised _ _, h⟩
  | left + 1, attempt, lastError, lastError', a, b, h, hleft => by
      have hlike := h.attempting step attempt
      have hagain := fun text text' => attempts_coupled hself left (attempt + 1) text text' hlike
        (by omega)
      have hanswer' : handledBy (raising failing.name message handlers)
            (.dispatch (attemptRequest step b attempt))
          = raising failing.name message handlers (attemptRequest step a attempt).call :=
        congrArg (raising failing.name message handlers) (attempt_call h attempt)
      rw [attemptStep_succ, attemptStep_succ]
      refine Resumption.coupled_await rfl fun hlate => ?_
      rw [hanswer']
      change ¬EarlyFailure failing (dispatchEvent (attemptRequest step a attempt)
        (handlers (attemptRequest step a attempt).call)) at hlate
      change Coupled handlers message failing AttemptsLike
        (afterAttempt step left attempt _ (handlers (attemptRequest step a attempt).call)) _
      rcases raising_cases handlers message failing (attemptRequest step a attempt).call with
        hsame | ⟨result, hreturned, hname, hfailed, hraised⟩
      · rw [hsame]
        cases handlers (attemptRequest step a attempt).call with
        | returned result => exact Resumption.coupled_done ⟨.same _, hlike⟩
        | returnedOther result => exact Resumption.coupled_done ⟨.same _, hlike⟩
        | timedOut => exact hagain _ _
        | raised text => exact hagain _ _
      · -- a failure that is not early is returned at the last attempt
        rw [hreturned, earlyFailure_iff hself hleft hname hfailed, ne_eq, not_not] at hlate
        subst hlate
        rw [hraised, hreturned]
        exact Resumption.coupled_done ⟨.reported _ hfailed, hlike⟩

/-! ## §4. The loop. -/

theorem abort_coupled (rt : Runtime) :
    ∀ (l : List StepDef) {a b : ExecState}, Like a b →
      Coupled handlers message failing Like (abortRemaining rt l a) (abortRemaining rt l b)
  | [], _, _, h => Resumption.coupled_done h
  | remaining :: rest, a, b, h => by
      have hstatuses : b.stepStatuses = a.stepStatuses := by
        obtain ⟨error, progress, rfl, -, -⟩ := h
        rfl
      unfold abortRemaining
      rw [hstatuses]
      split
      next => exact abort_coupled rt rest h
      next => exact persist_coupled rt _ _ _ _ _ _ _ _ (abort_coupled rt rest (h.mark _ _ rfl))

section Step

variable (rt : Runtime) (steps ordered : List StepDef) (resume : Dict String StepInfo)
  (step : StepDef) {a b : ExecState}

/-- Both ways of failing end alike. -/
theorem fail_coupled (h : Like a b) (site site' : PersistSite) (cause cause' : Value)
    {info info' : StepInfo} (hinfo : info.status = some .failed)
    (hinfo' : info'.status = some .failed) :
    Coupled handlers message failing ExitsLike (failStep rt ordered step site cause info a)
      (failStep rt ordered step site' cause' info' b) := by
  have hmark := h.mark step.name .failed (outline_of_failed hinfo hinfo')
  unfold failStep
  refine persist_coupled rt _ _ _ _ _ _ _ _ ?_
  split
  next => exact Resumption.coupled_done (.next hmark)
  next =>
    exact (abort_coupled rt ordered (hmark.withError (some _) (some _) (by rfl))).bind
      fun _ _ h => Resumption.coupled_done (ExitsLike.stop h)

/-- The data of a step that goes on. -/
theorem Like.stored (h : Like a b) (name : String) (result : Payload) :
    Like { a with stepsData := a.stepsData.set name result }
      { b with stepsData := b.stepsData.set name result } := by
  obtain ⟨error, progress, rfl, herror, hprogress⟩ := h
  exact ⟨error, progress, rfl, herror, hprogress⟩

theorem interpret_coupled (h : Like a b) (result : Payload) :
    Coupled handlers message failing ExitsLike (interpretResult rt ordered step result a)
      (interpretResult rt ordered step result b) := by
  unfold interpretResult
  split
  next =>
    exact persist_coupled rt _ _ _ _ _ _ _ _
      (Resumption.coupled_done (.next ((h.mark _ _ rfl).stored _ _)))
  next =>
    refine persist_coupled rt _ _ _ _ _ _ _ _ (Resumption.coupled_done (.stop ?_))
    obtain ⟨error, progress, heq, herror, hprogress⟩ := h.mark step.name .suspended rfl
    rw [heq]
    exact ⟨error, progress, rfl, herror, hprogress⟩
  next => exact fail_coupled rt ordered step h _ _ _ _ rfl rfl
  next =>
    exact persist_coupled rt _ _ _ _ _ _ _ _
      (Resumption.coupled_done (.next ((h.mark _ _ rfl).stored _ _)))

theorem dispatch_coupled (hself : step.name = failing.name → step = failing) (h : Like a b) :
    Coupled handlers message failing ExitsLike (dispatchStep rt ordered step a)
      (dispatchStep rt ordered step b) := by
  refine (attempts_coupled hself _ 1 none none h (Nat.add_comm _ _)).bind ?_
  rintro ⟨out, a'⟩ ⟨out', b'⟩ ⟨hout, hlike⟩
  cases hout with
  | same result => exact interpret_coupled rt ordered step hlike result
  | reported text hfailed =>
      dsimp only
      unfold interpretResult
      rw [hfailed]
      exact fail_coupled rt ordered step hlike _ _ _ _ rfl rfl
  | raised text text' => exact fail_coupled rt ordered step hlike _ _ _ _ rfl rfl

/-- A resumed step is resumed in both. -/
theorem resume_coupled (h : Like a b) (prev : StepInfo) :
    (resumeStep step a prev = none ∧ resumeStep step b prev = none)
      ∨ ∃ exit exit', resumeStep step a prev = some exit ∧ resumeStep step b prev = some exit'
        ∧ ExitsLike exit exit' := by
  unfold resumeStep
  split
  next =>
    refine .inr ⟨_, _, rfl, rfl, .next ?_⟩
    split
    next => exact h.mark _ _ rfl
    next => exact (h.mark _ _ rfl).stored _ _
  next => exact .inr ⟨_, _, rfl, rfl, .next (h.mark _ _ rfl)⟩
  next =>
    refine .inr ⟨_, _, rfl, rfl, .stop ?_⟩
    obtain ⟨error, progress, heq, herror, hprogress⟩ := h.mark step.name .suspended rfl
    rw [heq]
    exact ⟨error, progress, rfl, herror, hprogress⟩
  next => exact .inl ⟨rfl, rfl⟩

theorem run_coupled (hself : step.name = failing.name → step = failing) (h : Like a b) :
    Coupled handlers message failing ExitsLike (runStep rt steps ordered step a)
      (runStep rt steps ordered step b) := by
  unfold runStep
  rw [h.upstreamBlocked_eq, h.stepsData_eq]
  split
  next =>
    exact persist_coupled rt _ _ _ _ _ _ _ _ (Resumption.coupled_done (.next (h.mark _ _ rfl)))
  next =>
    split
    next e _ => exact Resumption.coupled_done (.raised e)
    next =>
      exact persist_coupled rt _ _ _ _ _ _ _ _
        (Resumption.coupled_done (.next (h.mark _ _ rfl)))
    next => exact dispatch_coupled rt ordered step hself h

/-- **The loop body keeps the states alike.** -/
theorem process_coupled (hself : step.name = failing.name → step = failing) (h : Like a b) :
    Coupled handlers message failing ExitsLike (processStep rt steps ordered resume step a)
      (processStep rt steps ordered resume step b) := by
  unfold processStep
  cases resume.get? step.name with
  | none => exact run_coupled rt steps ordered step hself h
  | some prev =>
      rcases resume_coupled step h prev with ⟨ha, hb⟩ | ⟨exit, exit', ha, hb, hexits⟩
      · rw [Option.bind_some, Option.bind_some, ha, hb]
        exact run_coupled rt steps ordered step hself h
      · rw [Option.bind_some, Option.bind_some, ha, hb]
        exact Resumption.coupled_done hexits

end Step

/-- The results of two loops. -/
inductive LoopsLike : Except ExecuteError ExecState → Except ExecuteError ExecState → Prop where
  | ok {a b} (h : Like a b) : LoopsLike (.ok a) (.ok b)
  | error (e) : LoopsLike (.error e) (.error e)

/-- **The loop keeps the states alike**, unless the step returns an early failure. -/
theorem loop_coupled (rt : Runtime) (steps ordered : List StepDef)
    (resume : Dict String StepInfo) :
    ∀ (rest : List StepDef) {a b : ExecState},
      (∀ s ∈ rest, s.name = failing.name → s = failing) → Like a b →
      Coupled handlers message failing LoopsLike (runLoop rt steps ordered resume rest a)
        (runLoop rt steps ordered resume rest b)
  | [], _, _, _, h => Resumption.coupled_done (.ok h)
  | step :: rest, a, b, hself, h => by
      obtain ⟨hstep, hrest⟩ := List.forall_mem_cons.mp hself
      refine (process_coupled rt steps ordered resume step hstep h).bind ?_
      rintro exit exit' (⟨hlike⟩ | ⟨hlike⟩ | ⟨e⟩)
      · exact loop_coupled rt steps ordered resume rest hrest hlike
      · exact Resumption.coupled_done (.ok hlike)
      · exact Resumption.coupled_done (.error e)

/-! ## §5. What an early failure costs. -/

theorem dispatchCount_append (name : String) (tr tr' : Trace) :
    dispatchCount name (tr ++ tr') = dispatchCount name tr + dispatchCount name tr' :=
  List.countP_append

theorem dispatchCount_attempt (step : StepDef) (st : ExecState) (attempt : Nat)
    (outcome : DispatchOutcome) (tr : Trace) :
    dispatchCount step.name (dispatchEvent (attemptRequest step st attempt) outcome :: tr)
      = dispatchCount step.name tr + 1 :=
  List.countP_cons_of_pos (decide_eq_true rfl)

/-- An attempt, and what follows it. -/
theorem runWith_attempt (handlers : Handlers) (step : StepDef) (left attempt : Nat)
    (lastError : Option String) (st : ExecState) :
    ((attemptStep step (left + 1) attempt lastError st).runWith (handledBy handlers)).1
      = dispatchEvent (attemptRequest step st attempt)
          (handlers (attemptRequest step st attempt).call)
        :: ((afterAttempt step left attempt (attemptingState step st attempt)
            (handlers (attemptRequest step st attempt).call)).runWith (handledBy handlers)).1 := by
  rw [attemptStep_succ]
  rfl

/-- Attempts that are left are made. -/
theorem attempts_made (handlers : Handlers) (step : StepDef) {left : Nat} (hleft : left ≠ 0)
    (attempt : Nat) (lastError : Option String) (st : ExecState) :
    0 < dispatchCount step.name
      ((attemptStep step left attempt lastError st).runWith (handledBy handlers)).1 := by
  obtain ⟨left, rfl⟩ := Nat.exists_eq_succ_of_ne_zero hleft
  rw [runWith_attempt, dispatchCount_attempt]
  exact Nat.succ_pos _

/-- Where the raising handlers answer the same, the failure is not one of the step. -/
theorem not_early_of_same {request : DispatchRequest}
    (h : raising failing.name message handlers request.call = handlers request.call) :
    ¬EarlyFailure failing (dispatchEvent request (handlers request.call)) := by
  rintro ⟨request', result, hev, hname, hfailed, -⟩
  injection hev with he houtcome
  injection he with he
  subst he
  have hreturned : handlers request.call = .returned result := houtcome
  have hraised : raising failing.name message handlers request.call
      = .raised (message result) := by
    unfold raising
    rw [hreturned]
    exact if_pos ⟨hname, hfailed⟩
  rw [hraised, hreturned] at h
  cases h

/-- **An early failure ends the attempts of one run and not of the other.** -/
theorem attempts_more {step : StepDef} (hself : step.name = failing.name → step = failing) :
    ∀ (left attempt : Nat) (lastError lastError' : Option String) {a b : ExecState}, Like a b →
      attempt + left = step.maxAttempts.toNat + 1 →
      (∃ ev ∈ ((attemptStep step left attempt lastError a).runWith (handledBy handlers)).1,
        EarlyFailure failing ev) →
      dispatchCount step.name
          ((attemptStep step left attempt lastError a).runWith (handledBy handlers)).1
        < dispatchCount step.name ((attemptStep step left attempt lastError' b).runWith
            (handledBy (raising failing.name message handlers))).1
  | 0, _, _, _, _, _, _, _, hearly => by
      obtain ⟨ev, hev, -⟩ := hearly
      cases hev
  | left + 1, attempt, lastError, lastError', a, b, h, hleft, hearly => by
      have hlike := h.attempting step attempt
      have hagain := fun text text' => attempts_more hself left (attempt + 1) text text' hlike
        (by omega)
      obtain ⟨ev, hev, hearly⟩ := hearly
      rw [runWith_attempt, List.mem_cons] at hev
      rw [runWith_attempt, runWith_attempt, attempt_call h, dispatchCount_attempt,
        dispatchCount_attempt, Nat.add_lt_add_iff_right]
      rcases raising_cases handlers message failing (attemptRequest step a attempt).call with
        hsame | ⟨result, hreturned, hname, hfailed, hraised⟩
      · -- this attempt is no early failure, so it is one that is left
        have htail := hev.resolve_left fun heq => not_early_of_same hsame (heq ▸ hearly)
        rw [hsame]
        cases houtcome : handlers (attemptRequest step a attempt).call with
        | returned result =>
            rw [houtcome] at htail
            cases htail
        | returnedOther result =>
            rw [houtcome] at htail
            cases htail
        | timedOut =>
            rw [houtcome] at htail
            exact hagain _ _ ⟨ev, htail, hearly⟩
        | raised text =>
            rw [houtcome] at htail
            exact hagain _ _ ⟨ev, htail, hearly⟩
      · rw [hreturned] at hev
        have hhead := hev.resolve_right (fun htail => by cases htail)
        rw [hhead, earlyFailure_iff hself hleft hname hfailed] at hearly
        rw [hraised, hreturned]
        exact attempts_made _ step hearly _ _ _

/-- A program of updates has no early failure. -/
theorem no_early_of_only {α : Type} {p : Exec α} (h : Resumption.Only IsUpdate p)
    (respond : (e : Effect) → e.Response) :
    ¬∃ ev ∈ (p.runWith respond).1, EarlyFailure failing ev := by
  rintro ⟨ev, hev, request, result, rfl, -⟩
  obtain ⟨site, update, heq⟩ := (Resumption.runWith_runs respond p).only h _ hev
  cases heq

theorem dispatchCount_of_only {α : Type} {p : Exec α} (h : Resumption.Only IsUpdate p)
    (respond : (e : Effect) → e.Response) (name : String) :
    dispatchCount name (p.runWith respond).1 = 0 := by
  rw [dispatchCount, List.countP_eq_zero]
  rintro ⟨e, r⟩ hev
  obtain ⟨site, update, rfl⟩ := (Resumption.runWith_runs respond p).only h _ hev
  simp [dispatchedStep]

section More

variable (rt : Runtime) (steps ordered : List StepDef) (resume : Dict String StepInfo)

theorem dispatch_more {step : StepDef} (hself : step.name = failing.name → step = failing)
    {a b : ExecState} (h : Like a b)
    (hearly : ∃ ev ∈ ((dispatchStep rt ordered step a).runWith (handledBy handlers)).1,
      EarlyFailure failing ev) :
    dispatchCount step.name ((dispatchStep rt ordered step a).runWith (handledBy handlers)).1
      < dispatchCount step.name ((dispatchStep rt ordered step b).runWith
          (handledBy (raising failing.name message handlers))).1 := by
  have honly := afterAttempts_only rt ordered step
  rw [dispatchStep_eq, Resumption.runWith_bind] at hearly ⊢
  rw [dispatchStep_eq, Resumption.runWith_bind, dispatchCount_append, dispatchCount_append,
    dispatchCount_of_only (honly _), Nat.add_zero]
  obtain ⟨ev, hev, hearly⟩ := hearly
  rcases List.mem_append.mp hev with hev | hev
  · exact Nat.lt_of_lt_of_le
      (attempts_more hself _ 1 none none h (Nat.add_comm _ _) ⟨ev, hev, hearly⟩)
      (Nat.le_add_right _ _)
  · exact absurd ⟨ev, hev, hearly⟩ (no_early_of_only (honly _) _)

theorem run_more {step : StepDef} (hself : step.name = failing.name → step = failing)
    {a b : ExecState} (h : Like a b)
    (hearly : ∃ ev ∈ ((runStep rt steps ordered step a).runWith (handledBy handlers)).1,
      EarlyFailure failing ev) :
    dispatchCount step.name ((runStep rt steps ordered step a).runWith (handledBy handlers)).1
      < dispatchCount step.name ((runStep rt steps ordered step b).runWith
          (handledBy (raising failing.name message handlers))).1 := by
  unfold runStep at hearly ⊢
  rw [h.upstreamBlocked_eq, h.stepsData_eq]
  split at hearly
  next =>
    refine absurd hearly (no_early_of_only ?_ _)
    exact persist_only rt _ _ _ _ _ (fun _ => ⟨_, _, rfl⟩) trivial
  next =>
    split at hearly
    next =>
      obtain ⟨ev, hev, -⟩ := hearly
      cases hev
    next =>
      refine absurd hearly (no_early_of_only ?_ _)
      exact persist_only rt _ _ _ _ _ (fun _ => ⟨_, _, rfl⟩) trivial
    next => exact dispatch_more rt ordered hself h hearly

theorem process_more {step : StepDef} (hself : step.name = failing.name → step = failing)
    {a b : ExecState} (h : Like a b)
    (hearly : ∃ ev ∈ ((processStep rt steps ordered resume step a).runWith (handledBy handlers)).1,
      EarlyFailure failing ev) :
    dispatchCount step.name
        ((processStep rt steps ordered resume step a).runWith (handledBy handlers)).1
      < dispatchCount step.name ((processStep rt steps ordered resume step b).runWith
          (handledBy (raising failing.name message handlers))).1 := by
  unfold processStep at hearly ⊢
  cases hprev : resume.get? step.name with
  | none =>
      rw [hprev] at hearly
      exact run_more rt steps ordered hself h hearly
  | some prev =>
      rw [hprev, Option.bind_some] at hearly
      rw [Option.bind_some, Option.bind_some]
      rcases resume_coupled step h prev with ⟨ha, hb⟩ | ⟨exit, exit', ha, hb, hexits⟩
      · rw [ha] at hearly ⊢
        rw [hb]
        exact run_more rt steps ordered hself h hearly
      · rw [ha] at hearly
        obtain ⟨ev, hev, -⟩ := hearly
        cases hev

/-- The dispatches of an iteration are those of its step. -/
theorem process_dispatched {step : StepDef} {st : ExecState} (respond : (e : Effect) → e.Response)
    {name : String} (hname : name ≠ step.name) :
    dispatchCount name
      ((processStep rt steps ordered resume step st).runWith respond).1 = 0 := by
  have hrun := runs_processStep (Resumption.runWith_runs respond
    (processStep rt steps ordered resume step st))
  have hle := hrun.dispatchCount_le name
  rw [if_neg hname] at hle
  exact Nat.le_zero.mp hle

theorem loop_dispatched (respond : (e : Effect) → e.Response) {name : String} :
    ∀ (rest : List StepDef), name ∉ rest.map StepDef.name → ∀ exit,
      dispatchCount name
        ((afterStep rt steps ordered resume rest exit).runWith respond).1 = 0
  | _, _, .stop _ => rfl
  | _, _, .raised _ => rfl
  | [], _, .next _ => rfl
  | step :: rest, hname, .next st => by
      rw [List.map_cons, List.mem_cons, not_or] at hname
      rw [afterStep, runLoop_cons, Resumption.runWith_bind, dispatchCount_append,
        process_dispatched rt steps ordered resume respond hname.1, Nat.zero_add]
      exact loop_dispatched respond rest hname.2 _

/-- An early failure is a dispatch of the step. -/
theorem dispatched_of_early {tr : Trace} (h : ∃ ev ∈ tr, EarlyFailure failing ev) :
    0 < dispatchCount failing.name tr := by
  obtain ⟨ev, hev, request, result, rfl, hname, -⟩ := h
  exact List.countP_pos_iff.mpr ⟨_, hev, by simp [dispatchEvent, dispatchedStep, hname]⟩

/-- **A run with an early failure dispatches the step less often** than the run in which the
step raises. -/
theorem loop_more :
    ∀ (rest : List StepDef) {a b : ExecState}, (rest.map StepDef.name).Nodup →
      (∀ s ∈ rest, s.name = failing.name → s = failing) → Like a b →
      (∃ ev ∈ ((runLoop rt steps ordered resume rest a).runWith (handledBy handlers)).1,
        EarlyFailure failing ev) →
      dispatchCount failing.name
          ((runLoop rt steps ordered resume rest a).runWith (handledBy handlers)).1
        < dispatchCount failing.name ((runLoop rt steps ordered resume rest b).runWith
            (handledBy (raising failing.name message handlers))).1
  | [], _, _, _, _, _, hearly => by
      obtain ⟨ev, hev, -⟩ := hearly
      cases hev
  | step :: rest, a, b, hnodup, hself, h, hearly => by
      obtain ⟨hstep, hrest⟩ := List.forall_mem_cons.mp hself
      rw [List.map_cons, List.nodup_cons] at hnodup
      have hcoupled : Coupled handlers message failing ExitsLike
          (processStep rt steps ordered resume step a)
          (processStep rt steps ordered resume step b) :=
        process_coupled rt steps ordered resume step hstep h
      rw [runLoop_cons] at hearly
      have hwhere := hcoupled.bind_bad hearly
      rw [runLoop_cons, runLoop_cons, Resumption.runWith_bind, Resumption.runWith_bind,
        dispatchCount_append, dispatchCount_append]
      rcases hwhere with hnow | ⟨hsights, hexits, hlater⟩
      · -- the step itself fails early: it is not met again
        have hpos := dispatched_of_early hnow
        have hname : failing.name = step.name := by
          by_contra hne
          rw [process_dispatched rt steps ordered resume _ hne] at hpos
          exact absurd hpos (Nat.lt_irrefl 0)
        obtain rfl := hstep hname.symm
        rw [loop_dispatched rt steps ordered resume _ rest hnodup.1, Nat.add_zero]
        exact Nat.lt_of_lt_of_le (process_more rt steps ordered resume hstep h hnow)
          (Nat.le_add_right _ _)
      · rw [dispatchCount_of_sights hsights, Nat.add_lt_add_iff_left]
        revert hexits hlater
        generalize (Resumption.runWith (handledBy handlers)
          (processStep rt steps ordered resume step a)).2 = exit
        generalize (Resumption.runWith (handledBy (raising failing.name message handlers))
          (processStep rt steps ordered resume step b)).2 = exit'
        rintro (⟨hlike⟩ | ⟨hlike⟩ | ⟨e⟩) hlater
        · exact loop_more rest hnodup.2 hrest hlike hlater
        · obtain ⟨ev, hev, -⟩ := hlater
          cases hev
        · obtain ⟨ev, hev, -⟩ := hlater
          cases hev

end More

/-! ## §6. Agreement. -/

/-- The counters of a result, and the overall status. -/
def PipelineResult.counts (r : PipelineResult) : PipelineStatus × Nat × Nat × Nat × Nat :=
  (r.status, r.stepsCompleted, r.stepsFailed, r.stepsSkipped, r.stepsSuspended)

/-- The statuses that a run tells the control plane. -/
def toldStatuses (tr : Trace) : List (String × StepStatus) :=
  tr.filterMap fun ev => (persistedUpdate ev).map fun u => (u.2.stepName, u.2.stepStatus)

/-- Two environments lead `execute` to the same: the step is dispatched as often, the steps have
the same statuses, the counters and the overall status are the same. -/
structure SameCourse (rt : Runtime) (sorter : Sorter) (pipeline : PipelineDef)
    (existing : Option ExistingProgress) (step : StepDef) (left right : (e : Effect) → e.Response) :
    Prop where
  dispatches : dispatchCount step.name ((execute rt sorter pipeline existing).runWith left).1
    = dispatchCount step.name ((execute rt sorter pipeline existing).runWith right).1
  told : toldStatuses ((execute rt sorter pipeline existing).runWith left).1
    = toldStatuses ((execute rt sorter pipeline existing).runWith right).1
  statuses :
    ((runPipeline rt sorter pipeline.steps existing).runWith left).2.map ExecState.stepStatuses
      = ((runPipeline rt sorter pipeline.steps existing).runWith right).2.map
          ExecState.stepStatuses
  counts : ((execute rt sorter pipeline existing).runWith left).2.map PipelineResult.counts
    = ((execute rt sorter pipeline existing).runWith right).2.map PipelineResult.counts

theorem toldStatuses_of_sights {tr tr' : Trace} (h : tr.map sight = tr'.map sight) :
    toldStatuses tr = toldStatuses tr' := by
  have htold : ∀ tr : Trace, toldStatuses tr
      = (tr.map sight).filterMap fun s =>
          match s with
          | .dispatched _ => none
          | .told stepName status => some (stepName, status) := by
    intro tr
    rw [List.filterMap_map]
    refine List.filterMap_congr fun ev _ => ?_
    obtain ⟨e, r⟩ := ev
    cases e <;> rfl
  rw [htold, htold, h]

/-- The results of states that are alike. -/
theorem Like.counts_eq {a b : ExecState} (h : Like a b) (rt : Runtime) (pipeline : PipelineDef) :
    (finishPipeline rt pipeline a).counts = (finishPipeline rt pipeline b).counts := by
  obtain ⟨error, progress, rfl, herror, -⟩ := h
  unfold finishPipeline PipelineResult.counts terminalStatus
  dsimp only
  rw [herror]

section Whole

variable (handlers) (message) (rt : Runtime) (sorter : Sorter) (steps : List StepDef)
  (existing : Option ExistingProgress)

/-- The whole loop: the two runs are coupled, and an early failure costs dispatches. -/
theorem runPipeline_compared (hsound : sorter.Sound) (hfailing : failing ∈ steps) :
    Coupled handlers message failing LoopsLike (runPipeline rt sorter steps existing)
        (runPipeline rt sorter steps existing)
      ∧ ((∃ ev ∈ ((runPipeline rt sorter steps existing).runWith (handledBy handlers)).1,
            EarlyFailure failing ev) →
          dispatchCount failing.name
              ((runPipeline rt sorter steps existing).runWith (handledBy handlers)).1
            < dispatchCount failing.name ((runPipeline rt sorter steps existing).runWith
                (handledBy (raising failing.name message handlers))).1) := by
  unfold runPipeline
  cases hord : resolveDag sorter steps with
  | error e =>
      refine ⟨Resumption.coupled_done (.error e), ?_⟩
      rintro ⟨ev, hev, -⟩
      cases hev
  | ok ordered =>
      have hv := validOrder_of_resolveDag hsound hord
      have hself : ∀ s ∈ ordered, s.name = failing.name → s = failing := by
        intro s hs hname
        exact List.inj_on_of_nodup_map hv.nodup hs (hv.perm.mem_iff.mpr hfailing) hname
      exact ⟨loop_coupled rt steps ordered _ ordered hself (.refl _),
        loop_more rt steps ordered _ ordered hv.nodup hself (.refl _)⟩

end Whole

/-- The calls of `execute` are those of its acting part. -/
theorem runWith_execute {rt : Runtime} {sorter : Sorter} {pipeline : PipelineDef}
    {existing : Option ExistingProgress} (hsteps : pipeline.steps ≠ [])
    (respond : (e : Effect) → e.Response) :
    (execute rt sorter pipeline existing).runWith respond
      = (((runPipeline rt sorter pipeline.steps existing).runWith respond).1,
        ((runPipeline rt sorter pipeline.steps existing).runWith respond).2.map
          (finishPipeline rt pipeline)) := by
  unfold execute
  rw [if_neg (by simpa using hsteps), Resumption.runWith_bind]
  exact Prod.ext (List.append_nil _) rfl

end Coupled

/-- **The two ways to report a failure agree** exactly on the runs in which the step returns one
at its last attempt at most. -/
theorem failure_signals_agree_iff (rt : Runtime) (sorter : Sorter) (hsound : sorter.Sound)
    (pipeline : PipelineDef) (existing : Option ExistingProgress) (step : StepDef)
    (hstep : step ∈ pipeline.steps) (handlers : Handlers) (message : Payload → String) :
    SameCourse rt sorter pipeline existing step (handledBy handlers)
        (handledBy (raising step.name message handlers))
      ↔ ∀ ev ∈ ((execute rt sorter pipeline existing).runWith (handledBy handlers)).1,
          ¬EarlyFailure step ev := by
  have hsteps : pipeline.steps ≠ [] := List.ne_nil_of_mem hstep
  obtain ⟨hcoupled, hmore⟩ :=
    runPipeline_compared handlers message rt sorter pipeline.steps existing hsound hstep
  constructor
  · intro hsame ev hev hearly
    have hdispatches := hsame.dispatches
    rw [runWith_execute hsteps] at hev hdispatches
    rw [runWith_execute hsteps] at hdispatches
    -- a failure with attempts left is tried again where it is raised
    exact absurd hdispatches (Nat.ne_of_lt (hmore ⟨ev, hev, hearly⟩))
  · intro hnone
    rw [runWith_execute hsteps] at hnone
    obtain ⟨hsights, hloops⟩ := hcoupled hnone
    refine ⟨?_, ?_, ?_, ?_⟩
    · rw [runWith_execute hsteps, runWith_execute hsteps]
      exact dispatchCount_of_sights hsights
    · rw [runWith_execute hsteps, runWith_execute hsteps]
      exact toldStatuses_of_sights hsights
    · revert hloops
      generalize ((runPipeline rt sorter pipeline.steps existing).runWith (handledBy handlers)).2
        = out
      generalize ((runPipeline rt sorter pipeline.steps existing).runWith
        (handledBy (raising step.name message handlers))).2 = out'
      rintro (⟨error, progress, rfl, -⟩ | ⟨e⟩)
      · rfl
      · rfl
    · rw [runWith_execute hsteps, runWith_execute hsteps]
      revert hloops
      generalize ((runPipeline rt sorter pipeline.steps existing).runWith (handledBy handlers)).2
        = out
      generalize ((runPipeline rt sorter pipeline.steps existing).runWith
        (handledBy (raising step.name message handlers))).2 = out'
      rintro (⟨h⟩ | ⟨e⟩)
      · exact congrArg Except.ok (h.counts_eq rt pipeline)
      · rfl

/-- A step that may be tried twice. -/
def bootStep : StepDef where
  name := "boot"
  retry := some { maxAttempts := some 2 }

/-- Its handler reports a failure at the first attempt and none at the second. -/
def bootHandlers : Handlers := fun call =>
  if (call.progress call.stepName).bind StepInfo.attempt = some 1
  then .returned (Payload.single "status" (.str "failed"))
  else .returned Dict.empty

/-- The run of that step in an environment. -/
def bootRun (respond : (e : Effect) → e.Response) : Trace × Except ExecuteError PipelineResult :=
  (execute { context := { sessionId := "s1" }, simpleEval := fun _ _ => .caught "SyntaxError" }
    staticOrder { steps := [bootStep] } none).runWith respond

/-- What the failure is called when it is raised. -/
def errorText (result : Payload) : String := (result.get "error").pyStr

/-- A handler that raises at the first attempt and reports a failure at the second. -/
def lateFailure : Handlers := fun call =>
  if (call.progress call.stepName).bind StepInfo.attempt = some 1 then .raised "unreachable"
  else .returned (Payload.single "status" (.str "failed"))

/-- A failure that is returned at the last attempt may as well be raised there. -/
theorem failure_signals_agree_at_last :
    SameCourse { context := { sessionId := "s1" }, simpleEval := fun _ _ => .caught "SyntaxError" }
        staticOrder { steps := [bootStep] } none bootStep (handledBy lateFailure)
        (handledBy (raising "boot" errorText lateFailure))
      ∧ dispatchCount "boot" (bootRun (handledBy lateFailure)).1 = 2
      ∧ (bootRun (handledBy lateFailure)).2.map PipelineResult.counts
          = .ok (.failed, 0, 1, 0, 0) := by
  have hnone : ∀ ev ∈ (bootRun (handledBy lateFailure)).1, ¬EarlyFailure bootStep ev := by decide
  exact ⟨(failure_signals_agree_iff _ staticOrder staticOrder_sound { steps := [bootStep] } none
    bootStep List.mem_cons_self lateFailure errorText).mpr hnone, by decide, rfl⟩

/-- The returned failure is final, and the raised one is tried again. -/
theorem returned_failure_final :
    ¬SameCourse
        { context := { sessionId := "s1" }, simpleEval := fun _ _ => .caught "SyntaxError" }
        staticOrder { steps := [bootStep] } none bootStep (handledBy bootHandlers)
        (handledBy (raising "boot" errorText bootHandlers))
      ∧ dispatchCount "boot" (bootRun (handledBy bootHandlers)).1 = 1
      ∧ (bootRun (handledBy bootHandlers)).2.map PipelineResult.counts = .ok (.failed, 0, 1, 0, 0)
      ∧ dispatchCount "boot" (bootRun (handledBy (raising "boot" errorText bootHandlers))).1 = 2
      ∧ (bootRun (handledBy (raising "boot" errorText bootHandlers))).2.map PipelineResult.counts
          = .ok (.completed, 1, 0, 0, 0) := by
  refine ⟨fun hsame => ?_, by decide, rfl, by decide, rfl⟩
  have hdispatches : dispatchCount "boot" (bootRun (handledBy bootHandlers)).1
      = dispatchCount "boot" (bootRun (handledBy (raising "boot" errorText bootHandlers))).1 :=
    hsame.dispatches
  exact absurd hdispatches (by decide)

end CmlCloudManager.Pipeline
