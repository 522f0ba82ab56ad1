/-
  CmlCloudManager.Pipeline.Handlers
  ─────────────────────────────────
  **THE HANDLERS OF A PIPELINE AS A FUNCTION.**

  A handler is called at most once for each attempt of its step, so that whoever
  answers the dispatches of one run answers them like a function of the call: every
  run of `execute` is the run with some `Handlers` (`run_of_handlers`).  A call is all
  that the dispatcher is handed, but for how an earlier failure was reported.

  Beside it stand the equations by which the programs of the executor are taken apart:
  an attempt and what follows it, the attempts and what follows them, an iteration and
  what follows it.
-/
import CmlCloudManager.Pipeline.LoopInvariant

namespace CmlCloudManager.Pipeline

open CmlCloudManager.Foundation

/-! ## §1. Handlers. -/

/-- A progress record without what tells the two reports of a failure apart. -/
def StepInfo.outline (info : StepInfo) : StepInfo :=
  if info.status = some .failed then { status := some .failed } else info

/-- What the outcome of an attempt may depend on: all that the dispatcher is handed, but not how
an earlier failure was reported. -/
structure HandlerCall where
  stepName : String
  handlerName : String
  progress : String → Option StepInfo
  stepsData : Dict String Payload
  params : Option Payload

/-- The handlers of a pipeline. -/
abbrev Handlers : Type := HandlerCall → DispatchOutcome

/-- The call that a request makes. -/
def DispatchRequest.call (request : DispatchRequest) : HandlerCall where
  stepName := request.stepName
  handlerName := request.handlerName
  progress := fun name => (request.progress.get? name).map StepInfo.outline
  stepsData := request.stepsData
  params := request.params

/-- The environment in which they are dispatched. -/
def handledBy (handlers : Handlers) : (e : Effect) → e.Response :=
  answering fun request => handlers request.call

/-- The number of the attempt, as the progress has it. -/
def DispatchRequest.attempt (request : DispatchRequest) : Nat :=
  ((request.progress.get? request.stepName).bind StepInfo.attempt).getD 0

/-! ## §2. The programs in parts. -/

/-- The state while an attempt runs. -/
def attemptingState (step : StepDef) (st : ExecState) (attempt : Nat) : ExecState :=
  { st with
    progress := st.progress.set step.name { status := some .inProgress, attempt := some attempt } }

theorem attempt_attemptRequest (step : StepDef) (st : ExecState) (attempt : Nat) :
    (attemptRequest step st attempt).attempt = attempt := by
  unfold DispatchRequest.attempt attemptRequest
  rw [Dict.get?_set_self]
  rfl

/-- What follows an attempt. -/
def afterAttempt (step : StepDef) (left attempt : Nat) (st : ExecState) :
    DispatchOutcome → Exec (Except String Payload × ExecState)
  | .returned result => .done (.ok result, st)
  | .returnedOther result => .done (.ok (Payload.single "result" result), st)
  | .timedOut => attemptStep step left (attempt + 1) (some (timeoutText step attempt)) st
  | .raised text => attemptStep step left (attempt + 1) (some text) st

theorem attemptStep_succ (step : StepDef) (left attempt : Nat) (lastError : Option String)
    (st : ExecState) :
    attemptStep step (left + 1) attempt lastError st
      = .await (.dispatch (attemptRequest step st attempt))
          (afterAttempt step left attempt (attemptingState step st attempt)) := by
  rw [attemptStep]
  congr 1
  funext outcome
  cases outcome <;> rfl

/-- The calls after the attempts are updates. -/
def IsUpdate (e : Effect) : Prop := ∃ site update, e = .persist site update

theorem persist_only {α : Type} {P : Effect → Prop} (rt : Runtime) (site : PersistSite)
    (name : String) (status : StepStatus) (rd : Option Payload) (err : Option Value)
    {f : Unit → Exec α} (hP : ∀ update, P (.persist site update))
    (hf : Resumption.Only P (f ())) :
    Resumption.Only P ((persistProgress rt site name status rd err).bind f) :=
  ⟨hP _, fun _ => hf⟩

theorem abort_only (rt : Runtime) :
    ∀ (l : List StepDef) (st : ExecState), Resumption.Only IsUpdate (abortRemaining rt l st)
  | [], _ => trivial
  | remaining :: rest, st => by
      unfold abortRemaining
      split
      next => exact abort_only rt rest st
      next => exact persist_only rt _ _ _ _ _ (fun _ => ⟨_, _, rfl⟩) (abort_only rt rest _)

theorem fail_only (rt : Runtime) (ordered : List StepDef) (step : StepDef) (site : PersistSite)
    (cause : Value) (info : StepInfo) (st : ExecState) :
    Resumption.Only IsUpdate (failStep rt ordered step site cause info st) := by
  unfold failStep
  refine persist_only rt _ _ _ _ _ (fun _ => ⟨_, _, rfl⟩) ?_
  split
  next => trivial
  next => exact (abort_only rt ordered _).bind fun _ => trivial

theorem interpret_only (rt : Runtime) (ordered : List StepDef) (step : StepDef) (result : Payload)
    (st : ExecState) : Resumption.Only IsUpdate (interpretResult rt ordered step result st) := by
  unfold interpretResult
  split
  next => exact persist_only rt _ _ _ _ _ (fun _ => ⟨_, _, rfl⟩) trivial
  next => exact persist_only rt _ _ _ _ _ (fun _ => ⟨_, _, rfl⟩) trivial
  next => exact fail_only rt ordered step _ _ _ st
  next => exact persist_only rt _ _ _ _ _ (fun _ => ⟨_, _, rfl⟩) trivial

section Parts

variable (rt : Runtime) (steps ordered : List StepDef) (resume : Dict String StepInfo)

/-- What follows the attempts. -/
def afterAttempts (step : StepDef) : Except String Payload × ExecState → Exec StepExit
  | (.ok result, st) => interpretResult rt ordered step result st
  | (.error excMsg, st) =>
      failStep rt ordered step .exception (.str excMsg)
        { status := some .failed, error := some (.str excMsg) } st

theorem dispatchStep_eq (step : StepDef) (st : ExecState) :
    dispatchStep rt ordered step st
      = (attemptStep step step.maxAttempts.toNat 1 none st).bind
          (afterAttempts rt ordered step) := by
  unfold dispatchStep executeStep
  congr 1

theorem afterAttempts_only (step : StepDef) (out : Except String Payload × ExecState) :
    Resumption.Only IsUpdate (afterAttempts rt ordered step out) := by
  obtain ⟨out, st⟩ := out
  cases out with
  | ok result => exact interpret_only rt ordered step result st
  | error excMsg => exact fail_only rt ordered step _ _ _ st

/-- What follows an iteration. -/
def afterStep (rest : List StepDef) : StepExit → Exec (Except ExecuteError ExecState)
  | .next st => runLoop rt steps ordered resume rest st
  | .stop st => .done (.ok st)
  | .raised e => .done (.error e)

theorem runLoop_cons (step : StepDef) (rest : List StepDef) (st : ExecState) :
    runLoop rt steps ordered resume (step :: rest) st
      = (processStep rt steps ordered resume step st).bind
          (afterStep rt steps ordered resume rest) := by
  rw [runLoop]
  congr 1

end Parts

/-! ## §3. Every run is one of handlers. -/

/-- The step and the number of the attempt. -/
def HandlerCall.key (call : HandlerCall) : String × Nat :=
  (call.stepName, ((call.progress call.stepName).bind StepInfo.attempt).getD 0)

/-- The same of an event. -/
def callKey : ExecEvent → Option (String × Nat)
  | ⟨.dispatch request, _⟩ => some request.call.key
  | ⟨.persist _ _, _⟩ => none

theorem key_attemptRequest (step : StepDef) (st : ExecState) (attempt : Nat) :
    (attemptRequest step st attempt).call.key = (step.name, attempt) := by
  unfold HandlerCall.key DispatchRequest.call attemptRequest
  dsimp only
  rw [Dict.get?_set_self]
  rfl

theorem keys_of_only {α : Type} {p : Exec α} (h : Resumption.Only IsUpdate p) {tr : Trace} {a : α}
    (hrun : p.Runs tr a) : tr.filterMap callKey = [] := by
  rw [List.filterMap_eq_nil_iff]
  rintro ⟨e, r⟩ hev
  obtain ⟨site, update, rfl⟩ := hrun.only h _ hev
  rfl

/-- The attempts of a step are numbered upwards. -/
theorem attempts_keys {step : StepDef} :
    ∀ (left attempt : Nat) (lastError : Option String) (st : ExecState) (tr : Trace)
      (out : Except String Payload × ExecState),
      (attemptStep step left attempt lastError st).Runs tr out →
      (tr.filterMap callKey).Nodup
        ∧ ∀ key ∈ tr.filterMap callKey, key.1 = step.name ∧ attempt ≤ key.2
  | 0, _, _, _, tr, _, h => by
      obtain ⟨rfl, -⟩ := h
      exact ⟨List.nodup_nil, by simp⟩
  | left + 1, attempt, lastError, st, tr, out, h => by
      rw [attemptStep_succ] at h
      obtain ⟨outcome, tr', rfl, h⟩ := h
      have hkey : callKey ⟨.dispatch (attemptRequest step st attempt), outcome⟩
          = some (step.name, attempt) := congrArg some (key_attemptRequest step st attempt)
      rw [List.filterMap_cons_some hkey, List.nodup_cons]
      have hlater : (tr'.filterMap callKey).Nodup
          ∧ ∀ key ∈ tr'.filterMap callKey, key.1 = step.name ∧ attempt + 1 ≤ key.2 := by
        change DispatchOutcome at outcome
        cases outcome with
        | returned result =>
            obtain ⟨rfl, -⟩ := h
            exact ⟨List.nodup_nil, by simp⟩
        | returnedOther result =>
            obtain ⟨rfl, -⟩ := h
            exact ⟨List.nodup_nil, by simp⟩
        | timedOut => exact attempts_keys left (attempt + 1) _ _ tr' out h
        | raised text => exact attempts_keys left (attempt + 1) _ _ tr' out h
      refine ⟨⟨fun hmem => ?_, hlater.1⟩, fun key hmem => ?_⟩
      · have hle := (hlater.2 _ hmem).2
        exact absurd hle (Nat.not_succ_le_self _)
      · rcases List.mem_cons.mp hmem with rfl | hmem
        · exact ⟨rfl, Nat.le_refl _⟩
        · obtain ⟨hname, hle⟩ := hlater.2 key hmem
          exact ⟨hname, Nat.le_of_succ_le hle⟩

section Keys

variable {rt : Runtime} {steps ordered : List StepDef} {resume : Dict String StepInfo}

theorem run_keys {step : StepDef} {st : ExecState} {tr : Trace} {exit : StepExit}
    (h : (runStep rt steps ordered step st).Runs tr exit) :
    (tr.filterMap callKey).Nodup ∧ ∀ key ∈ tr.filterMap callKey, key.1 = step.name := by
  have hnone : tr.filterMap callKey = [] → (tr.filterMap callKey).Nodup
      ∧ ∀ key ∈ tr.filterMap callKey, key.1 = step.name := by
    intro heq
    rw [heq]
    exact ⟨List.nodup_nil, by simp⟩
  unfold runStep at h
  split at h
  next =>
    refine hnone (keys_of_only ?_ h)
    exact persist_only rt _ _ _ _ _ (fun _ => ⟨_, _, rfl⟩) trivial
  next =>
    split at h
    next =>
      obtain ⟨rfl, -⟩ := h
      exact hnone rfl
    next =>
      refine hnone (keys_of_only ?_ h)
      exact persist_only rt _ _ _ _ _ (fun _ => ⟨_, _, rfl⟩) trivial
    next =>
      rw [dispatchStep_eq] at h
      obtain ⟨out, tr₁, tr₂, rfl, hattempts, hafter⟩ := (Resumption.runs_bind _ _ _ _).mp h
      rw [List.filterMap_append, keys_of_only (afterAttempts_only rt ordered step out) hafter,
        List.append_nil]
      obtain ⟨hnodup, hkeys⟩ := attempts_keys _ _ _ _ _ _ hattempts
      exact ⟨hnodup, fun key hkey => (hkeys key hkey).1⟩

/-- An attempt of a step is made at most once in a run. -/
theorem loop_keys :
    ∀ (rest : List StepDef) (st : ExecState) (tr : Trace) (out : Except ExecuteError ExecState),
      (rest.map StepDef.name).Nodup → (runLoop rt steps ordered resume rest st).Runs tr out →
      (tr.filterMap callKey).Nodup
        ∧ ∀ key ∈ tr.filterMap callKey, key.1 ∈ rest.map StepDef.name
  | [], _, tr, _, _, h => by
      obtain ⟨rfl, -⟩ := h
      exact ⟨List.nodup_nil, by simp⟩
  | step :: rest, st, tr, out, hnodup, h => by
      rw [List.map_cons, List.nodup_cons] at hnodup
      rw [runLoop_cons] at h
      obtain ⟨exit, tr₁, tr₂, rfl, hstep, hafter⟩ := (Resumption.runs_bind _ _ _ _).mp h
      -- a step calls under its own name, and each call has its own attempt
      have hown : (tr₁.filterMap callKey).Nodup
          ∧ ∀ key ∈ tr₁.filterMap callKey, key.1 = step.name := by
        unfold processStep at hstep
        split at hstep
        next =>
          obtain ⟨rfl, -⟩ := hstep
          exact ⟨List.nodup_nil, by simp⟩
        next => exact run_keys hstep
      have hrest : (tr₂.filterMap callKey).Nodup
          ∧ ∀ key ∈ tr₂.filterMap callKey, key.1 ∈ rest.map StepDef.name := by
        cases exit with
        | next st' => exact loop_keys rest st' tr₂ out hnodup.2 hafter
        | stop st' =>
            obtain ⟨rfl, -⟩ := hafter
            exact ⟨List.nodup_nil, by simp⟩
        | raised e =>
            obtain ⟨rfl, -⟩ := hafter
            exact ⟨List.nodup_nil, by simp⟩
      rw [List.filterMap_append, List.map_cons]
      refine ⟨List.nodup_append.mpr ⟨hown.1, hrest.1, ?_⟩, fun key hkey => ?_⟩
      · rintro key hkey key' hkey' rfl
        exact hnodup.1 (hown.2 key hkey ▸ hrest.2 key hkey')
      · rcases List.mem_append.mp hkey with hkey | hkey
        · exact List.mem_cons.mpr (.inl (hown.2 key hkey))
        · exact List.mem_cons_of_mem _ (hrest.2 key hkey)

end Keys

/-- The handlers that answer as the trace has it. -/
def handlersOf (tr : Trace) : Handlers := fun call =>
  match tr.find? fun ev => callKey ev = some call.key with
  | some ⟨.dispatch _, outcome⟩ => outcome
  | _ => .timedOut

/-- The first entry of a key is its only one. -/
theorem find?_of_nodup_keys {β κ : Type} [DecidableEq κ] {f : β → Option κ} {key : κ} {x : β} :
    ∀ {l : List β}, (l.filterMap f).Nodup → x ∈ l → f x = some key →
      l.find? (fun y => f y = some key) = some x
  | y :: l, hnodup, hmem, hkey => by
      by_cases hy : f y = some key
      · rw [List.find?_cons, decide_eq_true hy]
        rcases List.mem_cons.mp hmem with rfl | hmem
        · rfl
        · rw [List.filterMap_cons_some hy, List.nodup_cons] at hnodup
          exact absurd (List.mem_filterMap.mpr ⟨x, hmem, hkey⟩) hnodup.1
      · rw [List.find?_cons, decide_eq_false hy]
        have hrest : (l.filterMap f).Nodup := by
          cases hfy : f y with
          | none => rwa [List.filterMap_cons_none hfy] at hnodup
          | some other =>
              rw [List.filterMap_cons_some hfy, List.nodup_cons] at hnodup
              exact hnodup.2
        rcases List.mem_cons.mp hmem with rfl | hmem
        · exact absurd hkey hy
        · exact find?_of_nodup_keys hrest hmem hkey

/-- **Every run of `execute` is the run with some handlers**, whoever answered. -/
theorem run_of_handlers {rt : Runtime} {sorter : Sorter} (hsound : sorter.Sound)
    {pipeline : PipelineDef} {existing : Option ExistingProgress} {tr : Trace}
    {out : Except ExecuteError PipelineResult}
    (h : (execute rt sorter pipeline existing).Runs tr out) :
    (execute rt sorter pipeline existing).runWith (handledBy (handlersOf tr)) = (tr, out) := by
  have hnodup : (tr.filterMap callKey).Nodup := by
    rcases runs_execute h with ⟨-, rfl⟩ | ⟨out', hrun, -⟩
    · exact List.nodup_nil
    · unfold runPipeline at hrun
      split at hrun
      next =>
        obtain ⟨rfl, -⟩ := hrun
        exact List.nodup_nil
      next ordered hord =>
        exact (loop_keys _ _ _ _ (validOrder_of_resolveDag hsound hord).nodup hrun).1
  refine h.runWith_eq ?_
  rintro ⟨e, r⟩ hev
  cases e with
  | persist site update => rfl
  | dispatch request =>
      have hfind := find?_of_nodup_keys hnodup hev rfl
      show r = handlersOf tr request.call
      unfold handlersOf
      rw [hfind]

end CmlCloudManager.Pipeline
