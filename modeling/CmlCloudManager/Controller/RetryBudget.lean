/-
  CmlCloudManager.Controller.RetryBudget
  ──────────────────────────────────────
  **THE RETRY BUDGET OF A PIPELINE.**

  `_handle_pipeline_phase` counts a failed run when it INSPECTS it, outside the
  handler, and only if the run has a result that says `failed`; a run that crashed
  (a rejected definition, say) has none and is restarted for free.  The history of
  the system tells the two apart from each other and from what the counter knows:

    • `failedRuns` — runs that ended `failed`,
    • `failedInspections` — those a phase call has looked at,
    • `Exhausts` — the call that looked at the N-th (or a later) one.

  The runs that ended and the runs that were inspected differ by the one that the
  active handler still holds (`LedgerInv.ended`); the counter is the number of
  inspections, capped at N - 1 (`LedgerInv.counted`).  From the two: the N-th
  inspection terminates the session and starts nothing.
-/
import CmlCloudManager.Controller.TrackedRuns
import Mathlib.Data.List.Induction
import Mathlib.Logic.Relation

namespace CmlCloudManager.Controller

open CmlCloudManager.Foundation
open CmlCloudManager.Pipeline
open CmlCloudManager.ControlPlane

/-! ## §1. Reading the history. -/

/-- A call found that a run of the pipeline had failed. -/
def Observation.isFailedInspection (sid pl : String) : Observation → Bool
  | .inspected _ s q (some r) => s == sid && q == pl && r.status == .failed
  | _ => false

/-- A run of the pipeline ended with the result `failed`. -/
def Observation.isFailedRun (sid pl : String) : Observation → Bool
  | .ended s q (.ok r) => s == sid && q == pl && r.status == .failed
  | _ => false

/-- A run of the pipeline ended without a result. -/
def Observation.isCrash (sid pl : String) : Observation → Bool
  | .ended s q (.error _) => s == sid && q == pl
  | _ => false

/-- A run of the pipeline was started. -/
def Observation.isStart (sid pl : String) : Observation → Bool
  | .started _ s q => s == sid && q == pl
  | _ => false

def failedInspections (sid pl : String) (history : List Observation) : Nat :=
  history.countP (Observation.isFailedInspection sid pl)

def failedRuns (sid pl : String) (history : List Observation) : Nat :=
  history.countP (Observation.isFailedRun sid pl)

def crashedRuns (sid pl : String) (history : List Observation) : Nat :=
  history.countP (Observation.isCrash sid pl)

/-- The call `c` inspected the `N`-th failed run of the pipeline, or a later one. -/
def Exhausts (N : Nat) (sid pl : String) (history : List Observation) (c : Nat) : Prop :=
  ∃ before after r, history = before ++ .inspected c sid pl (some r) :: after
    ∧ r.status = .failed ∧ N ≤ failedInspections sid pl before + 1

/-- A run of the pipeline was started after the budget was used up. -/
def StartedAgain (N : Nat) (sid pl : String) (history : List Observation) : Prop :=
  ∃ before after o, history = before ++ o :: after ∧ o.isStart sid pl = true
    ∧ ∃ c, Exhausts N sid pl before c

section History

variable {N : Nat} {sid pl : String} {history : List Observation} {o : Observation}

theorem failedInspections_snoc :
    failedInspections sid pl (history ++ [o])
      = failedInspections sid pl history + if o.isFailedInspection sid pl then 1 else 0 := by
  simp [failedInspections, List.countP_append, List.countP_cons]

theorem failedRuns_snoc :
    failedRuns sid pl (history ++ [o])
      = failedRuns sid pl history + if o.isFailedRun sid pl then 1 else 0 := by
  simp [failedRuns, List.countP_append, List.countP_cons]

theorem isFailedInspection_iff :
    o.isFailedInspection sid pl = true
      ↔ ∃ c r, o = .inspected c sid pl (some r) ∧ r.status = .failed := by
  unfold Observation.isFailedInspection
  split
  next c s q r =>
    simp only [Bool.and_eq_true, beq_iff_eq]
    constructor
    · rintro ⟨⟨rfl, rfl⟩, hst⟩
      exact ⟨c, r, rfl, hst⟩
    · rintro ⟨c', r', heq, hst⟩
      injection heq with _ hs hq hr
      injection hr with hr
      subst hs hq hr
      exact ⟨⟨rfl, rfl⟩, hst⟩
  next hno =>
    constructor
    · intro h
      cases h
    · rintro ⟨c, r, rfl, -⟩
      exact absurd rfl (hno c sid pl r)

/-- An element of a list with one more at the end is the last one, or was there before. -/
theorem snoc_split {α : Type} {l before after : List α} {x y : α}
    (h : l ++ [y] = before ++ x :: after) :
    (l = before ∧ y = x) ∨ ∃ after', l = before ++ x :: after' := by
  induction after using List.reverseRecOn with
  | nil =>
      obtain ⟨hl, hlast⟩ := List.append_inj' h rfl
      injection hlast with hlast
      exact .inl ⟨hl, hlast⟩
  | append_singleton after' last _ =>
      rw [← List.cons_append, ← List.append_assoc] at h
      exact .inr ⟨after', (List.append_inj' h rfl).1⟩

/-- The last observation exhausts the budget, or an earlier one did. -/
theorem exhausts_snoc {c : Nat} :
    Exhausts N sid pl (history ++ [o]) c
      ↔ Exhausts N sid pl history c
        ∨ (N ≤ failedInspections sid pl history + 1
          ∧ ∃ r, o = .inspected c sid pl (some r) ∧ r.status = .failed) := by
  constructor
  · rintro ⟨before, after, r, heq, hst, hN⟩
    rcases snoc_split heq with ⟨rfl, ho⟩ | ⟨after', rfl⟩
    · exact .inr ⟨hN, r, ho, hst⟩
    · exact .inl ⟨before, after', r, rfl, hst, hN⟩
  · rintro (⟨before, after, r, rfl, hst, hN⟩ | ⟨hN, r, rfl, hst⟩)
    · exact ⟨before, after ++ [o], r, by simp, hst, hN⟩
    · exact ⟨history, [], r, rfl, hst, hN⟩

/-- Only an inspection exhausts the budget. -/
theorem exhausts_snoc_of_not {c : Nat} (h : o.isFailedInspection sid pl = false) :
    Exhausts N sid pl (history ++ [o]) c ↔ Exhausts N sid pl history c := by
  rw [exhausts_snoc, or_iff_left]
  rintro ⟨-, r, rfl, hst⟩
  rw [isFailedInspection_iff.mpr ⟨c, r, rfl, hst⟩] at h
  cases h

theorem startedAgain_snoc :
    StartedAgain N sid pl (history ++ [o])
      ↔ StartedAgain N sid pl history
        ∨ (o.isStart sid pl = true ∧ ∃ c, Exhausts N sid pl history c) := by
  constructor
  · rintro ⟨before, after, x, heq, hx, hc⟩
    rcases snoc_split heq with ⟨rfl, rfl⟩ | ⟨after', rfl⟩
    · exact .inr ⟨hx, hc⟩
    · exact .inl ⟨before, after', x, rfl, hx, hc⟩
  · rintro (⟨before, after, x, rfl, hx, hc⟩ | ⟨ho, hc⟩)
    · exact ⟨before, after ++ [o], x, by simp, hx, hc⟩
    · exact ⟨history, [], o, rfl, ho, hc⟩

/-- `N` inspections of failed runs exhaust the budget. -/
theorem exists_exhausts (hpos : 0 < N) :
    N ≤ failedInspections sid pl history → ∃ c, Exhausts N sid pl history c := by
  induction history using List.reverseRecOn with
  | nil =>
      intro h
      have : failedInspections sid pl [] = 0 := rfl
      omega
  | append_singleton history o ih =>
      intro h
      rw [failedInspections_snoc] at h
      by_cases hN : N ≤ failedInspections sid pl history
      · obtain ⟨c, hc⟩ := ih hN
        exact ⟨c, exhausts_snoc.mpr (.inl hc)⟩
      · cases ho : o.isFailedInspection sid pl with
        | false =>
            rw [ho] at h
            simp at h
            omega
        | true =>
            rw [ho] at h
            obtain ⟨c, r, rfl, hst⟩ := isFailedInspection_iff.mp ho
            exact ⟨c, exhausts_snoc.mpr (.inr ⟨by simpa using h, r, rfl, hst⟩)⟩

end History

/-! ## §2. Results. -/

/-- A result carries the `max_retries` of its pipeline. -/
theorem execute_maxRetries {rt : Runtime} {sorter : Sorter} {pipeline : PipelineDef}
    {existing : Option ExistingProgress} {tr : Trace} {r : PipelineResult}
    (h : (execute rt sorter pipeline existing).Runs tr (.ok r)) :
    r.maxRetries = pipeline.maxRetries := by
  unfold execute at h
  split at h
  next =>
    obtain ⟨-, heq⟩ := h
    injection heq with heq
    rw [heq]
  next =>
    obtain ⟨out, tr₁, tr₂, -, -, -, heq⟩ := (Resumption.runs_bind _ _ _ _).mp h
    cases out with
    | error e => cases heq
    | ok st =>
        injection heq with heq
        rw [heq]
        rfl

/-- A handler has a result only when its task has left `execute`, and the result carries
the budget of the handler's pipeline. -/
def ResultsInv (w : World) : Prop :=
  ∀ i h, w.handlers.get? i = some h →
    (h.task.bind TaskState.left? ≠ none → h.result = none)
      ∧ ∀ r, h.result = some r → r.maxRetries = h.pipelineDef.maxRetries

section Results

variable {cat : Catalog} {w w' : World}

theorem ResultsInv.set (inv : ResultsInv w) {i : Nat} {h : LifecyclePhaseHandler}
    (hh : w'.handlers = w.handlers.set i h)
    (hone : (h.task.bind TaskState.left? ≠ none → h.result = none)
      ∧ ∀ r, h.result = some r → r.maxRetries = h.pipelineDef.maxRetries) : ResultsInv w' := by
  intro j g hj
  rw [hh] at hj
  rcases Dict.get?_set_eq_some hj with ⟨-, rfl⟩ | ⟨-, hj⟩
  · exact hone
  · exact inv j g hj

theorem ResultsInv.frame (inv : ResultsInv w) (hh : w'.handlers = w.handlers) : ResultsInv w' := by
  unfold ResultsInv
  rw [hh]
  exact inv

/-- The trivial property of traces: the rule for running tasks then says that a task was
reached from its handler's start, and no more. -/
def anyTrace : SessionRepository → RunSpec → Trace → Prop := fun _ _ _ => True

theorem anyTrace_stable : Stable anyTrace where
  dispatched := fun _ _ _ => trivial
  lost := fun _ _ _ => trivial
  stored := fun _ _ _ => trivial
  foreign := fun _ _ _ => trivial
  delivered := fun _ _ _ _ => trivial

/-- The changes of one handler that keep its result. -/
theorem ResultsInv.setTask (inv : ResultsInv w) {i : Nat} {h : LifecyclePhaseHandler}
    {t t' : TaskState} (hget : w.handlers.get? i = some h) (htask : h.task = some t)
    (ht : t'.left? ≠ none → t.left? ≠ none)
    (hh : w'.handlers = w.handlers.set i { h with task := some t' }) : ResultsInv w' := by
  obtain ⟨hnone, hmax⟩ := inv i h hget
  refine inv.set hh ⟨?_, hmax⟩
  intro hleft
  refine hnone ?_
  rw [htask]
  exact ht hleft

theorem ResultsInv.step {a : Action} (inv : ResultsInv w) (tracked : Tracked anyTrace w)
    (hstep : step cat w a = some w') : ResultsInv w' := by
  -- a handler that is started has no result yet
  have fresh : ∀ {setup : Setup}, (w'.handlers = w.handlers
      ∨ ∃ h : LifecyclePhaseHandler,
        w'.handlers = w.handlers.set w.nextHandler (h.start setup)) → ResultsInv w' := by
    intro setup hmove
    rcases hmove with hh | ⟨h, hh⟩
    · exact inv.frame hh
    · exact inv.set hh ⟨fun _ => rfl, by intro r hr; cases hr⟩
  cases step_moves hstep with
  | fetchSession hget => exact inv.frame rfl
  | @enter n pl setup session hsnap hpl hlock =>
      exact fresh (checkHandler_exit { w with nextCall := w.nextCall + 1 }
        (newCall w session pl) setup).handlers.2
  | @definitionFetched sid served setup c hcall hpoint =>
      have hmove := (continueWith_exit (cacheDefinition w c (answerOf cat c served)) c
        (answerOf cat c served) setup).handlers.2
      rw [(cacheDefinition_frame w c _).2.1, (cacheDefinition_frame w c _).2.2] at hmove
      exact fresh hmove
  | cleanedUp hcall hpoint => exact inv.frame rfl
  | terminateReturned hcall hpoint => exact inv.frame rfl
  | called hget htask => exact inv.setTask hget htask (fun _ => by simp [TaskState.left?]) rfl
  | @finished i h out hget htask =>
      obtain ⟨hnone, hmax⟩ := inv i h hget
      cases out with
      | error e =>
          refine inv.set rfl ⟨fun hleft => absurd rfl hleft, ?_⟩
          intro r hr
          exact hmax r hr
      | ok r =>
          obtain ⟨setup, tr, hreach, -⟩ := tracked i h _ hget (by rw [htask]; rfl)
          -- the task has come to its end: its trace is that of a whole run
          have hreturned : (Resumption.done (.ok r)
              : Exec (Except ExecuteError PipelineResult)).Runs [] (.ok r) := ⟨rfl, rfl⟩
          have hruns := hreach.append_runs hreturned
          refine inv.set rfl ⟨fun hleft => absurd rfl hleft, ?_⟩
          intro r' hr'
          injection hr' with hr'
          subst hr'
          exact execute_maxRetries hruns
  | dispatchReturned hget htask =>
      exact inv.setTask hget htask (fun _ => by simp [TaskState.left?]) rfl
  | persistReturned hget htask =>
      exact inv.setTask hget htask (fun _ => by simp [TaskState.left?]) rfl
  | @recorded i h hget htask =>
      exact inv.setTask hget htask (fun hleft => absurd rfl hleft) (completeHandler_frame w i h).1
  | event => exact inv.frame rfl
  | @signal n setup sig hsig =>
      rcases signalHandler_cases { w with signals := w.signals.eraseIdx n } sig setup with
        heq | ⟨i, h, -, -, -, heq⟩
      · rw [heq]
        exact inv.frame rfl
      · rw [heq]
        exact inv.set rfl ⟨fun _ => rfl, by intro r hr; cases hr⟩

end Results

/-! ## §3. The ledger of one pipeline. -/

/-- What the budget of one pipeline of one session depends on. -/
structure Ledger where
  /-- There is an active handler. -/
  active : Bool
  /-- The status of the result it holds. -/
  result : Option PipelineStatus
  /-- The retry counter. -/
  count : Nat
  history : List Observation

/-- **How the ledger changes**, for a budget of `N`. -/
inductive LedgerMove (N : Nat) (sid pl : String) : Ledger → Ledger → Prop where
  /-- Something that does not concern the pipeline. -/
  | observe {l o} (hinsp : o.isFailedInspection sid pl = false)
      (hrun : o.isFailedRun sid pl = false) (hstart : o.isStart sid pl = false) :
      LedgerMove N sid pl l { l with history := l.history ++ [o] }
  /-- A new handler is started. -/
  | start {l o} (hidle : l.active = false) (hresult : l.result = none)
      (hstart : o.isStart sid pl = true) :
      LedgerMove N sid pl l { l with active := true, history := l.history ++ [o] }
  /-- A suspended handler is started again. -/
  | restart {l o} (hactive : l.active = true) (hresult : l.result ≠ some .failed)
      (hstart : o.isStart sid pl = true) :
      LedgerMove N sid pl l { l with result := none, history := l.history ++ [o] }
  | finish {l} (r : PipelineResult) (hactive : l.active = true) (hresult : l.result = none) :
      LedgerMove N sid pl l
        { l with result := some r.status, history := l.history ++ [.ended sid pl (.ok r)] }
  /-- A call inspects a run that has not failed. -/
  | inspect {l} (c : Nat) (res : Option PipelineResult)
      (hresult : l.result = res.map PipelineResult.status) (hok : l.result ≠ some .failed) :
      LedgerMove N sid pl l
        { l with
          active := false
          result := none
          history := l.history ++ [.inspected c sid pl res] }
  /-- A call inspects a failed run and counts it. -/
  | retry {l} (c : Nat) (r : PipelineResult) (hresult : l.result = some .failed)
      (hfailed : r.status = .failed) (hleft : l.count + 1 < N) :
      LedgerMove N sid pl l
        { active := false
          result := none
          count := l.count + 1
          history := l.history ++ [.inspected c sid pl (some r)] }
  /-- A call inspects a failed run and finds the budget used up. -/
  | exhaust {l} (c : Nat) (r : PipelineResult) (hresult : l.result = some .failed)
      (hfailed : r.status = .failed) (hout : N ≤ l.count + 1) :
      LedgerMove N sid pl l
        { l with
          active := false
          result := none
          history := l.history ++ [.inspected c sid pl (some r)] }

/-- The ledger adds up. -/
structure LedgerInv (N : Nat) (sid pl : String) (l : Ledger) : Prop where
  /-- The counter counts the inspections, up to the budget. -/
  counted : l.count = min (failedInspections sid pl l.history) (N - 1)
  /-- A failed run has been inspected, or the active handler still holds it. -/
  ended : failedRuns sid pl l.history
    = failedInspections sid pl l.history + if l.result = some .failed then 1 else 0
  /-- Once the budget is used up, nothing goes on until the pipeline is started again. -/
  quiet : ¬ StartedAgain N sid pl l.history → (∃ c, Exhausts N sid pl l.history c) →
    l.active = false ∧ failedInspections sid pl l.history = N
  idle : l.active = false → l.result = none

section Ledger

variable {N : Nat} {sid pl : String} {l l' : Ledger}

theorem isStart_only {o : Observation} (h : o.isStart sid pl = true) :
    o.isFailedInspection sid pl = false ∧ o.isFailedRun sid pl = false := by
  cases o with
  | started call s q => exact ⟨rfl, rfl⟩
  | inspected c s q res => cases h
  | ended s q out => cases h
  | terminated c s => cases h

/-- What an inspection of a failed run of the pipeline is. -/
theorem inspected_only {c : Nat} {r : PipelineResult} (h : r.status = .failed) :
    (Observation.inspected c sid pl (some r)).isFailedInspection sid pl = true
      ∧ (Observation.inspected c sid pl (some r)).isFailedRun sid pl = false
      ∧ (Observation.inspected c sid pl (some r)).isStart sid pl = false :=
  ⟨isFailedInspection_iff.mpr ⟨c, r, rfl, h⟩, rfl, rfl⟩

/-- An inspection of a failed run adds one. -/
theorem failedInspections_inspected (sid pl : String) (c : Nat) {r : PipelineResult}
    (h : r.status = .failed) (history : List Observation) :
    failedInspections sid pl (history ++ [.inspected c sid pl (some r)])
      = failedInspections sid pl history + 1 := by
  rw [failedInspections_snoc, (inspected_only h).1]
  rfl

/-- A start when the budget is used up is a start again. -/
theorem startedAgain_of_start {o : Observation} {history : List Observation}
    (hstart : o.isStart sid pl = true) (hex : ∃ c, Exhausts N sid pl (history ++ [o]) c) :
    StartedAgain N sid pl (history ++ [o]) := by
  obtain ⟨c, hc⟩ := hex
  -- the start itself exhausts nothing
  exact startedAgain_snoc.mpr
    (.inr ⟨hstart, c, (exhausts_snoc_of_not (isStart_only hstart).1).mp hc⟩)

/-- Before the budget is used up, fewer than `N` failed runs have been inspected. -/
theorem inspections_lt (hpos : 0 < N) {history : List Observation}
    (h : ¬ ∃ c, Exhausts N sid pl history c) : failedInspections sid pl history < N := by
  by_contra hge
  exact h (exists_exhausts hpos (Nat.le_of_not_lt hge))

/-- What is no inspection of a failed run adds none. -/
theorem failedInspections_snoc_of_not {o : Observation} {history : List Observation}
    (h : o.isFailedInspection sid pl = false) :
    failedInspections sid pl (history ++ [o]) = failedInspections sid pl history := by
  rw [failedInspections_snoc, h]
  rfl

/-- An observation that starts nothing and exhausts nothing keeps the quiet. -/
theorem LedgerInv.still (inv : LedgerInv N sid pl l) {o : Observation}
    (hinsp : o.isFailedInspection sid pl = false)
    (hno : ¬ StartedAgain N sid pl (l.history ++ [o]))
    (hex : ∃ c, Exhausts N sid pl (l.history ++ [o]) c) :
    l.active = false ∧ failedInspections sid pl (l.history ++ [o]) = N := by
  obtain ⟨c, hc⟩ := hex
  rw [failedInspections_snoc_of_not hinsp]
  refine inv.quiet ?_ ⟨c, (exhausts_snoc_of_not hinsp).mp hc⟩
  intro hagain
  exact hno (startedAgain_snoc.mpr (.inl hagain))

/-- A handler that holds a failed run is active, so that the budget is not used up. -/
theorem LedgerInv.not_exhausted (inv : LedgerInv N sid pl l) (hresult : l.result = some .failed)
    {o : Observation} (hno : ¬ StartedAgain N sid pl (l.history ++ [o])) :
    ¬ ∃ c, Exhausts N sid pl l.history c := by
  intro hex
  have hquiet := inv.quiet (fun hagain => hno (startedAgain_snoc.mpr (.inl hagain))) hex
  rw [inv.idle hquiet.1] at hresult
  cases hresult

/-- The inspection of the failed run that the handler holds leaves none to inspect. -/
theorem LedgerInv.ended_inspected (inv : LedgerInv N sid pl l) (hresult : l.result = some .failed)
    (c : Nat) {r : PipelineResult} (hfailed : r.status = .failed) :
    failedRuns sid pl (l.history ++ [.inspected c sid pl (some r)])
      = failedInspections sid pl (l.history ++ [.inspected c sid pl (some r)]) := by
  have hended := inv.ended
  rw [hresult, if_pos rfl] at hended
  rw [failedInspections_inspected sid pl c hfailed, failedRuns_snoc, (inspected_only hfailed).2.1]
  exact hended

theorem LedgerInv.move (hpos : 0 < N) (inv : LedgerInv N sid pl l)
    (h : LedgerMove N sid pl l l') : LedgerInv N sid pl l' := by
  cases h with
  | @observe o hinsp hrun hstart =>
      constructor
      case counted => exact inv.counted.trans (by rw [failedInspections_snoc_of_not hinsp])
      case ended =>
        rw [failedInspections_snoc_of_not hinsp, failedRuns_snoc, hrun]
        exact inv.ended
      case quiet => exact inv.still hinsp
      case idle => exact inv.idle
  | @start o hidle hresult hstart =>
      obtain ⟨hinsp, hrun⟩ := isStart_only hstart
      constructor
      case counted => exact inv.counted.trans (by rw [failedInspections_snoc_of_not hinsp])
      case ended =>
        rw [failedInspections_snoc_of_not hinsp, failedRuns_snoc, hrun]
        exact inv.ended
      case quiet => exact fun hno hex => absurd (startedAgain_of_start hstart hex) hno
      case idle => intro hact; cases hact
  | @restart o hactive hresult hstart =>
      obtain ⟨hinsp, hrun⟩ := isStart_only hstart
      constructor
      case counted => exact inv.counted.trans (by rw [failedInspections_snoc_of_not hinsp])
      case ended =>
        have hended := inv.ended
        rw [if_neg hresult] at hended
        rw [failedInspections_snoc_of_not hinsp, failedRuns_snoc, hrun]
        exact hended
      case quiet => exact fun hno hex => absurd (startedAgain_of_start hstart hex) hno
      case idle => intro _; rfl
  | finish r hactive hresult =>
      have hinsp : (Observation.ended sid pl (.ok r)).isFailedInspection sid pl = false := rfl
      have hrun : (Observation.ended sid pl (.ok r)).isFailedRun sid pl
          = (r.status == PipelineStatus.failed) := by simp [Observation.isFailedRun]
      constructor
      case counted => exact inv.counted.trans (by rw [failedInspections_snoc_of_not hinsp])
      case ended =>
        have hended := inv.ended
        rw [hresult, if_neg (by simp)] at hended
        rw [failedRuns_snoc, failedInspections_snoc_of_not hinsp, hended, hrun]
        simp
      case quiet =>
        intro hno hex
        have hidle := (inv.still hinsp hno hex).1
        rw [hactive] at hidle
        cases hidle
      case idle =>
        intro hact
        rw [hactive] at hact
        cases hact
  | inspect c res hresult hok =>
      have hinsp : (Observation.inspected c sid pl res).isFailedInspection sid pl = false := by
        cases hi : (Observation.inspected c sid pl res).isFailedInspection sid pl with
        | false => rfl
        | true =>
            obtain ⟨c', r, heq, hst⟩ := isFailedInspection_iff.mp hi
            injection heq with _ _ _ hres
            rw [hresult, hres, Option.map_some, hst] at hok
            exact absurd rfl hok
      have hrun : (Observation.inspected c sid pl res).isFailedRun sid pl = false := rfl
      constructor
      case counted => exact inv.counted.trans (by rw [failedInspections_snoc_of_not hinsp])
      case ended =>
        have hended := inv.ended
        rw [if_neg hok] at hended
        rw [failedInspections_snoc_of_not hinsp, failedRuns_snoc, hrun]
        exact hended
      case quiet => exact fun hno hex => ⟨rfl, (inv.still hinsp hno hex).2⟩
      case idle => intro _; rfl
  | retry c r hresult hfailed hleft =>
      have hfi := failedInspections_inspected sid pl c hfailed l.history
      have hcounted := inv.counted
      constructor
      case counted =>
        show l.count + 1 = min (failedInspections sid pl (l.history ++ [_])) (N - 1)
        rw [hfi]
        omega
      case ended => exact inv.ended_inspected hresult c hfailed
      case quiet =>
        intro hno hex
        exfalso
        -- a counted failure exhausts nothing, and nothing was exhausted before
        obtain ⟨c', hc'⟩ := hex
        rcases exhausts_snoc.mp hc' with hold | ⟨hN, -⟩
        · exact inv.not_exhausted hresult hno ⟨c', hold⟩
        · omega
      case idle => intro _; rfl
  | exhaust c r hresult hfailed hout =>
      have hfi := failedInspections_inspected sid pl c hfailed l.history
      have hcounted := inv.counted
      constructor
      case counted =>
        show l.count = min (failedInspections sid pl (l.history ++ [_])) (N - 1)
        rw [hfi]
        omega
      case ended => exact inv.ended_inspected hresult c hfailed
      case quiet =>
        intro hno hex
        refine ⟨rfl, ?_⟩
        show failedInspections sid pl (l.history ++ [_]) = N
        rw [hfi]
        -- this is the first time
        have := inspections_lt hpos (inv.not_exhausted hresult hno)
        omega
      case idle => intro _; rfl

theorem LedgerInv.moves (hpos : 0 < N) (inv : LedgerInv N sid pl l)
    (h : Relation.ReflTransGen (LedgerMove N sid pl) l l') : LedgerInv N sid pl l' := by
  induction h with
  | refl => exact inv
  | tail _ hlast ih => exact ih.move hpos hlast

/-- **At most `N` runs end `failed`**, until the pipeline is started again. -/
theorem LedgerInv.failedRuns_le (hpos : 0 < N) (inv : LedgerInv N sid pl l)
    (hno : ¬ StartedAgain N sid pl l.history) : failedRuns sid pl l.history ≤ N := by
  by_cases hex : ∃ c, Exhausts N sid pl l.history c
  · obtain ⟨hidle, hN⟩ := inv.quiet hno hex
    rw [inv.ended, inv.idle hidle, if_neg (by simp), hN]
    omega
  · have := inspections_lt hpos hex
    rw [inv.ended]
    split <;> omega

end Ledger

/-! ## §4. The controller keeps the ledger. -/

/-- The status of the result the active handler of a pipeline holds. -/
def activeResult (w : World) (sid pl : String) : Option PipelineStatus :=
  ((w.activeHandlers.get? (handlerKey sid pl)).bind fun i => w.handlers.get? i).bind fun h =>
    h.result.map PipelineResult.status

/-- The ledger of a pipeline. -/
def ledgerOf (w : World) (sid pl : String) : Ledger :=
  { active := (w.activeHandlers.get? (handlerKey sid pl)).isSome
    result := activeResult w sid pl
    count := (w.pipelineRetryCounts.get? (handlerKey sid pl)).getD 0
    history := w.history }

section Simulation

variable {cat : Catalog} {N : Nat} {sid pl : String} {w w' : World} {c : PhaseCall}

theorem activeResult_of_active {i : Nat} {h : LifecyclePhaseHandler}
    (hact : w.activeHandlers.get? (handlerKey sid pl) = some i)
    (hget : w.handlers.get? i = some h) :
    activeResult w sid pl = h.result.map PipelineResult.status := by
  rw [activeResult, hact, Option.bind_some, hget, Option.bind_some]

theorem activeResult_of_idle (hidle : w.activeHandlers.get? (handlerKey sid pl) = none) :
    activeResult w sid pl = none := by
  rw [activeResult, hidle]
  rfl

/-- A handler that is not the active one may change. -/
theorem activeResult_set_ne {i : Nat} {h : LifecyclePhaseHandler}
    (ha : w'.activeHandlers.get? (handlerKey sid pl) = w.activeHandlers.get? (handlerKey sid pl))
    (hh : w'.handlers = w.handlers.set i h)
    (hne : w.activeHandlers.get? (handlerKey sid pl) ≠ some i) :
    activeResult w' sid pl = activeResult w sid pl := by
  unfold activeResult
  rw [ha, hh]
  cases hact : w.activeHandlers.get? (handlerKey sid pl) with
  | none => rfl
  | some j =>
      rw [Option.bind_some, Option.bind_some, Dict.get?_set_ne]
      intro heq
      rw [hact, heq] at hne
      exact hne rfl

/-- The ledger sees of the world the active handler, the counter and the history. -/
theorem ledgerOf_eq
    (ha : w'.activeHandlers.get? (handlerKey sid pl) = w.activeHandlers.get? (handlerKey sid pl))
    (hr : activeResult w' sid pl = activeResult w sid pl)
    (hc : w'.pipelineRetryCounts.get? (handlerKey sid pl)
      = w.pipelineRetryCounts.get? (handlerKey sid pl)) :
    ledgerOf w' sid pl = { ledgerOf w sid pl with history := w'.history } := by
  unfold ledgerOf
  rw [ha, hr, hc]

/-- The pipeline of another key: whatever is observed of it does not concern this one. -/
theorem other_key (hpl : pl ∈ validPipelineNames) {s q : String} (hq : q ∈ validPipelineNames)
    (hne : ¬ (s = sid ∧ q = pl)) : handlerKey sid pl ≠ handlerKey s q := by
  intro heq
  obtain ⟨hs, hqp⟩ := handlerKey_inj hpl hq heq
  exact hne ⟨hs.symm, hqp.symm⟩

/-- A start of another pipeline. -/
theorem isStart_other {s q : String} (hne : ¬ (s = sid ∧ q = pl)) (n : Option Nat) :
    (Observation.started n s q).isStart sid pl = false := by
  cases hstart : (Observation.started n s q).isStart sid pl with
  | false => rfl
  | true =>
      simp only [Observation.isStart, Bool.and_eq_true, beq_iff_eq] at hstart
      exact absurd hstart hne

/-- A run of another pipeline. -/
theorem isFailedRun_other {s q : String} (hne : ¬ (s = sid ∧ q = pl)) (r : PipelineResult) :
    (Observation.ended s q (.ok r)).isFailedRun sid pl = false := by
  cases hrun : (Observation.ended s q (.ok r)).isFailedRun sid pl with
  | false => rfl
  | true =>
      simp only [Observation.isFailedRun, Bool.and_eq_true, beq_iff_eq] at hrun
      exact absurd hrun.1 hne

/-- The rest of a phase call starts a handler of its pipeline, or leaves the ledger alone. -/
theorem PhaseExit.ledger (hpl : pl ∈ validPipelineNames)
    (hcpl : c.pipelineName ∈ validPipelineNames) {setup : Setup}
    (hfree : w.activeHandlers.get? (handlerKey c.session.id c.pipelineName) = none)
    (hbelow : ∀ k i, w.activeHandlers.get? k = some i → i < w.nextHandler)
    (exit : PhaseExit w c setup w') :
    Relation.ReflTransGen (LedgerMove N sid pl) (ledgerOf w sid pl) (ledgerOf w' sid pl) := by
  cases exit with
  | loading => exact .refl
  | undefinedPipeline => exact .single (.observe rfl rfl rfl)
  | started pipeline =>
      by_cases hkey : c.session.id = sid ∧ c.pipelineName = pl
      · obtain ⟨rfl, rfl⟩ := hkey
        have hstart : (Observation.started (some c.number) c.session.id c.pipelineName).isStart
            c.session.id c.pipelineName = true := by simp [Observation.isStart]
        have move := LedgerMove.start (N := N) (l := ledgerOf w c.session.id c.pipelineName)
          (by rw [ledgerOf, hfree]; rfl) (activeResult_of_idle hfree) hstart
        have hledger : ledgerOf (startNewHandler { w with calls := w.calls.erase c.session.id } c
            pipeline setup) c.session.id c.pipelineName
              = { ledgerOf w c.session.id c.pipelineName with
                  active := true
                  history := w.history
                    ++ [.started (some c.number) c.session.id c.pipelineName] } := by
          have hnew : activeResult (startNewHandler { w with calls := w.calls.erase c.session.id } c
              pipeline setup) c.session.id c.pipelineName = none := by
            refine (activeResult_of_active (i := w.nextHandler) (Dict.get?_set_self _ _ _)
              (Dict.get?_set_self _ _ _)).trans ?_
            rfl
          unfold ledgerOf
          rw [activeResult_of_idle hfree, hnew]
          simp [startNewHandler, startHandler]
        rw [hledger]
        exact .single move
      -- a handler of another key is started: the ledger sees an observation only
      · have hne := other_key hpl hcpl hkey
        have hact : (startNewHandler { w with calls := w.calls.erase c.session.id } c pipeline
            setup).activeHandlers.get? (handlerKey sid pl)
              = w.activeHandlers.get? (handlerKey sid pl) :=
          Dict.get?_set_ne _ _ _ hne
        have hres : activeResult (startNewHandler { w with calls := w.calls.erase c.session.id } c
            pipeline setup) sid pl = activeResult w sid pl := by
          refine activeResult_set_ne (i := w.nextHandler) hact rfl ?_
          intro heq
          exact absurd (hbelow _ _ heq) (Nat.lt_irrefl _)
        rw [ledgerOf_eq hact hres rfl]
        exact .single (.observe rfl rfl (isStart_other hkey _))

/-- An inspection of another pipeline. -/
theorem inspected_other {s q : String} (hne : ¬ (s = sid ∧ q = pl)) (n : Nat)
    (res : Option PipelineResult) :
    (Observation.inspected n s q res).isFailedInspection sid pl = false := by
  cases hi : (Observation.inspected n s q res).isFailedInspection sid pl with
  | false => rfl
  | true =>
      obtain ⟨c', r, heq, -⟩ := isFailedInspection_iff.mp hi
      injection heq with _ hs hq _
      exact absurd ⟨hs, hq⟩ hne

/-- The handler of another pipeline is removed, and its retry counted or not. -/
theorem removeHandler_ledger_other (hpl : pl ∈ validPipelineNames)
    (hcpl : c.pipelineName ∈ validPipelineNames)
    (hne : ¬ (c.session.id = sid ∧ c.pipelineName = pl)) (res : Option PipelineResult) :
    ledgerOf (removeHandler w c res) sid pl
        = { ledgerOf w sid pl with
            history := w.history ++ [.inspected c.number c.session.id c.pipelineName res] }
      ∧ ledgerOf (countRetry (removeHandler w c res) c) sid pl
        = ledgerOf (removeHandler w c res) sid pl := by
  have hkey := other_key hpl hcpl hne
  have hact : (w.activeHandlers.erase (handlerKey c.session.id c.pipelineName)).get?
      (handlerKey sid pl) = w.activeHandlers.get? (handlerKey sid pl) :=
    Dict.get?_erase_ne _ _ hkey
  have hres : activeResult (removeHandler w c res) sid pl = activeResult w sid pl := by
    unfold activeResult removeHandler
    rw [hact]
  refine ⟨ledgerOf_eq hact hres rfl, ?_⟩
  exact ledgerOf_eq rfl rfl (Dict.get?_set_ne _ _ _ hkey)

/-- The handler of this pipeline is removed. -/
theorem removeHandler_ledger_self (res : Option PipelineResult) :
    ledgerOf (removeHandler w c res) c.session.id c.pipelineName
        = { ledgerOf w c.session.id c.pipelineName with
            active := false
            result := none
            history := w.history ++ [.inspected c.number c.session.id c.pipelineName res] } := by
  have hact : (w.activeHandlers.erase (handlerKey c.session.id c.pipelineName)).get?
      (handlerKey c.session.id c.pipelineName) = none := Dict.get?_erase_self _ _
  unfold ledgerOf
  rw [@activeResult_of_idle _ _ (removeHandler w c res) hact]
  simp [removeHandler, hact]

theorem countRetry_ledger_self :
    ledgerOf (countRetry w c) c.session.id c.pipelineName
        = { ledgerOf w c.session.id c.pipelineName with
            count := (ledgerOf w c.session.id c.pipelineName).count + 1 } := by
  unfold ledgerOf
  congr 1
  show ((w.pipelineRetryCounts.set _ (retryCount w c)).get? _).getD 0 = _
  rw [Dict.get?_set_self]
  rfl

/-- The budget of the run that an active handler holds is the one of its pipeline. -/
theorem budget_of_active (inv : ControlInv cat none w) (results : ResultsInv w)
    (hpl : pl ∈ validPipelineNames) {p : PipelineDef} (hp : cat.pipeline? sid pl = some p)
    (hN : p.maxRetries = (N : Int)) {i : Nat} {h : LifecyclePhaseHandler} {r : PipelineResult}
    (hact : w.activeHandlers.get? (handlerKey sid pl) = some i) (hget : w.handlers.get? i = some h)
    (hresult : h.result = some r) : r.maxRetries = (N : Int) := by
  obtain ⟨hsid, hname⟩ := inv.of_active hpl hact hget
  have hpipe := (inv.cached i h hget).2
  rw [hsid, hname, hp] at hpipe
  rw [(results i h hget).2 r hresult, ← Option.some.inj hpipe, hN]

/-- The first segment of a phase call, on the ledger of any pipeline. -/
theorem CheckExit.ledger (inv : ControlInv cat none w) (results : ResultsInv w)
    (hpl : pl ∈ validPipelineNames) {p : PipelineDef} (hp : cat.pipeline? sid pl = some p)
    (hN : p.maxRetries = (N : Int)) (hpos : 0 < N)
    (hcpl : c.pipelineName ∈ validPipelineNames) {setup : Setup}
    (exit : CheckExit w c setup w') :
    Relation.ReflTransGen (LedgerMove N sid pl) (ledgerOf w sid pl) (ledgerOf w' sid pl) := by
  have hbelow := inv.active_below
  have hbelow' : ∀ k i, (w.activeHandlers.erase (handlerKey c.session.id c.pipelineName)).get? k
      = some i → i < w.nextHandler := by
    intro k i hact
    rw [Dict.get?_erase] at hact
    split at hact
    next => cases hact
    next => exact hbelow k i hact
  have hfree : (w.activeHandlers.erase (handlerKey c.session.id c.pipelineName)).get?
      (handlerKey c.session.id c.pipelineName) = none := Dict.get?_erase_self _ _
  -- an inspection of a run that has not failed
  have inspect : ∀ {i h}, w.activeHandlers.get? (handlerKey c.session.id c.pipelineName) = some i →
      w.handlers.get? i = some h → (∀ r, h.result = some r → r.status ≠ .failed) →
      LedgerMove N sid pl (ledgerOf w sid pl) (ledgerOf (removeHandler w c h.result) sid pl) := by
    intro i h hact hget hok
    by_cases hkey : c.session.id = sid ∧ c.pipelineName = pl
    · obtain ⟨rfl, rfl⟩ := hkey
      have hres := activeResult_of_active hact hget
      rw [removeHandler_ledger_self]
      refine .inspect c.number h.result hres ?_
      intro hfailed
      obtain ⟨r, hr, hst⟩ := Option.map_eq_some_iff.mp (hres.symm.trans hfailed)
      exact hok r hr hst
    · rw [(removeHandler_ledger_other hpl hcpl hkey h.result).1]
      exact .observe (inspected_other hkey _ _) rfl rfl
  cases exit with
  | busy => exact .refl
  | noHandler hnone exit => exact exit.ledger hpl hcpl hnone hbelow
  | done hact hget hstopped hresult hstatus =>
      refine .single (inspect hact hget ?_)
      intro r hr hst
      rw [hresult] at hr
      obtain rfl := Option.some.inj hr
      rw [hst] at hstatus
      rcases hstatus with h | h <;> cases h
  | restart hact hget hstopped hresult exit =>
      refine .head (inspect hact hget ?_) (exit.ledger hpl hcpl hfree hbelow')
      intro r hr hst
      rw [hresult r hr] at hst
      cases hst
  | @retry i h r w' hact hget hstopped hresult hstatus hleft exit =>
      refine Relation.ReflTransGen.trans ?_ (exit.ledger hpl hcpl hfree hbelow')
      by_cases hkey : c.session.id = sid ∧ c.pipelineName = pl
      · obtain ⟨rfl, rfl⟩ := hkey
        have hmax := budget_of_active inv results hcpl hp hN hact hget hresult
        rw [countRetry_ledger_self, removeHandler_ledger_self, hresult]
        refine .single (.retry c.number r ?_ hstatus ?_)
        · show activeResult w _ _ = _
          rw [activeResult_of_active hact hget, hresult, Option.map_some, hstatus]
        · by_contra hge
          refine hleft ⟨by omega, ?_⟩
          rw [hmax]
          exact_mod_cast Nat.le_of_not_lt hge
      · obtain ⟨hremoved, hcounted⟩ := removeHandler_ledger_other (w := w) hpl hcpl hkey h.result
        rw [hcounted, hremoved]
        exact .single (.observe (inspected_other hkey _ _) rfl rfl)
  | @outOfRetries i h r hact hget hstopped hresult hstatus hnone =>
      have exhaust : LedgerMove N sid pl (ledgerOf w sid pl)
          (ledgerOf (removeHandler w c h.result) sid pl) := by
        by_cases hkey : c.session.id = sid ∧ c.pipelineName = pl
        · obtain ⟨rfl, rfl⟩ := hkey
          have hmax := budget_of_active inv results hcpl hp hN hact hget hresult
          rw [removeHandler_ledger_self, hresult]
          refine .exhaust c.number r ?_ hstatus ?_
          · show activeResult w _ _ = _
            rw [activeResult_of_active hact hget, hresult, Option.map_some, hstatus]
          · have := hnone.2
            rw [hmax] at this
            exact_mod_cast this
        · rw [(removeHandler_ledger_other hpl hcpl hkey h.result).1]
          exact .observe (inspected_other hkey _ _) rfl rfl
      unfold exhaustRetries
      split
      next => exact .single exhaust
      next => exact .head exhaust (.single (.observe rfl rfl rfl))

/-- A handler keeps its result while its task goes on. -/
theorem ledger_setTask {i : Nat} {h h' : LifecyclePhaseHandler} (hget : w.handlers.get? i = some h)
    (hh : w'.handlers = w.handlers.set i h') (hres : h'.result = h.result)
    (ha : w'.activeHandlers = w.activeHandlers)
    (hc : w'.pipelineRetryCounts = w.pipelineRetryCounts) :
    ledgerOf w' sid pl = { ledgerOf w sid pl with history := w'.history } := by
  refine ledgerOf_eq (by rw [ha]) ?_ (by rw [hc])
  by_cases hact : w.activeHandlers.get? (handlerKey sid pl) = some i
  · rw [activeResult_of_active hact hget, ← hres]
    exact activeResult_of_active (ha ▸ hact) (hh ▸ Dict.get?_set_self _ _ _)
  · exact activeResult_set_ne (by rw [ha]) hh hact

theorem ledger_refl (h : ledgerOf w' sid pl = ledgerOf w sid pl) :
    Relation.ReflTransGen (LedgerMove N sid pl) (ledgerOf w sid pl) (ledgerOf w' sid pl) := by
  rw [h]

/-- A run that returns is a move of the ledger of its pipeline. -/
theorem finishRun_ledger (inv : ControlInv cat none w) (results : ResultsInv w)
    (hpl : pl ∈ validPipelineNames) {i : Nat} {h : LifecyclePhaseHandler}
    {out : Except ExecuteError PipelineResult} (hget : w.handlers.get? i = some h)
    (htask : h.task = some (.ready (.done out))) :
    LedgerMove N sid pl (ledgerOf w sid pl) (ledgerOf (finishRun w i h out) sid pl) := by
  have hrun := isRunning_of_task htask (by simp)
  have hact : w.activeHandlers.get? (handlerKey h.sessionId h.pipelineName) = some i :=
    inv.running i h hget hrun
  have hnone : h.result = none := (results i h hget).1 (by rw [htask]; simp [TaskState.left?])
  cases out with
  | error e =>
      have hledger : ledgerOf (finishRun w i h (.error e)) sid pl
          = { ledgerOf w sid pl with
              history := w.history ++ [.ended h.sessionId h.pipelineName (.error e)] } :=
        ledger_setTask hget rfl rfl rfl rfl
      rw [hledger]
      exact .observe rfl rfl rfl
  | ok r =>
      by_cases hkey : h.sessionId = sid ∧ h.pipelineName = pl
      · obtain ⟨rfl, rfl⟩ := hkey
        have hres := activeResult_of_active hact hget
        rw [hnone] at hres
        have hnew : activeResult (finishRun w i h (.ok r)) h.sessionId h.pipelineName
            = some r.status := by
          refine (activeResult_of_active (i := i) ?_ (Dict.get?_set_self _ _ _)).trans rfl
          exact hact
        have hledger : ledgerOf (finishRun w i h (.ok r)) h.sessionId h.pipelineName
            = { ledgerOf w h.sessionId h.pipelineName with
                result := some r.status
                history := w.history ++ [.ended h.sessionId h.pipelineName (.ok r)] } := by
          unfold ledgerOf
          rw [hnew]
          rfl
        rw [hledger]
        exact .finish r (by rw [ledgerOf, hact]; rfl) hres
      · -- the active handler of this pipeline is another one
        have hother : w.activeHandlers.get? (handlerKey sid pl) ≠ some i := by
          intro heq
          exact hkey (inv.of_active hpl heq hget)
        have hres : activeResult (finishRun w i h (.ok r)) sid pl = activeResult w sid pl :=
          activeResult_set_ne rfl rfl hother
        have hledger : ledgerOf (finishRun w i h (.ok r)) sid pl
            = { ledgerOf w sid pl with
                history := w.history ++ [.ended h.sessionId h.pipelineName (.ok r)] } :=
          ledgerOf_eq rfl hres rfl
        rw [hledger]
        exact .observe rfl (isFailedRun_other hkey r) rfl

/-- A suspended handler that is started again is a move of the ledger of its pipeline. -/
theorem resume_ledger (inv : ControlInv cat none w) (hpl : pl ∈ validPipelineNames) {i : Nat}
    {h : LifecyclePhaseHandler} (hget : w.handlers.get? i = some h)
    (hact : w.activeHandlers.get? (handlerKey h.sessionId h.pipelineName) = some i)
    (hsuspended : h.result.map PipelineResult.status = some .suspended)
    (progress : Option ExistingProgress) (setup : Setup) :
    LedgerMove N sid pl (ledgerOf w sid pl)
      (ledgerOf (startHandler w none i { h with existingProgress := progress } setup) sid pl) := by
  by_cases hkey : h.sessionId = sid ∧ h.pipelineName = pl
  · obtain ⟨rfl, rfl⟩ := hkey
    have hres := activeResult_of_active hact hget
    rw [hsuspended] at hres
    have hstart : (Observation.started none h.sessionId h.pipelineName).isStart
        h.sessionId h.pipelineName = true := by simp [Observation.isStart]
    have move := LedgerMove.restart (N := N) (l := ledgerOf w h.sessionId h.pipelineName)
      (by rw [ledgerOf, hact]; rfl)
      (by rw [show (ledgerOf w _ _).result = _ from hres]; simp) hstart
    -- a handler that is started again has lost its result
    have hnew : activeResult (startHandler w none i { h with existingProgress := progress } setup)
        h.sessionId h.pipelineName = none := by
      refine (activeResult_of_active (i := i) ?_ (Dict.get?_set_self _ _ _)).trans rfl
      exact hact
    have hledger : ledgerOf (startHandler w none i { h with existingProgress := progress } setup)
        h.sessionId h.pipelineName
          = { ledgerOf w h.sessionId h.pipelineName with
              result := none
              history := w.history ++ [.started none h.sessionId h.pipelineName] } := by
      unfold ledgerOf
      rw [hnew]
      rfl
    rw [hledger]
    exact move
  · have hother : w.activeHandlers.get? (handlerKey sid pl) ≠ some i := by
      intro hact'
      exact hkey (inv.of_active hpl hact' hget)
    have hres : activeResult (startHandler w none i { h with existingProgress := progress } setup)
        sid pl = activeResult w sid pl := activeResult_set_ne rfl rfl hother
    have hledger : ledgerOf (startHandler w none i { h with existingProgress := progress } setup)
        sid pl
          = { ledgerOf w sid pl with
              history := w.history ++ [.started none h.sessionId h.pipelineName] } :=
      ledgerOf_eq rfl hres rfl
    rw [hledger]
    exact .observe rfl rfl (isStart_other hkey _)

/-- **Every action of the system is a sequence of moves of the ledger.** -/
theorem step_ledger {a : Action} (inv : ControlInv cat none w) (results : ResultsInv w)
    (hpl : pl ∈ validPipelineNames) {p : PipelineDef} (hp : cat.pipeline? sid pl = some p)
    (hN : p.maxRetries = (N : Int)) (hpos : 0 < N) (hstep : step cat w a = some w') :
    Relation.ReflTransGen (LedgerMove N sid pl) (ledgerOf w sid pl) (ledgerOf w' sid pl) := by
  cases step_moves hstep with
  | fetchSession hget => exact .refl
  | @enter n q setup session hsnap hq hlock =>
      have counted : ControlInv cat none { w with nextCall := w.nextCall + 1 } :=
        inv.frame rfl rfl rfl rfl rfl rfl rfl
      have results' : ResultsInv { w with nextCall := w.nextCall + 1 } := results.frame rfl
      have hexit := checkHandler_exit { w with nextCall := w.nextCall + 1 } (newCall w session q)
        setup
      have hmoves := @CheckExit.ledger cat N sid pl _ _ _ counted results' hpl p hp hN hpos hq setup
        hexit
      exact hmoves
  | @definitionFetched s served setup c hcall hpoint =>
      obtain ⟨hid, -, hcpl, hwait⟩ := inv.calls s c hcall
      subst hid
      have hexit := continueWith_exit (cacheDefinition w c (answerOf cat c served)) c
        (answerOf cat c served) setup
      -- the cache is not part of the ledger
      have hledger : ledgerOf (cacheDefinition w c (answerOf cat c served)) sid pl
          = ledgerOf w sid pl := by
        cases answerOf cat c served <;> rfl
      rw [← hledger]
      refine hexit.ledger hpl hcpl ?_ ?_
      · cases answerOf cat c served <;> exact hwait hpoint
      · cases answerOf cat c served <;> exact inv.active_below
  | cleanedUp hcall hpoint => exact .single (.observe rfl rfl rfl)
  | terminateReturned hcall hpoint => exact .refl
  | called hget htask => exact ledger_refl (ledger_setTask hget rfl rfl rfl rfl)
  | finished hget htask => exact .single (finishRun_ledger inv results hpl hget htask)
  | dispatchReturned hget htask => exact ledger_refl (ledger_setTask hget rfl rfl rfl rfl)
  | persistReturned hget htask => exact ledger_refl (ledger_setTask hget rfl rfl rfl rfl)
  | @recorded i h hget htask =>
      have hframe := completeHandler_frame w i h
      -- a handler that completes touches neither the counter nor the history
      have hrest : (completeHandler w i h).pipelineRetryCounts = w.pipelineRetryCounts
          ∧ (completeHandler w i h).history = w.history := by
        unfold completeHandler
        dsimp only
        split <;> exact ⟨rfl, rfl⟩
      have hledger := @ledger_setTask sid pl _ _ _ _ _ hget hframe.1 rfl hframe.2.2 hrest.1
      rw [hrest.2] at hledger
      exact ledger_refl hledger
  | event => exact .refl
  | @signal n setup sig hsig =>
      rcases signalHandler_cases { w with signals := w.signals.eraseIdx n } sig setup with
        heq | ⟨i, h, hreg, hget, hstopped, heq⟩
      · rw [heq]
        exact .refl
      · rw [heq]
        obtain ⟨h', hget', -, hact, hsus⟩ := inv.registered _ i hreg (by simp)
        obtain rfl : h = h' := Option.some.inj (hget.symm.trans hget')
        have signalled : ControlInv cat none { w with signals := w.signals.eraseIdx n } :=
          inv.frame rfl rfl rfl rfl rfl rfl rfl
        exact .single (resume_ledger signalled hpl hget hact (hsus hstopped) _ setup)

end Simulation


/-! ## §5. The call that finds the budget used up. -/

/-- The call waits for `on_max_retry_exhausted`. -/
def CleaningUp (w : World) (sid : String) (c : Nat) : Prop :=
  ∃ call, w.calls.get? sid = some call ∧ call.number = c ∧ call.point = .cleaningUp

/-- What a call that exhausts the budget does: it starts nothing, and it terminates the
session, at once or after the clean-up. -/
structure ExitInv (N : Nat) (sid pl : String) (w : World) : Prop where
  calls : ∀ s call, w.calls.get? s = some call → call.number < w.nextCall
  started : ∀ c s q, .started (some c) s q ∈ w.history → c < w.nextCall
  exhausts : ∀ c, Exhausts N sid pl w.history c →
    c < w.nextCall ∧ (∀ s q, .started (some c) s q ∉ w.history)
      ∧ (.terminated c sid ∈ w.history ∨ CleaningUp w sid c)
      ∧ ∀ s call, w.calls.get? s = some call → call.number = c →
        call.point ≠ .loadingDefinition

section Exit

variable {cat : Catalog} {N : Nat} {sid pl : String} {w w' : World} {c : PhaseCall}

/-- An observation that exhausts nothing, and is no start by a call that did. -/
theorem ExitInv.observe (inv : ExitInv N sid pl w) {o : Observation}
    (hex : ∀ c, Exhausts N sid pl (w.history ++ [o]) c → Exhausts N sid pl w.history c)
    (hstart : ∀ c s q, o = .started (some c) s q →
      c < w.nextCall ∧ ¬ Exhausts N sid pl w.history c) :
    ExitInv N sid pl (w.observe o) := by
  refine ⟨inv.calls, ?_, ?_⟩
  · intro n s q hmem
    rcases List.mem_append.mp hmem with hmem | hmem
    · exact inv.started n s q hmem
    · exact (hstart n s q (List.mem_singleton.mp hmem).symm).1
  · intro n hn
    obtain ⟨hlt, hno, hleave, hload⟩ := inv.exhausts n (hex n hn)
    refine ⟨hlt, ?_, hleave.imp (List.mem_append_left _) id, hload⟩
    intro s q hmem
    rcases List.mem_append.mp hmem with hmem | hmem
    · exact hno s q hmem
    · exact (hstart n s q (List.mem_singleton.mp hmem).symm).2 (hex n hn)

/-- A lock changes hands: a clean-up that ends has been followed by its termination. -/
theorem ExitInv.replaceCall (inv : ExitInv N sid pl w) {s : String}
    {calls : Dict String PhaseCall}
    (hother : ∀ s', s' ≠ s → calls.get? s' = w.calls.get? s')
    (hself : ∀ call, calls.get? s = some call →
      call.number < w.nextCall ∧ (call.point = .loadingDefinition →
        ¬ Exhausts N sid pl w.history call.number))
    (hdone : ∀ call, w.calls.get? s = some call → call.point = .cleaningUp →
      .terminated call.number s ∈ w.history) :
    ExitInv N sid pl { w with calls := calls } := by
  have cases_ : ∀ s' call, calls.get? s' = some call →
      (s' = s ∧ calls.get? s = some call) ∨ w.calls.get? s' = some call := by
    intro s' call hcall
    by_cases hs : s' = s
    · subst hs
      exact .inl ⟨rfl, hcall⟩
    · rw [hother s' hs] at hcall
      exact .inr hcall
  refine ⟨?_, inv.started, ?_⟩
  · intro s' call hcall
    rcases cases_ s' call hcall with ⟨-, hcall⟩ | hcall
    · exact (hself call hcall).1
    · exact inv.calls s' call hcall
  · intro n hn
    obtain ⟨hlt, hno, hleave, hload⟩ := inv.exhausts n hn
    refine ⟨hlt, hno, ?_, ?_⟩
    · rcases hleave with hterm | ⟨call, hcall, hnum, hpoint⟩
      · exact .inl hterm
      · by_cases hs : sid = s
        · subst hs
          exact .inl (hnum ▸ hdone call hcall hpoint)
        · exact .inr ⟨call, by rw [← hcall]; exact hother sid hs, hnum, hpoint⟩
    · intro s' call hcall hnum hpoint
      rcases cases_ s' call hcall with ⟨-, hcall⟩ | hcall
      · exact (hself call hcall).2 hpoint (hnum ▸ hn)
      · exact hload s' call hcall hnum hpoint

theorem ExitInv.setCall (inv : ExitInv N sid pl w) {call : PhaseCall} {s : String}
    (hnum : call.number < w.nextCall)
    (hload : call.point = .loadingDefinition → ¬ Exhausts N sid pl w.history call.number)
    (hdone : ∀ call', w.calls.get? s = some call' → call'.point = .cleaningUp →
      .terminated call'.number s ∈ w.history) :
    ExitInv N sid pl { w with calls := w.calls.set s call } := by
  refine inv.replaceCall (fun s' hs => Dict.get?_set_ne _ _ _ hs) ?_ hdone
  intro call' hcall'
  rw [Dict.get?_set_self] at hcall'
  obtain rfl := Option.some.inj hcall'
  exact ⟨hnum, hload⟩

theorem ExitInv.eraseCall (inv : ExitInv N sid pl w) {s : String}
    (hdone : ∀ call, w.calls.get? s = some call → call.point = .cleaningUp →
      .terminated call.number s ∈ w.history) :
    ExitInv N sid pl { w with calls := w.calls.erase s } := by
  refine inv.replaceCall (fun s' hs => Dict.get?_erase_ne _ _ hs) ?_ hdone
  intro call hcall
  rw [Dict.get?_erase_self] at hcall
  cases hcall

/-- What the invariant does not read may change. -/
theorem ExitInv.frame (inv : ExitInv N sid pl w) (hc : ∀ s, w'.calls.get? s = w.calls.get? s)
    (hn : w'.nextCall = w.nextCall) (hh : w'.history = w.history) : ExitInv N sid pl w' := by
  obtain ⟨calls, started, exhausts⟩ := inv
  refine ⟨?_, ?_, ?_⟩
  · intro s call hcall
    rw [hc] at hcall
    rw [hn]
    exact calls s call hcall
  · rw [hh, hn]
    exact started
  · unfold CleaningUp
    simp only [hh, hn, hc]
    exact exhausts

/-- A call that is about to clean up finds the budget used up. -/
theorem ExitInv.exhaust (inv : ExitInv N sid pl w) {o : Observation} {k : Nat}
    (hnew : ∀ n, Exhausts N sid pl (w.history ++ [o]) n →
      Exhausts N sid pl w.history n ∨ (n = k ∧ CleaningUp w sid k))
    (hk : k < w.nextCall) (hfresh : ∀ s q, .started (some k) s q ∉ w.history)
    (hpoints : ∀ s call, w.calls.get? s = some call → call.number = k →
      call.point ≠ .loadingDefinition)
    (ho : ∀ n s q, o ≠ .started (some n) s q) : ExitInv N sid pl (w.observe o) := by
  have hold : ∀ n s q, .started (some n) s q ∈ w.history ++ [o] →
      .started (some n) s q ∈ w.history := by
    intro n s q hmem
    rcases List.mem_append.mp hmem with hmem | hmem
    · exact hmem
    · exact absurd (List.mem_singleton.mp hmem).symm (ho n s q)
  refine ⟨inv.calls, fun n s q hmem => inv.started n s q (hold n s q hmem), ?_⟩
  intro n hn
  rcases hnew n hn with hbefore | ⟨rfl, hclean⟩
  · obtain ⟨hlt, hno, hleave, hload⟩ := inv.exhausts n hbefore
    exact ⟨hlt, fun s q hmem => hno s q (hold n s q hmem),
      hleave.imp (List.mem_append_left _) id, hload⟩
  · exact ⟨hk, fun s q hmem => hfresh s q (hold n s q hmem), .inr hclean, hpoints⟩

theorem exhausts_other {o : Observation} (h : o.isFailedInspection sid pl = false) :
    ∀ c, Exhausts N sid pl (w.history ++ [o]) c → Exhausts N sid pl w.history c :=
  fun _ => (exhausts_snoc_of_not h).mp

/-- `terminate_session` ends the clean-up of its own call. -/
theorem ExitInv.terminateSession (inv : ExitInv N sid pl w) (hnum : c.number < w.nextCall)
    (hown : ∀ call, w.calls.get? c.session.id = some call → call.point = .cleaningUp →
      call.number = c.number) : ExitInv N sid pl (terminateSession w c) := by
  have seen : ExitInv N sid pl (w.observe (.terminated c.number c.session.id)) := by
    refine inv.observe (exhausts_other rfl) ?_
    intro n s q h
    cases h
  refine (@ExitInv.setCall N sid pl _ seen { c with point := .terminating } c.session.id hnum
    (by simp) ?_).frame (fun _ => rfl) rfl rfl
  intro call hcall hpoint
  rw [hown call hcall hpoint]
  exact List.mem_append_right _ (List.mem_singleton.mpr rfl)

/-- The rest of a phase call that has not exhausted the budget. -/
theorem PhaseExit.exits {setup : Setup} (exit : PhaseExit w c setup w') (inv : ExitInv N sid pl w)
    (hnum : c.number < w.nextCall) (hnot : ¬ Exhausts N sid pl w.history c.number)
    (hown : ∀ call, w.calls.get? c.session.id = some call → call.point ≠ .cleaningUp) :
    ExitInv N sid pl w' := by
  cases exit with
  | loading =>
      refine inv.setCall hnum (fun _ => hnot) ?_
      intro call hcall hpoint
      exact absurd hpoint (hown call hcall)
  | undefinedPipeline =>
      refine inv.terminateSession hnum ?_
      intro call hcall hpoint
      exact absurd hpoint (hown call hcall)
  | started pipeline =>
      have returned := inv.eraseCall (s := c.session.id)
        (fun call hcall hpoint => absurd hpoint (hown call hcall))
      have seen : ExitInv N sid pl (World.observe { w with calls := w.calls.erase c.session.id }
          (.started (some c.number) c.session.id c.pipelineName)) := by
        refine returned.observe (exhausts_other rfl) ?_
        intro n s q heq
        injection heq with hn _ _
        injection hn with hn
        subst hn
        exact ⟨hnum, hnot⟩
      exact seen.frame (fun _ => rfl) rfl rfl

/-- The first segment of a phase call: the budget is used up exactly when the call goes to
its clean-up or to the termination. -/
theorem CheckExit.exits {setup : Setup} (exit : CheckExit w c setup w')
    (control : ControlInv cat none w) (results : ResultsInv w)
    (ledger : LedgerInv N sid pl (ledgerOf w sid pl)) (inv : ExitInv N sid pl w)
    {p : PipelineDef} (hp : cat.pipeline? sid pl = some p)
    (hN : p.maxRetries = (N : Int)) (hpos : 0 < N) (hcpl : c.pipelineName ∈ validPipelineNames)
    (hnum : c.number < w.nextCall) (hlock : w.calls.get? c.session.id = none)
    (hnot : ¬ Exhausts N sid pl w.history c.number)
    (hfresh : ∀ s q, .started (some c.number) s q ∉ w.history)
    (hother : ∀ s call, w.calls.get? s = some call → call.number ≠ c.number) :
    ExitInv N sid pl w' := by
  have hown : ∀ call, w.calls.get? c.session.id = some call → call.point ≠ .cleaningUp := by
    intro call hcall
    rw [hlock] at hcall
    cases hcall
  -- an inspection that leaves the budget as it is
  have within : ∀ {res : Option PipelineResult},
      (∀ n, Exhausts N sid pl (w.history
          ++ [.inspected c.number c.session.id c.pipelineName res]) n
        → Exhausts N sid pl w.history n) →
      ExitInv N sid pl (removeHandler w c res)
        ∧ ¬ Exhausts N sid pl (removeHandler w c res).history c.number := by
    intro res hex
    refine ⟨(inv.observe hex ?_).frame (fun _ => rfl) rfl rfl, fun h => hnot (hex _ h)⟩
    intro n s q h
    cases h
  cases exit with
  | busy => exact inv
  | noHandler hnone exit => exact exit.exits inv hnum hnot hown
  | @done i h r hact hget hstopped hresult hstatus =>
      refine (within (exhausts_other ?_)).1
      rw [hresult]
      rcases hstatus with hst | hst <;> simp [Observation.isFailedInspection, hst]
  | @restart i h w' hact hget hstopped hresult exit =>
      have hinsp : (Observation.inspected c.number c.session.id c.pipelineName
          h.result).isFailedInspection sid pl = false := by
        cases hr : h.result with
        | none => rfl
        | some r => simp [Observation.isFailedInspection, hresult r hr]
      obtain ⟨removed, hnot'⟩ := within (exhausts_other hinsp)
      exact exit.exits removed hnum hnot' hown
  | @retry i h r w' hact hget hstopped hresult hstatus hleft exit =>
      have hex : ∀ n, Exhausts N sid pl (w.history
          ++ [.inspected c.number c.session.id c.pipelineName h.result]) n
          → Exhausts N sid pl w.history n := by
        intro n hn
        rcases exhausts_snoc.mp hn with hold | ⟨hge, r', heq, hst'⟩
        · exact hold
        · -- the counter would have had to reach the budget
          exfalso
          injection heq with _ hs hq _
          have hmax := budget_of_active control results hcpl (hs ▸ hq ▸ hp) hN hact hget hresult
          have hcount := ledger.counted
          refine hleft ⟨by omega, ?_⟩
          rw [hmax]
          have hle : N ≤ (ledgerOf w sid pl).count + 1 := by
            rw [hcount]
            show N ≤ min (failedInspections sid pl w.history) (N - 1) + 1
            omega
          rw [ledgerOf, ← hs, ← hq] at hle
          exact_mod_cast hle
      obtain ⟨removed, hnot'⟩ := within hex
      have counted : ExitInv N sid pl (countRetry (removeHandler w c h.result) c) :=
        removed.frame (fun _ => rfl) rfl rfl
      exact exit.exits counted hnum hnot' hown
  | @outOfRetries i h r hact hget hstopped hresult hstatus hnone =>
      -- the clean-up is entered in both cases: without a callback it is over at once
      have cleaning : ExitInv N sid pl
          { w with calls := w.calls.set c.session.id { c with point := .cleaningUp } } := by
        refine inv.setCall hnum (by simp) ?_
        intro call hcall hpoint
        exact absurd hpoint (hown call hcall)
      have spent : ExitInv N sid pl (World.observe
          { w with calls := w.calls.set c.session.id { c with point := .cleaningUp } }
          (.inspected c.number c.session.id c.pipelineName h.result)) := by
        refine cleaning.exhaust ?_ hnum hfresh ?_ (by simp)
        · intro n hn
          rcases exhausts_snoc.mp hn with hold | ⟨-, r', heq, -⟩
          · exact .inl hold
          · injection heq with hn hs _ _
            subst hn hs
            exact .inr ⟨rfl, _, Dict.get?_set_self _ _ _, rfl, rfl⟩
        · intro s call hcall hcn
          rcases Dict.get?_set_eq_some hcall with ⟨-, rfl⟩ | ⟨-, hcall⟩
          · simp
          · exact absurd hcn (hother s call hcall)
      unfold exhaustRetries
      split
      next => exact spent.frame (fun _ => rfl) rfl rfl
      next =>
        have gone := spent.terminateSession hnum (fun call hcall _ => by
          rw [show call = { c with point := .cleaningUp } from
            Option.some.inj (hcall.symm.trans (Dict.get?_set_self _ _ _))])
        refine gone.frame ?_ rfl rfl
        intro s
        show (w.calls.set c.session.id _).get? s = ((w.calls.set c.session.id _).set _ _).get? s
        by_cases hs : s = c.session.id
        · subst hs
          rw [Dict.get?_set_self, Dict.get?_set_self]
        · rw [Dict.get?_set_ne _ _ _ hs, Dict.get?_set_ne _ _ _ hs, Dict.get?_set_ne _ _ _ hs]

/-- The numbering goes on. -/
theorem ExitInv.nextCall (inv : ExitInv N sid pl w) :
    ExitInv N sid pl { w with nextCall := w.nextCall + 1 } := by
  obtain ⟨calls, started, exhausts⟩ := inv
  refine ⟨?_, ?_, ?_⟩
  · intro s call hcall
    exact Nat.lt_succ_of_lt (calls s call hcall)
  · intro n s q hmem
    exact Nat.lt_succ_of_lt (started n s q hmem)
  · intro n hn
    obtain ⟨hlt, hrest⟩ := exhausts n hn
    exact ⟨Nat.lt_succ_of_lt hlt, hrest⟩

theorem ExitInv.step {a : Action} (control : ControlInv cat none w) (results : ResultsInv w)
    (ledger : LedgerInv N sid pl (ledgerOf w sid pl)) (inv : ExitInv N sid pl w)
    {p : PipelineDef} (hp : cat.pipeline? sid pl = some p) (hN : p.maxRetries = (N : Int))
    (hpos : 0 < N) (hstep : step cat w a = some w') : ExitInv N sid pl w' := by
  -- an observation of the tasks and the callbacks
  have outside : ∀ {o : Observation}, o.isFailedInspection sid pl = false →
      (∀ n s q, o ≠ .started (some n) s q) → ExitInv N sid pl (w.observe o) := by
    intro o hinsp ho
    exact inv.observe (exhausts_other hinsp) (fun n s q heq => absurd heq (ho n s q))
  cases step_moves hstep with
  | fetchSession hget => exact inv.frame (fun _ => rfl) rfl rfl
  | @enter n q setup session hsnap hq hlock =>
      have counted : ControlInv cat none { w with nextCall := w.nextCall + 1 } :=
        control.frame rfl rfl rfl rfl rfl rfl rfl
      refine (checkHandler_exit { w with nextCall := w.nextCall + 1 } (newCall w session q)
        setup).exits counted (results.frame rfl) ledger inv.nextCall hp hN hpos hq
        (Nat.lt_succ_self _) hlock ?_ ?_ ?_
      · -- no call before this one has its number
        intro hex
        exact Nat.lt_irrefl _ (inv.exhausts _ hex).1
      · intro s q' hmem
        exact Nat.lt_irrefl _ (inv.started _ s q' hmem)
      · intro s call hcall
        exact Nat.ne_of_lt (inv.calls s call hcall)
  | @definitionFetched s served setup c hcall hpoint =>
      obtain ⟨hid, -, -, -⟩ := control.calls s c hcall
      subst hid
      have cached : ExitInv N sid pl (cacheDefinition w c (answerOf cat c served)) := by
        cases answerOf cat c served with
        | none => exact inv
        | some d => exact inv.frame (fun _ => rfl) rfl rfl
      have hsame : (cacheDefinition w c (answerOf cat c served)).calls = w.calls
          ∧ (cacheDefinition w c (answerOf cat c served)).nextCall = w.nextCall
          ∧ (cacheDefinition w c (answerOf cat c served)).history = w.history := by
        cases answerOf cat c served <;> exact ⟨rfl, rfl, rfl⟩
      obtain ⟨hcalls, hnext, hhist⟩ := hsame
      refine (continueWith_exit (cacheDefinition w c (answerOf cat c served)) c
        (answerOf cat c served) setup).exits cached ?_ ?_ ?_
      · rw [hnext]
        exact inv.calls _ c hcall
      · rw [hhist]
        intro hex
        exact (inv.exhausts _ hex).2.2.2 _ c hcall rfl hpoint
      · intro call hcall'
        rw [hcalls, hcall] at hcall'
        rw [← Option.some.inj hcall', hpoint]
        simp
  | @cleanedUp s c hcall hpoint =>
      obtain ⟨hid, -, -, -⟩ := control.calls s c hcall
      subst hid
      refine inv.terminateSession (inv.calls _ c hcall) ?_
      intro call hcall' _
      rw [hcall] at hcall'
      rw [Option.some.inj hcall']
  | @terminateReturned s c hcall hpoint =>
      refine inv.eraseCall ?_
      intro call hcall' hclean
      rw [hcall] at hcall'
      rw [← Option.some.inj hcall', hpoint] at hclean
      cases hclean
  | called hget htask => exact inv.frame (fun _ => rfl) rfl rfl
  | @finished i h out hget htask =>
      have seen := @outside (.ended h.sessionId h.pipelineName out) rfl (by simp)
      cases out with
      | ok r => exact seen.frame (fun _ => rfl) rfl rfl
      | error e => exact seen.frame (fun _ => rfl) rfl rfl
  | dispatchReturned hget htask => exact inv.frame (fun _ => rfl) rfl rfl
  | persistReturned hget htask => exact inv.frame (fun _ => rfl) rfl rfl
  | @recorded i h hget htask =>
      unfold completeHandler
      dsimp only
      split <;> exact inv.frame (fun _ => rfl) rfl rfl
  | event => exact inv.frame (fun _ => rfl) rfl rfl
  | @signal n setup sig hsig =>
      rcases signalHandler_cases { w with signals := w.signals.eraseIdx n } sig setup with
        heq | ⟨i, h, -, -, -, heq⟩
      · rw [heq]
        exact inv.frame (fun _ => rfl) rfl rfl
      · rw [heq]
        exact (@outside (.started none h.sessionId h.pipelineName) rfl (by simp)).frame
          (fun _ => rfl) rfl rfl

end Exit

/-! ## §6. Whole runs. -/

/-- All the invariants together. -/
structure BudgetInv (cat : Catalog) (N : Nat) (sid pl : String) (w : World) : Prop where
  control : ControlInv cat none w
  tracked : Tracked anyTrace w
  results : ResultsInv w
  ledger : LedgerInv N sid pl (ledgerOf w sid pl)
  exits : ExitInv N sid pl w

section Budget

variable {cat : Catalog} {N : Nat} {sid pl : String} {w w' : World}

theorem not_exhausts_nil {c : Nat} : ¬ Exhausts N sid pl [] c := by
  rintro ⟨before, after, r, heq, -⟩
  cases before <;> cases heq

theorem budgetInv_initial (repo : SessionRepository) :
    BudgetInv cat N sid pl (World.initial repo) where
  control := controlInv_initial cat repo
  tracked := by intro i h left hget; cases hget
  results := by intro i h hget; cases hget
  ledger :=
    { counted := by simp [ledgerOf, World.initial, failedInspections]
      ended := rfl
      quiet := fun _ hex => absurd hex.choose_spec not_exhausts_nil
      idle := fun _ => rfl }
  exits :=
    { calls := by intro s call hcall; cases hcall
      started := by intro c s q hmem; cases hmem
      exhausts := fun c hex => absurd hex not_exhausts_nil }

/-- One action keeps the books of the pipeline. -/
theorem BudgetInv.step {a : Action} (inv : BudgetInv cat N sid pl w)
    (hpl : pl ∈ validPipelineNames) {p : PipelineDef} (hp : cat.pipeline? sid pl = some p)
    (hN : p.maxRetries = (N : Int)) (hpos : 0 < N) (hstep : step cat w a = some w') :
    BudgetInv cat N sid pl w' where
  control := inv.control.step hstep
  tracked := inv.tracked.step anyTrace_stable inv.control hstep (fun _ _ _ => trivial)
  results := inv.results.step inv.tracked hstep
  ledger := inv.ledger.moves hpos (step_ledger inv.control inv.results hpl hp hN hpos hstep)
  exits := inv.exits.step inv.control inv.results inv.ledger hp hN hpos hstep

theorem reachable_budgetInv (hw : Reachable cat w) (hpl : pl ∈ validPipelineNames)
    {p : PipelineDef} (hp : cat.pipeline? sid pl = some p) (hN : p.maxRetries = (N : Int))
    (hpos : 0 < N) : BudgetInv cat N sid pl w := by
  obtain ⟨repo, acts, run⟩ := hw
  exact run.invariant (fun _ _ _ inv _ hstep => inv.step hpl hp hN hpos hstep)
    (budgetInv_initial repo)

end Budget

/-- **The retry budget**: of a pipeline with `max_retries = N`, at most `N` runs end
`failed` until it is started again after the budget was used up; and the call that
inspects the `N`-th failed run, or a later one, starts nothing and terminates the session,
at once or as soon as its clean-up returns. -/
theorem retry_budget {cat : Catalog} {w : World} (hw : Reachable cat w) {sid pl : String}
    (hpl : pl ∈ validPipelineNames) {p : PipelineDef} (hp : cat.pipeline? sid pl = some p)
    {N : Nat} (hN : p.maxRetries = (N : Int)) (hpos : 0 < N) :
    (¬ StartedAgain N sid pl w.history → failedRuns sid pl w.history ≤ N)
      ∧ ∀ c, Exhausts N sid pl w.history c →
        (∀ s q, .started (some c) s q ∉ w.history)
          ∧ (.terminated c sid ∈ w.history
            ∨ ∃ w', step cat w (.cleanedUp sid) = some w' ∧ .terminated c sid ∈ w'.history) := by
  have inv := reachable_budgetInv hw hpl hp hN hpos
  refine ⟨fun hno => inv.ledger.failedRuns_le hpos hno, ?_⟩
  intro c hc
  obtain ⟨-, hno, hleave, -⟩ := inv.exits.exhausts c hc
  refine ⟨hno, hleave.imp id ?_⟩
  rintro ⟨call, hcall, rfl, hpoint⟩
  obtain ⟨hid, -, -, -⟩ := inv.control.calls sid call hcall
  refine ⟨terminateSession w call, ?_, ?_⟩
  · simp only [step, hcall]
    exact if_pos hpoint
  · rw [← hid]
    exact List.mem_append_right _ (List.mem_singleton.mpr rfl)

/-- One step, and one failure allowed. -/
def oneAttempt : PipelineDef := { steps := [{ name := "boot" }], maxRetries := 1 }

/-- The run of handler `i` fails at its only step. -/
def failedAttempt (i : Nat) : List Action :=
  oneStep i (.raised "no route") ++ [.advance i, .recorded i]

/-- The run fails, the next call cleans up and terminates the session. -/
def spentBudget : List Action :=
  firstCycle ++ failedAttempt 0 ++ [.enter 0 "instantiate" plainSetup, .cleanedUp "s1"]

theorem retry_budget_spent :
    ∃ w c, Reachable (oneDefinition oneAttempt) w ∧ failedRuns "s1" "instantiate" w.history = 1
      ∧ Exhausts 1 "s1" "instantiate" w.history c
      ∧ ∀ s q, .started (some c) s q ∉ w.history := by
  have hrun : (exec (step (oneDefinition oneAttempt)) (fun _ _ => true) spentBudget
      (World.initial newSession)).map (fun w =>
        (failedRuns "s1" "instantiate" w.history, failedInspections "s1" "instantiate" w.history))
      = some (1, 1) := by decide
  obtain ⟨w, hw, hcheck⟩ := Option.map_eq_some_iff.mp hrun
  rw [Prod.mk.injEq] at hcheck
  obtain ⟨c, hc⟩ := @exists_exhausts 1 "s1" "instantiate" w.history Nat.one_pos
    (Nat.le_of_eq hcheck.2.symm)
  have budget := @retry_budget _ w (reachable_exec hw) "s1" "instantiate" (by decide) oneAttempt rfl
    1 rfl Nat.one_pos
  exact ⟨w, c, reachable_exec hw, hcheck.1, hc, (budget.2 c hc).1⟩

/-- A step that needs one which does not exist: the executor raises at once. -/
def danglingNeed : PipelineDef :=
  { steps := [{ name := "boot", needs := ["lab"] }], maxRetries := 1 }

/-- Two crashes, each inspected, and the third start. -/
def crashLoop : List Action :=
  firstCycle ++ [.advance 0, .enter 0 "instantiate" plainSetup, .advance 1,
    .enter 0 "instantiate" plainSetup]

/-- The session is terminated, and the next call starts the pipeline again. -/
def startedAgain : List Action :=
  spentBudget ++ [.terminateReturned "s1", .enter 0 "instantiate" plainSetup] ++ failedAttempt 1

/-- **Runs outside the budget** of one attempt: two crashes that never end the session (the
call that inspects the first starts the second run), and a second failed run after the
session was terminated. -/
theorem runs_beyond_budget :
    (∃ w, Reachable (oneDefinition danglingNeed) w
        ∧ crashedRuns "s1" "instantiate" w.history = 2
        ∧ .inspected 1 "s1" "instantiate" none ∈ w.history
        ∧ .started (some 1) "s1" "instantiate" ∈ w.history
        ∧ ∀ c s, .terminated c s ∉ w.history)
      ∧ ∃ w, Reachable (oneDefinition oneAttempt) w
        ∧ failedRuns "s1" "instantiate" w.history = 2 := by
  constructor
  · have hrun : (exec (step (oneDefinition danglingNeed)) (fun _ _ => true) crashLoop
        (World.initial newSession)).map (fun w => w.history)
        = some [.started (some 0) "s1" "instantiate",
          .ended "s1" "instantiate" (.error (.definition (.unknownNeeds "boot" ["lab"]))),
          .inspected 1 "s1" "instantiate" none, .started (some 1) "s1" "instantiate",
          .ended "s1" "instantiate" (.error (.definition (.unknownNeeds "boot" ["lab"]))),
          .inspected 2 "s1" "instantiate" none, .started (some 2) "s1" "instantiate"] := by rfl
    obtain ⟨w, hw, hhist⟩ := Option.map_eq_some_iff.mp hrun
    refine ⟨w, reachable_exec hw, ?_⟩
    rw [hhist]
    refine ⟨by decide, by simp, by simp, by simp⟩
  · have hrun : (exec (step (oneDefinition oneAttempt)) (fun _ _ => true) startedAgain
        (World.initial newSession)).map (fun w => failedRuns "s1" "instantiate" w.history)
        = some 2 := by decide
    obtain ⟨w, hw, hruns⟩ := Option.map_eq_some_iff.mp hrun
    exact ⟨w, reachable_exec hw, hruns⟩

end CmlCloudManager.Controller
