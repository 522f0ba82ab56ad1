/-
  CmlCloudManager.Pipeline.Verdicts
  ─────────────────────────────────
  **A DETERMINISTIC RUN, WITHOUT ITS CALLS.**

  When the result of a step does not depend on when it is asked for, a run is a
  fold.  Of the state of `execute` only two dicts steer it: `step_statuses` and
  `context.steps_data`, the `Books`.  `judge` says what comes of a step that is
  not resumed, from the steps data alone; `Verdict.book` enters it; and
  `booksAfter done` are the books when the loop has gone past `done`, if it does.
  Where the verdicts do not depend on the order (`FixedVerdicts`), neither do the
  books (`BooksOf.same`).

  `StepRun.judged` connects the two levels: an iteration of `execute` whose
  dispatches are answered by `answer` exits as `judge` says, and sends what
  `Verdict.Sends` says.  `Passes` are the iterations behind a point of a run;
  `LoopRun.reaches` finds the iteration of any step of the order.
-/
import CmlCloudManager.Pipeline.Reports
import Mathlib.Data.List.Induction

namespace CmlCloudManager.Pipeline

open CmlCloudManager.Foundation

/-! ## §1. Fixed answers. -/

/-- Every call of the trace was answered by this environment. -/
def Answered (respond : DispatchRequest → DispatchOutcome) (tr : Trace) : Prop :=
  ∀ ev ∈ tr, ev.2 = answering respond ev.1

/-- `answer` is the result dict of each step, `none` when its attempts fail. -/
def Replies (respond : DispatchRequest → DispatchOutcome) (answer : StepDef → Option Payload) :
    Prop :=
  ∀ step st attempt, answer step
    = if step.maxAttempts.toNat = 0 then none
      else (respond (attemptRequest step st attempt)).result?

section Answers

variable {respond : DispatchRequest → DispatchOutcome} {answer : StepDef → Option Payload}
  {step : StepDef} {st st' : ExecState} {tr tr' : Trace}

theorem Answered.left (h : Answered respond (tr ++ tr')) : Answered respond tr :=
  fun ev hev => h ev (List.mem_append_left _ hev)

theorem Answered.right (h : Answered respond (tr ++ tr')) : Answered respond tr' :=
  fun ev hev => h ev (List.mem_append_right _ hev)

theorem answered_runWith {α : Type} (respond : DispatchRequest → DispatchOutcome) (p : Exec α) :
    Answered respond (p.runWith (answering respond)).1 := by
  induction p with
  | done a =>
      intro ev hev
      cases hev
  | await e k ih =>
      intro ev hev
      rcases List.mem_cons.mp hev with rfl | hev
      · rfl
      · exact ih _ ev hev

/-- One answered attempt tells how the step comes out. -/
theorem IsAttempt.answered {ev : ExecEvent} (h : IsAttempt step st ev)
    (replies : Replies respond answer) (hans : ev.2 = answering respond ev.1)
    (hmax : step.maxAttempts.toNat ≠ 0) : dispatchResult ev = answer step := by
  obtain ⟨attempt, outcome, rfl⟩ := h
  rw [replies step st attempt, if_neg hmax]
  have hout : outcome = respond (attemptRequest step st attempt) := hans
  rw [← hout]
  rfl

theorem AttemptRun.answered {out : Except String Payload}
    (run : AttemptRun step st tr out st') (replies : Replies respond answer)
    (hans : Answered respond tr) : answer step = out.toOption := by
  cases htr : tr with
  | nil =>
      -- no attempt: none was allowed
      rw [replies step st 0, if_pos (run.attempted htr)]
      cases out with
      | error e => rfl
      | ok result =>
          obtain ⟨before, ev, heq, -⟩ := run.outcome
          rw [htr] at heq
          exact absurd heq.symm (by simp)
  | cons first rest =>
      have hmax : step.maxAttempts.toNat ≠ 0 := by
        have hlen := run.length_le
        rw [htr, List.length_cons] at hlen
        omega
      have hone : ∀ ev ∈ tr, dispatchResult ev = answer step := fun ev hev =>
        (run.attempts ev hev).answered replies (hans ev hev) hmax
      cases out with
      | ok result =>
          obtain ⟨before, ev, heq, hres, -⟩ := run.outcome
          rw [← hone ev (by rw [heq]; simp), hres]
          rfl
      | error e =>
          have hmem : first ∈ tr := by
            rw [htr]
            exact List.mem_cons_self
          rw [← hone first hmem, run.outcome first hmem]
          rfl

end Answers

/-! ## §2. Books and verdicts. -/

/-- The part of the state that later steps and the outputs depend on. -/
structure Books where
  statuses : Dict String StepStatus := Dict.empty
  data : Dict String Payload := Dict.empty

def ExecState.books (st : ExecState) : Books := ⟨st.stepStatuses, st.stepsData⟩

/-- What comes of a step that is not resumed. -/
inductive Verdict where
  /-- `skip_when` holds. -/
  | passed
  /-- The dispatch returned this dict. -/
  | returned (result : Payload)
  /-- The last attempt failed. -/
  | failed
  /-- `skip_when` raised. -/
  | raised (e : ExecuteError)

def judge (rt : Runtime) (answer : StepDef → Option Payload) (step : StepDef)
    (data : Dict String Payload) : Verdict :=
  match shouldSkip rt step data with
  | .error e => .raised e
  | .ok true => .passed
  | .ok false =>
      match answer step with
      | none => .failed
      | some result => .returned result

namespace Verdict

/-- The status the step gets. -/
def status : Verdict → Option StepStatus
  | .passed => some .skipped
  | .failed => some .failed
  | .raised _ => none
  | .returned result =>
      match handlerStatus result with
      | .completed => some .completed
      | .skipped => some .skipped
      | .suspended => some .suspended
      | .failed => some .failed

/-- Does the loop go on after it? -/
def goesOn (v : Verdict) (step : StepDef) : Bool :=
  match v.status with
  | some .failed => step.optional
  | some .suspended => false
  | some _ => true
  | none => false

/-- What goes into `steps_data`. -/
def result? : Verdict → Option Payload
  | .returned result =>
      match handlerStatus result with
      | .completed => some result
      | .skipped => some result
      | _ => none
  | _ => none

/-- The books after the step. -/
def book (v : Verdict) (step : StepDef) (b : Books) : Books :=
  { statuses := match v.status with
      | some status => b.statuses.set step.name status
      | none => b.statuses
    data := match v.result? with
      | some result => b.data.set step.name result
      | none => b.data }

/-- The update sent for the step. -/
def Sends (rt : Runtime) (step : StepDef) : Verdict → PersistSite → ProgressUpdate → Prop
  | .passed, site, u => site = .skipWhen ∧ u = progressUpdate rt step.name .skipped none none
  | .failed, site, u => site = .exception
      ∧ ∃ cause, u = progressUpdate rt step.name .failed none (some cause)
  | .raised _, _, _ => False
  | .returned result, site, u =>
      match handlerStatus result with
      | .completed => site = .completed
          ∧ u = progressUpdate rt step.name .completed (some result) none
      | .skipped => site = .handlerSkipped ∧ u = progressUpdate rt step.name .skipped none none
      | .suspended => site = .suspension
          ∧ u = progressUpdate rt step.name .suspended (some (suspensionData rt result)) none
      | .failed => site = .handlerFailed
          ∧ ∃ cause, u = progressUpdate rt step.name .failed none (some cause)

theorem status_completed {v : Verdict} (h : v.status = some .completed) :
    ∃ result, v = .returned result ∧ handlerStatus result = .completed := by
  cases v with
  | returned result =>
      refine ⟨result, rfl, ?_⟩
      unfold status at h
      cases hst : handlerStatus result <;> simp [hst] at h
      rfl
  | passed => cases h
  | failed => cases h
  | raised e => cases h

theorem status_skipped {v : Verdict} (h : v.status = some .skipped) :
    v = .passed ∨ ∃ result, v = .returned result ∧ handlerStatus result = .skipped := by
  cases v with
  | returned result =>
      refine .inr ⟨result, rfl, ?_⟩
      unfold status at h
      cases hst : handlerStatus result <;> simp [hst] at h
      rfl
  | passed => exact .inl rfl
  | failed => cases h
  | raised e => cases h

theorem status_suspended {v : Verdict} (h : v.status = some .suspended) :
    ∃ result, v = .returned result ∧ handlerStatus result = .suspended := by
  cases v with
  | returned result =>
      refine ⟨result, rfl, ?_⟩
      unfold status at h
      cases hst : handlerStatus result <;> simp [hst] at h
      rfl
  | passed => cases h
  | failed => cases h
  | raised e => cases h

/-- Data go into the books only when the loop goes on. -/
theorem goesOn_of_result {v : Verdict} {result : Payload} (h : v.result? = some result)
    (step : StepDef) : v.goesOn step = true := by
  cases v with
  | returned r =>
      unfold result? at h
      unfold goesOn status
      cases hst : handlerStatus r <;> simp [hst] at h ⊢
  | passed => cases h
  | failed => cases h
  | raised e => cases h

/-- A verdict with which the loop goes on is booked, with its result if it has one. -/
theorem booked {v : Verdict} {step : StepDef} (h : v.goesOn step = true) (b : Books) :
    v.status.isSome = true ∧ (v.book step b).statuses.get? step.name = v.status
      ∧ ∀ result, v.result? = some result →
        (v.book step b).data.get? step.name = some result := by
  obtain ⟨status, hstatus⟩ : ∃ status, v.status = some status := by
    cases hstatus : v.status with
    | none =>
        rw [goesOn, hstatus] at h
        cases h
    | some status => exact ⟨status, rfl⟩
  refine ⟨by rw [hstatus]; rfl, ?_, ?_⟩
  · simp only [book, hstatus]
    exact Dict.get?_set_self _ _ _
  · intro result hresult
    simp only [book, hresult]
    exact Dict.get?_set_self _ _ _

end Verdict

/-- One step of the fold. -/
def advance (rt : Runtime) (answer : StepDef → Option Payload) (b : Books) (step : StepDef) :
    Option Books :=
  let v := judge rt answer step b.data
  if v.goesOn step then some (v.book step b) else none

/-- The books when the loop has gone past `done`. -/
def booksAfter (rt : Runtime) (answer : StepDef → Option Payload) (done : List StepDef) :
    Option Books :=
  done.foldlM (advance rt answer) {}

section Fold

variable {rt : Runtime} {answer : StepDef → Option Payload} {done rest : List StepDef}
  {step : StepDef} {b : Books}

theorem booksAfter_append :
    booksAfter rt answer (done ++ rest)
      = (booksAfter rt answer done).bind fun b => rest.foldlM (advance rt answer) b :=
  List.foldlM_append

theorem booksAfter_snoc (h : booksAfter rt answer done = some b) :
    booksAfter rt answer (done ++ [step]) = advance rt answer b step := by
  rw [booksAfter_append, h]
  show List.foldlM (advance rt answer) b [step] = _
  simp

theorem advance_of_goesOn (h : (judge rt answer step b.data).goesOn step = true) :
    advance rt answer b step = some ((judge rt answer step b.data).book step b) :=
  if_pos h

/-- Where the fold halts it stays halted. -/
theorem booksAfter_halted (h : booksAfter rt answer done = some b)
    (hstop : (judge rt answer step b.data).goesOn step = false) :
    booksAfter rt answer (done ++ step :: rest) = none := by
  rw [← List.singleton_append, ← List.append_assoc, booksAfter_append, booksAfter_snoc h]
  have hnone : advance rt answer b step = none := if_neg (by rw [hstop]; simp)
  rw [hnone]
  rfl

end Fold

/-! ## §3. Verdicts that do not depend on the order. -/

/-- Along these steps, each of them gets the verdict that is fixed for it. -/
def FixedVerdicts (rt : Runtime) (answer : StepDef → Option Payload) (verdict : StepDef → Verdict)
    (ordered : List StepDef) : Prop :=
  ∀ done s rest b, ordered = done ++ s :: rest → booksAfter rt answer done = some b →
    judge rt answer s b.data = verdict s

/-- The books of the steps gone past, whatever their order. -/
structure BooksOf (verdict : StepDef → Verdict) (done : List StepDef) (b : Books) : Prop where
  passed : ∀ s ∈ done, (verdict s).goesOn s = true
  entered : ∀ s ∈ done, b.statuses.get? s.name = (verdict s).status
    ∧ b.data.get? s.name = (verdict s).result?
  blank : ∀ n, n ∉ done.map StepDef.name → b.statuses.get? n = none ∧ b.data.get? n = none

section Fixed

variable {rt : Runtime} {answer : StepDef → Option Payload} {verdict : StepDef → Verdict}
  {done done' ordered : List StepDef} {step : StepDef} {b b' : Books}

theorem FixedVerdicts.left {rest : List StepDef}
    (fixed : FixedVerdicts rt answer verdict (done ++ rest)) :
    FixedVerdicts rt answer verdict done := by
  rintro d s r b rfl hb
  exact fixed d s (r ++ rest) b (by simp) hb

/-- A step that is new to the books adds its own entries. -/
theorem BooksOf.book (h : BooksOf verdict done b) (hfresh : step.name ∉ done.map StepDef.name)
    (hgo : (verdict step).goesOn step = true) :
    BooksOf verdict (done ++ [step]) ((verdict step).book step b) := by
  have hne : ∀ n, n ≠ step.name → ((verdict step).book step b).statuses.get? n = b.statuses.get? n
      ∧ ((verdict step).book step b).data.get? n = b.data.get? n := by
    intro n hn
    unfold Verdict.book
    constructor
    · cases (verdict step).status with
      | none => rfl
      | some status => exact Dict.get?_set_ne _ _ _ hn
    · cases (verdict step).result? with
      | none => rfl
      | some result => exact Dict.get?_set_ne _ _ _ hn
  refine ⟨?_, ?_, ?_⟩
  · intro s hs
    rcases List.mem_append.mp hs with hs | hs
    · exact h.passed s hs
    · rwa [List.mem_singleton.mp hs]
  · intro s hs
    rcases List.mem_append.mp hs with hs | hs
    · have hother : s.name ≠ step.name :=
        fun heq => hfresh (heq ▸ List.mem_map_of_mem hs)
      rw [(hne s.name hother).1, (hne s.name hother).2]
      exact h.entered s hs
    · obtain rfl := List.mem_singleton.mp hs
      obtain ⟨-, hstatus, hresult⟩ := Verdict.booked hgo b
      refine ⟨hstatus, ?_⟩
      cases hres : (verdict s).result? with
      | some result => exact hresult result hres
      | none =>
          -- without a result the data stay as they were
          unfold Verdict.book
          rw [hres]
          exact (h.blank s.name hfresh).2
  · intro n hn
    rw [List.map_append, List.mem_append, not_or] at hn
    have hother : n ≠ step.name := by simpa using hn.2
    rw [(hne n hother).1, (hne n hother).2]
    exact h.blank n hn.1

/-- **The fold under fixed verdicts**: what it books does not depend on the order. -/
theorem FixedVerdicts.booksOf (fixed : FixedVerdicts rt answer verdict done)
    (hnodup : (done.map StepDef.name).Nodup) (hb : booksAfter rt answer done = some b) :
    BooksOf verdict done b := by
  induction done using List.reverseRecOn generalizing b with
  | nil =>
      obtain rfl := Option.some.inj hb
      exact ⟨by simp, by simp, fun _ _ => ⟨rfl, rfl⟩⟩
  | append_singleton done step ih =>
      obtain ⟨b₀, hb₀, hlast⟩ : ∃ b₀, booksAfter rt answer done = some b₀
          ∧ advance rt answer b₀ step = some b := by
        rw [booksAfter_append] at hb
        obtain ⟨b₀, hb₀, hlast⟩ := Option.bind_eq_some_iff.mp hb
        exact ⟨b₀, hb₀, by simpa using hlast⟩
      have hj := fixed done step [] b₀ rfl hb₀
      unfold advance at hlast
      rw [hj] at hlast
      obtain ⟨hgo, hlast⟩ := Option.ite_none_right_eq_some.mp hlast
      obtain rfl := Option.some.inj hlast
      rw [List.map_append, List.nodup_append] at hnodup
      refine (ih fixed.left hnodup.1 hb₀).book ?_ hgo
      intro hmem
      exact hnodup.2.2 _ hmem _ (by simp) rfl

/-- It goes past steps whose verdicts let it. -/
theorem FixedVerdicts.goesPast (fixed : FixedVerdicts rt answer verdict done)
    (hgo : ∀ s ∈ done, (verdict s).goesOn s = true) : ∃ b, booksAfter rt answer done = some b := by
  induction done using List.reverseRecOn with
  | nil => exact ⟨_, rfl⟩
  | append_singleton done step ih =>
      obtain ⟨b, hb⟩ := ih fixed.left fun s hs => hgo s (List.mem_append_left _ hs)
      have hj := fixed done step [] b rfl hb
      refine ⟨_, (booksAfter_snoc hb).trans (advance_of_goesOn ?_)⟩
      rw [hj]
      exact hgo step (by simp)

/-- A fold that does not come to a step has halted at one before it. -/
theorem halts_of_booksAfter_none (h : booksAfter rt answer done = none) :
    ∃ d s r b, done = d ++ s :: r ∧ booksAfter rt answer d = some b
      ∧ (judge rt answer s b.data).goesOn s = false := by
  induction done using List.reverseRecOn with
  | nil => cases h
  | append_singleton done step ih =>
      cases hb : booksAfter rt answer done with
      | none =>
          obtain ⟨d, s, r, b, rfl, hd, hstop⟩ := ih hb
          exact ⟨d, s, r ++ [step], b, by simp, hd, hstop⟩
      | some b =>
          refine ⟨done, step, [], b, rfl, hb, ?_⟩
          rw [booksAfter_snoc hb] at h
          unfold advance at h
          by_contra hgo
          rw [if_pos (by simpa using hgo)] at h
          cases h

/-- **The same books in either order.** -/
theorem BooksOf.same (perm : done.Perm done') (h : BooksOf verdict done b)
    (h' : BooksOf verdict done' b') :
    (∀ n, b.statuses.get? n = b'.statuses.get? n) ∧ ∀ n, b.data.get? n = b'.data.get? n := by
  have hboth : ∀ n, b.statuses.get? n = b'.statuses.get? n ∧ b.data.get? n = b'.data.get? n := by
    intro n
    by_cases hn : n ∈ done.map StepDef.name
    · obtain ⟨s, hs, rfl⟩ := List.mem_map.mp hn
      obtain ⟨hstatus, hdata⟩ := h.entered s hs
      obtain ⟨hstatus', hdata'⟩ := h'.entered s (perm.mem_iff.mp hs)
      exact ⟨hstatus.trans hstatus'.symm, hdata.trans hdata'.symm⟩
    · obtain ⟨hstatus, hdata⟩ := h.blank n hn
      obtain ⟨hstatus', hdata'⟩ :=
        h'.blank n fun hmem => hn ((perm.map StepDef.name).mem_iff.mpr hmem)
      exact ⟨hstatus.trans hstatus'.symm, hdata.trans hdata'.symm⟩
  exact ⟨fun n => (hboth n).1, fun n => (hboth n).2⟩

end Fixed

/-! ## §4. An iteration exits as the verdict says. -/

/-- The exit of the loop body that goes with a verdict. -/
def Verdict.Exits (v : Verdict) (step : StepDef) (st : ExecState) : StepExit → Prop
  | .next st' => v.goesOn step = true ∧ st'.books = v.book step st.books
  | .stop st' => v.goesOn step = false ∧ v.status.isSome = true
      ∧ st'.stepStatuses.get? step.name = v.status
      ∧ (v.status = some .suspended → st'.pipelineSuspended = true)
  | .raised e => v = .raised e

section Judged

variable {rt : Runtime} {steps ordered : List StepDef} {resume : Dict String StepInfo}
  {respond : DispatchRequest → DispatchOutcome} {answer : StepDef → Option Payload}
  {step : StepDef} {st st' : ExecState} {own : Trace} {exit : StepExit}

theorem AttemptRun.books_eq {tr : Trace} {out : Except String Payload}
    (run : AttemptRun step st tr out st') : st'.books = st.books := by
  rw [run.frame]
  rfl

theorem judge_returned {result : Payload} (hskip : shouldSkip rt step st.stepsData = .ok false)
    (hans : answer step = some result) :
    judge rt answer step st.stepsData = .returned result := by
  unfold judge
  rw [hskip, hans]

theorem judge_failed (hskip : shouldSkip rt step st.stepsData = .ok false)
    (hans : answer step = none) : judge rt answer step st.stepsData = .failed := by
  unfold judge
  rw [hskip, hans]

/-- Marking a step after its attempts, in the books. -/
theorem books_mark {tr : Trace} {out : Except String Payload}
    (run : AttemptRun step st tr out st') (status : StepStatus) (info : StepInfo) :
    (st'.mark step.name status info).books
      = ⟨st.books.statuses.set step.name status, st.books.data⟩ := by
  rw [← run.books_eq]
  rfl

theorem books_storedState {tr : Trace} {out : Except String Payload}
    (run : AttemptRun step st tr out st') (status : StepStatus) (info : StepInfo)
    (result : Payload) :
    (storedState step status info result st').books
      = ⟨st.books.statuses.set step.name status, st.books.data.set step.name result⟩ := by
  rw [← run.books_eq]
  rfl

/-- The status of a step that failed, once the rest is aborted. -/
theorem get?_aborted (cause : Value) (info : StepInfo) :
    (abortState ordered (failedState step cause info st')).stepStatuses.get? step.name
      = some .failed :=
  abortState_get? _ _ (Dict.get?_set_self _ _ _)

/-- A failure is the verdict of the answer. -/
theorem Failure.judged {attempts : Trace} {site : PersistSite} {cause : Value} {info : StepInfo}
    (fail : Failure step st attempts site cause info st') (replies : Replies respond answer)
    (hans : Answered respond attempts) (hskip : shouldSkip rt step st.stepsData = .ok false) :
    (judge rt answer step st.stepsData).status = some .failed
      ∧ (judge rt answer step st.stepsData).result? = none
      ∧ ∀ cause, (judge rt answer step st.stepsData).Sends rt step site
          (progressUpdate rt step.name .failed none (some cause)) := by
  cases fail with
  | handler run hstatus =>
      rw [judge_returned hskip (run.answered replies hans)]
      refine ⟨by simp [Verdict.status, hstatus], by simp [Verdict.result?, hstatus], ?_⟩
      intro cause
      simp only [Verdict.Sends, hstatus]
      exact ⟨trivial, cause, rfl⟩
  | exception run =>
      rw [judge_failed hskip (run.answered replies hans)]
      exact ⟨rfl, rfl, fun cause => ⟨rfl, cause, rfl⟩⟩

/-- **The loop body follows the verdict** on a step that is not resumed: in its exit, and in
the update it sends. -/
theorem StepRun.judged (hv : ValidOrder steps ordered) {done rest : List StepDef}
    (hsplit : ordered = done ++ step :: rest) (hh : Healthy done st)
    (run : StepRun rt steps ordered resume step st own exit)
    (hnew : (resume.get? step.name).bind (resumeStep step st) = none)
    (replies : Replies respond answer) (hans : Answered respond own) :
    (judge rt answer step st.stepsData).Exits step st exit
      ∧ (updatesOf step.name own = []
        ∨ ∃ site u, updatesOf step.name own = [(site, u)]
          ∧ (judge rt answer step st.stepsData).Sends rt step site u) := by
  cases run with
  | resumed h =>
      rw [hnew] at h
      cases h
  | blocked _ h =>
      rw [hh.not_blocked hv hsplit] at h
      cases h
  | @crashed e _ h =>
      -- `skip_when` is evaluated before anything is dispatched
      have hj : judge rt answer step st.stepsData = .raised e := by rw [judge, h]
      rw [hj]
      exact ⟨rfl, .inl rfl⟩
  | skipWhen _ h =>
      have hj : judge rt answer step st.stepsData = .passed := by rw [judge, h]
      rw [hj]
      refine ⟨⟨rfl, rfl⟩, .inr ⟨_, _, ?_, rfl, rfl⟩⟩
      exact (dispatchesOf_persistEvent rt _ step.name _ _ _).2
  | handlerSkipped _ hup hskip run hstatus =>
      -- where the handler has returned, the verdict is its result
      rw [judge_returned hskip (run.answered replies hans.left)]
      refine ⟨⟨?_, ?_⟩, .inr ⟨_, _, (calls_of_step run.attempts _ _ _ _).2, ?_⟩⟩
      · simp [Verdict.goesOn, Verdict.status, hstatus]
      · rw [books_storedState run]
        simp [Verdict.book, Verdict.status, Verdict.result?, hstatus]
      · simp [Verdict.Sends, hstatus]
  | suspended _ hup hskip run hstatus =>
      rw [judge_returned hskip (run.answered replies hans.left)]
      refine ⟨⟨?_, ?_, ?_, fun _ => rfl⟩,
        .inr ⟨_, _, (calls_of_step run.attempts _ _ _ _).2, ?_⟩⟩
      · simp [Verdict.goesOn, Verdict.status, hstatus]
      · simp [Verdict.status, hstatus]
      · simp only [Verdict.status, hstatus]
        exact Dict.get?_set_self _ _ _
      · simp [Verdict.Sends, hstatus]
  | completed _ hup hskip run hstatus =>
      rw [judge_returned hskip (run.answered replies hans.left)]
      refine ⟨⟨?_, ?_⟩, .inr ⟨_, _, (calls_of_step run.attempts _ _ _ _).2, ?_⟩⟩
      · simp [Verdict.goesOn, Verdict.status, hstatus]
      · rw [books_storedState run]
        simp [Verdict.book, Verdict.status, Verdict.result?, hstatus]
      · simp [Verdict.Sends, hstatus]
  | failedOptional _ hup hskip fail hopt =>
      obtain ⟨hst, hres, hsends⟩ := fail.judged replies hans.left hskip
      obtain ⟨⟨out, run⟩, -⟩ := fail.attemptRun
      refine ⟨⟨?_, ?_⟩, .inr ⟨_, _, (calls_of_step run.attempts _ _ _ _).2, hsends _⟩⟩
      · simp [Verdict.goesOn, hst, hopt]
      · rw [books_mark run]
        simp [Verdict.book, hst, hres]
  | failedRequired _ hup hskip fail hopt =>
      obtain ⟨hst, hres, hsends⟩ := fail.judged replies hans.left hskip
      obtain ⟨⟨out, run⟩, -⟩ := fail.attemptRun
      refine ⟨⟨?_, ?_, ?_, ?_⟩, .inr ⟨_, _, (calls_of_failed_step run.attempts _ _ _ _).2,
        hsends _⟩⟩
      · simp [Verdict.goesOn, hst, hopt]
      · rw [hst]
        rfl
      · rw [hst]
        exact get?_aborted _ _
      · intro hsus
        rw [hst] at hsus
        cases hsus

end Judged

/-! ## §5. The iterations behind a point of a run. -/

/-- The loop, started in `st₀`, has gone past `done` and is now in the last state. -/
inductive Passes (rt : Runtime) (steps ordered : List StepDef) (resume : Dict String StepInfo)
    (st₀ : ExecState) : List StepDef → Trace → ExecState → Prop where
  | nil : Passes rt steps ordered resume st₀ [] [] st₀
  | snoc {done tr st step own st'} (before : Passes rt steps ordered resume st₀ done tr st)
      (run : StepRun rt steps ordered resume step st own (.next st')) :
      Passes rt steps ordered resume st₀ (done ++ [step]) (tr ++ own) st'

/-- The run has an iteration for `step`, after `done` and before `rest`. -/
inductive Iterates (rt : Runtime) (steps ordered : List StepDef) (resume : Dict String StepInfo)
    (st₀ : ExecState) (done : List StepDef) (step : StepDef) (rest : List StepDef) (tr : Trace)
    (out : Except ExecuteError ExecState) : Prop where
  | mk (st : ExecState) (before own after : Trace) (exit : StepExit)
      (passes : Passes rt steps ordered resume st₀ done before st)
      (run : StepRun rt steps ordered resume step st own exit)
      (tail : Continues rt steps ordered resume rest exit after out)
      (htr : tr = before ++ own ++ after)

/-- The run leaves the loop at `step`, after `done`. -/
inductive HaltsAt (rt : Runtime) (steps ordered : List StepDef) (resume : Dict String StepInfo)
    (st₀ : ExecState) (done : List StepDef) (step : StepDef) (tr : Trace)
    (out : Except ExecuteError ExecState) : Prop where
  | mk (st : ExecState) (before own : Trace) (exit : StepExit)
      (passes : Passes rt steps ordered resume st₀ done before st)
      (run : StepRun rt steps ordered resume step st own exit)
      (leaves : ∀ st', exit ≠ .next st')
      (tail : Continues rt steps ordered resume [] exit [] out) (htr : tr = before ++ own)

section Passing

variable {rt : Runtime} {steps ordered : List StepDef} {resume : Dict String StepInfo}
  {st₀ st st' : ExecState} {done rest : List StepDef} {step : StepDef} {tr tr₀ : Trace}
  {out : Except ExecuteError ExecState}

theorem Passes.healthy (hv : ValidOrder steps ordered) (h₀ : Healthy [] st₀)
    (h : Passes rt steps ordered resume st₀ done tr st) :
    ∀ rest, ordered = done ++ rest → Healthy done st := by
  induction h with
  | nil =>
      intro rest _
      exact h₀
  | @snoc done tr st step own st' before run ih =>
      intro rest hsplit
      rw [List.append_assoc] at hsplit
      exact (ih _ hsplit).next (hv.fresh hsplit) run

theorem Passes.concerns_mem (h : Passes rt steps ordered resume st₀ done tr st) :
    ∀ e ∈ tr, concerns e ∈ done.map StepDef.name := by
  induction h with
  | nil => simp
  | @snoc done tr st step own st' before run ih =>
      intro e he
      rw [List.map_append, List.mem_append]
      rcases List.mem_append.mp he with he | he
      · exact .inl (ih e he)
      · exact .inr (by simp [run.concerns_next e he])

/-- A loop over a step is an iteration for it and what remains. -/
theorem LoopRun.uncons (h : LoopRun rt steps ordered resume (step :: rest) st tr out) :
    ∃ own exit after, StepRun rt steps ordered resume step st own exit
      ∧ Continues rt steps ordered resume rest exit after out ∧ tr = own ++ after := by
  cases h with
  | next head tail => exact ⟨_, _, _, head, tail, rfl⟩
  | stop head => exact ⟨_, _, [], head, ⟨rfl, rfl⟩, (List.append_nil _).symm⟩
  | raised head => exact ⟨_, _, [], head, ⟨rfl, rfl⟩, (List.append_nil _).symm⟩

/-- Nothing remains after an iteration that leaves the loop. -/
theorem Passes.haltsAt {own after : Trace} {exit : StepExit}
    (passes : Passes rt steps ordered resume st₀ done tr₀ st)
    (run : StepRun rt steps ordered resume step st own exit)
    (tail : Continues rt steps ordered resume rest exit after out)
    (hleaves : ∀ st', exit ≠ .next st') :
    HaltsAt rt steps ordered resume st₀ done step (tr₀ ++ (own ++ after)) out := by
  cases exit with
  | next st' => exact absurd rfl (hleaves st')
  | stop st' =>
      obtain ⟨rfl, hout⟩ := tail
      exact .mk st tr₀ own _ passes run hleaves ⟨rfl, hout⟩ (by simp)
  | raised e =>
      obtain ⟨rfl, hout⟩ := tail
      exact .mk st tr₀ own _ passes run hleaves ⟨rfl, hout⟩ (by simp)

/-- **A run over the whole order** goes past every step, or leaves the loop at one. -/
theorem LoopRun.ends (h : LoopRun rt steps ordered resume rest st tr out) :
    ∀ done tr₀, Passes rt steps ordered resume st₀ done tr₀ st →
      (∃ final, out = .ok final
          ∧ Passes rt steps ordered resume st₀ (done ++ rest) (tr₀ ++ tr) final)
        ∨ ∃ mid s post, rest = mid ++ s :: post
          ∧ HaltsAt rt steps ordered resume st₀ (done ++ mid) s (tr₀ ++ tr) out := by
  intro done tr₀ passes
  induction rest generalizing st tr done tr₀ with
  | nil =>
      cases h
      exact .inl ⟨st, rfl, by simpa using passes⟩
  | cons s rest ih =>
      obtain ⟨own, exit, after, run, tail, rfl⟩ := h.uncons
      by_cases hnext : ∃ st', exit = .next st'
      · obtain ⟨st', rfl⟩ := hnext
        rcases ih tail _ _ (passes.snoc run) with ⟨final, hout, hpass⟩ | ⟨mid, u, post, rfl, halts⟩
        · exact .inl ⟨final, hout, by simpa using hpass⟩
        · exact .inr ⟨s :: mid, u, post, rfl, by simpa using halts⟩
      · have halts := passes.haltsAt run tail fun st' heq => hnext ⟨st', heq⟩
        exact .inr ⟨[], s, rest, rfl, by rwa [List.append_nil]⟩

/-- **Every step of the order** has its iteration, or the run leaves the loop before it. -/
theorem LoopRun.reaches (h : LoopRun rt steps ordered resume rest st tr out) :
    ∀ done tr₀, Passes rt steps ordered resume st₀ done tr₀ st →
      ∀ mid t post, rest = mid ++ t :: post →
        Iterates rt steps ordered resume st₀ (done ++ mid) t post (tr₀ ++ tr) out
          ∨ ∃ d s r, mid = d ++ s :: r
            ∧ HaltsAt rt steps ordered resume st₀ (done ++ d) s (tr₀ ++ tr) out := by
  intro done tr₀ passes mid
  -- along the steps before `t`: the loop goes past the first one, or leaves there
  induction mid generalizing rest st tr done tr₀ with
  | nil =>
      rintro t post rfl
      obtain ⟨own, exit, after, run, tail, rfl⟩ := h.uncons
      rw [List.append_nil]
      exact .inl (.mk st tr₀ own after exit passes run tail (by simp))
  | cons s mid ih =>
      rintro t post rfl
      obtain ⟨own, exit, after, run, tail, rfl⟩ := h.uncons
      by_cases hnext : ∃ st', exit = .next st'
      · obtain ⟨st', rfl⟩ := hnext
        rcases ih tail _ _ (passes.snoc run) t post rfl with hit | ⟨d, u, r, rfl, halts⟩
        · exact .inl (by simpa using hit)
        · exact .inr ⟨s :: d, u, r, rfl, by simpa using halts⟩
      · have halts := passes.haltsAt run tail fun st' heq => hnext ⟨st', heq⟩
        exact .inr ⟨[], s, mid, rfl, by rwa [List.append_nil]⟩

end Passing

/-! ## §6. Steps data behind the loop. -/

section Data

variable {rt : Runtime} {steps ordered : List StepDef} {resume : Dict String StepInfo}
  {st₀ st st' : ExecState} {done rest : List StepDef} {step : StepDef} {tr : Trace}

theorem abortState_stepsData :
    ∀ (l : List StepDef) (st : ExecState), (abortState l st).stepsData = st.stepsData
  | [], _ => rfl
  | remaining :: rest, st => by
      unfold abortState
      split
      next => exact abortState_stepsData rest st
      next => exact abortState_stepsData rest _

/-- The state an iteration leaves, unless it raises. -/
def StepExit.state? : StepExit → Option ExecState
  | .next st => some st
  | .stop st => some st
  | .raised _ => none

/-- An iteration only touches the steps data of its own step. -/
theorem StepRun.stepsData_eq {exit : StepExit}
    (h : StepRun rt steps ordered resume step st tr exit) (hexit : exit.state? = some st') :
    st'.stepsData = st.stepsData
      ∨ ∃ result, st'.stepsData = st.stepsData.set step.name result := by
  have attempted : ∀ {tr : Trace} {out : Except String Payload} {st₁ : ExecState},
      AttemptRun step st tr out st₁ → st₁.stepsData = st.stepsData :=
    fun run => congrArg Books.data run.books_eq
  cases h with
  | resumed h =>
      -- only a step that was stored completed brings data along
      obtain ⟨prev, -, hprev⟩ := Option.bind_eq_some_iff.mp h
      unfold resumeStep at hprev
      split at hprev
      next =>
        obtain rfl := Option.some.inj hprev
        obtain rfl := Option.some.inj hexit
        split
        · exact .inl rfl
        · exact .inr ⟨_, rfl⟩
      next =>
        obtain rfl := Option.some.inj hprev
        obtain rfl := Option.some.inj hexit
        exact .inl rfl
      next =>
        obtain rfl := Option.some.inj hprev
        obtain rfl := Option.some.inj hexit
        exact .inl rfl
      next => cases hprev
  | blocked hnew h =>
      obtain rfl := Option.some.inj hexit
      exact .inl rfl
  | crashed hnew h => cases hexit
  | skipWhen hnew h =>
      obtain rfl := Option.some.inj hexit
      exact .inl rfl
  | @handlerSkipped attempts result st₁ hnew hup hskip run hstatus =>
      obtain rfl := Option.some.inj hexit
      exact .inr ⟨result, by rw [← attempted run]; rfl⟩
  | suspended hnew hup hskip run hstatus =>
      obtain rfl := Option.some.inj hexit
      exact .inl (by rw [← attempted run]; rfl)
  | @completed attempts result st₁ hnew hup hskip run hstatus =>
      obtain rfl := Option.some.inj hexit
      exact .inr ⟨result, by rw [← attempted run]; rfl⟩
  | failedOptional hnew hup hskip fail hopt =>
      obtain ⟨⟨out, run⟩, -⟩ := fail.attemptRun
      obtain rfl := Option.some.inj hexit
      exact .inl (by rw [← attempted run]; rfl)
  | failedRequired hnew hup hskip fail hopt =>
      obtain ⟨⟨out, run⟩, -⟩ := fail.attemptRun
      obtain rfl := Option.some.inj hexit
      -- aborting marks the steps ahead, and leaves the data
      exact .inl (by rw [abortState_stepsData, ← attempted run]; rfl)

theorem StepRun.stepsData_ne {exit : StepExit}
    (h : StepRun rt steps ordered resume step st tr exit) (hexit : exit.state? = some st')
    {n : String} (hn : n ≠ step.name) : st'.stepsData.get? n = st.stepsData.get? n := by
  rcases h.stepsData_eq hexit with heq | ⟨result, heq⟩
  · rw [heq]
  · rw [heq, Dict.get?_set_ne _ _ _ hn]

/-- **Steps data are final**: those of a step behind the loop are still there at the end. -/
theorem LoopRun.stepsData_final (hv : ValidOrder steps ordered)
    {out : Except ExecuteError ExecState} (h : LoopRun rt steps ordered resume rest st tr out) :
    ∀ done, ordered = done ++ rest → ∀ final, out = .ok final → ∀ s ∈ done,
      final.stepsData.get? s.name = st.stepsData.get? s.name := by
  induction h with
  | nil =>
      intro done hsplit final hout s hs
      injection hout with hout
      rw [hout]
  | @next step rest st tr st₁ tr' out head tail ih =>
      intro done hsplit final hout s hs
      rw [ih (done ++ [step]) (by rw [hsplit]; simp) final hout s (List.mem_append_left _ hs),
        head.stepsData_ne rfl (hv.name_ne hsplit hs)]
  | @stop step rest st tr st₁ head =>
      intro done hsplit final hout s hs
      injection hout with hout
      subst hout
      exact head.stepsData_ne rfl (hv.name_ne hsplit hs)
  | raised head =>
      intro done hsplit final hout
      cases hout

/-- The steps data an iteration leaves for its step are the ones the run ends with. -/
theorem LoopRun.stepsData_next (hv : ValidOrder steps ordered)
    (hsplit : ordered = done ++ step :: rest) {final : ExecState}
    (tail : LoopRun rt steps ordered resume rest st tr (.ok final)) :
    final.stepsData.get? step.name = st.stepsData.get? step.name := by
  have hsplit' : ordered = (done ++ [step]) ++ rest := by rw [hsplit, List.append_assoc]; rfl
  exact tail.stepsData_final hv (done ++ [step]) hsplit' final rfl step (by simp)

/-- What a run that starts without steps data knows nothing of is ahead of it. -/
theorem Passes.stepsData_ahead (h₀ : st₀.stepsData = Dict.empty)
    (h : Passes rt steps ordered resume st₀ done tr st) :
    ∀ n, n ∉ done.map StepDef.name → st.stepsData.get? n = none := by
  induction h with
  | nil =>
      intro n _
      rw [h₀]
      rfl
  | @snoc done tr st step own st' before run ih =>
      intro n hn
      rw [List.map_append, List.mem_append, not_or] at hn
      rw [run.stepsData_ne rfl (by simpa using hn.2)]
      exact ih n hn.1

end Data

end CmlCloudManager.Pipeline
