/-
  CmlCloudManager.Core.Backoff
  ────────────────────────────
  **THE BOOKKEEPING OF FAILED RECONCILES.**

  `_calculate_backoff` raises the multiplier to its power before it takes the
  minimum, and a float power that is out of range raises `OverflowError`.  What that
  does to `_reconcile_single`:

    • of a `FAILED` result the count is raised, then the exception leaves the `try`
      block, and the handler raises the count once more and fails the same way,
    • of an exception of `reconcile` the count is raised once by the handler,
    • either way the exception leaves the handler, `next_retry` stays as it was, and
      only the `finally` block is still run.

  As long as the power is in range the bookkeeping is that of `ResourceState.settle`
  (`reconcileSingle_eq_settle`).  Times and delays are exact rationals: the power, its
  product with the initial delay and `time.time() + backoff` are taken without rounding.
-/
import CmlCloudManager.Core.WatchTriggered
import CmlCloudManager.Foundation.Replay
import Mathlib.Algebra.Order.GroupWithZero.Basic
import Mathlib.Algebra.Order.Ring.Rat
import Mathlib.Data.List.Induction
import Mathlib.Tactic.NormNum

namespace CmlCloudManager.Core.Backoff

open CmlCloudManager.Foundation
open CmlCloudManager.Core.WatchTriggered

/-! ## §1. The delay. -/

/-- The largest finite float. -/
def floatMax : ℚ := (2 ^ 53 - 1) * 2 ^ 971

/-- `base ** exponent` of two floats. -/
def floatPower (base : ℚ) (exponent : Nat) : Except String ℚ :=
  if floatMax < base ^ exponent then .error "(34, 'Numerical result out of range')"
  else .ok (base ^ exponent)

/-- `_calculate_backoff`. -/
def calculateBackoff (config : Config) (failureCount : Nat) : Except String ℚ :=
  match floatPower config.backoffMultiplier (failureCount - 1) with
  | .error raised => .error raised
  | .ok power => .ok (min (config.backoffInitialSeconds * power) config.backoffMaxSeconds)

/-- The power of the multiplier is a float. -/
def InRange (config : Config) (failureCount : Nat) : Prop :=
  config.backoffMultiplier ^ (failureCount - 1) ≤ floatMax

/-! ## §2. One reconcile. -/

/-- A block of code that changes the state and may raise. -/
abbrev Settled : Type := ResourceState × Except String Unit

/-- One more failure, in the `FAILED` branch and in the exception handler. -/
def countFailure (config : Config) (now : ℚ) (state : ResourceState) : Settled :=
  let counted := { state with failureCount := state.failureCount + 1 }
  match calculateBackoff config counted.failureCount with
  | .error raised => (counted, .error raised)
  | .ok backoff => ({ counted with nextRetry := now + backoff }, .ok ())

/-- The `try` block. -/
def tryReconcile (config : Config) (now : ℚ) (state : ResourceState) : Outcome → Settled
  | .success => ({ state with failureCount := 0, nextRetry := 0 }, .ok ())
  | .requeue requeueAfterSeconds =>
      ({ state with nextRetry := now + config.requeueDelay requeueAfterSeconds }, .ok ())
  | .failed => countFailure config now state
  | .skip => (state, .ok ())
  | .raised => (state, .error "reconcile raised")

/-- A reconcile: when it is begun, when it is settled, and how `reconcile` ends. -/
structure Attempt where
  lastAttempt : ℚ
  now : ℚ
  outcome : Outcome

/-- `_reconcile_single`: the state it leaves, and the exception it may raise. -/
def reconcileSingle (config : Config) (state : ResourceState) (attempt : Attempt) : Settled :=
  let begun := { state with inProgress := true, lastAttempt := attempt.lastAttempt }
  let tried := tryReconcile config attempt.now begun attempt.outcome
  let settled :=
    match tried.2 with
    | .ok () => tried
    | .error _ => countFailure config attempt.now tried.1
  -- the `finally` block
  ({ settled.1 with inProgress := false }, settled.2)

/-- The state after it, whether it raised or not. -/
def afterReconcile (config : Config) (state : ResourceState) (attempt : Attempt) :
    ResourceState :=
  (reconcileSingle config state attempt).1

/-- `reconcile` came back with `FAILED`, or it raised. -/
def Outcome.isFailure : Outcome → Bool
  | .failed | .raised => true
  | .success | .requeue _ | .skip => false

/-- The failures since the last success. -/
def countAttempt (failures : Nat) (attempt : Attempt) : Nat :=
  match attempt.outcome with
  | .success => 0
  | .failed | .raised => failures + 1
  | .requeue _ | .skip => failures

/-! ## §3. What the delay is. -/

section Delay

variable {config : Config} {failureCount : Nat}

theorem calculateBackoff_of_inRange (h : InRange config failureCount) :
    calculateBackoff config failureCount = .ok (config.calculateBackoff failureCount) := by
  unfold calculateBackoff floatPower
  rw [if_neg (not_lt.mpr h)]
  rfl

theorem calculateBackoff_of_not_inRange (h : ¬InRange config failureCount) :
    ∃ raised, calculateBackoff config failureCount = .error raised := by
  unfold calculateBackoff floatPower
  rw [if_pos (not_le.mp h)]
  exact ⟨_, rfl⟩

/-- A smaller power is in range, too. -/
theorem InRange.mono (hmultiplier : 1 < config.backoffMultiplier) {fewer : Nat}
    (hle : fewer ≤ failureCount) (h : InRange config failureCount) : InRange config fewer :=
  (pow_le_pow_right₀ hmultiplier.le (Nat.sub_le_sub_right hle 1)).trans h

/-- **The bounds of the delay.** -/
theorem calculateBackoff_bounds (hinitial : 0 < config.backoffInitialSeconds)
    (hmultiplier : 1 < config.backoffMultiplier) (failureCount : Nat) :
    min config.backoffInitialSeconds config.backoffMaxSeconds
        ≤ config.calculateBackoff failureCount
      ∧ config.calculateBackoff failureCount ≤ config.backoffMaxSeconds := by
  have hpower : 1 ≤ config.backoffMultiplier ^ (failureCount - 1) := one_le_pow₀ hmultiplier.le
  have hproduct : config.backoffInitialSeconds
      ≤ config.backoffInitialSeconds * config.backoffMultiplier ^ (failureCount - 1) :=
    le_mul_of_one_le_right hinitial.le hpower
  exact ⟨min_le_min_right _ hproduct, min_le_right _ _⟩

end Delay

/-! ## §4. What one reconcile leaves. -/

section Reconcile

variable {config : Config} {state : ResourceState} {now : ℚ}

theorem countFailure_of_inRange (now : ℚ) (h : InRange config (state.failureCount + 1)) :
    countFailure config now state = (state.fail config now, .ok ()) := by
  unfold countFailure
  dsimp only
  rw [calculateBackoff_of_inRange h]
  rfl

/-- Out of range the count is raised and the retry time is left as it was. -/
theorem countFailure_of_not_inRange (now : ℚ) (h : ¬InRange config (state.failureCount + 1)) :
    ∃ raised, countFailure config now state
      = ({ state with failureCount := state.failureCount + 1 }, .error raised) := by
  obtain ⟨raised, hraised⟩ := calculateBackoff_of_not_inRange h
  unfold countFailure
  dsimp only
  rw [hraised]
  exact ⟨raised, rfl⟩

/-- **In range the bookkeeping is the intended one.** -/
theorem reconcileSingle_eq_settle (attempt : Attempt)
    (h : InRange config (state.failureCount + 1)) :
    reconcileSingle config state attempt
      = ({ ResourceState.settle config attempt.now
            { state with inProgress := true, lastAttempt := attempt.lastAttempt } attempt.outcome
            with inProgress := false }, .ok ()) := by
  have hcount : countFailure config attempt.now
      { state with inProgress := true, lastAttempt := attempt.lastAttempt } = _ :=
    countFailure_of_inRange attempt.now h
  unfold reconcileSingle
  cases attempt.outcome with
  | success => rfl
  | requeue seconds => rfl
  | skip => rfl
  | failed =>
      simp only [tryReconcile, hcount]
      rfl
  | raised =>
      simp only [tryReconcile, hcount]
      rfl

/-- A result of `FAILED` out of range: the exception is handled by counting once more. -/
theorem failed_twice_of_not_inRange (hmultiplier : 1 < config.backoffMultiplier)
    (attempt : Attempt) (hfailed : attempt.outcome = .failed)
    (h : ¬InRange config (state.failureCount + 1)) :
    afterReconcile config state attempt
      = { state with
          inProgress := false
          lastAttempt := attempt.lastAttempt
          failureCount := state.failureCount + 2 } := by
  have hagain : ¬InRange config (state.failureCount + 1 + 1) := fun hin =>
    h (hin.mono hmultiplier (Nat.le_succ _))
  obtain ⟨raised, hfirst⟩ : ∃ raised, countFailure config attempt.now
      { state with inProgress := true, lastAttempt := attempt.lastAttempt } = (_, _) :=
    countFailure_of_not_inRange attempt.now h
  obtain ⟨raised', hsecond⟩ : ∃ raised, countFailure config attempt.now
      { state with
        inProgress := true
        lastAttempt := attempt.lastAttempt
        failureCount := state.failureCount + 1 } = (_, _) :=
    countFailure_of_not_inRange attempt.now hagain
  unfold afterReconcile reconcileSingle
  simp only [hfailed, tryReconcile, hfirst, hsecond]

end Reconcile

/-! ## §5. A run of reconciles. -/

/-- The state of a resource after its reconciles. -/
def afterReconciles (config : Config) (attempts : List Attempt) : ResourceState :=
  replay (afterReconcile config) {} attempts

/-- Its failures since the last success. -/
def consecutiveFailures (attempts : List Attempt) : Nat :=
  replay countAttempt 0 attempts

section Run

variable {config : Config}

theorem consecutiveFailures_snoc (attempts : List Attempt) (attempt : Attempt) :
    consecutiveFailures (attempts ++ [attempt])
      = countAttempt (consecutiveFailures attempts) attempt :=
  replay_snoc ..

theorem afterReconciles_snoc (attempts : List Attempt) (attempt : Attempt) :
    afterReconciles config (attempts ++ [attempt])
      = afterReconcile config (afterReconciles config attempts) attempt :=
  replay_snoc ..

/-- The state is right about the failures, as long as the last of them was in range. -/
def Counted (config : Config) (state : ResourceState) (failures : Nat) : Prop :=
  InRange config failures → state.failureCount = failures

/-- One more reconcile. -/
theorem Counted.step (hmultiplier : 1 < config.backoffMultiplier) {state : ResourceState}
    {failures : Nat} (h : Counted config state failures) (attempt : Attempt) :
    Counted config (afterReconcile config state attempt) (countAttempt failures attempt) := by
  intro hin
  unfold countAttempt at hin ⊢
  unfold afterReconcile
  cases hout : attempt.outcome with
  | success =>
      unfold reconcileSingle
      simp only [hout, tryReconcile]
  | requeue seconds =>
      rw [hout] at hin
      unfold reconcileSingle
      simp only [hout, tryReconcile]
      exact h hin
  | skip =>
      rw [hout] at hin
      unfold reconcileSingle
      simp only [hout, tryReconcile]
      exact h hin
  | failed =>
      rw [hout] at hin
      have hcount := h (hin.mono hmultiplier (Nat.le_succ _))
      rw [reconcileSingle_eq_settle attempt (by rw [hcount]; exact hin), hout]
      exact congrArg (· + 1) hcount
  | raised =>
      rw [hout] at hin
      have hcount := h (hin.mono hmultiplier (Nat.le_succ _))
      rw [reconcileSingle_eq_settle attempt (by rw [hcount]; exact hin), hout]
      exact congrArg (· + 1) hcount

/-- **Any run.** -/
theorem counted_afterReconciles (config : Config) (hmultiplier : 1 < config.backoffMultiplier)
    (attempts : List Attempt) :
    Counted config (afterReconciles config attempts) (consecutiveFailures attempts) := by
  induction attempts using List.reverseRecOn with
  | nil => exact fun _ => rfl
  | append_singleton attempts attempt ih =>
      rw [afterReconciles_snoc, consecutiveFailures_snoc]
      exact ih.step hmultiplier attempt

/-- What a failure owes: a delay within its bounds, and a state that knows of it. -/
def Kept (config : Config) (failures : Nat) (now : ℚ) (state : ResourceState) : Prop :=
  ∃ backoff, calculateBackoff config failures = .ok backoff
    ∧ min config.backoffInitialSeconds config.backoffMaxSeconds ≤ backoff
    ∧ backoff ≤ config.backoffMaxSeconds
    ∧ state.failureCount = failures
    ∧ state.inProgress = false
    ∧ now + backoff ≤ state.nextRetry

/-- **The bookkeeping of the `n`-th failure in a row is kept exactly when the power for it is
a float.** -/
theorem backoff_kept_iff (config : Config) (hinitial : 0 < config.backoffInitialSeconds)
    (hmultiplier : 1 < config.backoffMultiplier) (attempts : List Attempt) (attempt : Attempt)
    (hfailure : Outcome.isFailure attempt.outcome = true) :
    Kept config (consecutiveFailures attempts + 1) attempt.now
        (afterReconciles config (attempts ++ [attempt]))
      ↔ config.backoffMultiplier ^ consecutiveFailures attempts ≤ floatMax := by
  show _ ↔ InRange config (consecutiveFailures attempts + 1)
  constructor
  · rintro ⟨backoff, hbackoff, -⟩
    by_contra hout
    obtain ⟨raised, hraised⟩ := calculateBackoff_of_not_inRange hout
    rw [hraised] at hbackoff
    cases hbackoff
  · intro hin
    have hcount := counted_afterReconciles config hmultiplier attempts
      (hin.mono hmultiplier (Nat.le_succ _))
    obtain ⟨hlow, hhigh⟩ := calculateBackoff_bounds hinitial hmultiplier
      (consecutiveFailures attempts + 1)
    refine ⟨_, calculateBackoff_of_inRange hin, hlow, hhigh, ?_⟩
    rw [afterReconciles_snoc, afterReconcile,
      reconcileSingle_eq_settle attempt (by rw [hcount]; exact hin)]
    cases hout : attempt.outcome with
    | success => rw [hout] at hfailure; cases hfailure
    | requeue seconds => rw [hout] at hfailure; cases hfailure
    | skip => rw [hout] at hfailure; cases hfailure
    | failed =>
        exact ⟨congrArg (· + 1) hcount, rfl, le_of_eq (by rw [← hcount]; rfl)⟩
    | raised =>
        exact ⟨congrArg (· + 1) hcount, rfl, le_of_eq (by rw [← hcount]; rfl)⟩

end Run

/-- The default configuration: the delay is doubled from one second on, up to a minute. -/
def byDefault : Config := {}

/-- A reconcile that comes back with `FAILED`. -/
def failedAttempt : Attempt := ⟨0, 0, .failed⟩

theorem consecutiveFailures_replicate (n : Nat) :
    consecutiveFailures (List.replicate n failedAttempt) = n := by
  induction n with
  | zero => rfl
  | succ n ih =>
      rw [List.replicate_succ', consecutiveFailures_snoc, ih]
      rfl

/-- The doubled delay leaves the floats with the 1025th failure. -/
theorem inRange_byDefault_iff (failures : Nat) :
    InRange byDefault (failures + 1) ↔ failures < 1024 := by
  have hscale : (0 : ℚ) < 2 ^ 971 := pow_pos zero_lt_two 971
  have hmax : floatMax < 2 ^ (53 + 971) := by
    rw [floatMax, pow_add]
    exact mul_lt_mul_of_pos_right (by norm_num) hscale
  have hbelow : (2 : ℚ) ^ (52 + 971) ≤ floatMax := by
    rw [floatMax, pow_add]
    exact mul_le_mul_of_nonneg_right (by norm_num) hscale.le
  show (2 : ℚ) ^ failures ≤ floatMax ↔ failures < 1024
  constructor
  · intro h
    by_contra hmany
    have hpower : (2 : ℚ) ^ (53 + 971) ≤ 2 ^ failures :=
      pow_le_pow_right₀ one_le_two (Nat.le_of_not_lt hmany)
    exact absurd (hmax.trans_le (hpower.trans h)) (lt_irrefl _)
  · intro h
    have hpower : (2 : ℚ) ^ failures ≤ 2 ^ (52 + 971) :=
      pow_le_pow_right₀ one_le_two (Nat.le_of_lt_succ h)
    exact hpower.trans hbelow

theorem backoff_kept_at_first :
    Kept byDefault (consecutiveFailures [] + 1) failedAttempt.now
      (afterReconciles byDefault ([] ++ [failedAttempt])) :=
  (backoff_kept_iff byDefault zero_lt_one one_lt_two [] failedAttempt rfl).mpr
    ((inRange_byDefault_iff 0).mpr (Nat.succ_pos _))

/-- When the doubled delay has just left the floats, the failure has no delay and is counted
twice. -/
theorem failed_out_of_range {failures : Nat} (h : failures = 1024) :
    ¬Kept byDefault (failures + 1) failedAttempt.now
        (afterReconciles byDefault (List.replicate failures failedAttempt ++ [failedAttempt]))
      ∧ (afterReconciles byDefault
          (List.replicate failures failedAttempt ++ [failedAttempt])).failureCount
        = failures + 2 := by
  have hout : ¬InRange byDefault (failures + 1) := fun hin =>
    absurd ((inRange_byDefault_iff failures).mp hin) (by omega)
  -- all failures before it are counted
  have hin : InRange byDefault failures := by
    obtain ⟨before, rfl⟩ : ∃ before, failures = before + 1 := ⟨1023, h⟩
    exact (inRange_byDefault_iff before).mpr (by omega)
  have hcount := counted_afterReconciles byDefault one_lt_two
    (List.replicate failures failedAttempt)
  rw [consecutiveFailures_replicate] at hcount
  have hcount := hcount hin
  constructor
  · rintro ⟨backoff, hbackoff, -⟩
    obtain ⟨raised, hraised⟩ := calculateBackoff_of_not_inRange hout
    rw [hraised] at hbackoff
    cases hbackoff
  · rw [afterReconciles_snoc,
      failed_twice_of_not_inRange one_lt_two failedAttempt rfl (by rw [hcount]; exact hout)]
    exact congrArg (· + 2) hcount

/-- The 1025th failure in a row. -/
theorem backoff_lost_at_1025 :
    consecutiveFailures (List.replicate 1024 failedAttempt) = 1024
      ∧ ¬Kept byDefault (1024 + 1) failedAttempt.now
          (afterReconciles byDefault (List.replicate 1024 failedAttempt ++ [failedAttempt]))
      ∧ (afterReconciles byDefault
          (List.replicate 1024 failedAttempt ++ [failedAttempt])).failureCount = 1024 + 2 :=
  ⟨consecutiveFailures_replicate 1024, failed_out_of_range rfl⟩

end CmlCloudManager.Core.Backoff
