/-
  CmlCloudManager.Foundation.Execution
  ────────────────────────────────────
  **INFINITE EXECUTIONS.**

  A safety property is about runs; that something happens in the end is about
  executions that go on for ever.  What is waited for is reached by a rank: no step
  raises it, the steps of one party lower it, and that party is not held up for ever.

    • `Execution step s`       — a state and an action for every point in time,
    • `lasts_or_ends`          — what each step keeps or ends, over any stretch of time,
    • `eventually_of_rank`     — the ranking rule.
-/
import CmlCloudManager.Foundation.Transition
import Mathlib.Order.WellFounded

namespace CmlCloudManager.Foundation

variable {σ α : Type}

/-- An infinite execution from `s`. -/
structure Execution (step : σ → α → Option σ) (s : σ) where
  state : Nat → σ
  action : Nat → α
  starts : state 0 = s
  steps : ∀ n, step (state n) (action n) = some (state (n + 1))

namespace Execution

variable {step : σ → α → Option σ} {s : σ} (e : Execution step s)

/-- What each step keeps or ends is still there, or has ended. -/
theorem lasts_or_ends {P Q : σ → Prop}
    (hnext : ∀ n, P (e.state n) → Q (e.state (n + 1)) ∨ P (e.state (n + 1))) {n m : Nat}
    (hnm : n ≤ m) (hn : P (e.state n)) : (∃ k, n ≤ k ∧ Q (e.state k)) ∨ P (e.state m) := by
  induction hnm with
  | refl => exact .inr hn
  | step hnm ih =>
      rcases ih with hended | hlasts
      · exact .inl hended
      · rcases hnext _ hlasts with hQ | hP
        · exact .inl ⟨_, Nat.le_succ_of_le hnm, hQ⟩
        · exact .inr hP

/-- **The ranking rule**: who waits is served in the end, if no step raises the rank, those that
help lower it, and help comes again and again. -/
theorem eventually_of_rank {ρ : Type} [Preorder ρ] [WellFoundedLT ρ] {Waits Served : σ → Prop}
    {Helps : α → Prop} (rank : σ → ρ)
    (hkeeps : ∀ n, Waits (e.state n) → Served (e.state (n + 1))
      ∨ Waits (e.state (n + 1)) ∧ rank (e.state (n + 1)) ≤ rank (e.state n))
    (hhelps : ∀ n, Waits (e.state n) → Helps (e.action n) → Served (e.state (n + 1))
      ∨ Waits (e.state (n + 1)) ∧ rank (e.state (n + 1)) < rank (e.state n))
    (hfair : ∀ n, Waits (e.state n) → ∃ m, n ≤ m ∧ Helps (e.action m)) {n : Nat}
    (hn : Waits (e.state n)) : ∃ m, n ≤ m ∧ Served (e.state m) := by
  induction hrank : rank (e.state n) using WellFoundedLT.induction generalizing n with
  | ind r ih =>
      obtain ⟨m, hnm, hm⟩ := hfair n hn
      -- until help comes, the rank stays at or below the one at `n`
      have hstep : ∀ i, Waits (e.state i) ∧ rank (e.state i) ≤ r → Served (e.state (i + 1))
          ∨ Waits (e.state (i + 1)) ∧ rank (e.state (i + 1)) ≤ r := by
        intro i hi
        rcases hkeeps i hi.1 with hserved | ⟨hwaits, hle⟩
        · exact .inl hserved
        · exact .inr ⟨hwaits, hle.trans hi.2⟩
      have hlasts := @lasts_or_ends _ _ _ _ e (fun t => Waits t ∧ rank t ≤ r) Served hstep n m hnm
        ⟨hn, hrank.le⟩
      rcases hlasts with hserved | ⟨hwaits, hle⟩
      · exact hserved
      · rcases hhelps m hwaits hm with hserved | ⟨hwaits, hlt⟩
        · exact ⟨m + 1, Nat.le_succ_of_le hnm, hserved⟩
        · obtain ⟨k, hk, hserved⟩ := ih _ (hlt.trans_le hle) hwaits rfl
          exact ⟨k, (Nat.le_succ_of_le hnm).trans hk, hserved⟩

end Execution

end CmlCloudManager.Foundation
