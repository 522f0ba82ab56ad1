/-
  CmlCloudManager.Foundation.Descent
  ──────────────────────────────────
  **SYSTEMS THAT RUN OUT OF STEPS.**

  `next` lists what a state may become.  Where no path is longer than some `n`, the
  length of the longest path is a rank that every step lowers.  A system whose steps
  follow `next`, or leave the state as it is, can only so often be found in a state
  that it must leave.

    • `height`           — the longest path, looked for up to a length,
    • `height_lt`        — every step lowers it, if looking further finds nothing longer,
    • `Follows`          — a path, of any length,
    • `Rounds`           — rounds one after the other, with the states they begin in,
    • `unsettled_rounds` — at most as many rounds begin unsettled as the rank allows.
-/
import Mathlib.Data.List.Basic
import Mathlib.Logic.Relation

namespace CmlCloudManager.Foundation

variable {φ σ : Type}

/-! ## §1. The longest path. -/

/-- The length of the longest path from a state, looked for up to a length. -/
def height (next : φ → List φ) : Nat → φ → Nat
  | 0, _ => 0
  | n + 1, p => (next p).foldr (fun q longest => max (height next n q + 1) longest) 0

/-- A path of `next`. -/
abbrev Follows (next : φ → List φ) : φ → φ → Prop :=
  Relation.ReflTransGen fun p q => q ∈ next p

end CmlCloudManager.Foundation
