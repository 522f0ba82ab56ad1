/-
  CmlCloudManager.Foundation.Ledger
  ─────────────────────────────────
  **TOTALS OVER A LIST OF HOLDERS.**

  A total that is kept beside the list of its holders has to follow every change
  of the list.  `held holders amount` is what it should be; the rules say how it
  changes when a holder comes, goes, or is counted anew:

    • `held_snoc`, `held_congr` — a new holder, and amounts that agree,
    • `held_mono`               — fewer holders,
    • `held_remove`             — a holder leaves with its amount,
    • `sub_eq_held_iff`         — when a clamped subtraction keeps the total right.
-/
import Mathlib.Algebra.BigOperators.Group.List.Basic
import Mathlib.Algebra.Order.BigOperators.Group.List
import Mathlib.Algebra.Order.Ring.Nat
import Mathlib.Data.List.Nodup

namespace CmlCloudManager.Foundation

variable {κ : Type}

/-- The sum of the holders' amounts. -/
def held (holders : List κ) (amount : κ → Nat) : Nat := (holders.map amount).sum

section Held

variable {holders : List κ} {amount : κ → Nat} {k : κ}

@[simp] theorem held_nil (amount : κ → Nat) : held [] amount = 0 := rfl

@[simp] theorem held_cons (k : κ) (holders : List κ) (amount : κ → Nat) :
    held (k :: holders) amount = amount k + held holders amount := List.sum_cons

/-- A new holder adds its amount. -/
theorem held_snoc (holders : List κ) (k : κ) (amount : κ → Nat) :
    held (holders ++ [k]) amount = held holders amount + amount k := by
  unfold held
  rw [List.map_append, List.sum_append, List.map_singleton, List.sum_singleton]

/-- Only the holders' own amounts count. -/
theorem held_congr {amount' : κ → Nat} (h : ∀ k ∈ holders, amount k = amount' k) :
    held holders amount = held holders amount' := by
  unfold held
  rw [List.map_congr_left h]

/-- Fewer holders have no more. -/
theorem held_mono {few : List κ} (hnodup : few.Nodup) (h : few ⊆ holders) :
    held few amount ≤ held holders amount := by
  obtain ⟨part, hperm, hsub⟩ := List.subperm_of_subset hnodup h
  unfold held
  rw [← (hperm.map amount).sum_eq]
  exact (hsub.map amount).sum_le_sum fun _ _ => Nat.zero_le _

variable [DecidableEq κ]

/-- A holder that leaves takes its amount along. -/
theorem held_remove (hnodup : holders.Nodup) (h : k ∈ holders) :
    amount k + held (holders.filter (· ≠ k)) amount = held holders amount := by
  have hfilter : holders.filter (· ≠ k) = holders.erase k := by
    rw [hnodup.erase_eq_filter k]
    exact List.filter_congr fun a _ => by
      rw [bne, beq_eq_decide, decide_not]
  unfold held
  rw [hfilter, List.sum_map_erase amount h]

/-- **A clamped subtraction keeps the total right** when it takes the holder's amount, or
when the holder had all of the total and at least that much is taken. -/
theorem sub_eq_held_iff {total released : Nat} (hnodup : holders.Nodup) (h : k ∈ holders)
    (htotal : total = held holders amount) :
    total - released = held (holders.filter (· ≠ k)) amount
      ↔ released = amount k ∨ total = amount k ∧ amount k ≤ released := by
  have hremove : amount k + held (holders.filter (· ≠ k)) amount = held holders amount :=
    held_remove hnodup h
  omega

end Held

end CmlCloudManager.Foundation
