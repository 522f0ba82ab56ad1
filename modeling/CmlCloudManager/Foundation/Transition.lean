/-
  CmlCloudManager.Foundation.Transition
  ─────────────────────────────────────
  **RUNS OF A TRANSITION SYSTEM.**

  A system is a partial step function: in state `s` the action `a` is either
  impossible (`none`) or leads to ONE state.  What is left open (who moves next,
  what an outside party answers) is part of the action, so that a statement about
  all runs is a statement about every interleaving.

    • `Run step allowed s acts t` — the actions lead from `s` to `t`, each of them
      meeting the condition `allowed` in the state it is taken in,
    • `Run.invariant` — what every allowed step preserves holds at the end,
    • `exec`          — the same run, computed,
    • `countP_set_add`, `sum_map_set_add` — of the parties one moves: how many are at a
                        place then, and what a sum over the parties is,
    • `Ends turn s turns t` — a loop on its own, from `s` to where its condition fails.
-/
import Mathlib.Algebra.GroupWithZero.Nat
import Mathlib.Data.List.Basic

namespace CmlCloudManager.Foundation

variable {σ α : Type}

/-- A run: each action is possible and allowed where it is taken. -/
inductive Run (step : σ → α → Option σ) (allowed : σ → α → Prop) : σ → List α → σ → Prop where
  | nil {s} : Run step allowed s [] s
  | snoc {s acts t a u} (before : Run step allowed s acts t) (ok : allowed t a)
      (last : step t a = some u) : Run step allowed s (acts ++ [a]) u

/-- A condition that every action meets. -/
def anyAction : σ → α → Prop := fun _ _ => True

/-- **The invariant rule**: an invariant of every allowed step is one of every run. -/
theorem Run.invariant {step : σ → α → Option σ} {allowed : σ → α → Prop} {Inv : σ → Prop}
    (hstep : ∀ t a u, Inv t → allowed t a → step t a = some u → Inv u)
    {s t : σ} {acts : List α} (h : Run step allowed s acts t) (hs : Inv s) : Inv t := by
  induction h with
  | nil => exact hs
  | snoc before ok last ih => exact hstep _ _ _ ih ok last

/-- A run under a condition is one under a weaker condition. -/
theorem Run.mono {step : σ → α → Option σ} {allowed allowed' : σ → α → Prop}
    (hallowed : ∀ t a, allowed t a → allowed' t a) {s t : σ} {acts : List α}
    (h : Run step allowed s acts t) : Run step allowed' s acts t := by
  induction h with
  | nil => exact .nil
  | snoc before ok last ih => exact ih.snoc (hallowed _ _ ok) last

/-- The state the actions lead to, when all of them are possible and pass the check. -/
def exec (step : σ → α → Option σ) (check : σ → α → Bool) : List α → σ → Option σ
  | [], s => some s
  | a :: rest, s => if check s a then (step s a).bind (exec step check rest) else none

/-- A computed run is a run, if what passes the check is allowed. -/
theorem exec_run {step : σ → α → Option σ} {allowed : σ → α → Prop} {check : σ → α → Bool}
    (hcheck : ∀ s a, check s a = true → allowed s a) :
    ∀ (acts : List α) {s₀ s t : σ} {past : List α}, Run step allowed s₀ past s →
      exec step check acts s = some t → Run step allowed s₀ (past ++ acts) t
  | [], s₀, s, t, past, h, he => by
      injection he with he
      subst he
      rw [List.append_nil]
      exact h
  | a :: rest, s₀, s, t, past, h, he => by
      unfold exec at he
      split at he
      next hok =>
        -- the first action is taken from `s`, the others from where it leads
        obtain ⟨u, hu, hrest⟩ := Option.bind_eq_some_iff.mp he
        have hnext := exec_run hcheck rest (h.snoc (hcheck s a hok) hu) hrest
        rwa [List.append_assoc] at hnext
      next => cases he

/-- One party moves: those that meet a condition are the ones before, without the old and with
the new place of it. -/
theorem countP_set_add (p : α → Bool) {parties : List α} {i : Nat} {old : α}
    (hold : parties[i]? = some old) (new : α) :
    (parties.set i new).countP p + (if p old then 1 else 0)
      = parties.countP p + (if p new then 1 else 0) := by
  obtain ⟨hlt, hget⟩ := List.getElem?_eq_some_iff.mp hold
  rw [List.countP_set hlt, hget]
  have hpos : p old = true → 0 < parties.countP p :=
    fun h => List.countP_pos_iff.mpr ⟨old, List.mem_of_getElem? hold, h⟩
  by_cases hp : p old = true
  · have := hpos hp
    rw [if_pos hp]
    omega
  · rw [if_neg hp]
    omega

/-- One party moves: a sum over the parties is the one before, without the old and with the new
place of it. -/
theorem sum_map_set_add (f : α → Nat) {parties : List α} {i : Nat} {old : α}
    (hold : parties[i]? = some old) (new : α) :
    ((parties.set i new).map f).sum + f old = (parties.map f).sum + f new := by
  induction parties generalizing i with
  | nil => cases hold
  | cons first rest ih =>
      cases i with
      | zero =>
          obtain rfl : first = old := Option.some.inj hold
          simp only [List.set_cons_zero, List.map_cons, List.sum_cons]
          omega
      | succ i =>
          have hrest := ih hold
          simp only [List.set_cons_succ, List.map_cons, List.sum_cons]
          omega

/-! ## Loops. -/

/-- The loop takes the turns from `s` and ends in `t`; where `turn` gives no state, its
condition does not hold. -/
inductive Ends (turn : σ → Option σ) : σ → Nat → σ → Prop where
  | stop {s} (h : turn s = none) : Ends turn s 0 s
  | next {s t u turns} (h : turn s = some t) (rest : Ends turn t turns u) :
      Ends turn s (turns + 1) u

/-- **A loop ends** if each turn lowers a measure, and it does not take more turns. -/
theorem exists_ends {turn : σ → Option σ} (measure : σ → Nat)
    (hlower : ∀ s t, turn s = some t → measure t < measure s) :
    ∀ (bound : Nat) (s : σ), measure s ≤ bound →
      ∃ turns t, turns ≤ bound ∧ Ends turn s turns t := by
  intro bound
  induction bound with
  | zero =>
      intro s hs
      cases hturn : turn s with
      | none => exact ⟨0, s, Nat.le_refl 0, .stop hturn⟩
      | some t => exact absurd (hlower s t hturn) (by omega)
  | succ bound ih =>
      intro s hs
      cases hturn : turn s with
      | none => exact ⟨0, s, Nat.zero_le _, .stop hturn⟩
      | some t =>
          have ht := hlower s t hturn
          obtain ⟨turns, u, hturns, hends⟩ := ih t (by omega)
          exact ⟨turns + 1, u, by omega, .next hturn hends⟩

end CmlCloudManager.Foundation
