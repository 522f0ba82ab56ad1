/-
  CmlCloudManager.Foundation.TopologicalOrder
  ───────────────────────────────────────────
  **TOPOLOGICAL ORDERS AND ONE SORTER THAT PRODUCES THEM.**

  `ReadyOrder preds done order` reads an order left to right: each node comes
  when all its predecessors are among `done` or already listed.  A topological
  order of `nodes` is a ready order that is a permutation of them.  Which of
  the many orders a sorter picks is left open everywhere; `kahn` is one of
  them (all ready nodes first, round by round), `kahn_sound` says that it never
  returns anything else, and `kahn_complete` that it returns where there is one.
-/
import Mathlib.Data.List.Perm.Lattice
import Mathlib.Data.List.Perm.Basic

namespace CmlCloudManager.Foundation

variable {ν : Type}

/-! ## §1. Orders. -/

/-- Every listed node finds its predecessors done or listed before it. -/
def ReadyOrder (preds : ν → List ν) : List ν → List ν → Prop
  | _, [] => True
  | done, n :: rest => (∀ p ∈ preds n, p ∈ done) ∧ ReadyOrder preds (n :: done) rest

/-- A permutation of the nodes in which every node follows its predecessors. -/
def IsTopologicalOrder (preds : ν → List ν) (nodes order : List ν) : Prop :=
  order.Perm nodes ∧ ReadyOrder preds [] order

theorem readyOrder_append {preds : ν → List ν} :
    ∀ (l₁ l₂ done : List ν),
      ReadyOrder preds done (l₁ ++ l₂)
        ↔ ReadyOrder preds done l₁ ∧ ReadyOrder preds (l₁.reverse ++ done) l₂
  | [], l₂, done => by simp [ReadyOrder]
  | n :: l₁, l₂, done => by
      -- the nodes already listed pile up in reverse
      show ((∀ p ∈ preds n, p ∈ done) ∧ ReadyOrder preds (n :: done) (l₁ ++ l₂)) ↔ _
      rw [readyOrder_append l₁ l₂ (n :: done)]
      simp only [ReadyOrder, List.reverse_cons, List.append_assoc, List.singleton_append,
        and_assoc]

/-- Nodes whose predecessors are all done may be listed in any order. -/
theorem readyOrder_of_forall {preds : ν → List ν} :
    ∀ (l done : List ν), (∀ n ∈ l, ∀ p ∈ preds n, p ∈ done) → ReadyOrder preds done l
  | [], _, _ => trivial
  | n :: l, done, h => by
      refine ⟨h n List.mem_cons_self, readyOrder_of_forall l (n :: done) ?_⟩
      intro m hm p hp
      exact List.mem_cons_of_mem _ (h m (List.mem_cons_of_mem _ hm) p hp)

/-- A ready order keeps what is left of it when nodes are done beforehand. -/
theorem ReadyOrder.filter {preds : ν → List ν} {p : ν → Bool} :
    ∀ {order done done' : List ν}, (∀ x ∈ done, x ∈ done') →
      (∀ x ∈ order, p x = false → x ∈ done') → ReadyOrder preds done order →
      ReadyOrder preds done' (order.filter p)
  | [], _, _, _, _, _ => trivial
  | n :: rest, done, done', hsub, hdone, h => by
      have hrest : ∀ x ∈ rest, p x = false → x ∈ done' := fun x hx =>
        hdone x (List.mem_cons_of_mem _ hx)
      by_cases hn : p n = true
      · rw [List.filter_cons_of_pos hn]
        refine ⟨fun q hq => hsub q (h.1 q hq), ReadyOrder.filter ?_ ?_ h.2⟩
        · intro x hx
          rcases List.mem_cons.mp hx with rfl | hx
          · exact List.mem_cons_self
          · exact List.mem_cons_of_mem _ (hsub x hx)
        · exact fun x hx hp => List.mem_cons_of_mem _ (hrest x hx hp)
      · rw [List.filter_cons_of_neg hn]
        refine ReadyOrder.filter ?_ hrest h.2
        intro x hx
        rcases List.mem_cons.mp hx with rfl | hx
        · exact hdone x List.mem_cons_self (Bool.eq_false_iff.mpr hn)
        · exact hsub x hx

/-! ## §2. A round-by-round sorter. -/

section Kahn

variable [DecidableEq ν]

/-- All predecessors of the node are done. -/
def isReady (preds : ν → List ν) (done : List ν) (n : ν) : Bool :=
  (preds n).all (fun p => decide (p ∈ done))

/-- Emit the ready nodes, mark them done, repeat; stuck nodes are an error. -/
def kahn (preds : ν → List ν) : Nat → List ν → List ν → Except (List ν) (List ν)
  | 0, _, remaining => if remaining = [] then .ok [] else .error remaining
  | fuel + 1, done, remaining =>
      if remaining = [] then .ok []
      else
        let ready := remaining.filter (isReady preds done)
        if ready = [] then .error remaining
        else
          match kahn preds fuel (ready.reverse ++ done)
              (remaining.filter (fun n => !isReady preds done n)) with
          | .ok rest => .ok (ready ++ rest)
          | .error stuck => .error stuck

/-- **What the sorter returns is a ready permutation of what it was given.** -/
theorem kahn_sound (preds : ν → List ν) :
    ∀ (fuel : Nat) (done remaining order : List ν),
      kahn preds fuel done remaining = .ok order →
      order.Perm remaining ∧ ReadyOrder preds done order := by
  intro fuel
  induction fuel with
  | zero =>
      intro done remaining order h
      simp only [kahn] at h
      split at h
      next hrem =>
        injection h with h
        subst h hrem
        exact ⟨List.Perm.refl _, trivial⟩
      next => cases h
  | succ fuel ih =>
      intro done remaining order h
      simp only [kahn] at h
      split at h
      next hrem =>
        injection h with h
        subst h hrem
        exact ⟨List.Perm.refl _, trivial⟩
      next =>
        split at h
        next => cases h
        next =>
          split at h
          next rest hrec =>
            injection h with h
            subst h
            obtain ⟨hperm, hready⟩ := ih _ _ _ hrec
            refine ⟨?_, ?_⟩
            · -- ready and not ready nodes together are the remaining ones
              exact (List.Perm.append_left _ hperm).trans
                (List.filter_append_perm (isReady preds done) remaining)
            · -- the nodes of one round only need what was done before the round
              rw [readyOrder_append]
              refine ⟨readyOrder_of_forall _ _ ?_, hready⟩
              intro n hn p hp
              have hn' := (List.mem_filter.mp hn).2
              simp only [isReady, List.all_eq_true, decide_eq_true_eq] at hn'
              exact hn' p hp
          next => cases h

/-- **Nodes that have a ready order are sorted.** -/
theorem kahn_complete (preds : ν → List ν) :
    ∀ (fuel : Nat) (done remaining order : List ν), remaining.length ≤ fuel →
      order.Perm remaining → ReadyOrder preds done order →
      ∃ order', kahn preds fuel done remaining = .ok order' := by
  intro fuel
  induction fuel with
  | zero =>
      intro done remaining order hfuel _ _
      exact ⟨[], if_pos (List.length_eq_zero_iff.mp (Nat.le_zero.mp hfuel))⟩
  | succ fuel ih =>
      intro done remaining order hfuel hperm hready
      rw [kahn]
      split
      next => exact ⟨[], rfl⟩
      next hsome =>
        -- the first node of the order is ready
        have hround : remaining.filter (isReady preds done) ≠ [] := by
          cases order with
          | nil => exact absurd hperm.symm.eq_nil hsome
          | cons n rest =>
              have hn : isReady preds done n = true :=
                List.all_eq_true.mpr fun q hq => decide_eq_true (hready.1 q hq)
              exact List.ne_nil_of_mem
                (List.mem_filter.mpr ⟨hperm.subset List.mem_cons_self, hn⟩)
        have hless : (remaining.filter fun n => !isReady preds done n).length ≤ fuel := by
          have hsplit := (List.filter_append_perm (isReady preds done) remaining).length_eq
          rw [List.length_append] at hsplit
          have hpos := List.length_pos_iff.mpr hround
          omega
        have hleft : ReadyOrder preds ((remaining.filter (isReady preds done)).reverse ++ done)
            (order.filter fun n => !isReady preds done n) := by
          refine ReadyOrder.filter (fun x hx => List.mem_append_right _ hx) ?_ hready
          intro x hx hp
          refine List.mem_append_left _ (List.mem_reverse.mpr (List.mem_filter.mpr ⟨?_, ?_⟩))
          · exact hperm.subset hx
          · simpa using hp
        obtain ⟨rest, hrest⟩ := ih _ _ _ hless (hperm.filter _) hleft
        dsimp only
        rw [if_neg hround, hrest]
        exact ⟨_, rfl⟩

end Kahn

end CmlCloudManager.Foundation
