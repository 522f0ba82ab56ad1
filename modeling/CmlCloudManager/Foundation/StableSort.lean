/-
  CmlCloudManager.Foundation.StableSort
  ─────────────────────────────────────
  **WHAT A STABLE SORT BY A KEY KEEPS.**

  Sorting by a key forgets the order of the elements except among those with one
  key, which stay as they stood:

    • `ofKey key k xs`        — the elements with the key, in their order,
    • `ofKey_sortByKey`       — the sort leaves them as they are,
    • `sortByKey_eq_iff`      — two lists have one sorted form iff they agree on the
      elements of every key,
    • `perm_of_ofKey`         — and then each is a rearrangement of the other.

    • `ofKey_eq_of_perm`      — for a key that tells all elements apart, the order of a
      list does not matter.
-/
import Mathlib.Order.Lattice
import Mathlib.Data.List.Nodup

namespace CmlCloudManager.Foundation

variable {α β κ : Type} [LinearOrder κ]

/-- The stable sort, the least keys first. -/
def sortByKey (key : α → κ) (xs : List α) : List α :=
  xs.mergeSort fun a b => decide (key a ≤ key b)

/-- The elements with a key. -/
def ofKey (key : α → κ) (k : κ) (xs : List α) : List α := xs.filter fun x => decide (key x = k)

section Keys

variable {key : α → κ}

theorem mem_ofKey {k : κ} {xs : List α} {x : α} : x ∈ ofKey key k xs ↔ x ∈ xs ∧ key x = k := by
  unfold ofKey
  rw [List.mem_filter, decide_eq_true_iff]

theorem ofKey_cons_self (x : α) (xs : List α) :
    ofKey key (key x) (x :: xs) = x :: ofKey key (key x) xs :=
  List.filter_cons_of_pos (decide_eq_true rfl)

theorem ofKey_cons_ne {k : κ} {x : α} (h : key x ≠ k) (xs : List α) :
    ofKey key k (x :: xs) = ofKey key k xs :=
  List.filter_cons_of_neg fun heq => h (of_decide_eq_true heq)

/-- Elements that are mapped to ones with their keys. -/
theorem map_ofKey {f : α → β} {key' : β → κ} (h : ∀ x, key' (f x) = key x) (k : κ)
    (xs : List α) : (ofKey key k xs).map f = ofKey key' k (xs.map f) := by
  unfold ofKey
  rw [List.filter_map]
  congr 2
  funext x
  exact (congrArg (fun k' => decide (k' = k)) (h x)).symm

/-- The list of one key less. -/
theorem ofKey_cons_cancel {x : α} {xs ys : List α}
    (h : ∀ k, ofKey key k (x :: xs) = ofKey key k (x :: ys)) (k : κ) :
    ofKey key k xs = ofKey key k ys := by
  have hk := h k
  by_cases hx : key x = k
  · subst hx
    rw [ofKey_cons_self, ofKey_cons_self] at hk
    exact (List.cons.inj hk).2
  · rwa [ofKey_cons_ne hx, ofKey_cons_ne hx] at hk

/-- Two lists with the same keys at the same places that agree on the elements of every key. -/
theorem eq_of_ofKey_of_keys :
    ∀ {xs ys : List α}, xs.map key = ys.map key → (∀ k, ofKey key k xs = ofKey key k ys) → xs = ys
  | [], [], _, _ => rfl
  | x :: xs, y :: ys, hkeys, h => by
      obtain ⟨hkey, hrest⟩ := List.cons.inj hkeys
      have hheads := h (key x)
      rw [ofKey_cons_self, hkey, ofKey_cons_self] at hheads
      obtain ⟨rfl, -⟩ := List.cons.inj hheads
      rw [eq_of_ofKey_of_keys hrest (ofKey_cons_cancel h)]

/-! ### The sort. -/

theorem keyLe_trans (key : α → κ) (a b c : α) (hab : decide (key a ≤ key b) = true)
    (hbc : decide (key b ≤ key c) = true) : decide (key a ≤ key c) = true :=
  decide_eq_true ((of_decide_eq_true hab).trans (of_decide_eq_true hbc))

theorem keyLe_total (key : α → κ) (a b : α) :
    (decide (key a ≤ key b) || decide (key b ≤ key a)) = true := by
  rw [Bool.or_eq_true, decide_eq_true_iff, decide_eq_true_iff]
  exact le_total _ _

theorem sortByKey_perm (key : α → κ) (xs : List α) : (sortByKey key xs).Perm xs :=
  List.mergeSort_perm xs _

theorem sortByKey_pairwise (key : α → κ) (xs : List α) :
    (sortByKey key xs).Pairwise fun a b => key a ≤ key b := by
  exact (List.pairwise_mergeSort (keyLe_trans key) (keyLe_total key) xs).imp
    fun h => of_decide_eq_true h

/-- Sorting elements that are mapped to ones with their keys. -/
theorem map_sortByKey {f : α → β} {key' : β → κ} (h : ∀ x, key' (f x) = key x) (xs : List α) :
    (sortByKey key xs).map f = sortByKey key' (xs.map f) := by
  unfold sortByKey
  refine List.map_mergeSort fun a _ b _ => ?_
  rw [h a, h b]

/-- **Stability**: the elements with one key stay as they stood. -/
theorem ofKey_sortByKey (key : α → κ) (k : κ) (xs : List α) :
    ofKey key k (sortByKey key xs) = ofKey key k xs := by
  have hpairwise : (ofKey key k xs).Pairwise fun a b => decide (key a ≤ key b) = true := by
    refine List.pairwise_iff_forall_sublist.mpr fun {a b} hsub => ?_
    have ha := (mem_ofKey.mp (hsub.subset List.mem_cons_self)).2
    have hb := (mem_ofKey.mp (hsub.subset (List.mem_cons_of_mem _ List.mem_cons_self))).2
    exact decide_eq_true (ha.trans hb.symm).le
  have hsub : (ofKey key k xs).Sublist (sortByKey key xs) :=
    List.sublist_mergeSort (keyLe_trans key) (keyLe_total key) hpairwise List.filter_sublist
  -- all of them are found there, and as many as there are
  have hfound : (ofKey key k xs).Sublist (ofKey key k (sortByKey key xs)) := by
    have hfiltered := hsub.filter fun x => decide (key x = k)
    simp only [ofKey, List.filter_filter, Bool.and_self] at hfiltered
    exact hfiltered
  have hlength : (ofKey key k xs).length = (ofKey key k (sortByKey key xs)).length :=
    ((sortByKey_perm key xs).filter _).length_eq.symm
  exact (hfound.eq_of_length hlength).symm

/-- A sorted list starts with a least key. -/
theorem key_head_le {x : α} {xs : List α} (h : (x :: xs).Pairwise fun a b => key a ≤ key b) :
    ∀ y ∈ x :: xs, key x ≤ key y := by
  intro y hy
  rcases List.mem_cons.mp hy with rfl | hy
  · exact le_refl _
  · exact (List.pairwise_cons.mp h).1 y hy

/-- Two sorted lists that agree on the elements of every key are the same. -/
theorem eq_of_ofKey :
    ∀ {xs ys : List α}, (xs.Pairwise fun a b => key a ≤ key b) →
      (ys.Pairwise fun a b => key a ≤ key b) → (∀ k, ofKey key k xs = ofKey key k ys) → xs = ys
  | [], [], _, _, _ => rfl
  | [], y :: ys, _, _, h => by
      have hy := h (key y)
      rw [ofKey_cons_self] at hy
      cases hy
  | x :: xs, [], _, _, h => by
      have hx := h (key x)
      rw [ofKey_cons_self] at hx
      cases hx
  | x :: xs, y :: ys, hxs, hys, h => by
      -- each of the heads is in the other list, so they have one key
      have hx : x ∈ ofKey key (key x) (y :: ys) := by
        rw [← h, ofKey_cons_self]
        exact List.mem_cons_self
      have hy : y ∈ ofKey key (key y) (x :: xs) := by
        rw [h, ofKey_cons_self]
        exact List.mem_cons_self
      have hkey : key x = key y :=
        le_antisymm (key_head_le hxs y (mem_ofKey.mp hy).1)
          (key_head_le hys x (mem_ofKey.mp hx).1)
      have hheads := h (key x)
      rw [ofKey_cons_self, hkey, ofKey_cons_self] at hheads
      obtain ⟨rfl, -⟩ := List.cons.inj hheads
      rw [eq_of_ofKey (List.pairwise_cons.mp hxs).2 (List.pairwise_cons.mp hys).2
        (ofKey_cons_cancel h)]

/-- **The sorted form** of a list tells the order of the elements of each key, and no more. -/
theorem sortByKey_eq_iff (xs ys : List α) :
    sortByKey key xs = sortByKey key ys ↔ ∀ k, ofKey key k xs = ofKey key k ys := by
  constructor
  · intro h k
    rw [← ofKey_sortByKey key k xs, h, ofKey_sortByKey]
  · intro h
    refine eq_of_ofKey (sortByKey_pairwise key xs) (sortByKey_pairwise key ys) fun k => ?_
    rw [ofKey_sortByKey, ofKey_sortByKey, h k]

/-- The same, for elements that are written in another way after the sort. -/
theorem map_sortByKey_eq_iff (key : α → κ) (f : β → α) (xs ys : List β) :
    (sortByKey (fun x => key (f x)) xs).map f = (sortByKey (fun x => key (f x)) ys).map f
      ↔ ∀ k, ofKey key k (xs.map f) = ofKey key k (ys.map f) := by
  rw [← sortByKey_eq_iff, ← map_sortByKey (fun _ => rfl) xs, ← map_sortByKey (fun _ => rfl) ys]

/-- Lists that agree on the elements of every key are rearrangements of each other. -/
theorem perm_of_ofKey {xs ys : List α} (h : ∀ k, ofKey key k xs = ofKey key k ys) :
    xs.Perm ys := by
  have hsorted := (sortByKey_eq_iff xs ys).mpr h
  refine (sortByKey_perm key xs).symm.trans ?_
  rw [hsorted]
  exact sortByKey_perm key ys

/-- Where every element has a key of its own, rearrangements agree on the elements of every
key. -/
theorem ofKey_eq_of_perm {xs ys : List α} (h : xs.Perm ys) (hkeys : (xs.map key).Nodup) (k : κ) :
    ofKey key k xs = ofKey key k ys := by
  have hsorted : sortByKey key xs = sortByKey key ys := by
    have hperm := (sortByKey_perm key xs).trans (h.trans (sortByKey_perm key ys).symm)
    refine List.Perm.eq_of_pairwise (fun a b ha hb hab hba => ?_) (sortByKey_pairwise key xs)
      (sortByKey_pairwise key ys) hperm
    have ha := (sortByKey_perm key xs).mem_iff.mp ha
    have hb := h.mem_iff.mpr ((sortByKey_perm key ys).mem_iff.mp hb)
    exact List.inj_on_of_nodup_map hkeys ha hb (le_antisymm hab hba)
  exact (sortByKey_eq_iff xs ys).mp hsorted k

end Keys

end CmlCloudManager.Foundation
