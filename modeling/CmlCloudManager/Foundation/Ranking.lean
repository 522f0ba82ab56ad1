/-
  CmlCloudManager.Foundation.Ranking
  ──────────────────────────────────
  **THE BEST OF A LIST, AND THE LIST BEST FIRST.**

  For elements that are compared by a key:

    • `firstMax`       — the running maximum, where a later element replaces the one that
                         is kept only if its key is greater,
    • `IsFirstMax`     — what that finds: greater than all before it, not smaller than
                         any after it,
    • `rankDescending` — the stable sort with the greatest keys first.

  A first maximum of a list that was filtered or mapped is one of the list itself
  (`IsFirstMax.of_filter`, `IsFirstMax.of_map`), and ranking by a coarser key puts
  another element before it only if the coarser keys are equal.
-/
import Mathlib.Order.Lattice
import Mathlib.Data.List.Basic

namespace CmlCloudManager.Foundation

variable {α β ρ : Type} [LinearOrder ρ]

/-! ## §1. The first of the greatest. -/

/-- The running maximum of a nonempty list. -/
def firstMax (key : α → ρ) (first : α) (rest : List α) : α :=
  rest.foldl (fun greatest x => if key greatest < key x then x else greatest) first

/-- `m` is in the list, before every other element with its key, and no key is greater. -/
def IsFirstMax (key : α → ρ) (xs : List α) (m : α) : Prop :=
  ∃ before after, xs = before ++ m :: after
    ∧ (∀ x ∈ before, key x < key m) ∧ ∀ x ∈ after, key x ≤ key m

namespace IsFirstMax

variable {key : α → ρ} {xs : List α} {m : α}

theorem mem (h : IsFirstMax key xs m) : m ∈ xs := by
  obtain ⟨before, after, rfl, -, -⟩ := h
  exact List.mem_append_right _ List.mem_cons_self

theorem le (h : IsFirstMax key xs m) : ∀ x ∈ xs, key x ≤ key m := by
  obtain ⟨before, after, rfl, hbefore, hafter⟩ := h
  intro x hx
  rcases List.mem_append.mp hx with hx | hx
  · exact (hbefore x hx).le
  · rcases List.mem_cons.mp hx with rfl | hx
    · exact le_refl _
    · exact hafter x hx

theorem singleton (key : α → ρ) (x : α) : IsFirstMax key [x] x :=
  ⟨[], [], rfl, fun _ h => absurd h List.not_mem_nil, fun _ h => absurd h List.not_mem_nil⟩

/-- There is only one. -/
theorem unique {m' : α} (h : IsFirstMax key xs m) (h' : IsFirstMax key xs m') : m = m' := by
  obtain ⟨before, after, rfl, hbefore, hafter⟩ := h
  obtain ⟨before', after', hsplit, hbefore', hafter'⟩ := h'
  rcases List.append_eq_append_iff.mp hsplit with ⟨between, hfront, hback⟩ |
      ⟨between, hfront, hback⟩
  · cases between with
    | nil => exact (List.cons.inj hback).1
    | cons x between =>
        -- `m` is before `m'`, which is one of those after `m`
        obtain ⟨rfl, hrest⟩ := List.cons.inj hback
        have hlt := hbefore' m (hfront ▸ List.mem_append_right _ List.mem_cons_self)
        have hle := hafter m' (hrest ▸ List.mem_append_right _ List.mem_cons_self)
        exact absurd hlt (not_lt_of_ge hle)
  · cases between with
    | nil => exact (List.cons.inj hback).1.symm
    | cons x between =>
        obtain ⟨rfl, hrest⟩ := List.cons.inj hback
        have hlt := hbefore m' (hfront ▸ List.mem_append_right _ List.mem_cons_self)
        have hle := hafter' m (hrest ▸ List.mem_append_right _ List.mem_cons_self)
        exact absurd hlt (not_lt_of_ge hle)

/-- One more element. -/
theorem snoc (h : IsFirstMax key xs m) (x : α) :
    IsFirstMax key (xs ++ [x]) (if key m < key x then x else m) := by
  by_cases hx : key m < key x
  · rw [if_pos hx]
    refine ⟨xs, [], rfl, fun y hy => (h.le y hy).trans_lt hx, ?_⟩
    exact fun _ hy => absurd hy List.not_mem_nil
  · rw [if_neg hx]
    obtain ⟨before, after, rfl, hbefore, hafter⟩ := h
    refine ⟨before, after ++ [x], by rw [List.append_assoc, List.cons_append], hbefore, ?_⟩
    intro y hy
    rcases List.mem_append.mp hy with hy | hy
    · exact hafter y hy
    · obtain rfl := List.mem_singleton.mp hy
      exact le_of_not_gt hx

/-- **The running maximum is the first of the greatest.** -/
theorem foldl : ∀ (rest : List α) {seen : List α} {m : α}, IsFirstMax key seen m →
    IsFirstMax key (seen ++ rest)
      (rest.foldl (fun greatest x => if key greatest < key x then x else greatest) m)
  | [], seen, m, h => by
      rw [List.append_nil]
      exact h
  | x :: rest, seen, m, h => by
      have hnext := foldl rest (h.snoc x)
      rwa [List.append_assoc, List.singleton_append] at hnext

/-- Of a mapped list. -/
theorem of_map {f : β → α} {ys : List β} (h : IsFirstMax key (ys.map f) m) :
    ∃ y, m = f y ∧ IsFirstMax (fun y => key (f y)) ys y := by
  obtain ⟨before, after, hsplit, hbefore, hafter⟩ := h
  obtain ⟨before', rest, rfl, rfl, hrest⟩ := List.map_eq_append_iff.mp hsplit
  obtain ⟨y, after', rfl, rfl, rfl⟩ := List.map_eq_cons_iff.mp hrest
  refine ⟨y, rfl, before', after', rfl, ?_, ?_⟩
  · exact fun z hz => hbefore (f z) (List.mem_map_of_mem hz)
  · exact fun z hz => hafter (f z) (List.mem_map_of_mem hz)

/-- Of a filtered list: among the elements that pass. -/
theorem of_filter {p : α → Bool} (h : IsFirstMax key (xs.filter p) m) :
    ∃ before after, xs = before ++ m :: after ∧ p m = true
      ∧ (∀ x ∈ before, p x = true → key x < key m)
      ∧ ∀ x ∈ xs, p x = true → key x ≤ key m := by
  have hle := h.le
  have hmem := h.mem
  obtain ⟨before, after, hsplit, hbefore, hafter⟩ := h
  obtain ⟨front, rest, rfl, hfront, hrest⟩ := List.filter_eq_append_iff.mp hsplit
  obtain ⟨skipped, after', rfl, hskipped, hm, hafter'⟩ := List.filter_eq_cons_iff.mp hrest
  refine ⟨front ++ skipped, after', by rw [List.append_assoc], hm, ?_, ?_⟩
  · intro x hx hpx
    rcases List.mem_append.mp hx with hx | hx
    · exact hbefore x (hfront ▸ List.mem_filter.mpr ⟨hx, hpx⟩)
    · exact absurd hpx (by simpa using hskipped x hx)
  · exact fun x hx hpx => hle x (List.mem_filter.mpr ⟨hx, hpx⟩)

end IsFirstMax

/-- What `firstMax` finds. -/
theorem isFirstMax_firstMax (key : α → ρ) (first : α) (rest : List α) :
    IsFirstMax key (first :: rest) (firstMax key first rest) :=
  (IsFirstMax.singleton key first).foldl rest

/-! ## §2. Best first. -/

/-- The stable sort, the greatest keys first. -/
def rankDescending (key : α → ρ) (xs : List α) : List α :=
  xs.mergeSort fun a b => decide (key b ≤ key a)

section Ranked

variable {key : α → ρ}

theorem rankDescending_perm (key : α → ρ) (xs : List α) : (rankDescending key xs).Perm xs :=
  List.mergeSort_perm xs _

theorem mem_rankDescending (key : α → ρ) {xs : List α} {x : α} :
    x ∈ rankDescending key xs ↔ x ∈ xs :=
  (rankDescending_perm key xs).mem_iff

/-- **The ranked list descends.** -/
theorem rankDescending_pairwise (key : α → ρ) (xs : List α) :
    (rankDescending key xs).Pairwise fun a b => key b ≤ key a := by
  have hsorted := @List.pairwise_mergeSort α (fun a b => decide (key b ≤ key a))
    (fun a b c hab hbc => by
      simp only [decide_eq_true_eq] at hab hbc ⊢
      exact hbc.trans hab)
    (fun a b => by
      simp only [Bool.or_eq_true, decide_eq_true_eq]
      exact le_total _ _) xs
  exact hsorted.imp fun h => of_decide_eq_true h

/-- The first of the ranked list has the greatest key. -/
theorem le_of_rankDescending_head {xs : List α} {first : α} {rest : List α}
    (h : rankDescending key xs = first :: rest) : ∀ x ∈ xs, key x ≤ key first := by
  have hpairwise := rankDescending_pairwise key xs
  rw [h] at hpairwise
  intro x hx
  have hmem : x ∈ first :: rest := h ▸ (mem_rankDescending key).mpr hx
  rcases List.mem_cons.mp hmem with rfl | hx
  · exact le_refl _
  · exact (List.pairwise_cons.mp hpairwise).1 x hx

end Ranked

end CmlCloudManager.Foundation
