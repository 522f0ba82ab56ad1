/-
  CmlCloudManager.Foundation.Weave
  ────────────────────────────────
  **A LIST WITH OTHERS WOVEN IN.**

  The elements of a list have names, and lists are put before and after the elements
  of some names:

    • `weave name before after l` — the result,
    • `insertIdx_append`, `foldl_insertIdx`, `foldl_insertIdx_reverse` — inserting at
      an index, one element or many in either order,
    • `findIdx?_weave`   — the first element with a name of the list is the one of the
      list, as long as none of that name is woven in (`Apart`),
    • `insert_before_weave`, `insert_after_weave`, `modify_weave` — what an edit at that
      index makes of the result,
    • `filter_weave`, `weave_perm` — the list, and all there is, in a result.
-/
import Mathlib.Data.List.Nodup

namespace CmlCloudManager.Foundation

variable {α ν : Type}

/-! ## §1. Inserting at an index. -/

theorem insertIdx_append (x : α) (post : List α) :
    ∀ pre : List α, (pre ++ post).insertIdx pre.length x = pre ++ x :: post
  | [] => rfl
  | y :: pre => by
      rw [List.cons_append, List.length_cons, List.insertIdx_succ_cons, insertIdx_append x post pre]
      rfl

/-- Each element at the next index. -/
theorem foldl_insertIdx (i : Nat) (post : List α) :
    ∀ (new : List α) (n : Nat) (pre : List α), pre.length = i + n →
      (new.zipIdx n).foldl (fun l (x, j) => l.insertIdx (i + j) x) (pre ++ post)
        = pre ++ (new ++ post)
  | [], _, _, _ => rfl
  | x :: new, n, pre, h => by
      rw [List.zipIdx_cons, List.foldl_cons]
      dsimp only
      have hnext : (pre ++ [x]).length = i + (n + 1) := by
        rw [List.length_append, h]
        rfl
      have hrest := foldl_insertIdx i post new (n + 1) (pre ++ [x]) hnext
      rw [← h, insertIdx_append, List.append_cons, hrest, List.append_assoc]
      rfl

/-- All at one index, the last one first. -/
theorem foldl_insertIdx_reverse (pre : List α) :
    ∀ (new post : List α),
      new.reverse.foldl (fun l x => l.insertIdx pre.length x) (pre ++ post)
        = pre ++ (new ++ post)
  | [], _ => rfl
  | x :: new, post => by
      rw [List.reverse_cons, List.foldl_append, foldl_insertIdx_reverse pre new post,
        List.foldl_cons, List.foldl_nil, insertIdx_append]
      rfl

theorem modify_append (f : α → α) (x : α) (post : List α) :
    ∀ pre : List α, (pre ++ x :: post).modify pre.length f = pre ++ f x :: post
  | [] => rfl
  | y :: pre => by
      rw [List.cons_append, List.length_cons, List.modify_succ_cons, modify_append f x post pre]
      rfl

/-! ## §2. Weaving. -/

section Weaving

variable (name : α → ν)

/-- The list with `before k` before and `after k` after the elements named `k`. -/
def weave (before after : ν → List α) : List α → List α
  | [] => []
  | x :: l => before (name x) ++ x :: (after (name x) ++ weave before after l)

/-- The names of the list are distinct, and nothing that is woven in has one of them. -/
structure Apart (before after : ν → List α) (l : List α) : Prop where
  nodup : (l.map name).Nodup
  before : ∀ k, ∀ x ∈ before k, name x ∉ l.map name
  after : ∀ k, ∀ x ∈ after k, name x ∉ l.map name

variable {name} {before after before' after' : ν → List α} {l : List α}

theorem weave_append (front back : List α) :
    weave name before after (front ++ back)
      = weave name before after front ++ weave name before after back := by
  induction front with
  | nil => rfl
  | cons x front ih =>
      rw [List.cons_append, weave, weave, ih, List.append_assoc, List.cons_append,
        List.append_assoc]

theorem weave_congr (hbefore : ∀ x ∈ l, before (name x) = before' (name x))
    (hafter : ∀ x ∈ l, after (name x) = after' (name x)) :
    weave name before after l = weave name before' after' l := by
  induction l with
  | nil => rfl
  | cons x l ih =>
      rw [weave, weave, hbefore x List.mem_cons_self, hafter x List.mem_cons_self,
        ih (fun y hy => hbefore y (List.mem_cons_of_mem _ hy))
          (fun y hy => hafter y (List.mem_cons_of_mem _ hy))]

theorem weave_nothing (l : List α) : weave name (fun _ => []) (fun _ => []) l = l := by
  induction l with
  | nil => rfl
  | cons x l ih =>
      rw [weave, ih]
      rfl

theorem mem_weave {y : α} :
    y ∈ weave name before after l
      ↔ y ∈ l ∨ ∃ x ∈ l, y ∈ before (name x) ∨ y ∈ after (name x) := by
  induction l with
  | nil => simp [weave]
  | cons x l ih =>
      rw [weave, List.mem_append, List.mem_cons, List.mem_append, ih, List.mem_cons,
        List.exists_mem_cons_iff]
      grind

/-- What passes a test that all of the list and nothing woven in passes. -/
theorem filter_weave {p : α → Bool} (hl : ∀ x ∈ l, p x = true)
    (hbefore : ∀ k, ∀ x ∈ before k, p x = false) (hafter : ∀ k, ∀ x ∈ after k, p x = false) :
    (weave name before after l).filter p = l := by
  have hnone : ∀ new : List α, (∀ x ∈ new, p x = false) → new.filter p = [] := fun new hnew =>
    List.filter_eq_nil_iff.mpr fun x hx => Bool.eq_false_iff.mp (hnew x hx)
  induction l with
  | nil => rfl
  | cons x l ih =>
      rw [weave, List.filter_append, hnone _ (hbefore _), List.nil_append,
        List.filter_cons_of_pos (hl x List.mem_cons_self), List.filter_append, hnone _ (hafter _),
        List.nil_append, ih fun y hy => hl y (List.mem_cons_of_mem _ hy)]

/-- A result has the list and what is woven in. -/
theorem weave_perm (l : List α) :
    (weave name before after l).Perm
      (l.flatMap (fun x => before (name x)) ++ (l.flatMap (fun x => after (name x)) ++ l)) := by
  classical
  induction l with
  | nil => exact .refl _
  | cons x l ih =>
      rw [List.perm_iff_count] at ih ⊢
      intro y
      have hy := ih y
      simp only [weave, List.flatMap_cons, List.count_append, List.count_cons] at hy ⊢
      omega

/-- The elements beside one of the list have other names. -/
theorem names_ne_of_nodup {front back : List α} {x : α}
    (h : ((front ++ x :: back).map name).Nodup) :
    (∀ y ∈ front, name y ≠ name x) ∧ ∀ y ∈ back, name y ≠ name x := by
  rw [List.map_append, List.map_cons] at h
  refine ⟨fun y hy heq => ?_, fun y hy heq => ?_⟩
  · exact List.disjoint_of_nodup_append h (heq ▸ List.mem_map_of_mem hy) List.mem_cons_self
  · exact (List.nodup_cons.mp (List.nodup_append.mp h).2.1).1 (heq ▸ List.mem_map_of_mem hy)

/-- The names that stand before an element of the list are other names. -/
theorem Apart.name_ne {front back : List α} {x : α}
    (h : Apart name before after (front ++ x :: back)) :
    ∀ y ∈ weave name before after front ++ before (name x), name y ≠ name x := by
  have hmem : name x ∈ (front ++ x :: back).map name :=
    List.mem_map_of_mem (List.mem_append_right _ List.mem_cons_self)
  intro y hy heq
  rcases List.mem_append.mp hy with hy | hy
  · rcases mem_weave.mp hy with hfront | ⟨z, -, hz | hz⟩
    · exact (names_ne_of_nodup h.nodup).1 y hfront heq
    · exact h.before _ y hz (heq ▸ hmem)
    · exact h.after _ y hz (heq ▸ hmem)
  · exact h.before _ y hy (heq ▸ hmem)

/-- A result, taken apart at an element of the list. -/
theorem weave_split (front back : List α) (x : α) :
    weave name before after (front ++ x :: back)
      = (weave name before after front ++ before (name x))
        ++ x :: (after (name x) ++ weave name before after back) := by
  rw [weave_append, weave, List.append_assoc]

/-- **The first element with a name of the list** is the one of the list. -/
theorem findIdx?_weave [DecidableEq ν] {front back : List α} {x : α}
    (h : Apart name before after (front ++ x :: back)) :
    (weave name before after (front ++ x :: back)).findIdx? (fun y => decide (name y = name x))
      = some (weave name before after front ++ before (name x)).length := by
  have hnone : (weave name before after front ++ before (name x)).findIdx?
      (fun y => decide (name y = name x)) = none :=
    List.findIdx?_eq_none_iff.mpr fun y hy => decide_eq_false (h.name_ne y hy)
  rw [weave_split, List.findIdx?_append, hnone, List.findIdx?_cons, if_pos (decide_eq_true rfl)]
  simp

/-! ## §3. Edits. -/

section Edits

variable [DecidableEq ν] {front back : List α} {x : α}

/-- Insertion right before an element of the list. -/
theorem insert_before_weave (h : Apart name before after (front ++ x :: back)) (new : List α) :
    new.zipIdx.foldl (fun l (y, j) => l.insertIdx
        ((weave name before after front ++ before (name x)).length + j) y)
      (weave name before after (front ++ x :: back))
      = weave name (fun k => if k = name x then before k ++ new else before k) after
          (front ++ x :: back) := by
  obtain ⟨hfront, hback⟩ := names_ne_of_nodup h.nodup
  have hkeep : ∀ l, (∀ y ∈ l, name y ≠ name x) →
      weave name (fun k => if k = name x then before k ++ new else before k) after l
        = weave name before after l :=
    fun l hl => weave_congr (fun y hy => if_neg (hl y hy)) fun _ _ => rfl
  rw [weave_split, foldl_insertIdx _ _ new 0 _ rfl, weave_split, hkeep front hfront,
    hkeep back hback, if_pos rfl]
  simp only [List.append_assoc]

/-- Insertion right after an element of the list. -/
theorem insert_after_weave (h : Apart name before after (front ++ x :: back)) (new : List α) :
    new.reverse.foldl (fun l y => l.insertIdx
        ((weave name before after front ++ before (name x)).length + 1) y)
      (weave name before after (front ++ x :: back))
      = weave name before (fun k => if k = name x then new ++ after k else after k)
          (front ++ x :: back) := by
  obtain ⟨hfront, hback⟩ := names_ne_of_nodup h.nodup
  have hkeep : ∀ l, (∀ y ∈ l, name y ≠ name x) →
      weave name before (fun k => if k = name x then new ++ after k else after k) l
        = weave name before after l :=
    fun l hl => weave_congr (fun _ _ => rfl) fun y hy => if_neg (hl y hy)
  have hindex : (weave name before after front ++ before (name x)).length + 1
      = ((weave name before after front ++ before (name x)) ++ [x]).length :=
    (@List.length_append _ _ [x]).symm
  rw [weave_split, List.append_cons, hindex, foldl_insertIdx_reverse, weave_split,
    hkeep front hfront, hkeep back hback, if_pos rfl]
  simp only [List.append_assoc, List.singleton_append]

/-- Insertions of other names keep the names apart. -/
theorem Apart.insert_before (h : Apart name before after l) {k₀ : ν} {new : List α}
    (hnew : ∀ y ∈ new, name y ∉ l.map name) :
    Apart name (fun k => if k = k₀ then before k ++ new else before k) after l where
  nodup := h.nodup
  before k y hy := by
    split at hy
    next => exact (List.mem_append.mp hy).elim (h.before k y) (hnew y)
    next => exact h.before k y hy
  after := h.after

theorem Apart.insert_after (h : Apart name before after l) {k₀ : ν} {new : List α}
    (hnew : ∀ y ∈ new, name y ∉ l.map name) :
    Apart name before (fun k => if k = k₀ then new ++ after k else after k) l where
  nodup := h.nodup
  before := h.before
  after k y hy := by
    split at hy
    next => exact (List.mem_append.mp hy).elim (hnew y) (h.after k y)
    next => exact h.after k y hy

omit [DecidableEq ν] in
/-- A change of an element of the list that keeps its name. -/
theorem modify_weave (f : α → α) (hname : name (f x) = name x) :
    (weave name before after (front ++ x :: back)).modify
        (weave name before after front ++ before (name x)).length f
      = weave name before after (front ++ f x :: back) := by
  rw [weave_split, modify_append, weave_split, hname]

end Edits

end Weaving

end CmlCloudManager.Foundation
