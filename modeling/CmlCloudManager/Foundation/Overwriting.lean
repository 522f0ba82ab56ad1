/-
  CmlCloudManager.Foundation.Overwriting
  ──────────────────────────────────────
  **WHAT A DICTIONARY KEEPS OF ITS ASSIGNMENTS.**

  A dictionary that is built from a list of assignments keeps one entry a key: that of
  the last assignment to it.  Where each assignment was meant to leave an entry of its
  own, the rules say when it does, and when those do that matter (`P`):

    • `entries_ofList_perm`      — the entries are the last assignments,
    • `filter_values_perm_iff`   — the assignments that matter are all kept,
    • `values_perm_iff`          — they are all that is kept.
-/
import CmlCloudManager.Foundation.Dict
import Mathlib.Data.List.Pairwise
import Mathlib.Data.List.Perm.Basic

namespace CmlCloudManager.Foundation

namespace Dict

variable {κ α : Type}

section Matter

variable (P : α → Bool)

/-- No assignment that matters is overwritten. -/
def NotOverwritten (l : List (κ × α)) : Prop := l.Pairwise fun a b => P a.2 = true → a.1 ≠ b.1

/-- Every assignment that does not matter is overwritten. -/
def RestOverwritten (l : List (κ × α)) : Prop :=
  ∀ before a after, l = before ++ a :: after → P a.2 = false → a.1 ∈ after.map Prod.fst

variable {P}

theorem notOverwritten_cons {a : κ × α} {l : List (κ × α)} :
    NotOverwritten P (a :: l)
      ↔ (P a.2 = true → a.1 ∉ l.map Prod.fst) ∧ NotOverwritten P l := by
  unfold NotOverwritten
  rw [List.pairwise_cons]
  refine and_congr_left fun _ => ?_
  constructor
  · rintro h ha hmem
    obtain ⟨b, hb, heq⟩ := List.mem_map.mp hmem
    exact h b hb ha heq.symm
  · exact fun h b hb ha heq => h ha (List.mem_map.mpr ⟨b, hb, heq.symm⟩)

theorem restOverwritten_cons {a : κ × α} {l : List (κ × α)} :
    RestOverwritten P (a :: l)
      ↔ (P a.2 = false → a.1 ∈ l.map Prod.fst) ∧ RestOverwritten P l := by
  constructor
  · intro h
    refine ⟨h [] a l rfl, ?_⟩
    intro before b after hsplit
    exact h (a :: before) b after (by rw [hsplit]; rfl)
  · rintro ⟨ha, hl⟩ before b after hsplit
    cases before with
    | nil =>
        obtain ⟨rfl, rfl⟩ := List.cons.inj hsplit
        exact ha
    | cons c before =>
        obtain ⟨rfl, hrest⟩ := List.cons.inj hsplit
        exact hl before b after hrest

theorem values_filter (d : Dict κ α) :
    d.values.filter P = (d.entries.filter fun e => P e.2).map Prod.snd := by
  unfold values
  rw [List.filter_map]
  rfl

end Matter

variable [DecidableEq κ] {P : α → Bool}

/-- The assignments that no later one overwrites. -/
def lastAssignments (l : List (κ × α)) : List (κ × α) := l.pwFilter fun a b => a.1 ≠ b.1

theorem lastAssignments_cons (a : κ × α) (l : List (κ × α)) :
    lastAssignments (a :: l)
      = if a.1 ∈ l.map Prod.fst then lastAssignments l else a :: lastAssignments l := by
  -- to differ from the keys that are kept is to differ from all keys
  have hkeys : (∀ b ∈ lastAssignments l, a.1 ≠ b.1) ↔ a.1 ∉ l.map Prod.fst := by
    unfold lastAssignments
    rw [List.forall_mem_pwFilter]
    · simp only [List.mem_map, not_exists, not_and]
      exact forall₂_congr fun b _ => ne_comm
    · intro x y z hxz
      by_contra hcon
      rw [not_or, not_not, not_not] at hcon
      exact hxz (hcon.1.trans hcon.2)
  split
  next hmem => exact List.pwFilter_cons_of_neg fun h => hkeys.mp h hmem
  next hmem => exact List.pwFilter_cons_of_pos (hkeys.mpr hmem)

theorem assign_perm (k : κ) (v : α) (l : List (κ × α)) (hl : (l.map Prod.fst).Nodup) :
    (assign k v l).Perm (l.filter (fun e => decide (e.1 ≠ k)) ++ [(k, v)]) := by
  induction l with
  | nil => simp [assign]
  | cons e rest ih =>
      obtain ⟨k₀, v₀⟩ := e
      rw [List.map_cons, List.nodup_cons] at hl
      by_cases h : k₀ = k
      · subst h
        have hrest : rest.filter (fun e => decide (e.1 ≠ k₀)) = rest := by
          refine List.filter_eq_self.mpr fun e he => ?_
          exact decide_eq_true fun heq => hl.1 (List.mem_map.mpr ⟨e, he, heq⟩)
        simp only [assign, if_true, List.filter_cons, ne_eq, not_true_eq_false, decide_false]
        simp only [ne_eq] at hrest
        rw [if_neg (by simp), hrest]
        exact (List.perm_append_singleton _ _).symm
      · simp only [assign, List.filter_cons, ne_eq, h, not_false_eq_true, decide_true, if_true,
          List.cons_append]
        exact (ih hl.2).cons _

/-- What was there under other keys than those assigned to, and the last assignments. -/
theorem entries_foldl_set_perm (l : List (κ × α)) (d : Dict κ α) :
    (l.foldl (fun acc kv => acc.set kv.1 kv.2) d).entries.Perm
      (d.entries.filter (fun e => decide (e.1 ∉ l.map Prod.fst)) ++ lastAssignments l) := by
  induction l generalizing d with
  | nil => simp [lastAssignments]
  | cons a l ih =>
      rw [List.foldl_cons]
      refine (ih (d.set a.1 a.2)).trans ?_
      have hset := (assign_perm a.1 a.2 d.entries d.nodup).filter
        fun e => decide (e.1 ∉ l.map Prod.fst)
      rw [List.filter_append, List.filter_filter] at hset
      have hothers : d.entries.filter (fun e => decide (e.1 ∉ (a :: l).map Prod.fst))
          = d.entries.filter (fun e => decide (e.1 ∉ l.map Prod.fst) && decide (e.1 ≠ a.1)) := by
        refine List.filter_congr fun e _ => ?_
        rw [← Bool.decide_and, decide_eq_decide, List.map_cons, List.mem_cons, not_or, and_comm]
      rw [hothers, lastAssignments_cons]
      refine (hset.append_right _).trans ?_
      rw [List.append_assoc]
      refine List.Perm.append_left _ ?_
      split
      next hmem =>
        rw [List.filter_singleton, decide_eq_false (not_not.mpr hmem)]
        exact List.Perm.refl _
      next hmem =>
        rw [List.filter_singleton, decide_eq_true hmem]
        exact List.Perm.refl _

/-- **The entries are the last assignments.** -/
theorem entries_ofList_perm (l : List (κ × α)) : (ofList l).entries.Perm (lastAssignments l) :=
  entries_foldl_set_perm l empty

theorem length_filter_lastAssignments_le (l : List (κ × α)) :
    ((lastAssignments l).filter fun e => P e.2).length ≤ (l.filter fun e => P e.2).length :=
  ((List.pwFilter_sublist l).filter _).length_le

/-- As many assignments that matter are kept as there are iff none is overwritten. -/
theorem length_filter_lastAssignments_iff (l : List (κ × α)) :
    ((lastAssignments l).filter fun e => P e.2).length = (l.filter fun e => P e.2).length
      ↔ NotOverwritten P l := by
  induction l with
  | nil => exact iff_of_true rfl List.Pairwise.nil
  | cons a l ih =>
      rw [lastAssignments_cons, notOverwritten_cons, ← ih]
      have hle := length_filter_lastAssignments_le (P := P) l
      cases hP : P a.2 with
      | false => split <;> simp [hP]
      | true =>
          split
          next hmem =>
            refine iff_of_false ?_ fun h => h.1 rfl hmem
            rw [List.filter_cons_of_pos (by exact hP), List.length_cons]
            omega
          next hmem =>
            rw [List.filter_cons_of_pos (by exact hP), List.filter_cons_of_pos (by exact hP),
              List.length_cons, List.length_cons, Nat.add_right_cancel_iff]
            exact (and_iff_right fun _ => hmem).symm

/-- A list of assignments of which none that matters is overwritten keeps these as they are. -/
theorem filter_lastAssignments_of_notOverwritten {l : List (κ × α)} (h : NotOverwritten P l) :
    (lastAssignments l).filter (fun e => P e.2) = l.filter fun e => P e.2 :=
  ((List.pwFilter_sublist l).filter _).eq_of_length ((length_filter_lastAssignments_iff l).mpr h)

/-- **The entries that matter are the assignments that do**, one for one, iff none of these
is overwritten. -/
theorem filter_values_perm_iff (l : List (κ × α)) :
    ((ofList l).values.filter P).Perm ((l.map Prod.snd).filter P) ↔ NotOverwritten P l := by
  have hkept : ((ofList l).values.filter P).Perm
      (((lastAssignments l).filter fun e => P e.2).map Prod.snd) := by
    rw [values_filter]
    exact ((entries_ofList_perm l).filter _).map _
  have hall : (l.map Prod.snd).filter P = (l.filter fun e => P e.2).map Prod.snd := by
    rw [List.filter_map]
    rfl
  rw [hall]
  constructor
  · intro h
    have hlength := (hkept.symm.trans h).length_eq
    rw [List.length_map, List.length_map] at hlength
    exact (length_filter_lastAssignments_iff l).mp hlength
  · intro h
    rw [← filter_lastAssignments_of_notOverwritten h]
    exact hkept

/-- What is kept matters iff all that does not is overwritten. -/
theorem forall_mem_lastAssignments_iff (l : List (κ × α)) :
    (∀ e ∈ lastAssignments l, P e.2 = true) ↔ RestOverwritten P l := by
  induction l with
  | nil =>
      refine iff_of_true (fun e he => absurd he List.not_mem_nil) ?_
      exact fun before a after h => absurd h (by simp)
  | cons a l ih =>
      rw [lastAssignments_cons, restOverwritten_cons, ← ih]
      split
      next hmem => exact (and_iff_right fun _ => hmem).symm
      next hmem =>
        rw [List.forall_mem_cons]
        refine and_congr_left fun _ => ?_
        cases P a.2 <;> simp [hmem]

/-- **The entries are the assignments that matter**, one for one, iff none of these is
overwritten and all others are. -/
theorem values_perm_iff (l : List (κ × α)) :
    (ofList l).values.Perm ((l.map Prod.snd).filter P)
      ↔ NotOverwritten P l ∧ RestOverwritten P l := by
  rw [← filter_values_perm_iff, ← forall_mem_lastAssignments_iff]
  have hmatter : (∀ e ∈ lastAssignments l, P e.2 = true) ↔ ∀ v ∈ (ofList l).values, P v = true := by
    unfold values
    rw [List.forall_mem_map]
    exact forall_congr' fun e => by rw [(entries_ofList_perm l).mem_iff]
  rw [hmatter]
  constructor
  · intro h
    have hvalues : ∀ v ∈ (ofList l).values, P v = true :=
      fun v hv => List.of_mem_filter (h.mem_iff.mp hv)
    refine ⟨?_, hvalues⟩
    rwa [List.filter_eq_self.mpr hvalues]
  · rintro ⟨h, hvalues⟩
    rwa [List.filter_eq_self.mpr hvalues] at h

end Dict

end CmlCloudManager.Foundation
