/-
  CmlCloudManager.Foundation.Dict
  ───────────────────────────────
  **INSERTION-ORDERED DICTIONARIES.**

  `Dict κ α` is a finite map that remembers the order in which its keys were
  first inserted: assigning to a key that is present replaces the value IN
  PLACE, assigning to a fresh key appends.  The key list is duplicate-free by
  construction (`nodup` is a field), so the first entry found for a key is the
  only one and every search below is unambiguous.

    • `get?`/`set`/`erase` and their rewriting rules,
    • `update` — fold a list of assignments,
    • `tally`  — count the keys of a list,
    • `group`  — the values of a list of pairs by key,
    • `entries`-level facts: membership is lookup, keys grow only by `set`.
-/
import Mathlib.Algebra.GroupWithZero.Nat
import Mathlib.Data.List.Nodup

namespace CmlCloudManager.Foundation

/-! ## §1. The structure and its operations. -/

/-- A finite map with distinct keys, in insertion order. -/
structure Dict (κ α : Type) where
  entries : List (κ × α)
  nodup : (entries.map Prod.fst).Nodup

namespace Dict

variable {κ α : Type}

/-- The dictionary with no entry. -/
def empty : Dict κ α := ⟨[], List.nodup_nil⟩

instance : Inhabited (Dict κ α) := ⟨empty⟩

/-- The keys, in insertion order. -/
def keys (d : Dict κ α) : List κ := d.entries.map Prod.fst

/-- The values, in the insertion order of their keys. -/
def values (d : Dict κ α) : List α := d.entries.map Prod.snd

/-- Number of entries. -/
def size (d : Dict κ α) : Nat := d.entries.length

/-- No entry at all. -/
def isEmpty (d : Dict κ α) : Bool := d.entries.isEmpty

theorem ext_entries {d e : Dict κ α} (h : d.entries = e.entries) : d = e := by
  cases d
  cases e
  simp only at h
  subst h
  rfl

instance [DecidableEq κ] [DecidableEq α] : DecidableEq (Dict κ α) :=
  fun d e => decidable_of_iff (d.entries = e.entries) ⟨ext_entries, congrArg Dict.entries⟩

theorem eq_empty_of_isEmpty {d : Dict κ α} (h : d.isEmpty = true) : d = empty :=
  ext_entries (List.isEmpty_iff.mp h)

variable [DecidableEq κ]

/-- Lookup in an association list (first match). -/
def lookup (k : κ) : List (κ × α) → Option α
  | [] => none
  | (k', v) :: rest => if k' = k then some v else lookup k rest

/-- Assignment in an association list: in place when the key is there, appended
otherwise. -/
def assign (k : κ) (v : α) : List (κ × α) → List (κ × α)
  | [] => [(k, v)]
  | (k', v') :: rest => if k' = k then (k, v) :: rest else (k', v') :: assign k v rest

theorem fst_mem_assign (k : κ) (v : α) (l : List (κ × α)) (k' : κ) :
    k' ∈ (assign k v l).map Prod.fst ↔ k' = k ∨ k' ∈ l.map Prod.fst := by
  induction l with
  | nil => simp [assign]
  | cons e rest ih =>
      obtain ⟨k₀, v₀⟩ := e
      by_cases h : k₀ = k
      · subst h
        simp [assign]
      · simp only [assign, if_neg h, List.map_cons, List.mem_cons, ih]
        tauto

theorem nodup_assign (k : κ) (v : α) (l : List (κ × α))
    (hl : (l.map Prod.fst).Nodup) : ((assign k v l).map Prod.fst).Nodup := by
  induction l with
  | nil => simp [assign]
  | cons e rest ih =>
      obtain ⟨k₀, v₀⟩ := e
      rw [List.map_cons, List.nodup_cons] at hl
      by_cases h : k₀ = k
      · subst h
        simpa [assign] using hl
      · simp only [assign, if_neg h, List.map_cons, List.nodup_cons]
        refine ⟨?_, ih hl.2⟩
        rw [fst_mem_assign]
        exact fun hmem => hmem.elim h hl.1

/-- `d[k]`, when there. -/
def get? (d : Dict κ α) (k : κ) : Option α := lookup k d.entries

/-- `k in d`. -/
def contains (d : Dict κ α) (k : κ) : Bool := (d.get? k).isSome

/-- `d[k] = v`. -/
def set (d : Dict κ α) (k : κ) (v : α) : Dict κ α :=
  ⟨assign k v d.entries, nodup_assign k v d.entries d.nodup⟩

/-- `d.pop(k, None)`. -/
def erase (d : Dict κ α) (k : κ) : Dict κ α :=
  ⟨d.entries.filter (fun e => decide (e.1 ≠ k)),
    (List.filter_sublist.map Prod.fst).nodup d.nodup⟩

/-- `d.update(e)`: the assignments of `e`, in its order. -/
def update (d e : Dict κ α) : Dict κ α :=
  e.entries.foldl (fun acc kv => acc.set kv.1 kv.2) d

/-- The dictionary a list of assignments builds. -/
def ofList (l : List (κ × α)) : Dict κ α :=
  l.foldl (fun acc kv => acc.set kv.1 kv.2) empty

/-! ## §2. Lookup after assignment. -/

theorem lookup_assign (k : κ) (v : α) (l : List (κ × α)) (k' : κ) :
    lookup k' (assign k v l) = if k' = k then some v else lookup k' l := by
  induction l with
  | nil =>
      by_cases h : k' = k
      · simp [assign, lookup, h]
      · simp [assign, lookup, h, Ne.symm h]
  | cons e rest ih =>
      -- `k₀` is the key of the entry, `k` is assigned to, `k'` is looked up
      obtain ⟨k₀, v₀⟩ := e
      by_cases h0 : k₀ = k
      · subst h0
        by_cases h : k' = k₀
        · simp [assign, lookup, h]
        · simp [assign, lookup, h, Ne.symm h]
      · by_cases h : k' = k
        · subst h
          simp [assign, lookup, h0, ih]
        · simp [assign, lookup, h0, ih, h]

@[simp] theorem get?_empty (k : κ) : (empty : Dict κ α).get? k = none := rfl

theorem get?_set (d : Dict κ α) (k : κ) (v : α) (k' : κ) :
    (d.set k v).get? k' = if k' = k then some v else d.get? k' :=
  lookup_assign k v d.entries k'

@[simp] theorem get?_set_self (d : Dict κ α) (k : κ) (v : α) :
    (d.set k v).get? k = some v := by
  rw [get?_set, if_pos rfl]

theorem get?_set_ne (d : Dict κ α) (k : κ) (v : α) {k' : κ} (h : k' ≠ k) :
    (d.set k v).get? k' = d.get? k' := by
  rw [get?_set, if_neg h]

/-- An entry of the updated dictionary is the new one or an old one. -/
theorem get?_set_eq_some {d : Dict κ α} {k k' : κ} {v v' : α} (h : (d.set k v).get? k' = some v') :
    (k' = k ∧ v' = v) ∨ (k' ≠ k ∧ d.get? k' = some v') := by
  rw [get?_set] at h
  by_cases hk : k' = k
  · rw [if_pos hk] at h
    exact .inl ⟨hk, (Option.some.inj h).symm⟩
  · rw [if_neg hk] at h
    exact .inr ⟨hk, h⟩

theorem lookup_filter_ne (k k' : κ) (l : List (κ × α)) :
    lookup k' (l.filter (fun e => decide (e.1 ≠ k))) = if k' = k then none else lookup k' l := by
  induction l with
  | nil => simp [lookup]
  | cons e rest ih =>
      obtain ⟨k₀, v₀⟩ := e
      by_cases h0 : k₀ = k
      · -- the entry goes, and so does every later one with its key
        subst h0
        rw [List.filter_cons_of_neg (by simp), ih]
        by_cases h : k' = k₀
        · simp [h]
        · simp [lookup, h, Ne.symm h]
      · rw [List.filter_cons_of_pos (by simpa using h0)]
        by_cases h : k₀ = k'
        · subst h
          simp [lookup, h0]
        · simp only [lookup, if_neg h]
          exact ih

theorem get?_erase (d : Dict κ α) (k k' : κ) :
    (d.erase k).get? k' = if k' = k then none else d.get? k' :=
  lookup_filter_ne k k' d.entries

@[simp] theorem get?_erase_self (d : Dict κ α) (k : κ) : (d.erase k).get? k = none := by
  rw [get?_erase, if_pos rfl]

theorem get?_erase_ne (d : Dict κ α) (k : κ) {k' : κ} (h : k' ≠ k) :
    (d.erase k).get? k' = d.get? k' := by
  rw [get?_erase, if_neg h]

theorem assign_assign (k : κ) (v w : α) (l : List (κ × α)) :
    assign k w (assign k v l) = assign k w l := by
  induction l with
  | nil => simp [assign]
  | cons e rest ih =>
      obtain ⟨k₀, v₀⟩ := e
      by_cases h : k₀ = k
      · subst h
        simp [assign]
      · simp [assign, h, ih]

/-- The last of two assignments to a key is the one that counts. -/
@[simp] theorem set_set (d : Dict κ α) (k : κ) (v w : α) : (d.set k v).set k w = d.set k w := by
  simp only [set, assign_assign]

/-! ## §3. Entries, keys and lookup. -/

theorem lookup_eq_some_iff (k : κ) (v : α) (l : List (κ × α))
    (hl : (l.map Prod.fst).Nodup) : lookup k l = some v ↔ (k, v) ∈ l := by
  induction l with
  | nil => simp [lookup]
  | cons e rest ih =>
      obtain ⟨k₀, v₀⟩ := e
      rw [List.map_cons, List.nodup_cons] at hl
      by_cases h : k₀ = k
      · -- the first match is the only one: the keys of `rest` differ
        subst h
        have hfresh : (k₀, v) ∉ rest :=
          fun hmem => hl.1 (List.mem_map.mpr ⟨_, hmem, rfl⟩)
        simp only [lookup, if_pos, Option.some.injEq, List.mem_cons, Prod.mk.injEq,
          true_and, hfresh, or_false]
        exact eq_comm
      · simp only [lookup, if_neg h, ih hl.2, List.mem_cons, Prod.mk.injEq,
          Ne.symm h, false_and, false_or]

/-- Lookup is membership of the entry. -/
theorem get?_eq_some_iff (d : Dict κ α) (k : κ) (v : α) :
    d.get? k = some v ↔ (k, v) ∈ d.entries :=
  lookup_eq_some_iff k v d.entries d.nodup

theorem mem_keys_iff (d : Dict κ α) (k : κ) : k ∈ d.keys ↔ ∃ v, d.get? k = some v := by
  simp only [keys, List.mem_map, Prod.exists, get?_eq_some_iff]
  constructor
  · rintro ⟨k', v, hmem, rfl⟩
    exact ⟨v, hmem⟩
  · rintro ⟨v, hmem⟩
    exact ⟨k, v, hmem, rfl⟩

theorem contains_iff_mem_keys (d : Dict κ α) (k : κ) : d.contains k = true ↔ k ∈ d.keys := by
  rw [mem_keys_iff, contains, Option.isSome_iff_exists]

theorem contains_eq_false_iff (d : Dict κ α) (k : κ) :
    d.contains k = false ↔ d.get? k = none := by
  rw [contains, Option.isSome_eq_false_iff, Option.isNone_iff_eq_none]

theorem mem_keys_set (d : Dict κ α) (k : κ) (v : α) (k' : κ) :
    k' ∈ (d.set k v).keys ↔ k' = k ∨ k' ∈ d.keys :=
  fst_mem_assign k v d.entries k'

/-- The empty dictionary is the one that finds nothing. -/
theorem isEmpty_iff (d : Dict κ α) : d.isEmpty = true ↔ ∀ k, d.get? k = none := by
  rw [isEmpty, List.isEmpty_iff]
  constructor
  · intro h k
    rw [get?, h]
    rfl
  · intro h
    rw [List.eq_nil_iff_forall_not_mem]
    rintro ⟨k, v⟩ hmem
    have hget : d.get? k = some v := (get?_eq_some_iff d k v).mpr hmem
    rw [h k] at hget
    cases hget

/-- A fresh assignment appends its entry. -/
theorem entries_set_of_fresh (d : Dict κ α) (k : κ) (v : α) (h : d.get? k = none) :
    (d.set k v).entries = d.entries ++ [(k, v)] := by
  have key : ∀ l : List (κ × α), lookup k l = none → assign k v l = l ++ [(k, v)] := by
    intro l
    induction l with
    | nil => intro _; rfl
    | cons e rest ih =>
        obtain ⟨k₀, v₀⟩ := e
        intro hl
        by_cases h0 : k₀ = k
        · simp [lookup, h0] at hl
        · simp only [lookup, if_neg h0] at hl
          simp [assign, h0, ih hl]
  exact key d.entries h

theorem foldl_set_entries :
    ∀ (l : List (κ × α)) (d : Dict κ α), (l.map Prod.fst).Nodup →
      (∀ k ∈ l.map Prod.fst, d.get? k = none) →
      (l.foldl (fun acc kv => acc.set kv.1 kv.2) d).entries = d.entries ++ l
  | [], d, _, _ => by simp
  | (k, v) :: l, d, hnd, hfresh => by
      rw [List.map_cons, List.nodup_cons] at hnd
      have hk : d.get? k = none := hfresh k (by simp)
      rw [List.foldl_cons, foldl_set_entries l (d.set k v) hnd.2 ?_, entries_set_of_fresh d k v hk]
      · simp
      · intro k' hk'
        rw [get?_set_ne _ _ _ ?_, hfresh k' (List.mem_cons_of_mem _ hk')]
        rintro rfl
        exact hnd.1 hk'

/-- What is found under a key was assigned to it. -/
theorem mem_of_get?_foldl_set {k : κ} {v : α} :
    ∀ (l : List (κ × α)) (d : Dict κ α),
      (l.foldl (fun acc kv => acc.set kv.1 kv.2) d).get? k = some v →
        (k, v) ∈ l ∨ d.get? k = some v
  | [], _, h => .inr h
  | (k', v') :: l, d, h => by
      rw [List.foldl_cons] at h
      rcases mem_of_get?_foldl_set l (d.set k' v') h with hmem | hget
      · exact .inl (List.mem_cons_of_mem _ hmem)
      · rcases get?_set_eq_some hget with ⟨rfl, rfl⟩ | ⟨-, hget⟩
        · exact .inl List.mem_cons_self
        · exact .inr hget

theorem mem_of_get?_ofList {l : List (κ × α)} {k : κ} {v : α}
    (h : (ofList l).get? k = some v) : (k, v) ∈ l := by
  rcases mem_of_get?_foldl_set l empty h with hmem | hget
  · exact hmem
  · cases hget

theorem exists_get?_foldl_set {k : κ} :
    ∀ (l : List (κ × α)) (d : Dict κ α), (k ∈ l.map Prod.fst ∨ ∃ v, d.get? k = some v) →
      ∃ v, (l.foldl (fun acc kv => acc.set kv.1 kv.2) d).get? k = some v
  | [], _, h => h.resolve_left List.not_mem_nil
  | (k', v') :: l, d, h => by
      rw [List.foldl_cons]
      refine exists_get?_foldl_set l (d.set k' v') ?_
      rcases h with hmem | ⟨v, hget⟩
      · rcases List.mem_cons.mp hmem with rfl | hmem
        · exact .inr ⟨v', get?_set_self d k v'⟩
        · exact .inl hmem
      · -- the key was there before, and still is
        by_cases hk : k = k'
        · subst hk
          exact .inr ⟨v', get?_set_self d k v'⟩
        · exact .inr ⟨v, (get?_set_ne d k' v' hk).trans hget⟩

/-- What was assigned to is found. -/
theorem exists_get?_ofList {l : List (κ × α)} {k : κ} (h : k ∈ l.map Prod.fst) :
    ∃ v, (ofList l).get? k = some v :=
  exists_get?_foldl_set l empty (.inl h)

/-- Assignments to distinct keys are the entries they build. -/
theorem entries_ofList {l : List (κ × α)} (h : (l.map Prod.fst).Nodup) :
    (ofList l).entries = l := by
  rw [ofList, foldl_set_entries l _ h (by simp)]
  rfl

/-- Distinct keys paired with as many values or more. -/
theorem entries_ofList_zip {ks : List κ} {vs : List α} (hks : ks.Nodup)
    (hlength : ks.length ≤ vs.length) : (ofList (ks.zip vs)).entries = ks.zip vs := by
  refine entries_ofList ?_
  rw [List.map_fst_zip hlength]
  exact hks

/-- A dictionary is built by its own entries. -/
@[simp] theorem ofList_entries (d : Dict κ α) : ofList d.entries = d :=
  ext_entries (entries_ofList d.nodup)

theorem mem_of_lookup {k : κ} {v : α} : ∀ {l : List (κ × α)}, lookup k l = some v → (k, v) ∈ l
  | (k', v') :: l, h => by
      rw [lookup] at h
      split at h
      next heq =>
        cases h
        exact heq ▸ List.mem_cons_self
      next => exact List.mem_cons_of_mem _ (mem_of_lookup h)

theorem lookup_eq_none_iff (k : κ) (l : List (κ × α)) :
    lookup k l = none ↔ k ∉ l.map Prod.fst := by
  induction l with
  | nil => simp [lookup]
  | cons e rest ih =>
      obtain ⟨k₀, v₀⟩ := e
      rw [List.map_cons, List.mem_cons, not_or, lookup]
      split
      next h => exact iff_of_false (Option.some_ne_none _) fun hne => hne.1 h.symm
      next h => rw [ih, and_iff_right (Ne.symm h)]

theorem get?_foldl_set (k : κ) :
    ∀ (l : List (κ × α)) (d : Dict κ α), (l.map Prod.fst).Nodup →
      (l.foldl (fun acc kv => acc.set kv.1 kv.2) d).get? k = (lookup k l).or (d.get? k)
  | [], _, _ => rfl
  | (k', v) :: l, d, hnodup => by
      rw [List.map_cons, List.nodup_cons] at hnodup
      rw [List.foldl_cons, get?_foldl_set k l _ hnodup.2, lookup]
      split
      next h =>
        subst h
        rw [(lookup_eq_none_iff k' l).mpr hnodup.1, get?_set_self]
        rfl
      next h => rw [get?_set_ne _ _ _ (Ne.symm h)]

/-- **What an update leaves under a key.** -/
theorem get?_update (d e : Dict κ α) (k : κ) : (d.update e).get? k = (e.get? k).or (d.get? k) :=
  get?_foldl_set k e.entries d e.nodup

theorem get?_update_ofList_of_not_mem (d : Dict κ α) {l : List (κ × α)} {k : κ}
    (h : k ∉ l.map Prod.fst) : (d.update (ofList l)).get? k = d.get? k := by
  rw [get?_update]
  cases hget : (ofList l).get? k with
  | none => rfl
  | some v => exact absurd (List.mem_map_of_mem (mem_of_get?_ofList hget)) h

/-- An assignment leaves a dictionary alone if it assigns what is there. -/
theorem set_eq_self_iff (d : Dict κ α) (k : κ) (v : α) : d.set k v = d ↔ d.get? k = some v := by
  constructor
  · intro h
    rw [← h, get?_set_self]
  · intro h
    have key : ∀ l : List (κ × α), lookup k l = some v → assign k v l = l := by
      intro l
      induction l with
      | nil => exact nofun
      | cons e rest ih =>
          obtain ⟨k₀, v₀⟩ := e
          intro hl
          by_cases h0 : k₀ = k
          · subst h0
            rw [lookup, if_pos rfl] at hl
            cases hl
            rw [assign, if_pos rfl]
          · rw [lookup, if_neg h0] at hl
            rw [assign, if_neg h0, ih hl]
    exact ext_entries (key d.entries h)

/-- Assigning to a key and taking it out again leaves alone only what did not have it. -/
theorem erase_set_eq_self_iff (d : Dict κ α) (k : κ) (v : α) :
    (d.set k v).erase k = d ↔ d.get? k = none := by
  constructor
  · intro h
    rw [← h, get?_erase_self]
  · intro h
    have hfresh : ∀ entry ∈ d.entries, decide (entry.1 ≠ k) = true := by
      intro entry hentry
      have hne := (lookup_eq_none_iff k d.entries).mp h
      exact decide_eq_true fun heq => hne (heq ▸ List.mem_map_of_mem hentry)
    refine ext_entries ?_
    change (d.set k v).entries.filter _ = d.entries
    rw [entries_set_of_fresh d k v h, List.filter_append, List.filter_eq_self.mpr hfresh]
    simp

/-! ## §4. Counting. -/

/-- `d[k] = d.get(k, 0) + 1`. -/
def countUp (d : Dict κ Nat) (k : κ) : Dict κ Nat := d.set k ((d.get? k).getD 0 + 1)

/-- How often each key is in a list. -/
def tally (ks : List κ) : Dict κ Nat := ks.foldl countUp empty

theorem sum_assign (k : κ) (v : Nat) (l : List (κ × Nat)) :
    ((assign k v l).map Prod.snd).sum + (lookup k l).getD 0 = (l.map Prod.snd).sum + v := by
  induction l with
  | nil => simp [assign, lookup]
  | cons e rest ih =>
      obtain ⟨k₀, v₀⟩ := e
      by_cases h : k₀ = k
      · simp only [assign, lookup, if_pos h, List.map_cons, List.sum_cons, Option.getD_some]
        omega
      · simp only [assign, lookup, if_neg h, List.map_cons, List.sum_cons]
        omega

theorem sum_values_countUp (d : Dict κ Nat) (k : κ) :
    (d.countUp k).values.sum = d.values.sum + 1 := by
  have h := sum_assign k ((d.get? k).getD 0 + 1) d.entries
  show ((assign k _ d.entries).map Prod.snd).sum = (d.entries.map Prod.snd).sum + 1
  unfold get? at h ⊢
  omega

theorem sum_values_foldl_countUp :
    ∀ (ks : List κ) (d : Dict κ Nat), (ks.foldl countUp d).values.sum = d.values.sum + ks.length
  | [], _ => rfl
  | k :: ks, d => by
      rw [List.foldl_cons, sum_values_foldl_countUp ks, sum_values_countUp, List.length_cons]
      omega

theorem getD_foldl_countUp (k : κ) :
    ∀ (ks : List κ) (d : Dict κ Nat),
      ((ks.foldl countUp d).get? k).getD 0 = (d.get? k).getD 0 + ks.count k
  | [], _ => rfl
  | k' :: ks, d => by
      rw [List.foldl_cons, getD_foldl_countUp k ks, countUp, get?_set, List.count_cons]
      by_cases h : k = k'
      · subst h
        simp only [if_pos, Option.getD_some, beq_self_eq_true]
        omega
      · rw [if_neg h, if_neg (by simpa using Ne.symm h), Nat.add_zero]

/-- **The counts of a tally.** -/
theorem getD_tally (ks : List κ) (k : κ) : ((tally ks).get? k).getD 0 = ks.count k := by
  rw [tally, getD_foldl_countUp, get?_empty, Option.getD_none, Nat.zero_add]

/-- **They add up to the length of the list.** -/
theorem sum_values_tally (ks : List κ) : (tally ks).values.sum = ks.length := by
  rw [tally, sum_values_foldl_countUp]
  exact Nat.zero_add _

/-! ## §5. Grouping. -/

/-- `d.setdefault(k, []).append(v)`. -/
def push (d : Dict κ (List α)) (k : κ) (v : α) : Dict κ (List α) :=
  d.set k ((d.get? k).getD [] ++ [v])

/-- The values of a list of pairs, by key. -/
def group (l : List (κ × α)) : Dict κ (List α) :=
  l.foldl (fun d kv => d.push kv.1 kv.2) empty

/-- The values that are paired with a key. -/
def valuesOf (k : κ) (l : List (κ × α)) : List α :=
  l.filterMap fun kv => if kv.1 = k then some kv.2 else none

theorem mem_valuesOf {k : κ} {v : α} {l : List (κ × α)} : v ∈ valuesOf k l ↔ (k, v) ∈ l := by
  unfold valuesOf
  rw [List.mem_filterMap]
  constructor
  · rintro ⟨⟨k', v'⟩, hmem, heq⟩
    split at heq
    next hk =>
      cases heq
      exact hk ▸ hmem
    next => cases heq
  · intro hmem
    exact ⟨(k, v), hmem, if_pos rfl⟩

theorem get?_foldl_push (k : κ) :
    ∀ (l : List (κ × α)) (d : Dict κ (List α)), d.get? k ≠ some [] →
      (l.foldl (fun d kv => d.push kv.1 kv.2) d).get? k
        = if valuesOf k l = [] then d.get? k else some ((d.get? k).getD [] ++ valuesOf k l)
  | [], d, _ => by rw [if_pos] <;> rfl
  | (k', v) :: l, d, h => by
      rw [List.foldl_cons]
      by_cases hk : k' = k
      · subst hk
        have hset : (d.push k' v).get? k' = some ((d.get? k').getD [] ++ [v]) :=
          get?_set_self d k' _
        have hvalues : valuesOf k' ((k', v) :: l) = v :: valuesOf k' l := by
          simp [valuesOf]
        rw [get?_foldl_push k' l _ (by simp [hset]), hset, hvalues, if_neg (List.cons_ne_nil _ _)]
        split
        next hnil => rw [hnil]
        next => rw [Option.getD_some, List.append_assoc, List.singleton_append]
      · have hset : (d.push k' v).get? k = d.get? k := get?_set_ne d k' _ (Ne.symm hk)
        have hvalues : valuesOf k ((k', v) :: l) = valuesOf k l := by
          simp [valuesOf, hk]
        rw [get?_foldl_push k l _ (hset ▸ h), hset, hvalues]

/-- **A group** is the values of its key, if there are any. -/
theorem get?_group (l : List (κ × α)) (k : κ) :
    (group l).get? k = if valuesOf k l = [] then none else some (valuesOf k l) := by
  unfold group
  rw [get?_foldl_push k l empty (by simp)]
  simp

end Dict

end CmlCloudManager.Foundation
