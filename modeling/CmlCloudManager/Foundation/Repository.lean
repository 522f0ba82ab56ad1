/-
  CmlCloudManager.Foundation.Repository
  ─────────────────────────────────────
  **DOCUMENTS STORED UNDER THEIR OWN ID.**

  A repository finds a document by its id and saves a document under the id it
  carries.  The two agree by construction: `keyed` is a field, so that what is
  found under an id has that id, and saving a changed copy replaces the original
  as long as the change keeps the id.  `saveEach` does so for several documents.
-/
import CmlCloudManager.Foundation.Dict

namespace CmlCloudManager.Foundation

variable {α : Type} {idOf : α → String}

/-- Documents by id. -/
structure Repository (α : Type) (idOf : α → String) where
  docs : Dict String α
  keyed : ∀ k d, docs.get? k = some d → idOf d = k

namespace Repository

/-- The repository without documents. -/
def empty : Repository α idOf := ⟨Dict.empty, fun _ _ h => by cases h⟩

/-- The document with an id. -/
def find (r : Repository α idOf) (k : String) : Option α := r.docs.get? k

/-- Store a document under its id. -/
def save (r : Repository α idOf) (d : α) : Repository α idOf where
  docs := r.docs.set (idOf d) d
  keyed := by
    intro k d' h
    rcases Dict.get?_set_eq_some h with ⟨hk, hd⟩ | ⟨-, h⟩
    · rw [hk, hd]
    · exact r.keyed k d' h

/-- The repository with the given documents. -/
def ofList (l : List α) : Repository α idOf := l.foldl save empty

theorem id_of_find {r : Repository α idOf} {k : String} {d : α} (h : r.find k = some d) :
    idOf d = k := r.keyed k d h

theorem find_save (r : Repository α idOf) (d : α) (k : String) :
    (r.save d).find k = if k = idOf d then some d else r.find k :=
  Dict.get?_set r.docs (idOf d) d k

@[simp] theorem find_save_self (r : Repository α idOf) (d : α) :
    (r.save d).find (idOf d) = some d := by
  rw [find_save, if_pos rfl]

theorem find_save_ne (r : Repository α idOf) (d : α) {k : String} (h : k ≠ idOf d) :
    (r.save d).find k = r.find k := by
  rw [find_save, if_neg h]

/-- Saving a changed copy of a document replaces it. -/
theorem find_save_of_id {r : Repository α idOf} {d : α} {k : String} (h : idOf d = k)
    (k' : String) : (r.save d).find k' = if k' = k then some d else r.find k' := by
  rw [find_save, h]

/-- Repositories with the same documents in the same order are equal. -/
theorem ext_docs {r r' : Repository α idOf} (h : r.docs = r'.docs) : r = r' := by
  cases r
  cases r'
  simp only at h
  subst h
  rfl

/-- Of two documents saved under one id the later one is stored. -/
theorem save_save {r : Repository α idOf} {d d' : α} (h : idOf d' = idOf d) :
    (r.save d).save d' = r.save d' := by
  refine ext_docs ?_
  show (r.docs.set (idOf d) d).set (idOf d') d' = r.docs.set (idOf d') d'
  rw [h, Dict.set_set]

/-! ## Changing several documents. -/

/-- All documents. -/
def all (r : Repository α idOf) : List α := r.docs.values

theorem mem_all_iff {r : Repository α idOf} {d : α} : d ∈ r.all ↔ r.find (idOf d) = some d := by
  unfold all find Dict.values
  rw [List.mem_map, Dict.get?_eq_some_iff]
  constructor
  · rintro ⟨⟨k, d'⟩, hmem, rfl⟩
    have hkey : idOf d' = k := r.keyed k d' ((Dict.get?_eq_some_iff r.docs k d').mpr hmem)
    rw [hkey]
    exact hmem
  · exact fun h => ⟨_, h, rfl⟩

/-- Save a changed copy of each of the documents, one after the other. -/
def saveEach (change : α → α) (r : Repository α idOf) (l : List α) : Repository α idOf :=
  l.foldl (fun r d => r.save (change d)) r

section SaveEach

variable {change : α → α} (hid : ∀ d, idOf (change d) = idOf d)
include hid

theorem find_saveEach_of_not_mem {k : String} :
    ∀ {l : List α} {r : Repository α idOf}, (∀ d ∈ l, idOf d ≠ k) →
      (r.saveEach change l).find k = r.find k
  | [], _, _ => rfl
  | d :: rest, r, h => by
      have hk : k ≠ idOf (change d) := by
        rw [hid]
        exact (h d List.mem_cons_self).symm
      show ((r.save (change d)).saveEach change rest).find k = _
      rw [find_saveEach_of_not_mem fun e he => h e (List.mem_cons_of_mem d he),
        find_save_ne r (change d) hk]

/-- A document whose id no other of them has is replaced by its changed copy. -/
theorem find_saveEach_of_mem {d : α} :
    ∀ {l : List α} {r : Repository α idOf}, d ∈ l → (∀ e ∈ l, idOf e = idOf d → e = d) →
      (r.saveEach change l).find (idOf d) = some (change d)
  | e :: rest, r, hd, hunique => by
      show ((r.save (change e)).saveEach change rest).find (idOf d) = _
      by_cases hrest : d ∈ rest
      · exact find_saveEach_of_mem hrest fun e' he' => hunique e' (List.mem_cons_of_mem e he')
      · obtain rfl : d = e := (List.mem_cons.mp hd).resolve_right hrest
        have hother : ∀ e' ∈ rest, idOf e' ≠ idOf d := by
          intro e' he' hkey
          rw [hunique e' (List.mem_cons_of_mem d he') hkey] at he'
          exact hrest he'
        rw [find_saveEach_of_not_mem hid hother]
        have hself := find_save_self r (change d)
        rwa [hid] at hself

/-- **Changing the documents that meet a condition** changes these and no others. -/
theorem find_saveEach_filter (p : α → Bool) (r : Repository α idOf) (k : String) :
    (r.saveEach change (r.all.filter p)).find k
      = (r.find k).map fun d => if p d then change d else d := by
  cases hk : r.find k with
  | none =>
      rw [find_saveEach_of_not_mem hid, hk]
      · rfl
      · intro d hd hkey
        have := mem_all_iff.mp (List.mem_filter.mp hd).1
        rw [hkey, hk] at this
        cases this
  | some d =>
      have hkey : idOf d = k := id_of_find hk
      subst hkey
      have hunique : ∀ e ∈ r.all, idOf e = idOf d → e = d := by
        intro e he heq
        have := mem_all_iff.mp he
        rw [heq, hk] at this
        exact (Option.some.inj this).symm
      by_cases hp : p d = true
      · rw [Option.map_some, if_pos hp]
        exact find_saveEach_of_mem hid (List.mem_filter.mpr ⟨mem_all_iff.mpr hk, hp⟩)
          fun e he => hunique e (List.mem_filter.mp he).1
      · rw [Option.map_some, if_neg hp, find_saveEach_of_not_mem hid, hk]
        intro e he heq
        obtain ⟨hmem, hpe⟩ := List.mem_filter.mp he
        rw [hunique e hmem heq] at hpe
        exact hp hpe

end SaveEach

end Repository

end CmlCloudManager.Foundation
