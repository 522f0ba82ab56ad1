/-
  CmlCloudManager.Foundation.VersionedStore
  ─────────────────────────────────────────
  **DOCUMENTS WRITTEN BY READ-MODIFY-WRITE.**

  A client reads a document, changes its copy and writes the copy back; in between
  others may have written.  The store either rejects a write whose copy is
  outdated, or lets the last write win.

    • `ReadFrom store k copy` — the copy is one that was once read under `k`,
    • `ReadFrom.write`        — it stays one, whoever writes,
    • `ReadFrom.current`      — a store that rejects stale writes accepts a write
                                only while the copy is the stored document, so
                                that the read-modify-write is atomic,
    • `BasedOn store k v P`   — what a client read at version `v` had the property,
    • `AllDocs`               — what every written document has, all documents have.
-/
import Mathlib.Logic.Function.Basic

namespace CmlCloudManager.Foundation

variable {κ α : Type}

/-- What the store does with a write based on an outdated read. -/
inductive WriteMode where
  | rejectStale
  | lastWriteWins
  deriving DecidableEq, Repr

/-- A document and the number of writes it has seen. -/
structure Versioned (α : Type) where
  version : Nat
  doc : α

/-- Versioned documents by key. -/
def VersionedStore (κ α : Type) : Type := κ → Option (Versioned α)

namespace VersionedStore

/-- The copy was read under the key: it is not newer than what is stored, and it is what is
stored if it is as new. -/
def ReadFrom (store : VersionedStore κ α) (k : κ) (copy : Versioned α) : Prop :=
  ∃ stored, store k = some stored ∧ copy.version ≤ stored.version
    ∧ (copy.version = stored.version → copy = stored)

/-- A client works on what it once read at the version, which had the property. -/
def BasedOn (store : VersionedStore κ α) (k : κ) (version : Nat) (P : α → Prop) : Prop :=
  ∃ read, store.ReadFrom k read ∧ read.version = version ∧ P read.doc

/-- Copies that were read stay such copies. -/
def Grows (store store' : VersionedStore κ α) : Prop :=
  ∀ k copy, store.ReadFrom k copy → store'.ReadFrom k copy

/-- Every document has the property. -/
def AllDocs (P : κ → α → Prop) (store : VersionedStore κ α) : Prop :=
  ∀ k stored, store k = some stored → P k stored.doc

theorem readFrom_stored {store : VersionedStore κ α} {k : κ} {stored : Versioned α}
    (h : store k = some stored) : store.ReadFrom k stored :=
  ⟨stored, h, Nat.le_refl _, fun _ => rfl⟩

theorem Grows.refl (store : VersionedStore κ α) : Grows store store := fun _ _ h => h

theorem BasedOn.grows {store store' : VersionedStore κ α} {k : κ} {version : Nat}
    {P : α → Prop} (h : store.BasedOn k version P) (hgrows : Grows store store') :
    store'.BasedOn k version P := by
  obtain ⟨read, hread, hversion, hP⟩ := h
  exact ⟨read, hgrows k read hread, hversion, hP⟩

/-- As long as nobody has written since, the property holds of what is stored. -/
theorem BasedOn.stored {store : VersionedStore κ α} {k : κ} {stored : Versioned α}
    {P : α → Prop} (h : store.BasedOn k stored.version P) (hstored : store k = some stored) :
    P stored.doc := by
  obtain ⟨read, ⟨stored', hstored', -, hsame⟩, hversion, hP⟩ := h
  obtain rfl := Option.some.inj (hstored.symm.trans hstored')
  rwa [hsame hversion] at hP

variable [DecidableEq κ]

/-- Write a document that was read at a version; `none` is the exception of a rejected write. -/
def write (mode : WriteMode) (store : VersionedStore κ α) (k : κ) (read : Nat) (doc : α) :
    Option (VersionedStore κ α) :=
  match store k with
  | none => none
  | some stored =>
      if mode = .rejectStale ∧ stored.version ≠ read then none
      else some (Function.update store k (some ⟨stored.version + 1, doc⟩))

section Write

variable {mode : WriteMode} {store store' : VersionedStore κ α} {k k' : κ} {read : Nat} {doc : α}

/-- **The effect of a write.** -/
theorem write_eq_some (h : store.write mode k read doc = some store') :
    ∃ stored, store k = some stored
      ∧ store' = Function.update store k (some ⟨stored.version + 1, doc⟩)
      ∧ (mode = .rejectStale → stored.version = read) := by
  unfold write at h
  cases hstored : store k with
  | none =>
      rw [hstored] at h
      cases h
  | some stored =>
      rw [hstored] at h
      simp only [Option.ite_none_left_eq_some, not_and, not_not] at h
      exact ⟨stored, rfl, (Option.some.inj h.2).symm, h.1⟩

/-- The document is there after the write. -/
theorem find_write_self (h : store.write mode k read doc = some store') :
    ∃ stored, store' k = some stored ∧ stored.doc = doc := by
  obtain ⟨stored, -, rfl, -⟩ := write_eq_some h
  exact ⟨_, Function.update_self .., rfl⟩

/-- The other documents are left alone. -/
theorem find_write_ne (h : store.write mode k read doc = some store') (hk : k' ≠ k) :
    store' k' = store k' := by
  obtain ⟨stored, -, rfl, -⟩ := write_eq_some h
  exact Function.update_of_ne hk ..

/-- A copy that was read stays one, whoever writes. -/
theorem ReadFrom.write {copy : Versioned α} (hcopy : store.ReadFrom k' copy)
    (h : store.write mode k read doc = some store') : store'.ReadFrom k' copy := by
  obtain ⟨old, hold, hle, hsame⟩ := hcopy
  obtain ⟨stored, hstored, rfl, -⟩ := write_eq_some h
  by_cases hk : k' = k
  · subst hk
    obtain rfl := Option.some.inj (hold.symm.trans hstored)
    refine ⟨_, Function.update_self .., Nat.le_succ_of_le hle, fun hversion => ?_⟩
    -- the stored version has just passed the copy's
    exact absurd hversion (Nat.ne_of_lt (Nat.lt_succ_of_le hle))
  · exact ⟨old, (Function.update_of_ne hk ..).trans hold, hle, hsame⟩

/-- A write lets the others' copies stand. -/
theorem grows_write (h : store.write mode k read doc = some store') : Grows store store' :=
  fun _ _ hcopy => hcopy.write h

/-- A new document changes no copy of another one. -/
theorem grows_insert (hnew : store k = none) (new : Versioned α) :
    Grows store (Function.update store k (some new)) := by
  rintro k' copy ⟨stored, hstored, hread⟩
  have hk : k' ≠ k := by
    rintro rfl
    rw [hnew] at hstored
    cases hstored
  exact ⟨stored, (Function.update_of_ne hk ..).trans hstored, hread⟩

/-- **Atomicity**: a store that rejects stale writes accepts a write only while the copy it is
based on is the stored document. -/
theorem ReadFrom.current {copy : Versioned α} (hcopy : store.ReadFrom k copy)
    (h : store.write .rejectStale k copy.version doc = some store') : store k = some copy := by
  obtain ⟨stored, hstored, -, hsame⟩ := hcopy
  obtain ⟨stored', hstored', -, hversion⟩ := write_eq_some h
  obtain rfl := Option.some.inj (hstored.symm.trans hstored')
  rw [hstored, hsame (hversion rfl).symm]

/-- A property of the written document and of all documents before. -/
theorem AllDocs.write {P : κ → α → Prop} (hall : AllDocs P store) (hdoc : P k doc)
    (h : store.write mode k read doc = some store') : AllDocs P store' := by
  intro k' stored hstored
  by_cases hk : k' = k
  · subst hk
    obtain ⟨stored', hstored', hdoc'⟩ := find_write_self h
    obtain rfl := Option.some.inj (hstored.symm.trans hstored')
    exact hdoc' ▸ hdoc
  · rw [find_write_ne h hk] at hstored
    exact hall k' stored hstored

end Write

end VersionedStore

end CmlCloudManager.Foundation
