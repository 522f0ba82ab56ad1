/-
  CmlCloudManager.Foundation.LeasedKey
  ────────────────────────────────────
  **ONE KEY OF A LEASE-BASED STORE.**

  A store grants leases and lets a key be created under a lease; when the lease
  expires or is revoked, the key goes with it.  Creating the key is atomic and
  fails while the key exists.

    • `LeasedKey`     — the key, the leases that are alive, the next lease,
    • `Held s v l`    — IF lease `l` is alive, the key is `v`'s under `l`,
    • `Evolves s s'`  — what every operation does to `Held`: it stays,
    • `grant`, `putIfNotExists`, `drop` with one `evolves_` rule each.

  The owner of a lease cannot see from `Held` whether the lease is alive; that is
  the point of stating it so: it is what survives without looking.
-/
import Mathlib.Data.List.Basic

namespace CmlCloudManager.Foundation

variable {ν : Type}

/-- The key (value and lease it was created under) and the leases. -/
structure LeasedKey (ν : Type) where
  next : Nat
  live : List Nat
  key : Option (ν × Nat)
  live_lt : ∀ l ∈ live, l < next
  bound_live : ∀ v l, key = some (v, l) → l ∈ live

namespace LeasedKey

/-- No lease, no key. -/
def empty : LeasedKey ν where
  next := 0
  live := []
  key := none
  live_lt := by simp
  bound_live := by simp

/-- A fresh lease, whose number is `next`. -/
def grant (s : LeasedKey ν) : LeasedKey ν where
  next := s.next + 1
  live := s.next :: s.live
  key := s.key
  live_lt := by
    intro l hl
    rcases List.mem_cons.mp hl with rfl | hl
    · exact Nat.lt_succ_self _
    · exact Nat.lt_succ_of_lt (s.live_lt l hl)
  bound_live := fun v l hk => List.mem_cons_of_mem _ (s.bound_live v l hk)

/-- May the key be created under `l`?  It must not exist, and `l` must be alive. -/
def Creatable (s : LeasedKey ν) (l : Nat) : Prop := s.key = none ∧ l ∈ s.live

instance (s : LeasedKey ν) (l : Nat) : Decidable (s.Creatable l) :=
  inferInstanceAs (Decidable (s.key = none ∧ l ∈ s.live))

/-- Create the key under the lease, if it does not exist. -/
def putIfNotExists (s : LeasedKey ν) (v : ν) (l : Nat) : LeasedKey ν :=
  if h : s.Creatable l then
    { s with
      key := some (v, l)
      bound_live := by
        intro v' l' hk
        obtain ⟨-, rfl⟩ := Prod.mk.inj (Option.some.inj hk)
        exact h.2 }
  else s

/-- The lease is gone (it expired or was revoked), and the key with it if it was bound to it. -/
def drop (s : LeasedKey ν) (l : Nat) : LeasedKey ν where
  next := s.next
  live := s.live.filter (· ≠ l)
  key := s.key.filter (fun b => b.2 ≠ l)
  live_lt := fun l' hl => s.live_lt l' (List.mem_of_mem_filter hl)
  bound_live := by
    intro v l' hk
    obtain ⟨hk, hne⟩ := Option.filter_eq_some_iff.mp hk
    exact List.mem_filter.mpr ⟨s.bound_live v l' hk, hne⟩

/-! ## §1. What an owner may rely on -/

/-- If lease `l` is alive, the key is `v`'s under `l`. -/
def Held (s : LeasedKey ν) (v : ν) (l : Nat) : Prop := l ∈ s.live → s.key = some (v, l)

/-- The step from `s` to `s'` takes no key from the holder of a live lease. -/
structure Evolves (s s' : LeasedKey ν) : Prop where
  next_le : s.next ≤ s'.next
  held : ∀ v l, l < s.next → s.Held v l → s'.Held v l

theorem Evolves.refl (s : LeasedKey ν) : s.Evolves s := ⟨Nat.le_refl _, fun _ _ _ h => h⟩

theorem evolves_grant (s : LeasedKey ν) : s.Evolves s.grant where
  next_le := Nat.le_succ _
  held := by
    intro v l hl hheld halive
    -- an older lease is alive now only if it was before
    rcases List.mem_cons.mp halive with rfl | halive
    · exact absurd hl (Nat.lt_irrefl _)
    · exact hheld halive

theorem evolves_putIfNotExists (s : LeasedKey ν) (v : ν) (l : Nat) :
    s.Evolves (s.putIfNotExists v l) := by
  unfold putIfNotExists
  split
  next hfree =>
    refine ⟨Nat.le_refl _, ?_⟩
    intro v' l' _ hheld halive
    -- a live holder has the key, so it could not have been created
    have hkey : s.key = some (v', l') := hheld halive
    rw [hfree.1] at hkey
    cases hkey
  next => exact Evolves.refl s

theorem evolves_drop (s : LeasedKey ν) (l : Nat) : s.Evolves (s.drop l) where
  next_le := Nat.le_refl _
  held := by
    intro v l' _ hheld halive
    obtain ⟨halive, hne⟩ := List.mem_filter.mp halive
    show s.key.filter _ = some (v, l')
    rw [hheld halive]
    exact Option.filter_eq_some_iff.mpr ⟨rfl, hne⟩

/-- A key that could be created is created. -/
theorem putIfNotExists_held {s : LeasedKey ν} {v : ν} {l : Nat} (h : s.Creatable l) :
    (s.putIfNotExists v l).Held v l := by
  intro _
  unfold putIfNotExists
  rw [dif_pos h]

end LeasedKey

end CmlCloudManager.Foundation
