/-
  CmlCloudManager.Foundation.Holdings
  ───────────────────────────────────
  **WHO HOLDS WHICH RESOURCE.**

  A table of holdings gives every holder its resources, each under a name of its
  own.  It is `Exclusive` when no resource is held twice, be it by two holders or
  by one holder under two names.

    • `Holds`          — one entry of the table,
    • `inUse`          — the resources that are held at all,
    • `Exclusive.set`  — giving a holder resources nobody has keeps a table exclusive,
                         whatever the holder had before,
    • `Exclusive.erase` — and so does taking all of a holder's resources away,
    • `Change`         — such a step as an entry of a log; what a log of proper changes
                         leaves of a grant and of a withdrawal (`granted_of_log`,
                         `withdrawn_of_log`).
-/
import CmlCloudManager.Foundation.Dict
import CmlCloudManager.Foundation.Replay
import Mathlib.Data.List.Induction

namespace CmlCloudManager.Foundation

variable {κ ν ρ : Type} [DecidableEq κ] [DecidableEq ν]

/-- The holders with their named resources. -/
abbrev Holdings (κ ν ρ : Type) : Type := Dict κ (Dict ν ρ)

/-- No resource stands under two names. -/
def OneName (held : Dict ν ρ) : Prop :=
  ∀ ⦃n n' v⦄, held.get? n = some v → held.get? n' = some v → n' = n

namespace Holdings

/-- The holder `k` has the resource `v` under the name `n`. -/
def Holds (d : Holdings κ ν ρ) (k : κ) (n : ν) (v : ρ) : Prop :=
  ∃ held, d.get? k = some held ∧ held.get? n = some v

/-- All resources that are held, in the order of the table. -/
def inUse (d : Holdings κ ν ρ) : List ρ := d.values.flatMap Dict.values

/-- No resource is held twice. -/
def Exclusive (d : Holdings κ ν ρ) : Prop :=
  ∀ ⦃k n k' n' v⦄, Holds d k n v → Holds d k' n' v → k' = k ∧ n' = n

theorem mem_values_iff {d : Dict ν ρ} {v : ρ} : v ∈ d.values ↔ ∃ n, d.get? n = some v := by
  simp only [Dict.values, List.mem_map, Prod.exists, Dict.get?_eq_some_iff]
  constructor
  · rintro ⟨n, v', hmem, rfl⟩
    exact ⟨n, hmem⟩
  · rintro ⟨n, hmem⟩
    exact ⟨n, v, hmem, rfl⟩

/-- Distinct resources stand under one name each. -/
theorem oneName_of_nodup {held : Dict ν ρ} (h : held.values.Nodup) : OneName held := by
  intro n n' v hn hn'
  have hmem := (Dict.get?_eq_some_iff held n v).mp hn
  have hmem' := (Dict.get?_eq_some_iff held n' v).mp hn'
  exact congrArg Prod.fst (List.inj_on_of_nodup_map h hmem' hmem rfl)

theorem mem_inUse_iff {d : Holdings κ ν ρ} {v : ρ} : v ∈ inUse d ↔ ∃ k n, Holds d k n v := by
  constructor
  · intro h
    obtain ⟨held, hheld, hv⟩ := List.mem_flatMap.mp h
    obtain ⟨k, hk⟩ := mem_values_iff.mp hheld
    obtain ⟨n, hn⟩ := mem_values_iff.mp hv
    exact ⟨k, n, held, hk, hn⟩
  · rintro ⟨k, n, held, hk, hn⟩
    exact List.mem_flatMap.mpr ⟨held, mem_values_iff.mpr ⟨k, hk⟩, mem_values_iff.mpr ⟨n, hn⟩⟩

theorem exclusive_empty : Exclusive (Dict.empty : Holdings κ ν ρ) := by
  rintro k n k' n' v ⟨held, h, -⟩
  cases h

theorem holds_set {d : Holdings κ ν ρ} {k k' : κ} {held : Dict ν ρ} {n : ν} {v : ρ}
    (h : Holds (d.set k held) k' n v) :
    (k' = k ∧ held.get? n = some v) ∨ (k' ≠ k ∧ Holds d k' n v) := by
  obtain ⟨held', hget, hn⟩ := h
  rcases Dict.get?_set_eq_some hget with ⟨hk, rfl⟩ | ⟨hk, hget⟩
  · exact .inl ⟨hk, hn⟩
  · exact .inr ⟨hk, held', hget, hn⟩

theorem holds_erase {d : Holdings κ ν ρ} {k k' : κ} {n : ν} {v : ρ}
    (h : Holds (d.erase k) k' n v) : k' ≠ k ∧ Holds d k' n v := by
  obtain ⟨held, hget, hn⟩ := h
  rw [Dict.get?_erase] at hget
  by_cases hk : k' = k
  · rw [if_pos hk] at hget
    cases hget
  · rw [if_neg hk] at hget
    exact ⟨hk, held, hget, hn⟩

/-- **Resources nobody has may be given to any holder.** -/
theorem Exclusive.set {d : Holdings κ ν ρ} (hd : Exclusive d) (k : κ) {held : Dict ν ρ}
    (hone : OneName held) (hfree : ∀ n v, held.get? n = some v → v ∉ inUse d) :
    Exclusive (d.set k held) := by
  rintro k₁ n₁ k₂ n₂ v h₁ h₂
  rcases holds_set h₁ with ⟨hk₁, hnew₁⟩ | ⟨-, hold₁⟩
  · rcases holds_set h₂ with ⟨hk₂, hnew₂⟩ | ⟨-, hold₂⟩
    · exact ⟨hk₂.trans hk₁.symm, hone hnew₁ hnew₂⟩
    · exact absurd (mem_inUse_iff.mpr ⟨k₂, n₂, hold₂⟩) (hfree n₁ v hnew₁)
  · rcases holds_set h₂ with ⟨-, hnew₂⟩ | ⟨-, hold₂⟩
    · exact absurd (mem_inUse_iff.mpr ⟨k₁, n₁, hold₁⟩) (hfree n₂ v hnew₂)
    · exact hd hold₁ hold₂

theorem Exclusive.erase {d : Holdings κ ν ρ} (hd : Exclusive d) (k : κ) :
    Exclusive (d.erase k) :=
  fun _ _ _ _ _ h₁ h₂ => hd (holds_erase h₁).2 (holds_erase h₂).2

/-! ## §2. Logs of changes. -/

/-- A change of the table. -/
inductive Change (κ ν ρ : Type) where
  | grant (k : κ) (held : Dict ν ρ)
  | withdraw (k : κ)

/-- The table after a change. -/
def changed (d : Holdings κ ν ρ) : Change κ ν ρ → Holdings κ ν ρ
  | .grant k held => d.set k held
  | .withdraw k => d.erase k

/-- A change that may be made: only free resources are granted, and what is withdrawn is
there. -/
def Proper (d : Holdings κ ν ρ) : Change κ ν ρ → Prop
  | .grant _ held => OneName held ∧ ∀ n v, held.get? n = some v → v ∉ inUse d
  | .withdraw k => (d.get? k).isSome

/-- The holder a change gives something to. -/
def Change.grantee : Change κ ν ρ → Option κ
  | .grant k _ => some k
  | .withdraw _ => none

omit [DecidableEq κ] [DecidableEq ν] in
theorem Change.nodup_grantee (c : Change κ ν ρ) : ([c].filterMap Change.grantee).Nodup := by
  cases c with
  | grant => exact List.nodup_singleton _
  | withdraw => exact List.nodup_nil

section Log

variable {d : Holdings κ ν ρ} {k : κ} {held : Dict ν ρ} {log : List (Change κ ν ρ)}

theorem exclusive_of_log (hd : Exclusive d) (hlog : Meets changed Proper d log) :
    Exclusive (replay changed d log) := by
  refine hlog.invariant (fun t c ht hc => ?_) hd
  cases c with
  | grant k held => exact ht.set k hc.1 hc.2
  | withdraw k => exact ht.erase k

/-- The changes up to the last one, and the last one. -/
theorem proper_snoc {before : List (Change κ ν ρ)} {c : Change κ ν ρ}
    (h : Meets changed Proper d (before ++ [c])) :
    Meets changed Proper d before ∧ Proper (replay changed d before) c := by
  obtain ⟨hbefore, hlast, -⟩ := (meets_append before [c] d).mp h
  exact ⟨hbefore, hlast⟩

omit [DecidableEq ν] in
/-- **A grant is kept** as long as it is the only one to its holder and nothing is
withdrawn. -/
theorem granted_of_log (hmem : .grant k held ∈ log) (honce : (log.filterMap Change.grantee).Nodup)
    (hnot : .withdraw k ∉ log) : (replay changed d log).get? k = some held := by
  induction log using List.reverseRecOn with
  | nil => cases hmem
  | append_singleton before c ih =>
      rw [replay_snoc]
      rw [List.filterMap_append, List.nodup_append] at honce
      obtain ⟨hbefore, -, hother⟩ := honce
      rcases List.mem_append.mp hmem with hearlier | hlast
      · have hkept := ih hearlier hbefore fun h => hnot (List.mem_append_left _ h)
        cases c with
        | grant k' held' =>
            have hk : k ≠ k' :=
              hother k (List.mem_filterMap.mpr ⟨.grant k held, hearlier, rfl⟩) k'
                (by simp [Change.grantee])
            exact (Dict.get?_set_ne _ _ _ hk).trans hkept
        | withdraw k' =>
            have hk : k ≠ k' := by
              rintro rfl
              exact hnot (List.mem_append_right _ (List.mem_singleton_self _))
            exact (Dict.get?_erase_ne _ _ hk).trans hkept
      · obtain rfl := List.mem_singleton.mp hlast
        exact Dict.get?_set_self ..

/-- Without a grant a holder that has nothing never does, and nothing is withdrawn. -/
theorem nothing_of_log (hk : d.get? k = none) (hlog : Meets changed Proper d log)
    (hnone : k ∉ log.filterMap Change.grantee) :
    (replay changed d log).get? k = none ∧ .withdraw k ∉ log := by
  induction log using List.reverseRecOn with
  | nil => exact ⟨hk, List.not_mem_nil⟩
  | append_singleton before c ih =>
      obtain ⟨hbefore, hproper⟩ := proper_snoc hlog
      rw [List.filterMap_append, List.mem_append, not_or] at hnone
      obtain ⟨hnothing, hwithdraw⟩ := ih hbefore hnone.1
      rw [replay_snoc]
      cases c with
      | grant k' held' =>
          have hne : k ≠ k' := by
            rintro rfl
            exact hnone.2 (by simp [Change.grantee])
          exact ⟨(Dict.get?_set_ne _ _ _ hne).trans hnothing, by simpa using hwithdraw⟩
      | withdraw k' =>
          have hne : k ≠ k' := by
            rintro rfl
            rw [Proper, hnothing] at hproper
            cases hproper
          exact ⟨(Dict.get?_erase_ne _ _ hne).trans hnothing, by simpa [hne] using hwithdraw⟩

/-- **What is withdrawn is gone**, when a holder that is granted something has nothing at
first and is granted it once. -/
theorem withdrawn_of_log (hlog : Meets changed Proper d log) (hmem : .withdraw k ∈ log)
    (honce : (log.filterMap Change.grantee).Nodup)
    (hfirst : k ∈ log.filterMap Change.grantee → d.get? k = none) :
    (replay changed d log).get? k = none := by
  induction log using List.reverseRecOn with
  | nil => cases hmem
  | append_singleton before c ih =>
      obtain ⟨hbefore, hproper⟩ := proper_snoc hlog
      rw [List.filterMap_append] at honce hfirst
      obtain ⟨hbeforeOnce, -, hother⟩ := List.nodup_append.mp honce
      have hfirst' : k ∈ before.filterMap Change.grantee → d.get? k = none :=
        fun h => hfirst (List.mem_append_left _ h)
      rw [replay_snoc]
      cases c with
      | grant k' held' =>
          have hearlier : .withdraw k ∈ before := by simpa using hmem
          have hne : k ≠ k' := by
            rintro rfl
            -- the grant is the only one, so there was nothing to withdraw before it
            have hgrant : k ∈ [Change.grant k held'].filterMap Change.grantee :=
              List.mem_singleton_self k
            have hnone : k ∉ before.filterMap Change.grantee :=
              fun h => hother k h k hgrant rfl
            exact (nothing_of_log (hfirst (List.mem_append_right _ hgrant)) hbefore hnone).2
              hearlier
          exact (Dict.get?_set_ne _ _ _ hne).trans (ih hbefore hearlier hbeforeOnce hfirst')
      | withdraw k' =>
          by_cases hk : k = k'
          · subst hk
            exact Dict.get?_erase_self ..
          · have hmem : .withdraw k ∈ before := by simpa [hk] using hmem
            exact (Dict.get?_erase_ne _ _ hk).trans (ih hbefore hmem hbeforeOnce hfirst')

end Log

end Holdings

end CmlCloudManager.Foundation
