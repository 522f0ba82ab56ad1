/-
  CmlCloudManager.Foundation.Links
  ────────────────────────────────
  **LINKS THAT ARE STORED AT BOTH ENDS.**

  A user `s : σ` of a resource `r : ρ` stores which resource it uses; the resource
  stores by which user it is held.  The two ends are written separately, and a user
  that has ended may keep its end.

    • `Exclusive`      — a resource is held by a live user that uses it, and no two
                         live users use one resource,
    • `bind_exclusive_iff`, `leave_exclusive_iff`
                       — when writing both ends, or only the user's end, keeps this,
    • `unlink`         — clearing the resource's end of one user.
-/
import Mathlib.Logic.Function.Basic

namespace CmlCloudManager.Foundation

/-- The ends of the links, the users that have ended, and the resources there are. -/
structure Links (σ ρ : Type) where
  uses : σ → Option ρ
  ended : σ → Prop
  heldBy : ρ → Option σ
  known : ρ → Prop

namespace Links

variable {σ ρ : Type}

/-- **A resource is held by the one live user that uses it.** -/
structure Exclusive (L : Links σ ρ) : Prop where
  bothEnds : ∀ r s, L.heldBy r = some s → L.uses s = some r ∧ ¬ L.ended s
  unique : ∀ r, L.known r → ∀ s s', L.uses s = some r → ¬ L.ended s →
    L.uses s' = some r → ¬ L.ended s' → s = s'

/-- No resource is held by the user. -/
def Free (L : Links σ ρ) (s : σ) : Prop := ∀ r, L.heldBy r ≠ some s

/-- The user is live, no other live user uses the resource, and the user holds no other. -/
structure Bindable (L : Links σ ρ) (s : σ) (r : ρ) : Prop where
  live : ¬ L.ended s
  unused : ∀ s', s' ≠ s → L.uses s' = some r → L.ended s'
  holdsNoOther : ∀ r', r' ≠ r → L.heldBy r' ≠ some s

variable {L : Links σ ρ}

/-- Two links are equal if their ends are. -/
theorem ext_ends {L L' : Links σ ρ} (huses : ∀ s, L.uses s = L'.uses s)
    (hended : ∀ s, L.ended s ↔ L'.ended s) (hheld : ∀ r, L.heldBy r = L'.heldBy r)
    (hknown : ∀ r, L.known r ↔ L'.known r) : L = L' := by
  cases L
  cases L'
  simp only at huses hended hheld hknown
  rw [mk.injEq]
  exact ⟨funext huses, funext fun s => propext (hended s), funext hheld,
    funext fun r => propext (hknown r)⟩

/-- Giving a resource up keeps the links exclusive. -/
theorem Exclusive.release (h : L.Exclusive) {L' : Links σ ρ} (huses : L'.uses = L.uses)
    (hended : L'.ended = L.ended) (hknown : L'.known = L.known)
    (hheld : ∀ r, L'.heldBy r = none ∨ L'.heldBy r = L.heldBy r) : L'.Exclusive := by
  constructor
  · intro r s hs
    rw [huses, hended]
    rcases hheld r with hnone | hsame
    · rw [hnone] at hs
      cases hs
    · exact h.bothEnds r s (hsame ▸ hs)
  · rw [huses, hended, hknown]
    exact h.unique

section Update

variable [DecidableEq σ] [DecidableEq ρ]

/-- Write the end of a user. -/
def setUser (L : Links σ ρ) (s : σ) (r : Option ρ) (ended : Prop) : Links σ ρ :=
  { L with uses := Function.update L.uses s r, ended := Function.update L.ended s ended }

/-- Write the end of a resource. -/
def setHolder (L : Links σ ρ) (r : ρ) (s : Option σ) : Links σ ρ :=
  { L with heldBy := Function.update L.heldBy r s }

/-- Write both ends. -/
def bind (L : Links σ ρ) (s : σ) (r : ρ) : Links σ ρ :=
  (L.setHolder r (some s)).setUser s (some r) (L.ended s)

/-- Clear the end of the resource a user uses, if the user holds it. -/
def unlink (L : Links σ ρ) (s : σ) : Links σ ρ :=
  { L with heldBy := fun r => if L.uses s = some r ∧ L.heldBy r = some s then none else L.heldBy r }

variable {s s' : σ} {r r' : ρ}

omit [DecidableEq ρ] in
@[simp] theorem setUser_uses (o : Option ρ) (e : Prop) :
    (L.setUser s o e).uses s' = if s' = s then o else L.uses s' :=
  Function.update_apply ..

omit [DecidableEq ρ] in
@[simp] theorem setUser_ended (o : Option ρ) (e : Prop) :
    (L.setUser s o e).ended s' = if s' = s then e else L.ended s' :=
  Function.update_apply ..

omit [DecidableEq σ] in
@[simp] theorem setHolder_heldBy (o : Option σ) :
    (L.setHolder r o).heldBy r' = if r' = r then o else L.heldBy r' :=
  Function.update_apply ..

theorem Exclusive.unlink (h : L.Exclusive) (s : σ) : (L.unlink s).Exclusive := by
  refine h.release rfl rfl rfl fun r => ?_
  show (if _ then none else L.heldBy r) = none ∨ (if _ then none else L.heldBy r) = L.heldBy r
  split
  next => exact .inl rfl
  next => exact .inr rfl

/-- A user that is unlinked holds nothing. -/
theorem Exclusive.unlink_free (h : L.Exclusive) (s : σ) : (L.unlink s).Free s := by
  intro r
  show (if L.uses s = some r ∧ L.heldBy r = some s then none else L.heldBy r) ≠ some s
  split
  next => exact nofun
  next hnot => exact fun hheld => hnot ⟨(h.bothEnds r s hheld).1, hheld⟩

/-- **Binding keeps the links exclusive** iff the two may be bound. -/
theorem bind_exclusive_iff (h : L.Exclusive) (hr : L.known r) :
    (L.bind s r).Exclusive ↔ L.Bindable s r := by
  have huses (s' : σ) : (L.bind s r).uses s' = if s' = s then some r else L.uses s' :=
    setUser_uses ..
  have hended (s' : σ) : (L.bind s r).ended s' = L.ended s' := by
    refine (setUser_ended ..).trans ?_
    split
    next heq => rw [heq]
    next => rfl
  have hheld (r' : ρ) : (L.bind s r).heldBy r' = if r' = r then some s else L.heldBy r' :=
    setHolder_heldBy ..
  constructor
  · intro hbound
    have hlive : ¬ L.ended s := by
      have hs := (hbound.bothEnds r s (by rw [hheld, if_pos rfl])).2
      rwa [hended] at hs
    refine ⟨hlive, fun s' hne hs' => ?_, fun r' hne hr' => ?_⟩
    · by_contra hnot
      refine hne (hbound.unique r hr s' s ?_ ?_ ?_ ?_)
      · rw [huses, if_neg hne]
        exact hs'
      · rwa [hended]
      · rw [huses, if_pos rfl]
      · rwa [hended]
    · have hother := (hbound.bothEnds r' s (by rw [hheld, if_neg hne]; exact hr')).1
      rw [huses, if_pos rfl] at hother
      exact hne (Option.some.inj hother).symm
  · rintro ⟨hlive, hothers, hfree⟩
    constructor
    · intro r' s' hs'
      rw [hheld] at hs'
      rw [huses, hended]
      by_cases hr' : r' = r
      · rw [if_pos hr'] at hs'
        obtain rfl := Option.some.inj hs'
        rw [if_pos rfl, hr']
        exact ⟨rfl, hlive⟩
      · rw [if_neg hr'] at hs'
        have hne : s' ≠ s := by
          rintro rfl
          exact hfree r' hr' hs'
        rw [if_neg hne]
        exact h.bothEnds r' s' hs'
    · intro r' hr' s₁ s₂ h₁ l₁ h₂ l₂
      rw [huses] at h₁ h₂
      rw [hended] at l₁ l₂
      -- of two live users of `r` neither is another than `s`
      by_cases e₁ : s₁ = s <;> by_cases e₂ : s₂ = s
      · rw [e₁, e₂]
      · rw [if_pos e₁] at h₁
        rw [if_neg e₂] at h₂
        obtain rfl := Option.some.inj h₁
        exact absurd (hothers s₂ e₂ h₂) l₂
      · rw [if_neg e₁] at h₁
        rw [if_pos e₂] at h₂
        obtain rfl := Option.some.inj h₂
        exact absurd (hothers s₁ e₁ h₁) l₁
      · rw [if_neg e₁] at h₁
        rw [if_neg e₂] at h₂
        exact h.unique r' hr' s₁ s₂ h₁ l₁ h₂ l₂

omit [DecidableEq ρ] in
/-- **Leaving keeps the links exclusive** iff the user holds nothing: it ends, or uses nothing
any more. -/
theorem leave_exclusive_iff (h : L.Exclusive) {o : Option ρ} {e : Prop}
    (hleft : ∀ r, o = some r → e) : (L.setUser s o e).Exclusive ↔ L.Free s := by
  constructor
  · intro hout r hr
    obtain ⟨huses, hlive⟩ := hout.bothEnds r s hr
    rw [setUser_uses, if_pos rfl] at huses
    rw [setUser_ended, if_pos rfl] at hlive
    exact hlive (hleft r huses)
  · intro hfree
    constructor
    · intro r' s' hs'
      have hne : s' ≠ s := by
        rintro rfl
        exact hfree r' hs'
      rw [setUser_uses, setUser_ended, if_neg hne, if_neg hne]
      exact h.bothEnds r' s' hs'
    · intro r' hr' s₁ s₂ h₁ l₁ h₂ l₂
      rw [setUser_uses] at h₁ h₂
      rw [setUser_ended] at l₁ l₂
      have hother : ∀ s', (if s' = s then o else L.uses s') = some r' →
          ¬ (if s' = s then e else L.ended s') → s' ≠ s := by
        rintro s' hs' hl' rfl
        rw [if_pos rfl] at hs' hl'
        exact hl' (hleft r' hs')
      have e₁ := hother s₁ h₁ l₁
      have e₂ := hother s₂ h₂ l₂
      rw [if_neg e₁] at h₁ l₁
      rw [if_neg e₂] at h₂ l₂
      exact h.unique r' hr' s₁ s₂ h₁ l₁ h₂ l₂

end Update

end Links

end CmlCloudManager.Foundation
