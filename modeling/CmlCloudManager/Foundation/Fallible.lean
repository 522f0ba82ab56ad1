/-
  CmlCloudManager.Foundation.Fallible
  ───────────────────────────────────
  **COMPUTATIONS THAT MAY FAIL.**

  A sequence of fallible steps succeeds if all of them do:

    • `bind_ok_iff`        — two steps, the second given what the first returned,
    • `exists_bind_ok_iff` — whether they succeed, if only the first decides.
-/

namespace CmlCloudManager.Foundation

variable {ε α β : Type}

/-- A fallible computation that succeeds does so step by step. -/
theorem bind_ok_iff {p : Except ε α} {q : α → Except ε β} {b : β} :
    p >>= q = .ok b ↔ ∃ a, p = .ok a ∧ q a = .ok b := by
  cases p with
  | error e =>
      constructor
      · intro h
        cases h
      · rintro ⟨a, h, -⟩
        cases h
  | ok a =>
      constructor
      · exact fun h => ⟨a, rfl, h⟩
      · rintro ⟨a', ⟨⟩, h⟩
        exact h

/-- Where the second step succeeds whatever the first returns, or never does. -/
theorem exists_bind_ok_iff {p : Except ε α} {q : α → Except ε β} {C : Prop}
    (hq : ∀ a, p = .ok a → ((∃ b, q a = .ok b) ↔ C)) :
    (∃ b, p >>= q = .ok b) ↔ (∃ a, p = .ok a) ∧ C := by
  constructor
  · rintro ⟨b, hb⟩
    obtain ⟨a, ha, hb⟩ := bind_ok_iff.mp hb
    exact ⟨⟨a, ha⟩, (hq a ha).mp ⟨b, hb⟩⟩
  · rintro ⟨⟨a, ha⟩, hC⟩
    obtain ⟨b, hb⟩ := (hq a ha).mpr hC
    exact ⟨b, bind_ok_iff.mpr ⟨a, ha, hb⟩⟩

end CmlCloudManager.Foundation
