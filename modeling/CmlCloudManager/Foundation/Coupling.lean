/-
  CmlCloudManager.Foundation.Coupling
  ───────────────────────────────────
  **TWO RUNS SIDE BY SIDE.**

  Two programs, each in an environment of its own, are compared by what can be seen of
  their calls and by their results:

    • `CoupledUnless` — unless the run of the first one has a bad event, both show the
      same, and their results are related,
    • `coupled_await`, `CoupledUnless.bind` — the rules for a call and for a sequence,
    • `CoupledUnless.bind_bad` — where a bad event of a sequence can be.
-/
import CmlCloudManager.Foundation.Resumption

namespace CmlCloudManager.Foundation.Resumption

variable {E : Type} {R : E → Type} {O α β γ δ : Type}

section Coupling

variable (left right : (e : E) → R e) (seen : Event E R → O) (bad : Event E R → Prop)

/-- Unless the run of `p` has a bad event, `p` and `q` show the same and their results are
related. -/
def CoupledUnless (rel : α → β → Prop) (p : Resumption E R α) (q : Resumption E R β) : Prop :=
  (∀ ev ∈ (p.runWith left).1, ¬bad ev) →
    (p.runWith left).1.map seen = (q.runWith right).1.map seen
      ∧ rel (p.runWith left).2 (q.runWith right).2

variable {left right seen bad}

theorem coupled_done {rel : α → β → Prop} {a : α} {b : β} (h : rel a b) :
    CoupledUnless left right seen bad rel (.done a) (.done b) :=
  fun _ => ⟨rfl, h⟩

/-- **The rule for a call.** -/
theorem coupled_await {rel : α → β → Prop} {e e' : E} {k : R e → Resumption E R α}
    {k' : R e' → Resumption E R β} (hseen : seen ⟨e, left e⟩ = seen ⟨e', right e'⟩)
    (hk : ¬bad ⟨e, left e⟩ → CoupledUnless left right seen bad rel (k (left e)) (k' (right e'))) :
    CoupledUnless left right seen bad rel (.await e k) (.await e' k') := by
  intro hnone
  obtain ⟨hhead, htail⟩ := List.forall_mem_cons.mp hnone
  obtain ⟨hmap, hrel⟩ := hk hhead htail
  exact ⟨List.cons_eq_cons.mpr ⟨hseen, hmap⟩, hrel⟩

/-- **The rule of sequencing.** -/
theorem CoupledUnless.bind {rel : α → β → Prop} {rel' : γ → δ → Prop} {p : Resumption E R α}
    {q : Resumption E R β} {f : α → Resumption E R γ} {g : β → Resumption E R δ}
    (hpq : CoupledUnless left right seen bad rel p q)
    (hfg : ∀ a b, rel a b → CoupledUnless left right seen bad rel' (f a) (g b)) :
    CoupledUnless left right seen bad rel' (p.bind f) (q.bind g) := by
  intro hnone
  rw [runWith_bind] at hnone
  obtain ⟨hp, hf⟩ := List.forall_mem_append.mp hnone
  obtain ⟨hmap, hrel⟩ := hpq hp
  obtain ⟨hmap', hrel'⟩ := hfg _ _ hrel hf
  rw [runWith_bind, runWith_bind, List.map_append, List.map_append, hmap, hmap']
  exact ⟨rfl, hrel'⟩

/-- A bad event of a sequence is one of its first part, or one of its second part after a first
part without any, which is coupled. -/
theorem CoupledUnless.bind_bad {rel : α → β → Prop} {p : Resumption E R α}
    {q : Resumption E R β} {f : α → Resumption E R γ}
    (hpq : CoupledUnless left right seen bad rel p q)
    (hbad : ∃ ev ∈ ((p.bind f).runWith left).1, bad ev) :
    (∃ ev ∈ (p.runWith left).1, bad ev)
      ∨ ((p.runWith left).1.map seen = (q.runWith right).1.map seen
        ∧ rel (p.runWith left).2 (q.runWith right).2
        ∧ ∃ ev ∈ ((f (p.runWith left).2).runWith left).1, bad ev) := by
  obtain ⟨ev, hev, hbad⟩ := hbad
  rw [runWith_bind] at hev
  by_cases hp : ∃ ev ∈ (p.runWith left).1, bad ev
  · exact .inl hp
  · obtain ⟨hmap, hrel⟩ := hpq fun e he hb => hp ⟨e, he, hb⟩
    rcases List.mem_append.mp hev with hev | hev
    · exact absurd ⟨ev, hev, hbad⟩ hp
    · exact .inr ⟨hmap, hrel, ev, hev, hbad⟩

end Coupling

end CmlCloudManager.Foundation.Resumption
