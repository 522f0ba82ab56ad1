/-
  CmlCloudManager.Foundation.Serving
  ──────────────────────────────────
  **PROGRAMS IN A WORLD THAT SERVES THEM.**

  A world takes a call in a state, answers, and is in another state then; which answer
  and which state is left open, so that a `Service` is a relation.  Other parties that
  move between two calls are part of it.

    • `Performs serve p s a t` — the program returns `a`, and leads the world from `s`
                                 to `t`,
    • `Ensures serve p s Q`    — whatever the program returns, `Q` holds of it and of the
                                 world then: the weakest precondition,
    • `ensures_bind`, `Ensures.ask`, `Ensures.mono` — its rules,
    • `Ensures.only`           — what no call of a kind touches, no program of them does.
-/
import CmlCloudManager.Foundation.Resumption

namespace CmlCloudManager.Foundation

namespace Resumption

variable {σ E : Type} {R : E → Type} {α β : Type}

/-- What a world may do with a call: the state, the call, the answer and the state then. -/
abbrev Service (σ E : Type) (R : E → Type) : Type := σ → (e : E) → R e → σ → Prop

variable {serve : Service σ E R}

/-- The program returns `a` and leads the world from `s` to `t`. -/
inductive Performs (serve : Service σ E R) : Resumption E R α → σ → α → σ → Prop where
  | done {a s} : Performs serve (.done a) s a s
  | await {e k r s t a u} (first : serve s e r t) (rest : Performs serve (k r) t a u) :
      Performs serve (.await e k) s a u

/-- Whatever the program returns, `Q` holds of it and of the world then. -/
def Ensures (serve : Service σ E R) : Resumption E R α → σ → (α → σ → Prop) → Prop
  | .done a, s, Q => Q a s
  | .await e k, s, Q => ∀ r t, serve s e r t → Ensures serve (k r) t Q

@[simp] theorem ensures_done {a : α} {s : σ} {Q : α → σ → Prop} :
    Ensures serve (.done a : Resumption E R α) s Q ↔ Q a s := Iff.rfl

/-- **What is ensured holds of every performance.** -/
theorem Ensures.performs {p : Resumption E R α} {s t : σ} {a : α} {Q : α → σ → Prop}
    (h : Ensures serve p s Q) (hp : Performs serve p s a t) : Q a t := by
  induction hp with
  | done => exact h
  | await first rest ih => exact ih (h _ _ first)

/-- **The rule of consequence.** -/
theorem Ensures.mono {Q Q' : α → σ → Prop} (hQ : ∀ a s, Q a s → Q' a s) :
    ∀ {p : Resumption E R α} {s : σ}, Ensures serve p s Q → Ensures serve p s Q'
  | .done a, s, h => hQ a s h
  | .await _ _, _, h => fun r t hserve => (h r t hserve).mono hQ

/-- **The rule of sequencing.** -/
theorem ensures_bind {f : α → Resumption E R β} {Q : β → σ → Prop} :
    ∀ {p : Resumption E R α} {s : σ},
      Ensures serve (p.bind f) s Q
        ↔ Ensures serve p s fun a t => Ensures serve (f a) t Q
  | .done _, _ => Iff.rfl
  | .await _ _, _ => forall_congr' fun _ => forall_congr' fun _ => imp_congr_right fun _ =>
      ensures_bind

/-- The rule of a call that the program goes on from. -/
theorem Ensures.ask {e : E} {f : R e → Resumption E R α} {s : σ} {Q : α → σ → Prop}
    (h : ∀ r t, serve s e r t → Ensures serve (f r) t Q) :
    Ensures serve ((call e).bind f) s Q := h

/-- The rule of a part and of what comes after it. -/
theorem Ensures.seq {p : Resumption E R α} {f : α → Resumption E R β} {s : σ}
    {P : α → σ → Prop} {Q : β → σ → Prop} (hp : Ensures serve p s P)
    (hf : ∀ a t, P a t → Ensures serve (f a) t Q) : Ensures serve (p.bind f) s Q :=
  ensures_bind.mpr (hp.mono hf)

/-- **The invariant rule**, for a program that makes only calls of a kind. -/
theorem Ensures.only {K : E → Prop} {Inv : σ → Prop}
    (h : ∀ s e r t, K e → Inv s → serve s e r t → Inv t) :
    ∀ {p : Resumption E R α} {s : σ}, Only K p → Inv s → Ensures serve p s fun _ t => Inv t
  | .done _, _, _, hs => hs
  | .await _ _, s, hp, hs => fun r t hserve =>
      Ensures.only h (hp.2 r) (h s _ r t hp.1 hs hserve)

end Resumption

end CmlCloudManager.Foundation
