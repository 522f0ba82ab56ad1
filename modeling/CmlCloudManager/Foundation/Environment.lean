/-
  CmlCloudManager.Foundation.Environment
  ──────────────────────────────────────
  **PROGRAMS IN AN ENVIRONMENT WITH A MEMORY.**

  An environment that answers a call by what it was asked before makes a program go one
  way only.  Two programs are compared in it by what they call and return:

    • `runIn env past p` — the calls of `p` with their answers, after `past`, and its result,
    • `runIn_bind`       — of a sequence, the second part goes on where the first ended,
    • `relabel`          — a program of which the environment sees its calls only in part,
    • `runs_of_relabel`  — what it does it does without that as well.
-/
import CmlCloudManager.Foundation.Resumption

namespace CmlCloudManager.Foundation

namespace Resumption

variable {E : Type} {R : E → Type} {α β γ : Type}

/-- **Sequencing is associative.** -/
theorem bind_assoc (p : Resumption E R α) (f : α → Resumption E R β) (g : β → Resumption E R γ) :
    (p.bind f).bind g = p.bind fun a => (f a).bind g := by
  induction p with
  | done a => rfl
  | await e k ih => exact congrArg (Resumption.await e) (funext ih)

/-! ## §1. One environment. -/

/-- The calls of `p` with their answers, and its result, if `past` was said before. -/
def runIn (env : List (Event E R) → (e : E) → R e) :
    List (Event E R) → Resumption E R α → List (Event E R) × α
  | _, .done a => ([], a)
  | past, .await e k =>
      let answer := env past e
      let out := (k answer).runIn env (past ++ [⟨e, answer⟩])
      (⟨e, answer⟩ :: out.1, out.2)

section RunIn

variable {env : List (Event E R) → (e : E) → R e}

@[simp] theorem runIn_done (past : List (Event E R)) (a : α) :
    (Resumption.done a : Resumption E R α).runIn env past = ([], a) := rfl

/-- **The second part goes on where the first ended.** -/
theorem runIn_bind (p : Resumption E R α) (f : α → Resumption E R β) (past : List (Event E R)) :
    (p.bind f).runIn env past
      = ((p.runIn env past).1
            ++ ((f (p.runIn env past).2).runIn env (past ++ (p.runIn env past).1)).1,
          ((f (p.runIn env past).2).runIn env (past ++ (p.runIn env past).1)).2) := by
  induction p generalizing past with
  | done a =>
      show (f a).runIn env past = _
      simp
  | await e k ih =>
      show (_ :: ((k (env past e)).bind f |>.runIn env (past ++ [⟨e, env past e⟩])).1, _) = _
      rw [ih (env past e)]
      simp [runIn]

/-- It is one of its runs. -/
theorem runIn_runs (p : Resumption E R α) (past : List (Event E R)) :
    p.Runs (p.runIn env past).1 (p.runIn env past).2 := by
  induction p generalizing past with
  | done a => exact ⟨rfl, rfl⟩
  | await e k ih => exact ⟨env past e, _, rfl, ih (env past e) _⟩

end RunIn

/-! ## §2. Calls that are seen in part. -/

section Relabel

variable {F : Type} {S : F → Type} {f : E → F} {answer : (e : E) → S (f e) → R e}

/-- The program with `f e` called for `e`. -/
def relabel (f : E → F) (answer : (e : E) → S (f e) → R e) :
    Resumption E R α → Resumption F S α
  | .done a => .done a
  | .await e k => .await (f e) fun s => (k (answer e s)).relabel f answer

theorem relabel_bind (p : Resumption E R α) (g : α → Resumption E R β) :
    (p.bind g).relabel f answer = (p.relabel f answer).bind fun a => (g a).relabel f answer := by
  induction p with
  | done a => rfl
  | await e k ih => exact congrArg (Resumption.await (f e)) (funext fun s => ih (answer e s))

/-- Its runs are runs of the program. -/
theorem runs_of_relabel {p : Resumption E R α} {a : α} :
    ∀ {tr : List (Event F S)}, (p.relabel f answer).Runs tr a → ∃ tr', p.Runs tr' a := by
  induction p with
  | done b =>
      rintro tr ⟨-, rfl⟩
      exact ⟨[], rfl, rfl⟩
  | await e k ih =>
      rintro tr ⟨s, tr', -, h⟩
      obtain ⟨rest, hrest⟩ := ih (answer e s) h
      exact ⟨⟨e, answer e s⟩ :: rest, answer e s, rest, rfl, hrest⟩

end Relabel

end Resumption

end CmlCloudManager.Foundation
