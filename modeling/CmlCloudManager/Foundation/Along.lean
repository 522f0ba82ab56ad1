/-
  CmlCloudManager.Foundation.Along
  ────────────────────────────────
  **PROPERTIES OF AN EVENT AND ITS PAST.**

  A safety property of a trace says of every event something about the events
  before it.  `Along P past tr` says it for the events of `tr`, each with its
  own past (`past` and the part of `tr` in front of it).  Traces are built by
  appending, so `along_append` is the rule all proofs use; `along_iff` turns
  the recursive form into the usual one over all splits of the trace.
-/
import Mathlib.Data.List.Basic

namespace CmlCloudManager.Foundation

variable {ε : Type}

/-- Every event of the trace satisfies `P` relative to what came before it. -/
def Along (P : List ε → ε → Prop) : List ε → List ε → Prop
  | _, [] => True
  | past, ev :: tr => P past ev ∧ Along P (past ++ [ev]) tr

@[simp] theorem along_nil (P : List ε → ε → Prop) (past : List ε) : Along P past [] := trivial

/-- **Appending traces** appends the pasts. -/
theorem along_append {P : List ε → ε → Prop} :
    ∀ (tr tr' past : List ε),
      Along P past (tr ++ tr') ↔ Along P past tr ∧ Along P (past ++ tr) tr'
  | [], tr', past => by simp
  | ev :: tr, tr', past => by
      show (P past ev ∧ Along P (past ++ [ev]) (tr ++ tr')) ↔ _
      rw [along_append tr tr' (past ++ [ev])]
      simp only [Along, List.append_assoc, List.singleton_append, and_assoc]

/-- It is enough to know `P` for every extension of the past by events of the trace. -/
theorem along_of_forall {P : List ε → ε → Prop} {Q : ε → Prop} :
    ∀ (tr past : List ε), (∀ e ∈ tr, Q e) →
      (∀ more e, (∀ e' ∈ more, Q e') → e ∈ tr → P (past ++ more) e) → Along P past tr
  | [], _, _, _ => trivial
  | ev :: tr, past, hQ, h => by
      have hrest : ∀ e ∈ tr, Q e := fun e he => hQ e (List.mem_cons_of_mem _ he)
      refine ⟨?_, along_of_forall tr (past ++ [ev]) hrest ?_⟩
      · simpa using h [] ev (by simp) List.mem_cons_self
      · intro more e hmore he
        -- what comes after `ev` extends the past by `ev` first
        have hstep := h (ev :: more) e
          (List.forall_mem_cons.mpr ⟨hQ ev List.mem_cons_self, hmore⟩) (List.mem_cons_of_mem _ he)
        simpa using hstep

/-- The recursive form says what the form over splits says. -/
theorem along_iff {P : List ε → ε → Prop} :
    ∀ (tr past : List ε),
      Along P past tr ↔ ∀ before ev after, tr = before ++ ev :: after → P (past ++ before) ev
  | [], past => by simp
  | ev :: tr, past => by
      show (P past ev ∧ Along P (past ++ [ev]) tr) ↔ _
      rw [along_iff tr (past ++ [ev])]
      constructor
      · rintro ⟨hev, htr⟩ before ev' after hsplit
        -- the event is the head, or the split is one of the tail's
        cases before with
        | nil =>
            obtain ⟨rfl, rfl⟩ := List.cons.inj hsplit
            simpa using hev
        | cons b before =>
            obtain ⟨rfl, hrest⟩ := List.cons.inj hsplit
            simpa using htr before ev' after hrest
      · intro h
        refine ⟨by simpa using h [] ev tr rfl, ?_⟩
        intro before ev' after hsplit
        simpa using h (ev :: before) ev' after (by rw [hsplit]; rfl)

end CmlCloudManager.Foundation
