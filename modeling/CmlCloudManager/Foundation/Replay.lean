/-
  CmlCloudManager.Foundation.Replay
  ─────────────────────────────────
  **REPLAYING A LIST OF INPUTS.**

  A component that handles one input at a time and always answers is a total step
  function; what a list of inputs makes of a state is its fold.  The rules here
  are about the states in between:

    • `Meets step P s inputs` — every input meets `P` in the state it is handled in,
    • `Meets.invariant`       — what such steps preserve holds at the end,
    • `meets_iff`             — the same condition over all splits of the inputs,
    • `always_iff_meets`      — a property that exactly such inputs keep,
    • `always_iff_meets_of_breaks` — one that the first other input breaks,
    • `replay_iff_meets`      — a property that is lost for good, at the end,
    • `related_iff_meets`     — what holds between any two states, one after the other,
    • `log_iff_meets`         — what a log that only grows may contain.
-/
import Mathlib.Data.List.Basic

namespace CmlCloudManager.Foundation

variable {σ ι : Type}

/-- The state after handling the inputs one by one. -/
def replay (step : σ → ι → σ) (s : σ) (inputs : List ι) : σ := inputs.foldl step s

section Replay

variable {step : σ → ι → σ}

@[simp] theorem replay_nil (s : σ) : replay step s [] = s := rfl

@[simp] theorem replay_cons (s : σ) (i : ι) (rest : List ι) :
    replay step s (i :: rest) = replay step (step s i) rest := rfl

theorem replay_append (s : σ) (before after : List ι) :
    replay step s (before ++ after) = replay step (replay step s before) after :=
  List.foldl_append ..

@[simp] theorem replay_snoc (s : σ) (before : List ι) (i : ι) :
    replay step s (before ++ [i]) = step (replay step s before) i := by
  rw [replay_append]
  rfl

/-- Every input meets the condition in the state it is handled in. -/
def Meets (step : σ → ι → σ) (P : σ → ι → Prop) : σ → List ι → Prop
  | _, [] => True
  | s, i :: rest => P s i ∧ Meets step P (step s i) rest

theorem meets_append {P : σ → ι → Prop} :
    ∀ (before after : List ι) (s : σ),
      Meets step P s (before ++ after)
        ↔ Meets step P s before ∧ Meets step P (replay step s before) after
  | [], after, s => by simp [Meets]
  | i :: before, after, s => by
      show (P s i ∧ Meets step P (step s i) (before ++ after)) ↔ _
      rw [meets_append before after (step s i)]
      exact and_assoc.symm

/-- The condition, over all splits of the inputs. -/
theorem meets_iff {P : σ → ι → Prop} :
    ∀ (inputs : List ι) (s : σ),
      Meets step P s inputs
        ↔ ∀ before i after, inputs = before ++ i :: after → P (replay step s before) i
  | [], s => by simp [Meets]
  | i :: rest, s => by
      show (P s i ∧ Meets step P (step s i) rest) ↔ _
      rw [meets_iff rest (step s i)]
      constructor
      · rintro ⟨hi, hrest⟩ before j after hsplit
        cases before with
        | nil =>
            obtain ⟨rfl, -⟩ := List.cons.inj hsplit
            exact hi
        | cons b before =>
            obtain ⟨rfl, htail⟩ := List.cons.inj hsplit
            exact hrest before j after htail
      · intro h
        exact ⟨h [] i rest rfl, fun before j after hsplit =>
          h (i :: before) j after (by rw [hsplit]; rfl)⟩

/-- **The invariant rule**: what is preserved by every step that meets the condition. -/
theorem Meets.invariant {P : σ → ι → Prop} {Inv : σ → Prop}
    (hstep : ∀ t i, Inv t → P t i → Inv (step t i)) :
    ∀ {inputs : List ι} {s : σ}, Meets step P s inputs → Inv s → Inv (replay step s inputs)
  | [], _, _, hs => hs
  | i :: rest, s, ⟨hi, hrest⟩, hs => by
      show Inv (replay step (step s i) rest)
      exact Meets.invariant hstep hrest (hstep s i hs hi)

/-- What every step preserves holds after any list of inputs. -/
theorem replay_invariant {Inv : σ → Prop} (hstep : ∀ t i, Inv t → Inv (step t i)) :
    ∀ (inputs : List ι) {s : σ}, Inv s → Inv (replay step s inputs)
  | [], _, hs => hs
  | i :: rest, s, hs => replay_invariant hstep rest (hstep s i hs)

/-- Two conditions that agree wherever an invariant holds are met by the same inputs. -/
theorem meets_congr {P Q : σ → ι → Prop} {Inv : σ → Prop}
    (hstep : ∀ t i, Inv t → Inv (step t i)) (hiff : ∀ t i, Inv t → (P t i ↔ Q t i)) :
    ∀ (inputs : List ι) {s : σ}, Inv s → (Meets step P s inputs ↔ Meets step Q s inputs)
  | [], _, _ => Iff.rfl
  | i :: rest, s, hs =>
      and_congr (hiff s i hs) (meets_congr hstep hiff rest (hstep s i hs))

/-- **A property broken by the first input that misses a condition** holds all along the inputs iff
each of them meets it where it is handled, if an invariant that the others keep implies it. -/
theorem always_iff_meets_of_breaks {P : σ → ι → Prop} {Inv Good : σ → Prop}
    (hgood : ∀ t, Inv t → Good t)
    (hkeeps : ∀ t i, Inv t → P t i → Inv (step t i))
    (hbreaks : ∀ t i, Inv t → ¬ P t i → ¬ Good (step t i)) :
    ∀ (inputs : List ι) {s : σ}, Inv s →
      ((∀ before, before <+: inputs → Good (replay step s before)) ↔ Meets step P s inputs)
  | [], s, hs => by
      constructor
      · exact fun _ => trivial
      · intro _ before hbefore
        rw [List.prefix_nil.mp hbefore]
        exact hgood s hs
  | i :: rest, s, hs => by
      constructor
      · intro h
        have hnext : Good (step s i) := h [i] ⟨rest, rfl⟩
        have hi : P s i := by
          by_contra hmiss
          exact hbreaks s i hs hmiss hnext
        refine ⟨hi, ?_⟩
        refine (always_iff_meets_of_breaks hgood hkeeps hbreaks rest (hkeeps s i hs hi)).mp
          fun before hb => ?_
        exact h (i :: before) (List.cons_prefix_cons.mpr ⟨rfl, hb⟩)
      · rintro ⟨hi, hrest⟩ before hbefore
        cases before with
        | nil => exact hgood s hs
        | cons b before =>
            obtain ⟨rfl, hb⟩ := List.cons_prefix_cons.mp hbefore
            exact (always_iff_meets_of_breaks hgood hkeeps hbreaks rest
              (hkeeps s b hs hi)).mpr hrest before hb

/-- **A property kept exactly by the inputs that meet a condition** holds all along the
inputs iff each of them meets it where it is handled. -/
theorem always_iff_meets {P : σ → ι → Prop} {Inv Good : σ → Prop}
    (hstep : ∀ t i, Inv t → Inv (step t i))
    (hgood : ∀ t i, Inv t → Good t → (Good (step t i) ↔ P t i))
    (inputs : List ι) {s : σ} (hinv : Inv s) (hs : Good s) :
    (∀ before, before <+: inputs → Good (replay step s before)) ↔ Meets step P s inputs := by
  refine @always_iff_meets_of_breaks σ ι step P (fun t => Inv t ∧ Good t) Good
    (fun t h => h.2) ?_ ?_ inputs s ⟨hinv, hs⟩
  · exact fun t i h hi => ⟨hstep t i h.1, (hgood t i h.1 h.2).mpr hi⟩
  · exact fun t i h hmiss hnext => hmiss ((hgood t i h.1 h.2).mp hnext)

/-- **A property that is lost for good** by the first input that misses a condition holds at
the end iff it holds at the start and every input meets the condition. -/
theorem replay_iff_meets {P : σ → ι → Prop} {Inv Good : σ → Prop}
    (hstep : ∀ t i, Inv t → Inv (step t i))
    (hgood : ∀ t i, Inv t → (Good (step t i) ↔ Good t ∧ P t i)) :
    ∀ (inputs : List ι) {s : σ}, Inv s →
      (Good (replay step s inputs) ↔ Good s ∧ Meets step P s inputs)
  | [], s, _ => by simp [Meets]
  | i :: rest, s, hs => by
      rw [replay_cons, replay_iff_meets hstep hgood rest (hstep s i hs), hgood s i hs, and_assoc]
      exact Iff.rfl

theorem meets_and {P Q : σ → ι → Prop} :
    ∀ (inputs : List ι) (s : σ),
      Meets step (fun t i => P t i ∧ Q t i) s inputs
        ↔ Meets step P s inputs ∧ Meets step Q s inputs
  | [], _ => by simp [Meets]
  | i :: rest, s => by
      show (P s i ∧ Q s i) ∧ Meets step _ (step s i) rest ↔ _
      rw [meets_and rest (step s i)]
      exact and_and_and_comm

/-- **A preorder between states** relates any earlier state to any later one iff every step
respects it. -/
theorem related_iff_meets {R : σ → σ → Prop} (hrefl : ∀ t, R t t)
    (htrans : ∀ t u v, R t u → R u v → R t v) (inputs : List ι) (s : σ) :
    (∀ before between after, inputs = before ++ (between ++ after) →
        R (replay step s before) (replay step s (before ++ between)))
      ↔ Meets step (fun t i => R t (step t i)) s inputs := by
  constructor
  · intro h
    refine (meets_iff inputs s).mpr fun before i after hsplit => ?_
    have hone := h before [i] after hsplit
    rwa [replay_snoc] at hone
  · rintro h before between after rfl
    have hbetween : Meets step (fun t i => R t (step t i)) (replay step s before) between :=
      ((meets_append between after _).mp ((meets_append before _ s).mp h).2).1
    rw [replay_append]
    exact @Meets.invariant _ _ _ _ (R (replay step s before))
      (fun t i hinv hstep => htrans _ _ _ hinv hstep) between _ hbetween (hrefl _)

/-- **A log that only grows** contains nothing bad iff every input meets the condition under
which it adds nothing bad. -/
theorem log_iff_meets {ℓ : Type} {P : σ → ι → Prop} {Q : ℓ → Prop} {log : σ → List ℓ}
    {new : σ → ι → List ℓ} (hlog : ∀ t i, log (step t i) = log t ++ new t i)
    (hnew : ∀ t i, P t i ↔ ∀ x ∈ new t i, Q x) (inputs : List ι) (s : σ) :
    (∀ x ∈ log (replay step s inputs), Q x) ↔ (∀ x ∈ log s, Q x) ∧ Meets step P s inputs := by
  refine @replay_iff_meets σ ι step P (fun _ => True) (fun t => ∀ x ∈ log t, Q x)
    (fun _ _ _ => trivial) ?_ inputs s trivial
  intro t i _
  rw [hlog, List.forall_mem_append, hnew]

end Replay

end CmlCloudManager.Foundation
