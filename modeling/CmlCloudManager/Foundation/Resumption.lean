/-
  CmlCloudManager.Foundation.Resumption
  ─────────────────────────────────────
  **SUSPENDABLE PROGRAMS AND THEIR TRACES.**

  A coroutine that `await`s calls `e : E` of its environment and is resumed
  with responses `r : R e` is an element of `Resumption E R α`: either it is
  `done`, or it awaits a call and knows how to go on from EVERY response.
  Nothing is said about the environment, so a statement about all traces is a
  statement about every behaviour of the parties the program talks to.

    • `Runs p tr a`    — `p` runs to the end along `tr` and returns `a`,
    • `Reaches p tr q` — `p` performs exactly the calls of `tr`, `q` is left,
    • `runs_bind`      — sequencing splits a trace,
    • `Reaches.extend` — every cut run is the beginning of a complete one, so
      that whatever holds of all complete traces holds at every cut,
    • `Guarantees I Q` — each call is made after a trace that `I` allows, each
      result is returned after a trace that `Q` allows, whatever the answers.
-/
import Mathlib.Data.List.Basic

namespace CmlCloudManager.Foundation

/-- A terminating program over the calls `E` with responses `R`. -/
inductive Resumption (E : Type) (R : E → Type) (α : Type) where
  | done (a : α)
  | await (e : E) (k : R e → Resumption E R α)

namespace Resumption

variable {E : Type} {R : E → Type} {α β : Type}

/-- A call together with the response it got. -/
abbrev Event (E : Type) (R : E → Type) : Type := Σ e : E, R e

/-! ## §1. Sequencing. -/

/-- Run `p`, then go on with its result. -/
def bind : Resumption E R α → (α → Resumption E R β) → Resumption E R β
  | .done a, f => f a
  | .await e k, f => .await e (fun r => (k r).bind f)

/-- Run `p`, then go on with its result unless it raised. -/
def andThen {ε : Type} (p : Resumption E R (Except ε α))
    (f : α → Resumption E R (Except ε β)) : Resumption E R (Except ε β) :=
  p.bind fun
    | .error raised => .done (.error raised)
    | .ok a => f a

/-- Perform one call and return its response. -/
def call (e : E) : Resumption E R (R e) := .await e .done

/-! ## §2. Complete runs. -/

/-- `p` runs to completion along the trace and returns the value. -/
def Runs : Resumption E R α → List (Event E R) → α → Prop
  | .done a, tr, b => tr = [] ∧ b = a
  | .await e k, tr, b => ∃ r tr', tr = ⟨e, r⟩ :: tr' ∧ (k r).Runs tr' b

@[simp] theorem runs_done {a b : α} {tr : List (Event E R)} :
    (Resumption.done a : Resumption E R α).Runs tr b ↔ tr = [] ∧ b = a := Iff.rfl

theorem runs_done_pair {a a' : α} {b b' : β} {tr : List (Event E R)} :
    (Resumption.done (a, b) : Resumption E R (α × β)).Runs tr (a', b')
      ↔ tr = [] ∧ a' = a ∧ b' = b := by
  rw [runs_done, Prod.mk.injEq]

/-- **Sequencing splits the trace.** -/
theorem runs_bind (p : Resumption E R α) (f : α → Resumption E R β) :
    ∀ (tr : List (Event E R)) (b : β),
      (p.bind f).Runs tr b
        ↔ ∃ a tr₁ tr₂, tr = tr₁ ++ tr₂ ∧ p.Runs tr₁ a ∧ (f a).Runs tr₂ b := by
  induction p with
  | done a =>
      -- no call is left in `p`: the whole trace is `f a`'s
      intro tr b
      constructor
      · intro h
        exact ⟨a, [], tr, rfl, ⟨rfl, rfl⟩, h⟩
      · rintro ⟨a', tr₁, tr₂, rfl, ⟨rfl, rfl⟩, h⟩
        exact h
  | await e k ih =>
      -- the first event answers `e`, and the rest splits by the induction hypothesis
      intro tr b
      constructor
      · rintro ⟨r, tr', rfl, h⟩
        obtain ⟨a, tr₁, tr₂, rfl, h₁, h₂⟩ := (ih r tr' b).mp h
        exact ⟨a, ⟨e, r⟩ :: tr₁, tr₂, rfl, ⟨r, tr₁, rfl, h₁⟩, h₂⟩
      · rintro ⟨a, tr₁, tr₂, rfl, ⟨r, tr', rfl, h₁⟩, h₂⟩
        exact ⟨r, tr' ++ tr₂, rfl, (ih r _ b).mpr ⟨a, tr', tr₂, rfl, h₁, h₂⟩⟩

/-- **The answers decide the result.** -/
theorem Runs.unique {p : Resumption E R α} {a b : α} :
    ∀ {tr : List (Event E R)}, p.Runs tr a → p.Runs tr b → a = b := by
  induction p with
  | done c =>
      rintro tr ⟨-, rfl⟩ ⟨-, rfl⟩
      rfl
  | await e k ih =>
      rintro tr ⟨r, tr', rfl, h⟩ ⟨r', tr'', heq, h'⟩
      obtain ⟨hev, rfl⟩ := List.cons.inj heq
      obtain rfl := eq_of_heq (Sigma.mk.inj hev).2
      exact ih r h h'

/-- Of two runs along one trace neither is a part of the other. -/
theorem Runs.unique_part {p : Resumption E R α} {a b : α} :
    ∀ {tr tr' after after' : List (Event E R)}, p.Runs tr a → p.Runs tr' b →
      tr ++ after = tr' ++ after' → tr = tr' ∧ a = b ∧ after = after' := by
  induction p with
  | done c =>
      rintro tr tr' after after' ⟨rfl, rfl⟩ ⟨rfl, rfl⟩ heq
      exact ⟨rfl, rfl, heq⟩
  | await e k ih =>
      rintro tr tr' after after' ⟨r, rest, rfl, h⟩ ⟨r', rest', rfl, h'⟩ heq
      obtain ⟨hev, hrest⟩ := List.cons.inj heq
      obtain rfl := eq_of_heq (Sigma.mk.inj hev).2
      obtain ⟨rfl, hab, hafter⟩ := ih r h h' hrest
      exact ⟨rfl, hab, hafter⟩

/-- A run of a sequence, from runs of its parts. -/
theorem Runs.bind {p : Resumption E R α} {f : α → Resumption E R β} {a : α} {b : β}
    {tr tr' : List (Event E R)} (h : p.Runs tr a) (h' : (f a).Runs tr' b) :
    (p.bind f).Runs (tr ++ tr') b :=
  (runs_bind p f _ b).mpr ⟨a, tr, tr', rfl, h, h'⟩

/-! ## §3. Cut runs. -/

/-- `p` performs the calls of the trace and `q` remains to be run. -/
def Reaches : Resumption E R α → List (Event E R) → Resumption E R α → Prop
  | p, [], q => p = q
  | p, ev :: tr, q => ∃ k, p = .await ev.1 k ∧ (k ev.2).Reaches tr q

theorem Reaches.trans {p q s : Resumption E R α} {tr tr' : List (Event E R)}
    (h : p.Reaches tr q) (h' : q.Reaches tr' s) : p.Reaches (tr ++ tr') s := by
  induction tr generalizing p with
  | nil =>
      cases h
      exact h'
  | cons ev tr ih =>
      obtain ⟨k, hp, hk⟩ := h
      exact ⟨k, hp, ih hk⟩

/-- One more call. -/
theorem Reaches.step {p : Resumption E R α} {tr : List (Event E R)} {e : E}
    {k : R e → Resumption E R α} (h : p.Reaches tr (.await e k)) (r : R e) :
    p.Reaches (tr ++ [⟨e, r⟩]) (k r) :=
  h.trans ⟨k, rfl, rfl⟩

/-- What is left at a cut completes the run. -/
theorem Reaches.append_runs {p q : Resumption E R α} {tr tr' : List (Event E R)} {a : α}
    (h : p.Reaches tr q) (h' : q.Runs tr' a) : p.Runs (tr ++ tr') a := by
  induction tr generalizing p with
  | nil =>
      cases h
      exact h'
  | cons ev tr ih =>
      obtain ⟨k, rfl, hk⟩ := h
      exact ⟨ev.2, tr ++ tr', rfl, ih hk⟩

/-- Before each call of a cut run the program awaited it. -/
theorem Reaches.before {p q : Resumption E R α} {ev : Event E R} {after : List (Event E R)} :
    ∀ {past : List (Event E R)}, p.Reaches (past ++ ev :: after) q →
      ∃ k, p.Reaches past (.await ev.1 k)
  | [], ⟨k, hp, _⟩ => ⟨k, hp⟩
  | _ :: _, ⟨k, hp, hk⟩ =>
      have ⟨k', hbefore⟩ := hk.before
      ⟨k', k, hp, hbefore⟩

/-- A program whose environment can always respond has a complete run. -/
theorem exists_runs [∀ e, Nonempty (R e)] (p : Resumption E R α) :
    ∃ tr a, p.Runs tr a := by
  induction p with
  | done a => exact ⟨[], a, rfl, rfl⟩
  | await e k ih =>
      -- any response will do
      obtain ⟨r⟩ := (inferInstance : Nonempty (R e))
      obtain ⟨tr, a, h⟩ := ih r
      exact ⟨⟨e, r⟩ :: tr, a, r, tr, rfl, h⟩

/-- **Every cut run is the beginning of a complete run.** -/
theorem Reaches.extend [∀ e, Nonempty (R e)] {p q : Resumption E R α}
    {tr : List (Event E R)} (h : p.Reaches tr q) :
    ∃ tr' a, p.Runs (tr ++ tr') a := by
  obtain ⟨tr', a, hq⟩ := exists_runs q
  exact ⟨tr', a, h.append_runs hq⟩

/-- A complete run is a cut run with nothing left. -/
theorem Runs.reaches {p : Resumption E R α} {a : α} :
    ∀ {tr : List (Event E R)}, p.Runs tr a → p.Reaches tr (.done a) := by
  induction p with
  | done b =>
      rintro tr ⟨rfl, rfl⟩
      rfl
  | await e k ih =>
      rintro tr ⟨r, tr', rfl, h⟩
      exact ⟨k, rfl, ih r h⟩

/-! ## §4. A fixed environment. -/

/-- The trace and the result of `p` when every call `e` is answered by `respond e`. -/
def runWith (respond : (e : E) → R e) : Resumption E R α → List (Event E R) × α
  | .done a => ([], a)
  | .await e k =>
      let out := (k (respond e)).runWith respond
      (⟨e, respond e⟩ :: out.1, out.2)

theorem runWith_bind (respond : (e : E) → R e) (p : Resumption E R α)
    (f : α → Resumption E R β) :
    (p.bind f).runWith respond
      = ((p.runWith respond).1 ++ ((f (p.runWith respond).2).runWith respond).1,
        ((f (p.runWith respond).2).runWith respond).2) := by
  induction p with
  | done a => rfl
  | await e k ih =>
      show (_ :: ((k (respond e)).bind f |>.runWith respond).1, _) = _
      rw [ih (respond e)]
      rfl

/-- A call, and what the program makes of its answer. -/
theorem runWith_ask (respond : (e : E) → R e) (e : E) (f : R e → Resumption E R α) :
    ((call e).bind f).runWith respond
      = (⟨e, respond e⟩ :: ((f (respond e)).runWith respond).1,
        ((f (respond e)).runWith respond).2) := rfl

theorem runWith_runs (respond : (e : E) → R e) (p : Resumption E R α) :
    p.Runs (p.runWith respond).1 (p.runWith respond).2 := by
  induction p with
  | done a => exact ⟨rfl, rfl⟩
  | await e k ih => exact ⟨respond e, _, rfl, ih (respond e)⟩

/-- **A run is the run in every environment that answers as it was answered.** -/
theorem Runs.runWith_eq {respond : (e : E) → R e} {p : Resumption E R α} {a : α} :
    ∀ {tr : List (Event E R)}, p.Runs tr a → (∀ ev ∈ tr, ev.2 = respond ev.1) →
      p.runWith respond = (tr, a) := by
  induction p with
  | done b =>
      rintro tr ⟨rfl, rfl⟩ -
      rfl
  | await e k ih =>
      rintro tr ⟨r, tr', rfl, h⟩ hans
      obtain ⟨hhead, htail⟩ := List.forall_mem_cons.mp hans
      have hr : r = respond e := hhead
      subst hr
      have hrest := ih (respond e) h htail
      show (_ :: ((k (respond e)).runWith respond).1, ((k (respond e)).runWith respond).2) = _
      rw [hrest]

/-! ## §5. What a program guarantees. -/

/-- After the trace `past`, the program makes only calls that `I` allows and returns only
results that `Q` allows. -/
def Guarantees (I : List (Event E R) → E → Prop) (Q : List (Event E R) → α → Prop) :
    List (Event E R) → Resumption E R α → Prop
  | past, .done a => Q past a
  | past, .await e k => I past e ∧ ∀ r, Guarantees I Q (past ++ [⟨e, r⟩]) (k r)

section Guarantees

variable {I : List (Event E R) → E → Prop} {Q : List (Event E R) → α → Prop}

@[simp] theorem guarantees_done {past : List (Event E R)} {a : α} :
    Guarantees I Q past (.done a) ↔ Q past a := Iff.rfl

@[simp] theorem guarantees_call {e : E} {past : List (Event E R)}
    {Q : List (Event E R) → R e → Prop} :
    Guarantees I Q past (.call e) ↔ I past e ∧ ∀ r, Q (past ++ [⟨e, r⟩]) r := Iff.rfl

/-- **The rule of consequence**, for the results. -/
theorem Guarantees.mono {Q' : List (Event E R) → α → Prop} (hQ : ∀ past a, Q past a → Q' past a) :
    ∀ {p : Resumption E R α} {past : List (Event E R)},
      Guarantees I Q past p → Guarantees I Q' past p
  | .done a, past, h => hQ past a h
  | .await _ _, _, ⟨he, hk⟩ => ⟨he, fun r => (hk r).mono hQ⟩

/-- **The rule of sequencing.** -/
theorem guarantees_bind {f : β → Resumption E R α} :
    ∀ {p : Resumption E R β} {past : List (Event E R)},
      Guarantees I Q past (p.bind f)
        ↔ Guarantees I (fun past b => Guarantees I Q past (f b)) past p
  | .done _, _ => Iff.rfl
  | .await _ _, _ => and_congr_right fun _ => forall_congr' fun _ => guarantees_bind

/-- The rule of a call that the program goes on from. -/
theorem Guarantees.ask {e : E} {f : R e → Resumption E R α} {past : List (Event E R)}
    (he : I past e) (hf : ∀ r, Guarantees I Q (past ++ [⟨e, r⟩]) (f r)) :
    Guarantees I Q past ((call e).bind f) := ⟨he, hf⟩

/-- The rule of sequencing, for programs that may raise. -/
theorem guarantees_andThen {ε : Type} {Q : List (Event E R) → Except ε α → Prop}
    {p : Resumption E R (Except ε β)} {f : β → Resumption E R (Except ε α)}
    {past : List (Event E R)} :
    Guarantees I Q past (p.andThen f)
      ↔ Guarantees I
          (fun past out =>
            match out with
            | .error raised => Q past (.error raised)
            | .ok b => Guarantees I Q past (f b)) past p := by
  unfold andThen
  rw [guarantees_bind]
  refine iff_of_eq (congrArg (Guarantees I · past p) ?_)
  funext past out
  cases out <;> rfl

/-- **A guarantee is kept along the way.** -/
theorem Guarantees.reaches {p q : Resumption E R α} :
    ∀ {tr past : List (Event E R)}, Guarantees I Q past p → p.Reaches tr q →
      Guarantees I Q (past ++ tr) q
  | [], past, hp, h => by
      cases h
      rw [List.append_nil]
      exact hp
  | ⟨e, r⟩ :: tr, past, hp, h => by
      obtain ⟨k, rfl, hk⟩ := h
      have hnext := (hp.2 r).reaches hk
      rwa [List.append_assoc] at hnext

/-- **A guarantee speaks of runs**: what is behind a result is a run of the program. -/
theorem Guarantees.runs :
    ∀ {p : Resumption E R α} {past : List (Event E R)}, Guarantees I Q past p →
      Guarantees I (fun past' a => ∃ tr, past' = past ++ tr ∧ p.Runs tr a ∧ Q past' a) past p
  | .done a, past, h => ⟨[], (List.append_nil past).symm, ⟨rfl, rfl⟩, h⟩
  | .await e k, past, ⟨he, hk⟩ => by
      refine ⟨he, fun r => (hk r).runs.mono fun past' a h => ?_⟩
      obtain ⟨tr, rfl, hruns, hQ⟩ := h
      exact ⟨⟨e, r⟩ :: tr, List.append_assoc .., ⟨r, tr, rfl, hruns⟩, hQ⟩

end Guarantees

/-! ## §6. The calls of a program. -/

/-- Every call the program may make is one of `P`. -/
def Only (P : E → Prop) : Resumption E R α → Prop
  | .done _ => True
  | .await e k => P e ∧ ∀ r, Only P (k r)

theorem Only.bind {P : E → Prop} {p : Resumption E R α} {f : α → Resumption E R β}
    (hp : Only P p) (hf : ∀ a, Only P (f a)) : Only P (p.bind f) := by
  induction p with
  | done a => exact hf a
  | await e k ih => exact ⟨hp.1, fun r => ih r (hp.2 r)⟩

theorem Only.andThen {ε : Type} {P : E → Prop} {p : Resumption E R (Except ε α)}
    {f : α → Resumption E R (Except ε β)} (hp : Only P p) (hf : ∀ a, Only P (f a)) :
    Only P (p.andThen f) := by
  refine hp.bind fun out => ?_
  cases out with
  | error raised => trivial
  | ok a => exact hf a

theorem Only.call {P : E → Prop} {e : E} (h : P e) :
    Only P (Resumption.call e : Resumption E R (R e)) :=
  ⟨h, fun _ => trivial⟩

theorem Only.mono {P P' : E → Prop} (h : ∀ e, P e → P' e) :
    ∀ {p : Resumption E R α}, Only P p → Only P' p
  | .done _, _ => trivial
  | .await e _, hp => ⟨h e hp.1, fun r => (hp.2 r).mono h⟩

/-- Such calls are allowed, and keep a condition on the trace that none of them touches. -/
theorem Only.guarantees {P : E → Prop} {Inv : List (Event E R) → Prop}
    {I : List (Event E R) → E → Prop} (hI : ∀ past e, P e → Inv past → I past e)
    (hInv : ∀ past e r, P e → Inv past → Inv (past ++ [⟨e, r⟩])) :
    ∀ {p : Resumption E R α} {past : List (Event E R)}, Only P p → Inv past →
      Guarantees I (fun past _ => Inv past) past p
  | .done _, _, _, h => h
  | .await e _, past, hp, h =>
      ⟨hI past e hp.1 h, fun r => (hp.2 r).guarantees hI hInv (hInv past e r hp.1 h)⟩

/-- Only such calls are in its traces. -/
theorem Runs.only {P : E → Prop} {p : Resumption E R α} {a : α} (hp : Only P p) :
    ∀ {tr : List (Event E R)}, p.Runs tr a → ∀ ev ∈ tr, P ev.1 := by
  induction p with
  | done b =>
      rintro tr ⟨rfl, -⟩ ev hev
      cases hev
  | await e k ih =>
      rintro tr ⟨r, tr', rfl, h⟩ ev hev
      rcases List.mem_cons.mp hev with rfl | hev
      · exact hp.1
      · exact ih r (hp.2 r) h ev hev

/-- After each call of `P` the program makes one of `Q`. -/
def Followed (P Q : E → Prop) : Resumption E R α → Prop
  | .done _ => True
  | .await e k => ∀ r, Followed P Q (k r) ∧ (P e → ∃ e' k', k r = .await e' k' ∧ Q e')

theorem Followed.bind {P Q : E → Prop} {f : α → Resumption E R β} :
    ∀ {p : Resumption E R α}, Followed P Q p → (∀ a, Followed P Q (f a)) →
      Followed P Q (p.bind f)
  | .done a, _, hf => hf a
  | .await e k, hp, hf => fun r => by
      obtain ⟨hrest, hnext⟩ := hp r
      refine ⟨hrest.bind hf, fun he => ?_⟩
      obtain ⟨e', k', hk, he'⟩ := hnext he
      exact ⟨e', fun r' => (k' r').bind f, congrArg (·.bind f) hk, he'⟩

/-- A program without such calls. -/
theorem Only.followed {P Q : E → Prop} :
    ∀ {p : Resumption E R α}, Only (fun e => ¬P e) p → Followed P Q p
  | .done _, _ => trivial
  | .await _ _, hp => fun r => ⟨(hp.2 r).followed, fun he => absurd he hp.1⟩

/-- At a cut after a call of `P` the program awaits one of `Q`. -/
theorem Followed.reaches {P Q : E → Prop} {q : Resumption E R α} {ev : Event E R} (hev : P ev.1) :
    ∀ {past : List (Event E R)} {p : Resumption E R α}, Followed P Q p →
      p.Reaches (past ++ [ev]) q → ∃ e k, q = .await e k ∧ Q e
  | [], _, hp, ⟨k, hawait, hdone⟩ => by
      subst hawait
      obtain rfl : k ev.2 = q := hdone
      exact (hp ev.2).2 hev
  | first :: past, _, hp, ⟨k, hawait, hk⟩ => by
      subst hawait
      exact (hp first.2).1.reaches hev hk

/-! ## §7. Programs that keep a record. -/

/-- The program, of which the record is forgotten. -/
def erase {ν : Type} (p : Resumption E R (α × ν)) : Resumption E R α :=
  p.bind fun a => .done a.1

/-- **Forgetting the record goes with sequencing.** -/
theorem erase_bind {ν ν' : Type} {p : Resumption E R (α × ν)} {f : α → Resumption E R β}
    {g : α × ν → Resumption E R (β × ν')} (h : ∀ a seen, (g (a, seen)).erase = f a) :
    (p.bind g).erase = p.erase.bind f := by
  induction p with
  | done a => exact h a.1 a.2
  | await e k ih => exact congrArg (Resumption.await e) (funext ih)

theorem bind_done (p : Resumption E R α) : p.bind .done = p := by
  induction p with
  | done a => rfl
  | await e k ih => exact congrArg (Resumption.await e) (funext ih)

/-- A record that is made of the result afterwards. -/
theorem erase_recording {ν : Type} (p : Resumption E R α) (f : α → ν) :
    (p.bind fun a => .done (a, f a)).erase = p := by
  induction p with
  | done a => rfl
  | await e k ih => exact congrArg (Resumption.await e) (funext ih)

/-- A run of a program is the run of the one that keeps a record. -/
theorem runs_erase {ν : Type} {p : Resumption E R (α × ν)} {tr : List (Event E R)} {a : α} :
    p.erase.Runs tr a ↔ ∃ seen, p.Runs tr (a, seen) := by
  unfold erase
  rw [runs_bind]
  constructor
  · rintro ⟨⟨a', seen⟩, tr₁, tr₂, rfl, hrun, rfl, rfl⟩
    rw [List.append_nil]
    exact ⟨seen, hrun⟩
  · rintro ⟨seen, hrun⟩
    exact ⟨(a, seen), tr, [], (List.append_nil tr).symm, hrun, rfl, rfl⟩

end Resumption

end CmlCloudManager.Foundation
