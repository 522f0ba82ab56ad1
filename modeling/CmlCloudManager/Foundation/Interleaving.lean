/-
  CmlCloudManager.Foundation.Interleaving
  ───────────────────────────────────────
  **PROGRAMS THAT SHARE A STATE.**

  The calls of a suspendable program are accesses to a state `σ`: `handle c s e`
  answers the access `e` in state `s`, where `c` is what the surroundings add (an
  outage, a clock reading).  The same programs are run in two ways:

    • `alone`   — one program from its start to its end; what it may return and
                  leave behind composes along the program (`completes_bind`),
    • `advance` — of several programs one makes its next access.

  A thread remembers the accesses it has made, so that what it can do next is a
  matter of its program and of this trace (`advance_reaches`).
-/
import CmlCloudManager.Foundation.Resumption

namespace CmlCloudManager.Foundation

variable {E : Type} {R : E → Type} {α κ σ ξ : Type}

/-! ## §1. One program at a time. -/

/-- The result of a program that has the state to itself, and the state it leaves. -/
def alone (handle : ξ → σ → (e : E) → R e × σ) :
    Resumption E R α → (Nat → ξ) → σ → α × σ
  | .done a, _, s => (a, s)
  | .await e k, around, s =>
      let answer := handle (around 0) s e
      alone handle (k answer.1) (fun n => around (n + 1)) answer.2

/-- A program that has the state to itself may return `b` and leave `t`. -/
def Completes (handle : ξ → σ → (e : E) → R e × σ) : Resumption E R α → σ → α → σ → Prop
  | .done a, s, b, t => b = a ∧ t = s
  | .await e k, s, b, t =>
      ∃ c, Completes handle (k (handle c s e).1) (handle c s e).2 b t

section Alone

variable {handle : ξ → σ → (e : E) → R e × σ} {s t : σ}

theorem alone_completes : ∀ (p : Resumption E R α) (around : Nat → ξ) (s : σ),
    Completes handle p s (alone handle p around s).1 (alone handle p around s).2
  | .done _, _, _ => ⟨rfl, rfl⟩
  | .await e k, around, s =>
      ⟨around 0, alone_completes (k (handle (around 0) s e).1) _ (handle (around 0) s e).2⟩

/-- A result that is only wrapped. -/
theorem alone_bind_done {β : Type} (f : α → β) :
    ∀ (p : Resumption E R α) (around : Nat → ξ) (s : σ),
      alone handle (p.bind fun a => .done (f a)) around s
        = (f (alone handle p around s).1, (alone handle p around s).2)
  | .done _, _, _ => rfl
  | .await e k, around, s =>
      alone_bind_done f (k (handle (around 0) s e).1) _ (handle (around 0) s e).2

/-- Surroundings that stay as they are: the parts run one after the other. -/
theorem alone_bind_const {β : Type} (f : α → Resumption E R β) (c : ξ) :
    ∀ (p : Resumption E R α) (s : σ),
      alone handle (p.bind f) (fun _ => c) s
        = alone handle (f (alone handle p (fun _ => c) s).1) (fun _ => c)
            (alone handle p (fun _ => c) s).2
  | .done _, _ => rfl
  | .await e k, s => alone_bind_const f c (k (handle c s e).1) (handle c s e).2

@[simp] theorem completes_done {a b : α} :
    Completes handle (.done a : Resumption E R α) s b t ↔ b = a ∧ t = s := Iff.rfl

@[simp] theorem completes_call {e : E} {b : R e} :
    Completes handle (.call e : Resumption E R (R e)) s b t ↔ ∃ c, (b, t) = handle c s e := by
  constructor
  · rintro ⟨c, rfl, rfl⟩
    exact ⟨c, rfl⟩
  · rintro ⟨c, h⟩
    obtain ⟨rfl, rfl⟩ := Prod.mk.inj h
    exact ⟨c, rfl, rfl⟩

/-- **Sequencing splits a completion.** -/
theorem completes_bind {β : Type} {f : α → Resumption E R β} {b : β} :
    ∀ {p : Resumption E R α} {s : σ},
      Completes handle (p.bind f) s b t
        ↔ ∃ a u, Completes handle p s a u ∧ Completes handle (f a) u b t
  | .done a, s => by
      constructor
      · intro h
        exact ⟨a, s, ⟨rfl, rfl⟩, h⟩
      · rintro ⟨a', u, ⟨rfl, rfl⟩, h⟩
        exact h
  | .await e k, s => by
      constructor
      · rintro ⟨c, h⟩
        obtain ⟨a, u, hfirst, hrest⟩ := completes_bind.mp h
        exact ⟨a, u, ⟨c, hfirst⟩, hrest⟩
      · rintro ⟨a, u, ⟨c, hfirst⟩, hrest⟩
        exact ⟨c, completes_bind.mpr ⟨a, u, hfirst, hrest⟩⟩

/-- Either the first program raised, or the second one went on with its result. -/
theorem completes_andThen {ε β : Type} {p : Resumption E R (Except ε α)}
    {f : α → Resumption E R (Except ε β)} {b : Except ε β}
    (h : Completes handle (p.andThen f) s b t) :
    (∃ raised, Completes handle p s (.error raised) t ∧ b = .error raised)
      ∨ ∃ a u, Completes handle p s (.ok a) u ∧ Completes handle (f a) u b t := by
  obtain ⟨a, u, hfirst, hrest⟩ := completes_bind.mp h
  cases a with
  | error raised =>
      obtain ⟨rfl, rfl⟩ := hrest
      exact .inl ⟨raised, hfirst, rfl⟩
  | ok a => exact .inr ⟨a, u, hfirst, hrest⟩

end Alone

/-! ## §2. Several programs. -/

/-- A program under way: what was asked for, what is left of it, what it has done. -/
structure Thread (E : Type) (R : E → Type) (α κ : Type) where
  request : κ
  program : Resumption E R α
  trace : List (Resumption.Event E R) := []

namespace Thread

/-- The access the thread makes next. -/
def next (t : Thread E R α κ) : Option E :=
  match t.program with
  | .done _ => none
  | .await e _ => some e

/-- What the program returned, if it did. -/
def result (t : Thread E R α κ) : Option α :=
  match t.program with
  | .done a => some a
  | .await _ _ => none

end Thread

/-- Threads around a state. -/
structure Shared (E : Type) (R : E → Type) (α κ σ : Type) where
  state : σ
  threads : List (Thread E R α κ)

/-- The threads of some requests, before their first access. -/
def Shared.start (body : κ → Resumption E R α) (s : σ) (requests : List κ) :
    Shared E R α κ σ where
  state := s
  threads := requests.map fun request => { request := request, program := body request }

/-- Thread `i` makes its next access. -/
def advance (handle : ξ → σ → (e : E) → R e × σ) (w : Shared E R α κ σ) (turn : Nat × ξ) :
    Option (Shared E R α κ σ) :=
  match w.threads[turn.1]? with
  | some ⟨request, .await e k, trace⟩ =>
      let answer := handle turn.2 w.state e
      some
        { state := answer.2
          threads := w.threads.set turn.1 ⟨request, k answer.1, trace ++ [⟨e, answer.1⟩]⟩ }
  | _ => none

section Advance

variable {handle : ξ → σ → (e : E) → R e × σ} {w w' : Shared E R α κ σ} {turn : Nat × ξ}

/-- What an access is: a thread waits for it and goes on with the answer. -/
theorem advance_cases (h : advance handle w turn = some w') :
    ∃ request e k trace, w.threads[turn.1]? = some ⟨request, .await e k, trace⟩
      ∧ w' =
        { state := (handle turn.2 w.state e).2
          threads := w.threads.set turn.1
            ⟨request, k (handle turn.2 w.state e).1,
              trace ++ [⟨e, (handle turn.2 w.state e).1⟩]⟩ } := by
  unfold advance at h
  split at h
  next request e k trace hthread =>
    injection h with h
    exact ⟨request, e, k, trace, hthread, h.symm⟩
  next => cases h

/-- Every thread is where its trace has brought the program of its request. -/
def Shared.Tracked (body : κ → Resumption E R α) (w : Shared E R α κ σ) : Prop :=
  ∀ t ∈ w.threads, (body t.request).Reaches t.trace t.program

theorem tracked_start (body : κ → Resumption E R α) (s : σ) (requests : List κ) :
    (Shared.start body s requests).Tracked body := by
  intro t ht
  obtain ⟨request, -, rfl⟩ := List.mem_map.mp ht
  rfl

/-- An access keeps the threads with their traces. -/
theorem advance_reaches {body : κ → Resumption E R α} (hw : w.Tracked body)
    (h : advance handle w turn = some w') : w'.Tracked body := by
  obtain ⟨request, e, k, trace, hthread, rfl⟩ := advance_cases h
  intro t ht
  rcases List.mem_or_eq_of_mem_set ht with ht | rfl
  · exact hw t ht
  · have hbefore := hw _ (List.mem_of_getElem? hthread)
    exact hbefore.step _

/-- An access leaves the requests alone. -/
theorem advance_requests (h : advance handle w turn = some w') :
    w'.threads.map Thread.request = w.threads.map Thread.request := by
  obtain ⟨request, e, k, trace, hthread, rfl⟩ := advance_cases h
  obtain ⟨hlt, hget⟩ := List.getElem?_eq_some_iff.mp hthread
  rw [List.map_set]
  have hmap : turn.1 < (w.threads.map Thread.request).length := by
    rw [List.length_map]
    exact hlt
  have hsame : (w.threads.map Thread.request)[turn.1] = request := by
    rw [List.getElem_map, hget]
  rw [← hsame, List.set_getElem_self]

end Advance

end CmlCloudManager.Foundation
