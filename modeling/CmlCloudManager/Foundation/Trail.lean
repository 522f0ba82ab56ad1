/-
  CmlCloudManager.Foundation.Trail
  ────────────────────────────────
  **AN AUDIT TRAIL.**

  An object with a status keeps a log of its moves: each entry says where the move
  started (nowhere, for the first one) and where it led.  The log is a `Trail` of
  the status if every entry starts where the one before it led, and the last one
  led to the status:

    • `Trail.singleton` — the trail of a creation,
    • `Trail.snoc`      — one move more,
    • `Trail.status_eq` — a log is the trail of one status at most.
-/
import Mathlib.Data.List.Chain

namespace CmlCloudManager.Foundation

variable {σ ε : Type} (source : ε → Option σ) (target : ε → σ)

/-- A log of moves that ends in the status. -/
structure Trail (log : List ε) (status : σ) : Prop where
  chain : log.IsChain fun e f => source f = some (target e)
  last : ∃ entry, log.getLast? = some entry ∧ target entry = status

variable {source target} {log : List ε} {status : σ} {entry : ε}

theorem Trail.singleton (h : target entry = status) : Trail source target [entry] status :=
  ⟨List.isChain_singleton _, entry, rfl, h⟩

/-- Appending a move that starts at the current status. -/
theorem Trail.snoc (h : Trail source target log status) (hsource : source entry = some status) :
    Trail source target (log ++ [entry]) (target entry) := by
  obtain ⟨last, hlast, hstatus⟩ := h.last
  refine ⟨?_, entry, List.getLast?_concat .., rfl⟩
  refine h.chain.append (List.isChain_singleton _) ?_
  intro x hx y hy
  obtain rfl : last = x := Option.some.inj (hlast.symm.trans hx)
  obtain rfl : entry = y := Option.some.inj hy
  rw [hsource, hstatus]

/-- A log is the trail of at most one status. -/
theorem Trail.status_eq {status' : σ} (h : Trail source target log status)
    (h' : Trail source target log status') : status' = status := by
  obtain ⟨last, hlast, hstatus⟩ := h.last
  obtain ⟨last', hlast', hstatus'⟩ := h'.last
  obtain rfl : last = last' := Option.some.inj (hlast.symm.trans hlast')
  exact hstatus'.symm.trans hstatus

end CmlCloudManager.Foundation
