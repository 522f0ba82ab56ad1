/-
  CmlCloudManager.ControlPlane.PortSearch
  ───────────────────────────────────────
  **THE SEARCH FOR FREE PORTS, TURN BY TURN.**

  `_find_available_ports` goes up the configured range until it has as many free ports as
  were asked for, or is past the end.  Each turn brings it one port closer to the end, so
  that it stops (`exists_ends`), and where it stops it has what `findAvailablePorts`
  computes (`Ends.eq_searchPorts`).  Those are the first of the free ports in order, which
  `freeSet` describes with nothing of the loop in it.
-/
import Mathlib.Data.Int.Interval
import CmlCloudManager.ControlPlane.PortAvailability
import CmlCloudManager.Foundation.Transition

namespace CmlCloudManager.ControlPlane

open CmlCloudManager.Foundation

namespace PortAllocationService

/-! ## §1. The loop. -/

/-- The local variables of `_find_available_ports`. -/
structure PortSearch where
  available : List Int := []
  port : Int

/-- One turn, if the condition of the loop holds. -/
def PortSearch.turn (allocatedPorts : List Int) (count last : Int) (s : PortSearch) :
    Option PortSearch :=
  if (s.available.length : Int) < count ∧ s.port ≤ last then
    some
      { available :=
          if s.port ∉ allocatedPorts then s.available ++ [s.port] else s.available
        port := s.port + 1 }
  else none

variable {allocatedPorts : List Int} {count last : Int}

theorem PortSearch.turn_eq_some {s t : PortSearch} (h : s.turn allocatedPorts count last = some t) :
    ((s.available.length : Int) < count ∧ s.port ≤ last)
      ∧ t.available = (if s.port ∉ allocatedPorts then s.available ++ [s.port] else s.available)
      ∧ t.port = s.port + 1 := by
  unfold turn at h
  split at h
  next hturn =>
    cases h
    exact ⟨hturn, rfl, rfl⟩
  next => cases h

theorem PortSearch.turn_eq_none {s : PortSearch} (h : s.turn allocatedPorts count last = none) :
    ¬((s.available.length : Int) < count ∧ s.port ≤ last) := by
  unfold turn at h
  split at h
  next => cases h
  next hstop => exact hstop

/-- The ports that are still ahead. -/
def PortSearch.ahead (last : Int) (s : PortSearch) : Nat := (last + 1 - s.port).toNat

theorem PortSearch.ahead_turn {s t : PortSearch} (h : s.turn allocatedPorts count last = some t) :
    t.ahead last < s.ahead last := by
  obtain ⟨⟨-, hlast⟩, -, hport⟩ := turn_eq_some h
  unfold ahead
  omega

/-- Where the loop stops, it has what the search returns. -/
theorem ends_searchPorts {s t : PortSearch} {turns : Nat}
    (h : Ends (PortSearch.turn allocatedPorts count last) s turns t) :
    ∀ fuel : Nat, last < s.port + fuel →
      t.available = searchPorts allocatedPorts count.toNat last fuel s.available s.port := by
  induction h with
  | stop hstop =>
      intro fuel _
      have hcond := PortSearch.turn_eq_none hstop
      cases fuel with
      | zero => rfl
      | succ fuel =>
          rw [searchPorts, if_neg]
          rintro ⟨hmissing, hlast⟩
          exact hcond ⟨by omega, hlast⟩
  | next hturn rest ih =>
      intro fuel hfuel
      obtain ⟨⟨hmissing, hlast⟩, havailable, hport⟩ := PortSearch.turn_eq_some hturn
      cases fuel with
      | zero => exact absurd hlast (by simpa using hfuel)
      | succ fuel =>
          rw [searchPorts, if_pos ⟨by omega, hlast⟩, ← havailable, ← hport]
          exact ih fuel (by rw [hport]; push_cast at hfuel; omega)

/-! ## §2. The free ports. -/

/-- The ports of the range that are not allocated. -/
def freeSet (service : PortAllocationService) (allocatedPorts : List Int) : Finset Int :=
  (@Finset.Icc Int _ Int.instLocallyFiniteOrder service.portRangeMin service.portRangeMax).filter
    (· ∉ allocatedPorts)

variable {service : PortAllocationService}

theorem mem_freePorts_iff {p : Int} :
    p ∈ service.freePorts allocatedPorts ↔ p ∈ service.freeSet allocatedPorts := by
  simp [freePorts, freeSet, mem_rangePorts]

theorem rangePorts_sorted (service : PortAllocationService) :
    service.rangePorts.Pairwise (· < ·) := by
  unfold rangePorts portsFrom
  rw [List.pairwise_map]
  exact List.pairwise_lt_range.imp fun h => by omega

theorem freePorts_sorted (service : PortAllocationService) (allocatedPorts : List Int) :
    (service.freePorts allocatedPorts).Pairwise (· < ·) :=
  service.rangePorts_sorted.filter _

theorem length_freePorts (service : PortAllocationService) (allocatedPorts : List Int) :
    (service.freePorts allocatedPorts).length = (service.freeSet allocatedPorts).card := by
  have hnodup : (service.freePorts allocatedPorts).Nodup := service.rangePorts_nodup.filter _
  rw [← List.toFinset_card_of_nodup hnodup]
  refine congrArg Finset.card (Finset.ext fun p => ?_)
  rw [List.mem_toFinset, mem_freePorts_iff]

/-- The front of an ascending list is below the rest of it. -/
theorem lt_of_mem_take {ports : List Int} (hsorted : ports.Pairwise (· < ·)) {n : Nat} {p q : Int}
    (hp : p ∈ ports.take n) (hq : q ∈ ports) (hnot : q ∉ ports.take n) : p < q := by
  rw [← List.take_append_drop n ports] at hsorted hq
  have hdrop : q ∈ ports.drop n := (List.mem_append.mp hq).resolve_left hnot
  exact (List.pairwise_append.mp hsorted).2.2 p hp q hdrop

/-! ## §3. The search. -/

/-- **The search stops, with the lowest free ports**: as many as were asked for or all there
are, in ascending order. -/
theorem findAvailablePorts_lowest (service : PortAllocationService) (allocatedPorts : List Int)
    (count : Int) :
    (∃ turns final, Ends (PortSearch.turn allocatedPorts count service.portRangeMax)
        { port := service.portRangeMin } turns final)
      ∧ ∀ turns final, Ends (PortSearch.turn allocatedPorts count service.portRangeMax)
          { port := service.portRangeMin } turns final →
        final.available = service.findAvailablePorts allocatedPorts count.toNat
        ∧ final.available.Pairwise (· < ·)
        ∧ final.available.length = min count.toNat (service.freeSet allocatedPorts).card
        ∧ (∀ p ∈ final.available, p ∈ service.freeSet allocatedPorts)
        ∧ ∀ p ∈ final.available, ∀ q ∈ service.freeSet allocatedPorts, q ∉ final.available →
          p < q := by
  constructor
  · obtain ⟨turns, final, -, hends⟩ :=
      exists_ends (PortSearch.ahead service.portRangeMax)
        (fun s t hturn => PortSearch.ahead_turn hturn) _ { port := service.portRangeMin }
        (Nat.le_refl _)
    exact ⟨turns, final, hends⟩
  · intro turns final hends
    have hfound : final.available = service.findAvailablePorts allocatedPorts count.toNat :=
      ends_searchPorts hends _ (by dsimp only; omega)
    have htake := hfound.trans (findAvailablePorts_eq_take service allocatedPorts count.toNat)
    refine ⟨hfound, ?_, ?_, fun p hp => ?_, fun p hp q hq hnot => ?_⟩
    · rw [htake]
      exact (service.freePorts_sorted allocatedPorts).sublist (List.take_sublist _ _)
    · rw [htake, List.length_take, length_freePorts]
    · rw [htake] at hp
      exact mem_freePorts_iff.mp (List.mem_of_mem_take hp)
    · rw [htake] at hp hnot
      exact lt_of_mem_take (service.freePorts_sorted allocatedPorts) hp
        (mem_freePorts_iff.mpr hq) hnot

end PortAllocationService

end CmlCloudManager.ControlPlane
