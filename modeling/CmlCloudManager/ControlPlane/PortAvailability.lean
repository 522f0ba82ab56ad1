/-
  CmlCloudManager.ControlPlane.PortAvailability
  ─────────────────────────────────────────────
  **ASKING FOR FREE PORTS BEFORE TAKING THEM.**

  `validate_port_availability` subtracts the number of ports in use from the size
  of the range; `allocate_ports` searches the range, wants a range of at least two
  ports and hands what it finds to `PortAllocation`.  Both are reduced to the same
  three lists:

    • `rangePorts` — the configured range,
    • `freePorts`  — the ports of it that are not in use,
    • `strayPorts` — the ports in use that are not in the range.

  The subtraction is short by the stray ports, and it knows nothing of what the
  allocation refuses: the two agree exactly under `Agreed`, and in particular as
  long as the documents hold ports of an ordinary range only.
-/
import CmlCloudManager.ControlPlane.PortAllocation

namespace CmlCloudManager.ControlPlane

open CmlCloudManager.Foundation

namespace PortAllocationService

/-! ## §1. The check. -/

/-- `validate_port_availability`. -/
def validatePortAvailability (service : PortAllocationService) (workerId : String)
    (portTemplate : PortTemplate) : EtcdCall (Bool × Option String) :=
  if portTemplate.portCount = 0 then .done (true, none)
  else
    (EtcdStateStore.getAllocatedPortsForWorker workerId).bind fun
      | .error raised => .done (false, some ("Failed to check availability: " ++ raised))
      | .ok allocated =>
          let availableCount : Int :=
            service.portRangeMax - service.portRangeMin + 1 - allocated.length
          if availableCount ≥ portTemplate.portCount then .done (true, none)
          else
            .done (false, some ("Need " ++ toString portTemplate.portCount ++ " ports, only "
              ++ toString availableCount ++ " available"))

/-! ## §2. The ports of a range. -/

/-- The configured range. -/
def rangePorts (service : PortAllocationService) : List Int :=
  portsFrom service.portRangeMin (service.portRangeMax + 1 - service.portRangeMin).toNat

/-- The ports of the range that are not in use, in order. -/
def freePorts (service : PortAllocationService) (usedPorts : List Int) : List Int :=
  service.rangePorts.filter fun p => decide (p ∉ usedPorts)

/-- The ports in use that are not in the range. -/
def strayPorts (service : PortAllocationService) (usedPorts : List Int) : List Int :=
  usedPorts.filter fun p => decide (p ∉ service.rangePorts)

variable {service : PortAllocationService}

theorem mem_rangePorts {p : Int} :
    p ∈ service.rangePorts ↔ service.portRangeMin ≤ p ∧ p ≤ service.portRangeMax := by
  unfold rangePorts portsFrom
  rw [List.mem_map]
  constructor
  · rintro ⟨n, hn, rfl⟩
    have hn := List.mem_range.mp hn
    omega
  · rintro ⟨hmin, hmax⟩
    exact ⟨(p - service.portRangeMin).toNat, List.mem_range.mpr (by omega), by omega⟩

theorem length_rangePorts (service : PortAllocationService) :
    service.rangePorts.length = (service.portRangeMax + 1 - service.portRangeMin).toNat := by
  rw [rangePorts, portsFrom, List.length_map, List.length_range]

theorem rangePorts_nodup (service : PortAllocationService) : service.rangePorts.Nodup := by
  refine List.Nodup.map ?_ List.nodup_range
  intro m n h
  have h : service.portRangeMin + (m : Int) = service.portRangeMin + n := h
  omega

/-- **The range counted twice**: what is free and what is in use are the range and the
stray ports. -/
theorem length_freePorts_add {used : List Int} (hnodup : used.Nodup) :
    (service.freePorts used).length + used.length
      = service.rangePorts.length + (service.strayPorts used).length := by
  -- the ports in use within the range, read off the range or off the ports in use
  have hperm : (service.rangePorts.filter fun p => !decide (p ∉ used)).Perm
      (used.filter fun p => !decide (p ∉ service.rangePorts)) := by
    refine (List.perm_ext_iff_of_nodup (service.rangePorts_nodup.filter _)
      (hnodup.filter _)).mpr fun p => ?_
    simp only [List.mem_filter, Bool.not_eq_true', decide_eq_false_iff_not, not_not]
    exact and_comm
  have hrange := List.length_eq_length_filter_add (l := service.rangePorts)
    fun p => decide (p ∉ used)
  have hused := List.length_eq_length_filter_add (l := used)
    fun p => decide (p ∉ service.rangePorts)
  have hsame := hperm.length_eq
  unfold freePorts strayPorts
  omega

/-- **What the search finds**: the first free ports. -/
theorem findAvailablePorts_eq_take (service : PortAllocationService) (used : List Int)
    (count : Nat) :
    service.findAvailablePorts used count = (service.freePorts used).take count := by
  unfold findAvailablePorts freePorts rangePorts
  by_cases hrange : service.portRangeMin ≤ service.portRangeMax + 1
  · rw [searchPorts_eq _ (by omega) (Nat.zero_le _), List.nil_append, List.length_nil, Nat.sub_zero]
  · have hnone : (service.portRangeMax + 1 - service.portRangeMin).toNat = 0 := by omega
    rw [hnone]
    simp [searchPorts, portsFrom]

end PortAllocationService

/-! ## §3. The two calls, with nobody else at etcd. -/

/-- The ports a worker's document holds, each once. -/
def PortStore.portsInUse (store : PortStore) (workerId : String) : List Int :=
  (Holdings.inUse (store.current workerId)).dedup

theorem PortStore.portsInUse_nodup (store : PortStore) (workerId : String) :
    (store.portsInUse workerId).Nodup :=
  List.nodup_dedup _

theorem PortStore.mem_portsInUse {store : PortStore} {workerId : String} {p : Int} :
    p ∈ store.portsInUse workerId ↔ p ∈ Holdings.inUse (store.current workerId) :=
  List.mem_dedup

theorem EtcdStateStore.alone_getAllocatedPorts (store : PortStore) (workerId : String) :
    alone etcd (getAllocatedPortsForWorker workerId) (fun _ => none) store
      = (.ok (store.portsInUse workerId), store) := by
  unfold PortStore.portsInUse PortStore.current
  simp only [getAllocatedPortsForWorker, getWorkerPorts, Resumption.andThen, Resumption.call,
    Resumption.bind, alone, etcd]
  cases store.get? workerId with
  | none => rfl
  | some allocations => rfl

/-- Ports that are not in use are stored without a conflict. -/
theorem EtcdStateStore.alone_allocateSessionPorts {store : PortStore} {workerId : String}
    {ports : Ports} (sessionId : String)
    (hfree : ∀ p ∈ ports.values, p ∉ store.portsInUse workerId) :
    (alone etcd (allocateSessionPorts workerId sessionId ports) (fun _ => none) store).1
      = .ok true := by
  have hnone : (ports.values.any fun port =>
      (Holdings.inUse (store.current workerId)).contains port) = false := by
    refine List.any_eq_false.mpr fun p hp hused => hfree p hp ?_
    rw [PortStore.mem_portsInUse]
    exact List.contains_iff_mem.mp hused
  unfold PortStore.current at hnone
  simp only [allocateSessionPorts, getWorkerPorts, setWorkerPorts, Resumption.andThen,
    Resumption.call, Resumption.bind, alone, etcd, hnone, Bool.false_eq_true, if_false]

namespace PortAllocationService

variable {service : PortAllocationService} {workerId sessionId : String}
  {portTemplate : PortTemplate} {store : PortStore} {now : Int}

/-- The answer of `validate_port_availability`. -/
def available (service : PortAllocationService) (store : PortStore) (workerId : String)
    (portTemplate : PortTemplate) : Bool :=
  (alone etcd (service.validatePortAvailability workerId portTemplate) (fun _ => none) store).1.1

/-- Whether `allocate_ports` succeeds. -/
def allocatable (service : PortAllocationService) (store : PortStore)
    (workerId sessionId : String) (portTemplate : PortTemplate) (now : Int) : Bool :=
  (alone etcd (service.allocatePorts workerId sessionId portTemplate now) (fun _ => none)
    store).1.success

/-- **The check subtracts.** -/
theorem available_iff :
    service.available store workerId portTemplate = true
      ↔ portTemplate.portCount = 0
        ∨ portTemplate.portCount + (service.strayPorts (store.portsInUse workerId)).length
            ≤ (service.freePorts (store.portsInUse workerId)).length := by
  unfold available validatePortAvailability
  split
  next hnone =>
    exact iff_of_true rfl (.inl hnone)
  next hsome =>
    rw [alone_bind_const, EtcdStateStore.alone_getAllocatedPorts]
    have hcount := service.length_freePorts_add (store.portsInUse_nodup workerId)
    rw [length_rangePorts] at hcount
    dsimp only
    split
    next henough =>
      refine iff_of_true rfl (.inr ?_)
      omega
    next hshort =>
      refine iff_of_false Bool.false_ne_true ?_
      omega

/-- What the allocation asks for beyond a sufficient number: a range of at least two ports,
and ports for the template that `PortAllocation` accepts. -/
def Accepted (service : PortAllocationService) (usedPorts : List Int) (count : Nat) : Prop :=
  service.portRangeMin < service.portRangeMax
    ∧ ∀ p ∈ (service.freePorts usedPorts).take count, 2000 ≤ p ∧ p ≤ 65535

instance (service : PortAllocationService) (usedPorts : List Int) (count : Nat) :
    Decidable (service.Accepted usedPorts count) :=
  inferInstanceAs (Decidable (_ ∧ _))

/-- `PortAllocation` accepts a mapping when it accepts its ports. -/
theorem checked_isOk_zip {ports : List Int} (now : Int) (hsession : sessionId ≠ "")
    (hlength : portTemplate.portNames.length = ports.length) :
    (∃ a, PortAllocation.checked sessionId (Dict.ofList (portTemplate.portNames.zip ports)) now
        = .ok a)
      ↔ ∀ p ∈ ports, 2000 ≤ p ∧ p ≤ 65535 := by
  have hentries := Dict.entries_ofList_zip portTemplate.portNames_nodup (Nat.le_of_eq hlength)
  rw [PortAllocation.checked_isOk hsession]
  constructor
  · intro h p hp
    -- every port stands under one of the names
    have hports := List.map_snd_zip (Nat.le_of_eq hlength.symm)
    rw [← hports] at hp
    obtain ⟨entry, hentry, rfl⟩ := List.mem_map.mp hp
    refine h entry.1 entry.2 ?_
    rw [Dict.get?_eq_some_iff, hentries]
    exact hentry
  · intro h name p hp
    rw [Dict.get?_eq_some_iff, hentries] at hp
    exact h p (List.of_mem_zip hp).2

/-- The search, the entry and `PortAllocation` together succeed when there are enough free
ports and the first of them are accepted. -/
theorem tryAllocate_iff (service : PortAllocationService) (store : PortStore) (workerId : String)
    (portTemplate : PortTemplate) (now : Int) (hsession : sessionId ≠ "") :
    (∃ result, (alone etcd (service.tryAllocate workerId sessionId portTemplate now)
          (fun _ => none) store).1 = .ok result ∧ result.success = true)
      ↔ portTemplate.portCount ≤ (service.freePorts (store.portsInUse workerId)).length
        ∧ ∀ p ∈ (service.freePorts (store.portsInUse workerId)).take portTemplate.portCount,
            2000 ≤ p ∧ p ≤ 65535 := by
  generalize hfree : service.freePorts (store.portsInUse workerId) = free
  rw [tryAllocate, Resumption.andThen, alone_bind_const, EtcdStateStore.alone_getAllocatedPorts]
  simp only [findAvailablePorts_eq_take, hfree, List.length_take]
  split
  next hshort =>
    refine iff_of_false ?_ fun h => absurd h.1 (by omega)
    rintro ⟨result, h, hsuccess⟩
    cases h
    cases hsuccess
  next henough =>
    have henough : portTemplate.portCount ≤ free.length := by omega
    have hlength : portTemplate.portNames.length
        = (free.take portTemplate.portCount).length := by
      rw [PortTemplate.portNames, List.length_map, List.length_take]
      exact (Nat.min_eq_left henough).symm
    -- the ports of the mapping are free, so that they are stored
    have hvalues : ∀ p ∈ (Dict.ofList (portTemplate.portNames.zip
        (free.take portTemplate.portCount))).values, p ∉ store.portsInUse workerId := by
      intro p hp
      rw [Dict.values, Dict.entries_ofList_zip portTemplate.portNames_nodup
        (Nat.le_of_eq hlength), List.map_snd_zip (Nat.le_of_eq hlength.symm)] at hp
      have hmem := List.mem_of_mem_take hp
      rw [← hfree] at hmem
      exact of_decide_eq_true (List.mem_filter.mp hmem).2
    rw [Resumption.andThen, alone_bind_const,
      EtcdStateStore.alone_allocateSessionPorts sessionId hvalues,
      ← checked_isOk_zip now hsession hlength]
    simp only [Bool.not_true, Bool.false_eq_true, if_false]
    cases PortAllocation.checked sessionId
        (Dict.ofList (portTemplate.portNames.zip (free.take portTemplate.portCount))) now with
    | error raised =>
        refine iff_of_false ?_ ?_
        · rintro ⟨result, h, -⟩
          cases h
        · rintro ⟨-, a, ha⟩
          cases ha
    | ok allocation =>
        exact iff_of_true ⟨_, rfl, rfl⟩ ⟨henough, allocation, rfl⟩

/-- **The allocation searches.** -/
theorem allocatable_iff (hworker : workerId ≠ "") (hsession : sessionId ≠ "") :
    service.allocatable store workerId sessionId portTemplate now = true
      ↔ portTemplate.portCount = 0
        ∨ (portTemplate.portCount ≤ (service.freePorts (store.portsInUse workerId)).length
          ∧ service.Accepted (store.portsInUse workerId) portTemplate.portCount) := by
  unfold allocatable allocatePorts Accepted
  rw [if_neg hworker, if_neg hsession]
  split
  next hnone => exact iff_of_true rfl (.inl hnone)
  next hsome =>
  rw [or_iff_right hsome]
  split
  next hrange =>
    exact iff_of_false Bool.false_ne_true fun h => absurd h.2.1 (Int.not_lt.mpr hrange)
  next hrange =>
    rw [and_iff_right (Int.lt_of_not_ge hrange),
      ← tryAllocate_iff service store workerId portTemplate now hsession, alone_bind_const]
    cases (alone etcd (service.tryAllocate workerId sessionId portTemplate now)
        (fun _ => none) store).1 with
    | error raised =>
        refine iff_of_false Bool.false_ne_true ?_
        rintro ⟨result, h, -⟩
        cases h
    | ok result =>
        constructor
        · exact fun hsuccess => ⟨result, rfl, hsuccess⟩
        · rintro ⟨result', h, hsuccess⟩
          cases h
          exact hsuccess

/-! ## §4. When they agree. -/

/-- No port is asked for; or there are too few; or there are enough of them even without the
stray ports, and the allocation accepts them; or there are enough of them, though not without
the stray ports, and the allocation refuses them. -/
def Agreed (service : PortAllocationService) (usedPorts : List Int) (count : Nat) : Prop :=
  count = 0
    ∨ (service.freePorts usedPorts).length < count
    ∨ (count + (service.strayPorts usedPorts).length ≤ (service.freePorts usedPorts).length
        ∧ service.Accepted usedPorts count)
    ∨ ((service.freePorts usedPorts).length < count + (service.strayPorts usedPorts).length
        ∧ ¬service.Accepted usedPorts count)

instance (service : PortAllocationService) (usedPorts : List Int) (count : Nat) :
    Decidable (service.Agreed usedPorts count) :=
  inferInstanceAs (Decidable (_ ∨ _ ∨ _ ∨ _))

/-- **The check is right about the allocation exactly when they agree on the stray ports.** -/
theorem availability_agrees_iff (service : PortAllocationService) (store : PortStore)
    (workerId sessionId : String) (portTemplate : PortTemplate) (now : Int)
    (hworker : workerId ≠ "") (hsession : sessionId ≠ "") :
    (service.available store workerId portTemplate = true
        ↔ service.allocatable store workerId sessionId portTemplate now = true)
      ↔ service.Agreed (store.portsInUse workerId) portTemplate.portCount := by
  rw [available_iff, allocatable_iff hworker hsession]
  unfold Agreed
  generalize service.Accepted (store.portsInUse workerId) portTemplate.portCount = accepted
  by_cases haccepted : accepted
  · simp only [haccepted, and_true, not_true_eq_false, and_false, or_false]
    omega
  · simp only [haccepted, and_false, or_false, not_false_eq_true, and_true, false_or]
    omega

/-- A range of two ports, configured after the worker has lent a port below it. -/
def movedRange : PortAllocationService where
  portRangeMin := 3000
  portRangeMax := 3001

/-- The port lent before. -/
def lentBefore : PortStore :=
  Dict.empty.set "worker-1"
    (Dict.empty.set "session-1" ((Dict.empty : Ports).set "serial" 2500))

/-- A template of two ports. -/
def consoleAndVnc : PortTemplate where
  ports := [⟨"console", by decide⟩, ⟨"vnc", by decide⟩]
  names_unique := by decide

theorem availability_agrees_for_one_port :
    movedRange.available lentBefore "worker-1" oneSerialPort = true
      ↔ movedRange.allocatable lentBefore "worker-1" "session-2" oneSerialPort 0 = true :=
  (availability_agrees_iff movedRange lentBefore "worker-1" "session-2" oneSerialPort 0
    (by decide) (by decide)).mpr (by decide)

/-- Both ports of the range are free and are allocated, and the check finds only one. -/
theorem availability_misses_a_port :
    movedRange.available lentBefore "worker-1" consoleAndVnc = false
      ∧ movedRange.allocatable lentBefore "worker-1" "session-2" consoleAndVnc 0 = true := by
  decide

/-! ## §5. Documents that only hold ports of the range. -/

/-- The allocation refuses nothing in an ordinary range. -/
theorem accepted_of_ordinary (hordered : service.portRangeMin < service.portRangeMax)
    (hmin : 2000 ≤ service.portRangeMin) (hmax : service.portRangeMax ≤ 65535)
    (usedPorts : List Int) (count : Nat) : service.Accepted usedPorts count := by
  refine ⟨hordered, fun p hp => ?_⟩
  have hrange := mem_rangePorts.mp (List.mem_filter.mp (List.mem_of_mem_take hp)).1
  omega

/-- The documents in order have no stray ports. -/
theorem strayPorts_of_storeOk (h : StoreOk service store) (workerId : String) :
    service.strayPorts (store.portsInUse workerId) = [] := by
  refine List.filter_eq_nil_iff.mpr fun p hp hstray => ?_
  obtain ⟨sid, name, hholds⟩ := Holdings.mem_inUse_iff.mp (PortStore.mem_portsInUse.mp hp)
  exact of_decide_eq_true hstray (mem_rangePorts.mpr (h.in_range _ _ _ _ hholds))

/-- **After any calls of one service with an ordinary range, the check tells what an
allocation will do.** -/
theorem available_iff_allocatable_replay (hordered : service.portRangeMin < service.portRangeMax)
    (hmin : 2000 ≤ service.portRangeMin) (hmax : service.portRangeMax ≤ 65535)
    (calls : List PortCall) (hworker : workerId ≠ "") (hsession : sessionId ≠ "") :
    service.available (replay service.after Dict.empty calls) workerId portTemplate = true
      ↔ service.allocatable (replay service.after Dict.empty calls) workerId sessionId
          portTemplate now = true := by
  have hstray := strayPorts_of_storeOk (storeOk_replay service calls) workerId
  rw [available_iff, allocatable_iff hworker hsession, hstray, List.length_nil, Nat.add_zero,
    and_iff_left (accepted_of_ordinary hordered hmin hmax _ _)]

end PortAllocationService

end CmlCloudManager.ControlPlane
