/-
  CmlCloudManager.ControlPlane.PortAllocation
  ───────────────────────────────────────────
  **PORTS OF A WORKER, ALLOCATED THROUGH ETCD.**

  etcd keeps one document for each worker: which session has which ports.  An
  allocation reads it to pick free ports, reads it again to look for a conflict
  and writes the whole document back; a release reads it once and writes it back.
  Both are programs over the two accesses `get` and `put`, so that the same
  definitions are run one after the other here and interleaved elsewhere.

  The ports are checked a last time by `PortAllocation`, which wants them between
  2000 and 65535, when the document has been written already: whether a refused
  allocation leaves a trace depends on the configured range (`portsKept_iff`).
-/
import CmlCloudManager.Foundation.Holdings
import CmlCloudManager.Foundation.Interleaving
import CmlCloudManager.Foundation.Replay
import CmlCloudManager.ControlPlane.WorkerCapacity
import Mathlib.Data.List.Dedup

namespace CmlCloudManager.ControlPlane

open CmlCloudManager.Foundation

/-! ## §1. Value objects. -/

/-- `PortDefinition`; only the name has to do with the allocation. -/
structure PortDefinition where
  name : String
  name_given : name ≠ ""

/-- `PortTemplate`. -/
structure PortTemplate where
  ports : List PortDefinition
  names_unique : (ports.map PortDefinition.name).Nodup

namespace PortTemplate

/-- `PortTemplate.port_count`. -/
def portCount (t : PortTemplate) : Nat := t.ports.length

/-- `PortTemplate.port_names`. -/
def portNames (t : PortTemplate) : List String := t.ports.map PortDefinition.name

theorem portNames_nodup (t : PortTemplate) : t.portNames.Nodup := t.names_unique

end PortTemplate

/-- `PortAllocation.__post_init__`. -/
def PortAllocation.checked (sessionId : String) (ports : Ports) (allocatedAt : Int) :
    Except String PortAllocation :=
  if sessionId = "" then .error "session_id cannot be empty"
  else
    match ports.entries.find? fun e => decide (e.2 < 2000 ∨ e.2 > 65535) with
    | some (portName, portNumber) =>
        .error ("Port number " ++ toString portNumber ++ " for '" ++ portName
          ++ "' must be between 2000 and 65535")
    | none => .ok ⟨sessionId, ports, allocatedAt⟩

/-! ## §2. The documents in etcd. -/

/-- The document of a worker: session id to its ports. -/
abbrev Allocations : Type := Holdings String String Int

/-- The documents, by worker id. -/
abbrev PortStore : Type := Dict String Allocations

/-- The accesses to etcd. -/
inductive EtcdRequest where
  | get (workerId : String)
  | put (workerId : String) (allocations : Allocations)

/-- What etcd answers; an access that raises carries its message. -/
abbrev EtcdRequest.Reply : EtcdRequest → Type
  | .get _ => Except String (Option Allocations)
  | .put _ _ => Except String Unit

/-- A program over etcd. -/
abbrev EtcdCall (α : Type) : Type := Resumption EtcdRequest EtcdRequest.Reply α

/-- etcd; an outage stops the access before it has any effect. -/
def etcd (outage : Option String) (store : PortStore) : (e : EtcdRequest) → e.Reply × PortStore
  | .get workerId =>
      match outage with
      | some message => (.error message, store)
      | none => (.ok (store.get? workerId), store)
  | .put workerId allocations =>
      match outage with
      | some message => (.error message, store)
      | none => (.ok (), store.set workerId allocations)

namespace EtcdStateStore

/-- `get_worker_ports`. -/
def getWorkerPorts (workerId : String) : EtcdCall (Except String (Option Allocations)) :=
  .call (EtcdRequest.get workerId)

/-- `set_worker_ports`. -/
def setWorkerPorts (workerId : String) (allocations : Allocations) :
    EtcdCall (Except String Unit) :=
  .call (EtcdRequest.put workerId allocations)

/-- `allocate_session_ports`. -/
def allocateSessionPorts (workerId sessionId : String) (ports : Ports) :
    EtcdCall (Except String Bool) :=
  (getWorkerPorts workerId).andThen fun current =>
    let allocations := current.getD Dict.empty
    let usedPorts := Holdings.inUse allocations
    if ports.values.any fun port => usedPorts.contains port then .done (.ok false)
    else
      -- the document as it was read, with the new entry, replaces what is stored by now
      (setWorkerPorts workerId (allocations.set sessionId ports)).andThen fun _ =>
        .done (.ok true)

/-- `release_session_ports`. -/
def releaseSessionPorts (workerId sessionId : String) : EtcdCall (Except String (Option Ports)) :=
  (getWorkerPorts workerId).andThen fun
    | none => .done (.ok none)
    | some allocations =>
        match allocations.get? sessionId with
        | none => .done (.ok none)
        | some released =>
            (setWorkerPorts workerId (allocations.erase sessionId)).andThen fun _ =>
              .done (.ok (some released))

/-- `get_allocated_ports_for_worker`. -/
def getAllocatedPortsForWorker (workerId : String) : EtcdCall (Except String (List Int)) :=
  (getWorkerPorts workerId).andThen fun
    | none => .done (.ok [])
    | some allocations => .done (.ok (Holdings.inUse allocations).dedup)

end EtcdStateStore

/-! ## §3. The service. -/

/-- `PortAllocationResult`. -/
structure PortAllocationResult where
  success : Bool
  allocation : Option PortAllocation := none
  error : Option String := none
  allocatedPorts : Option Ports := none

/-- `PortAllocationService`, with the configured range. -/
structure PortAllocationService where
  portRangeMin : Int := 2000
  portRangeMax : Int := 9999

namespace PortAllocationService

/-- The loop of `_find_available_ports`, from `port` on. -/
def searchPorts (allocatedPorts : List Int) (count : Nat) (last : Int) :
    Nat → List Int → Int → List Int
  | 0, available, _ => available
  | fuel + 1, available, port =>
      if available.length < count ∧ port ≤ last then
        searchPorts allocatedPorts count last fuel
          (if port ∉ allocatedPorts then available ++ [port] else available) (port + 1)
      else available

/-- `_find_available_ports`: every turn looks at one more port of the range. -/
def findAvailablePorts (service : PortAllocationService) (allocatedPorts : List Int)
    (count : Nat) : List Int :=
  searchPorts allocatedPorts count service.portRangeMax
    (service.portRangeMax + 1 - service.portRangeMin).toNat [] service.portRangeMin

/-- The part of `allocate_ports` between `try` and `except`. -/
def tryAllocate (service : PortAllocationService) (workerId sessionId : String)
    (portTemplate : PortTemplate) (now : Int) : EtcdCall (Except String PortAllocationResult) :=
  (EtcdStateStore.getAllocatedPortsForWorker workerId).andThen fun allocatedPorts =>
    let requiredCount := portTemplate.portCount
    let availablePorts := service.findAvailablePorts allocatedPorts requiredCount
    if availablePorts.length < requiredCount then
      let availableInRange :=
        service.portRangeMax - service.portRangeMin + 1 - allocatedPorts.length
      .done (.ok
        { success := false
          error := some ("Not enough ports available. Need " ++ toString requiredCount
            ++ ", have " ++ toString availableInRange ++ " free") })
    else
      let portMapping := Dict.ofList (portTemplate.portNames.zip availablePorts)
      (EtcdStateStore.allocateSessionPorts workerId sessionId portMapping).andThen fun success =>
        if !success then
          .done (.ok
            { success := false
              error := some
                "Port allocation conflict - ports already allocated (race condition)" })
        else
          match PortAllocation.checked sessionId portMapping now with
          | .error raised => .done (.error raised)
          | .ok allocation =>
              .done (.ok
                { success := true
                  allocation := some allocation
                  allocatedPorts := some portMapping })

/-- `allocate_ports`. -/
def allocatePorts (service : PortAllocationService) (workerId sessionId : String)
    (portTemplate : PortTemplate) (now : Int) : EtcdCall PortAllocationResult :=
  if workerId = "" then .done { success := false, error := some "worker_id is required" }
  else if sessionId = "" then .done { success := false, error := some "session_id is required" }
  else if portTemplate.portCount = 0 then
    .done
      { success := true
        allocation := some ⟨sessionId, Dict.empty, now⟩
        allocatedPorts := some Dict.empty }
  else if service.portRangeMin ≥ service.portRangeMax then
    .done
      { success := false
        error := some ("Invalid port range: " ++ toString service.portRangeMin ++ "-"
          ++ toString service.portRangeMax) }
  else
    (service.tryAllocate workerId sessionId portTemplate now).bind fun
      | .error raised =>
          .done { success := false, error := some ("Allocation failed: " ++ raised) }
      | .ok result => .done result

/-- `release_ports`; what etcd raises is raised again. -/
def releasePorts (workerId sessionId : String) : EtcdCall (Except String (Option Ports)) :=
  if workerId = "" ∨ sessionId = "" then .done (.ok none)
  else EtcdStateStore.releaseSessionPorts workerId sessionId

end PortAllocationService

/-- What is asked of the service. -/
inductive PortRequest where
  | allocate (workerId sessionId : String) (portTemplate : PortTemplate) (now : Int)
  | release (workerId sessionId : String)

/-- What the service answers. -/
inductive PortReply where
  | allocated (result : PortAllocationResult)
  | released (result : Except String (Option Ports))

/-- The call a request makes. -/
def PortAllocationService.call (service : PortAllocationService) :
    PortRequest → EtcdCall PortReply
  | .allocate workerId sessionId portTemplate now =>
      (service.allocatePorts workerId sessionId portTemplate now).bind fun result =>
        .done (.allocated result)
  | .release workerId sessionId =>
      (PortAllocationService.releasePorts workerId sessionId).bind fun result =>
        .done (.released result)

/-! ## §4. The search. -/

namespace PortAllocationService

/-- The state of the search when `port` is the next one to look at. -/
structure Searched (allocatedPorts : List Int) (count : Nat) (first last port : Int)
    (available : List Int) : Prop where
  free : ∀ p ∈ available, (first ≤ p ∧ p ≤ last) ∧ p < port ∧ p ∉ allocatedPorts
  nodup : available.Nodup
  length_le : available.length ≤ count
  complete : ∀ p, first ≤ p → p < port → p ∉ allocatedPorts → p ∈ available

variable {allocatedPorts : List Int} {count : Nat} {first last : Int}

/-- One turn of the loop. -/
theorem Searched.turn {port : Int} {available : List Int}
    (h : Searched allocatedPorts count first last port available) (hfirst : first ≤ port)
    (hmissing : available.length < count) (hlast : port ≤ last) :
    Searched allocatedPorts count first last (port + 1)
      (if port ∉ allocatedPorts then available ++ [port] else available) := by
  by_cases hport : port ∈ allocatedPorts
  · rw [if_neg (not_not_intro hport)]
    refine { h with free := ?_, complete := ?_ }
    · intro p hp
      obtain ⟨hrange, hlt, hfree⟩ := h.free p hp
      exact ⟨hrange, by omega, hfree⟩
    · intro p hp hlt hfree
      have hne : p ≠ port := fun heq => hfree (heq ▸ hport)
      exact h.complete p hp (by omega) hfree
  · rw [if_pos hport]
    constructor
    · intro p hp
      rcases List.mem_append.mp hp with hp | hp
      · obtain ⟨hrange, hlt, hfree⟩ := h.free p hp
        exact ⟨hrange, by omega, hfree⟩
      · obtain rfl := List.mem_singleton.mp hp
        exact ⟨⟨hfirst, hlast⟩, by omega, hport⟩
    · rw [List.nodup_append]
      refine ⟨h.nodup, List.nodup_singleton _, ?_⟩
      rintro a ha b hb rfl
      obtain rfl := List.mem_singleton.mp hb
      exact absurd (h.free a ha).2.1 (by omega)
    · rw [List.length_append, List.length_singleton]
      exact hmissing
    · intro p hp hlt hfree
      by_cases heq : p = port
      · exact List.mem_append_right _ (List.mem_singleton.mpr heq)
      · exact List.mem_append_left _ (h.complete p hp (by omega) hfree)

/-- The whole loop: it ends with enough ports, or past the end of the range. -/
theorem searched_searchPorts :
    ∀ (fuel : Nat) {available : List Int} {port : Int},
      Searched allocatedPorts count first last port available → first ≤ port →
      last < port + fuel →
      ∃ port', Searched allocatedPorts count first last port'
          (searchPorts allocatedPorts count last fuel available port)
        ∧ (count ≤ (searchPorts allocatedPorts count last fuel available port).length
            ∨ last < port')
  | 0, available, port, h, _, hfuel => ⟨port, h, .inr (by simpa using hfuel)⟩
  | fuel + 1, available, port, h, hfirst, hfuel => by
      unfold searchPorts
      split
      next hturn =>
        refine searched_searchPorts fuel (h.turn hfirst hturn.1 hturn.2) (by omega) ?_
        push_cast at hfuel ⊢
        omega
      next hend =>
        refine ⟨port, h, ?_⟩
        rcases not_and_or.mp hend with hcount | hlast
        · exact .inl (Nat.le_of_not_lt hcount)
        · exact .inr (Int.lt_of_not_ge hlast)

/-- **What the search finds**: free ports of the range, each once, and if there are too few
of them they are all there is. -/
theorem findAvailablePorts_spec (service : PortAllocationService) (allocatedPorts : List Int)
    (count : Nat) :
    (∀ p ∈ service.findAvailablePorts allocatedPorts count,
        (service.portRangeMin ≤ p ∧ p ≤ service.portRangeMax) ∧ p ∉ allocatedPorts)
      ∧ (service.findAvailablePorts allocatedPorts count).Nodup
      ∧ (service.findAvailablePorts allocatedPorts count).length ≤ count
      ∧ ((service.findAvailablePorts allocatedPorts count).length < count →
          ∀ p, service.portRangeMin ≤ p → p ≤ service.portRangeMax → p ∉ allocatedPorts →
            p ∈ service.findAvailablePorts allocatedPorts count) := by
  have hstart : Searched allocatedPorts count service.portRangeMin service.portRangeMax
      service.portRangeMin [] := by
    refine ⟨by simp, List.nodup_nil, Nat.zero_le _, ?_⟩
    intro p hp hlt
    exact absurd hlt (by omega)
  obtain ⟨port', hend, hwhy⟩ :=
    searched_searchPorts (service.portRangeMax + 1 - service.portRangeMin).toNat hstart
      (Int.le_refl _) (by omega)
  refine ⟨fun p hp => ?_, hend.nodup, hend.length_le, ?_⟩
  · obtain ⟨hrange, -, hfree⟩ := hend.free p hp
    exact ⟨hrange, hfree⟩
  · intro hshort p hmin hmax hfree
    rcases hwhy with hcount | hlast
    · exact absurd hshort (Nat.not_lt.mpr hcount)
    · exact hend.complete p hmin (by omega) hfree

/-- Ports a template may be given when others are in use. -/
structure Granted (service : PortAllocationService) (usedPorts : List Int)
    (portTemplate : PortTemplate) (ports : Ports) : Prop where
  names : ports.keys = portTemplate.portNames
  in_range : ∀ name port, ports.get? name = some port →
    service.portRangeMin ≤ port ∧ port ≤ service.portRangeMax
  free : ∀ name port, ports.get? name = some port → port ∉ usedPorts
  oneName : OneName ports

/-- The mapping of names to ports, when enough ports are found. -/
theorem granted_zip {service : PortAllocationService} {allocatedPorts : List Int}
    {portTemplate : PortTemplate}
    (henough : ¬(service.findAvailablePorts allocatedPorts portTemplate.portCount).length
      < portTemplate.portCount) :
    service.Granted allocatedPorts portTemplate
      (Dict.ofList (portTemplate.portNames.zip
        (service.findAvailablePorts allocatedPorts portTemplate.portCount))) := by
  obtain ⟨hmem, hnodup, hle, -⟩ :=
    service.findAvailablePorts_spec allocatedPorts portTemplate.portCount
  generalize service.findAvailablePorts allocatedPorts portTemplate.portCount = available at *
  have hlength : portTemplate.portNames.length = available.length := by
    rw [PortTemplate.portNames, List.length_map]
    exact Nat.le_antisymm (Nat.le_of_not_lt henough) hle
  have hfst : (portTemplate.portNames.zip available).map Prod.fst = portTemplate.portNames :=
    List.map_fst_zip (Nat.le_of_eq hlength)
  have hsnd : (portTemplate.portNames.zip available).map Prod.snd = available :=
    List.map_snd_zip (Nat.le_of_eq hlength.symm)
  have hentries := Dict.entries_ofList_zip portTemplate.portNames_nodup (Nat.le_of_eq hlength)
  have hport : ∀ name port, (Dict.ofList (portTemplate.portNames.zip available)).get? name
      = some port → port ∈ available := by
    intro name port h
    rw [Dict.get?_eq_some_iff, hentries] at h
    exact (List.of_mem_zip h).2
  constructor
  · rw [Dict.keys, hentries, hfst]
  · exact fun name port h => (hmem port (hport name port h)).1
  · exact fun name port h => (hmem port (hport name port h)).2
  · refine Holdings.oneName_of_nodup ?_
    rw [Dict.values, hentries, hsnd]
    exact hnodup

end PortAllocationService

/-- What `PortAllocation` accepts. -/
theorem PortAllocation.checked_isOk {sessionId : String} {ports : Ports} {allocatedAt : Int}
    (hid : sessionId ≠ "") :
    (∃ a, PortAllocation.checked sessionId ports allocatedAt = .ok a)
      ↔ ∀ name port, ports.get? name = some port → 2000 ≤ port ∧ port ≤ 65535 := by
  unfold PortAllocation.checked
  rw [if_neg hid]
  split
  next portName portNumber hfound =>
    -- a port outside is among the entries
    have hmem := List.mem_of_find?_eq_some hfound
    have hout := List.find?_some hfound
    constructor
    · rintro ⟨a, ha⟩
      cases ha
    · intro h
      have hin := h portName portNumber ((Dict.get?_eq_some_iff _ _ _).mpr hmem)
      have hout' := of_decide_eq_true hout
      omega
  next hnone =>
    refine ⟨fun _ name port h => ?_, fun _ => ⟨_, rfl⟩⟩
    have hin := List.find?_eq_none.mp hnone _ ((Dict.get?_eq_some_iff _ _ _).mp h)
    have hin' := of_decide_eq_false (Bool.eq_false_iff.mpr hin)
    omega

/-! ## §5. What each call does to the documents. -/

/-- The document of a worker; without one there is no allocation. -/
def PortStore.current (store : PortStore) (workerId : String) : Allocations :=
  (store.get? workerId).getD Dict.empty

/-- The ports stored for a session. -/
def PortStore.entry (store : PortStore) (workerId sessionId : String) : Option Ports :=
  (store.current workerId).get? sessionId

namespace EtcdStateStore

variable {workerId sessionId : String} {ports : Ports} {store store' : PortStore}

theorem getWorkerPorts_spec {b : Except String (Option Allocations)}
    (h : Completes etcd (getWorkerPorts workerId) store b store') :
    store' = store ∧ ((∃ raised, b = .error raised) ∨ b = .ok (store.get? workerId)) := by
  obtain ⟨outage, h⟩ := completes_call.mp h
  cases outage with
  | none =>
      obtain ⟨rfl, rfl⟩ := Prod.mk.inj h
      exact ⟨rfl, .inr rfl⟩
  | some message =>
      obtain ⟨rfl, rfl⟩ := Prod.mk.inj h
      exact ⟨rfl, .inl ⟨message, rfl⟩⟩

theorem setWorkerPorts_spec {allocations : Allocations} {b : Except String Unit}
    (h : Completes etcd (setWorkerPorts workerId allocations) store b store') :
    ((∃ raised, b = .error raised) ∧ store' = store)
      ∨ (b = .ok () ∧ store' = store.set workerId allocations) := by
  obtain ⟨outage, h⟩ := completes_call.mp h
  cases outage with
  | none =>
      obtain ⟨rfl, rfl⟩ := Prod.mk.inj h
      exact .inr ⟨rfl, rfl⟩
  | some message =>
      obtain ⟨rfl, rfl⟩ := Prod.mk.inj h
      exact .inl ⟨⟨message, rfl⟩, rfl⟩

theorem getAllocatedPorts_spec {b : Except String (List Int)}
    (h : Completes etcd (getAllocatedPortsForWorker workerId) store b store') :
    store' = store ∧ ∀ used, b = .ok used →
      ∀ port, port ∈ used ↔ port ∈ Holdings.inUse (store.current workerId) := by
  rcases completes_andThen h with ⟨raised, hget, rfl⟩ | ⟨read, u, hget, hrest⟩
  · exact ⟨(getWorkerPorts_spec hget).1, fun used hused => by cases hused⟩
  · obtain ⟨rfl, ⟨raised, hraised⟩ | hread⟩ := getWorkerPorts_spec hget
    · cases hraised
    · injection hread with hread
      unfold PortStore.current
      rw [← hread]
      cases read with
      | none =>
          obtain ⟨rfl, rfl⟩ := hrest
          refine ⟨rfl, fun used hused port => ?_⟩
          injection hused with hused
          subst hused
          exact Iff.rfl
      | some allocations =>
          obtain ⟨rfl, rfl⟩ := hrest
          refine ⟨rfl, fun used hused port => ?_⟩
          injection hused with hused
          subst hused
          exact List.mem_dedup

theorem allocateSessionPorts_spec {b : Except String Bool}
    (h : Completes etcd (allocateSessionPorts workerId sessionId ports) store b store') :
    (b ≠ .ok true ∧ store' = store)
      ∨ (b = .ok true
        ∧ store' = store.set workerId ((store.current workerId).set sessionId ports)) := by
  rcases completes_andThen h with ⟨raised, hget, rfl⟩ | ⟨read, u, hget, hrest⟩
  · exact .inl ⟨by simp, (getWorkerPorts_spec hget).1⟩
  · obtain ⟨rfl, ⟨raised, hraised⟩ | hread⟩ := getWorkerPorts_spec hget
    · cases hraised
    · injection hread with hread
      subst hread
      dsimp only at hrest
      split at hrest
      next =>
        obtain ⟨rfl, rfl⟩ := hrest
        exact .inl ⟨by simp, rfl⟩
      next =>
        rcases completes_andThen hrest with ⟨raised, hput, rfl⟩ | ⟨_, v, hput, rfl, rfl⟩
        · rcases setWorkerPorts_spec hput with ⟨-, rfl⟩ | ⟨hok, -⟩
          · exact .inl ⟨by simp, rfl⟩
          · cases hok
        · rcases setWorkerPorts_spec hput with ⟨⟨raised, hraised⟩, -⟩ | ⟨-, rfl⟩
          · cases hraised
          · exact .inr ⟨rfl, rfl⟩

theorem releaseSessionPorts_spec {b : Except String (Option Ports)}
    (h : Completes etcd (releaseSessionPorts workerId sessionId) store b store') :
    ((∃ raised, b = .error raised) ∧ store' = store)
      ∨ (b = .ok (store.entry workerId sessionId)
        ∧ ((store.entry workerId sessionId = none ∧ store' = store)
          ∨ store' = store.set workerId ((store.current workerId).erase sessionId))) := by
  rcases completes_andThen h with ⟨raised, hget, rfl⟩ | ⟨read, u, hget, hrest⟩
  · exact .inl ⟨⟨raised, rfl⟩, (getWorkerPorts_spec hget).1⟩
  · obtain ⟨rfl, ⟨raised, hraised⟩ | hread⟩ := getWorkerPorts_spec hget
    · cases hraised
    · injection hread with hread
      unfold PortStore.entry PortStore.current
      rw [← hread]
      cases read with
      | none =>
          obtain ⟨rfl, rfl⟩ := hrest
          exact .inr ⟨rfl, .inl ⟨rfl, rfl⟩⟩
      | some allocations =>
          dsimp only at hrest
          split at hrest
          next hentry =>
            obtain ⟨rfl, rfl⟩ := hrest
            exact .inr ⟨congrArg Except.ok hentry.symm, .inl ⟨hentry, rfl⟩⟩
          next released hentry =>
            rcases completes_andThen hrest with ⟨raised, hput, rfl⟩ | ⟨_, v, hput, rfl, rfl⟩
            · rcases setWorkerPorts_spec hput with ⟨-, rfl⟩ | ⟨hok, -⟩
              · exact .inl ⟨⟨raised, rfl⟩, rfl⟩
              · cases hok
            · rcases setWorkerPorts_spec hput with ⟨⟨raised, hraised⟩, -⟩ | ⟨-, rfl⟩
              · cases hraised
              · exact .inr ⟨congrArg Except.ok hentry.symm, .inr rfl⟩

end EtcdStateStore

namespace PortAllocationService

variable {service : PortAllocationService} {workerId sessionId : String}
  {portTemplate : PortTemplate} {now : Int} {store store' : PortStore}

/-- What a call that writes has written, and what it answers. -/
structure Wrote (service : PortAllocationService) (workerId sessionId : String)
    (portTemplate : PortTemplate) (store store' : PortStore) (b : PortAllocationResult) :
    Prop where
  identified : workerId ≠ "" ∧ sessionId ≠ ""
  ordered : service.portRangeMin < service.portRangeMax
  ports : ∃ ports, service.Granted (Holdings.inUse (store.current workerId)) portTemplate ports
    ∧ store' = store.set workerId ((store.current workerId).set sessionId ports)
    ∧ (b.success = true → b.allocatedPorts = some ports)
    ∧ (b.success = true ↔ ∀ name port, ports.get? name = some port → 2000 ≤ port ∧ port ≤ 65535)

/-- **An allocation**: it writes nothing, or it adds one entry of free ports. -/
theorem allocatePorts_spec {b : PortAllocationResult}
    (h : Completes etcd (service.allocatePorts workerId sessionId portTemplate now) store b
      store') :
    (store' = store
        ∧ (b.success = true → portTemplate.portCount = 0 ∧ b.allocatedPorts = some Dict.empty))
      ∨ service.Wrote workerId sessionId portTemplate store store' b := by
  unfold allocatePorts at h
  split at h
  next =>
    obtain ⟨rfl, rfl⟩ := h
    exact .inl ⟨rfl, nofun⟩
  next hworker =>
  split at h
  next =>
    obtain ⟨rfl, rfl⟩ := h
    exact .inl ⟨rfl, nofun⟩
  next hsession =>
  split at h
  next hnone =>
    obtain ⟨rfl, rfl⟩ := h
    exact .inl ⟨rfl, fun _ => ⟨hnone, rfl⟩⟩
  next =>
  split at h
  next =>
    obtain ⟨rfl, rfl⟩ := h
    exact .inl ⟨rfl, nofun⟩
  next hrange =>
    obtain ⟨tried, u, htry, hcaught⟩ := completes_bind.mp h
    rcases completes_andThen htry with ⟨raised, hget, rfl⟩ | ⟨used, v, hget, hrest⟩
    · obtain ⟨rfl, rfl⟩ := hcaught
      exact .inl ⟨(EtcdStateStore.getAllocatedPorts_spec hget).1, nofun⟩
    · obtain ⟨rfl, hused⟩ := EtcdStateStore.getAllocatedPorts_spec hget
      dsimp only at hrest
      split at hrest
      next =>
        obtain ⟨rfl, rfl⟩ := hrest
        obtain ⟨rfl, rfl⟩ := hcaught
        exact .inl ⟨rfl, nofun⟩
      next henough =>
        have hgranted := granted_zip henough
        generalize Dict.ofList (portTemplate.portNames.zip
          (service.findAvailablePorts used portTemplate.portCount)) = ports at hrest hgranted
        rcases completes_andThen hrest with ⟨raised, hstore, rfl⟩ | ⟨success, w, hstore, hlast⟩
        · obtain ⟨rfl, rfl⟩ := hcaught
          rcases EtcdStateStore.allocateSessionPorts_spec hstore with ⟨-, rfl⟩ | ⟨hok, -⟩
          · exact .inl ⟨rfl, nofun⟩
          · cases hok
        · rcases EtcdStateStore.allocateSessionPorts_spec hstore with ⟨hne, rfl⟩ | ⟨hok, rfl⟩
          · -- a conflict
            cases success with
            | true => exact absurd rfl hne
            | false =>
                obtain ⟨rfl, rfl⟩ := hlast
                obtain ⟨rfl, rfl⟩ := hcaught
                exact .inl ⟨rfl, nofun⟩
          · -- the entry is written, and `PortAllocation` has the last word
            injection hok with hok
            subst hok
            have hfree : service.Granted (Holdings.inUse (v.current workerId)) portTemplate ports :=
              { hgranted with
                free := fun name port hport hmem =>
                  hgranted.free name port hport ((hused _ rfl port).mpr hmem) }
            refine .inr ⟨⟨hworker, hsession⟩, Int.lt_of_not_ge hrange, ports, hfree, ?_⟩
            rw [← @PortAllocation.checked_isOk _ _ now hsession]
            rw [if_neg (by simp)] at hlast
            split at hlast
            next raised hchecked =>
              obtain ⟨rfl, rfl⟩ := hlast
              obtain ⟨rfl, rfl⟩ := hcaught
              refine ⟨rfl, nofun, nofun, ?_⟩
              rintro ⟨a, ha⟩
              rw [hchecked] at ha
              cases ha
            next allocation hchecked =>
              obtain ⟨rfl, rfl⟩ := hlast
              obtain ⟨rfl, rfl⟩ := hcaught
              exact ⟨rfl, fun _ => rfl, fun _ => ⟨allocation, hchecked⟩, fun _ => rfl⟩

/-- **A release**: it raises, or the entry of its session is gone. -/
theorem releasePorts_spec {b : Except String (Option Ports)}
    (h : Completes etcd (releasePorts workerId sessionId) store b store') :
    ((∃ raised, b = .error raised) ∧ store' = store)
      ∨ (workerId = "" ∨ sessionId = "") ∧ b = .ok none ∧ store' = store
      ∨ (b = .ok (store.entry workerId sessionId)
        ∧ ((store.entry workerId sessionId = none ∧ store' = store)
          ∨ store' = store.set workerId ((store.current workerId).erase sessionId))) := by
  unfold releasePorts at h
  split at h
  next hempty =>
    obtain ⟨rfl, rfl⟩ := h
    exact .inr (.inl ⟨hempty, rfl, rfl⟩)
  next =>
    rcases EtcdStateStore.releaseSessionPorts_spec h with hraised | hreleased
    · exact .inl hraised
    · exact .inr (.inr hreleased)

end PortAllocationService

/-! ## §6. The invariant of the documents. -/

theorem PortStore.current_set (store : PortStore) (workerId : String) (allocations : Allocations)
    (w : String) :
    PortStore.current (store.set workerId allocations) w
      = if w = workerId then allocations else store.current w := by
  unfold PortStore.current
  rw [Dict.get?_set]
  split <;> rfl

theorem PortStore.entry_set (store : PortStore) (workerId : String) (allocations : Allocations)
    (w sid : String) :
    PortStore.entry (store.set workerId allocations) w sid
      = if w = workerId then allocations.get? sid else store.entry w sid := by
  unfold PortStore.entry
  rw [PortStore.current_set]
  split <;> rfl

/-- The documents: ports of the range, no port twice for a worker, nothing under an empty
id. -/
structure StoreOk (service : PortAllocationService) (store : PortStore) : Prop where
  in_range : ∀ w sid name port, Holdings.Holds (store.current w) sid name port →
    service.portRangeMin ≤ port ∧ port ≤ service.portRangeMax
  exclusive : ∀ w, Holdings.Exclusive (store.current w)
  identified : ∀ w sid, w = "" ∨ sid = "" → store.entry w sid = none

theorem storeOk_empty (service : PortAllocationService) : StoreOk service Dict.empty where
  in_range := by
    rintro w sid name port ⟨held, h, -⟩
    cases h
  exclusive := fun _ => Holdings.exclusive_empty
  identified := fun _ _ _ => rfl

namespace StoreOk

variable {service : PortAllocationService} {store store' : PortStore} {workerId sessionId : String}

theorem allocate {portTemplate : PortTemplate} {b : PortAllocationResult}
    (h : StoreOk service store)
    (hwrote : service.Wrote workerId sessionId portTemplate store store' b) :
    StoreOk service store' := by
  obtain ⟨⟨hworker, hsession⟩, -, ports, hgranted, rfl, -⟩ := hwrote
  constructor
  · intro w sid name port hholds
    rw [PortStore.current_set] at hholds
    split at hholds
    next =>
      rcases Holdings.holds_set hholds with ⟨-, hnew⟩ | ⟨-, hold⟩
      · exact hgranted.in_range name port hnew
      · exact h.in_range _ _ _ _ hold
    next => exact h.in_range _ _ _ _ hholds
  · intro w
    rw [PortStore.current_set]
    split
    next => exact (h.exclusive workerId).set sessionId hgranted.oneName hgranted.free
    next => exact h.exclusive w
  · intro w sid hempty
    rw [PortStore.entry_set]
    split
    next hw =>
      have hsid : sid = "" := hempty.resolve_left fun hw' => hworker (hw ▸ hw')
      rw [Dict.get?_set_ne _ _ _ fun heq => hsession (heq.symm.trans hsid)]
      exact h.identified workerId sid (.inr hsid)
    next => exact h.identified w sid hempty

theorem release (h : StoreOk service store) :
    StoreOk service (store.set workerId ((store.current workerId).erase sessionId)) := by
  constructor
  · intro w sid name port hholds
    rw [PortStore.current_set] at hholds
    split at hholds
    next => exact h.in_range _ _ _ _ (Holdings.holds_erase hholds).2
    next => exact h.in_range _ _ _ _ hholds
  · intro w
    rw [PortStore.current_set]
    split
    next => exact (h.exclusive workerId).erase sessionId
    next => exact h.exclusive w
  · intro w sid hempty
    rw [PortStore.entry_set]
    split
    next hw =>
      rw [Dict.get?_erase]
      split
      next => rfl
      next => exact h.identified workerId sid (hw ▸ hempty)
    next => exact h.identified w sid hempty

end StoreOk

/-! ## §7. Calls one after the other. -/

/-- A call of the service; `outages n` is what etcd raises at its `n`-th access. -/
structure PortCall where
  request : PortRequest
  outages : Nat → Option String := fun _ => none

/-- The answer of a call that nothing interrupts, and the documents after it. -/
def PortAllocationService.serve (service : PortAllocationService) (store : PortStore)
    (c : PortCall) : PortReply × PortStore :=
  alone etcd (service.call c.request) c.outages store

/-- The calls of a sequence, one after the other. -/
def PortAllocationService.after (service : PortAllocationService) (store : PortStore)
    (c : PortCall) : PortStore :=
  (service.serve store c).2

/-- What a call owes: a successful allocation maps the names of its template and stores
just that, an unsuccessful one changes nothing, a release removes just the entry of its
session. -/
def CallKept (store store' : PortStore) : PortRequest → PortReply → Prop
  | .allocate workerId sessionId portTemplate _, .allocated result =>
      (result.success = true →
        ∃ ports, result.allocatedPorts = some ports ∧ ports.keys = portTemplate.portNames
          ∧ (portTemplate.portCount ≠ 0 → store'.entry workerId sessionId = some ports)
          ∧ ∀ w sid, ¬(w = workerId ∧ sid = sessionId) → store'.entry w sid = store.entry w sid)
        ∧ (result.success = false → store' = store)
  | .release workerId sessionId, .released (.ok released) =>
      released = store.entry workerId sessionId
        ∧ ∀ w sid, store'.entry w sid
            = if w = workerId ∧ sid = sessionId then none else store.entry w sid
  | .release _ _, .released (.error _) => store' = store
  | _, _ => False

/-- A sequence of calls, from no document at all, keeps the documents in order and every
call does what it owes. -/
def KeptThroughout (service : PortAllocationService) (calls : List PortCall) : Prop :=
  StoreOk service (replay service.after Dict.empty calls)
    ∧ Meets service.after
        (fun store c => CallKept store (service.after store c) c.request (service.serve store c).1)
        Dict.empty calls

/-- No range at all, or one that `PortAllocation` accepts. -/
def PortAllocationService.RangeAccepted (service : PortAllocationService) : Prop :=
  service.portRangeMax ≤ service.portRangeMin
    ∨ (2000 ≤ service.portRangeMin ∧ service.portRangeMax ≤ 65535)

section Sequence

variable {service : PortAllocationService} {store : PortStore}

/-- How a call ends, by what it was asked. -/
theorem serve_cases (store : PortStore) (c : PortCall) :
    (∃ workerId sessionId portTemplate now result,
        c.request = .allocate workerId sessionId portTemplate now
          ∧ (service.serve store c).1 = .allocated result
          ∧ Completes etcd (service.allocatePorts workerId sessionId portTemplate now) store
              result (service.after store c))
      ∨ ∃ workerId sessionId result,
        c.request = .release workerId sessionId
          ∧ (service.serve store c).1 = .released result
          ∧ Completes etcd (PortAllocationService.releasePorts workerId sessionId) store result
              (service.after store c) := by
  have h := @alone_completes _ _ _ _ _ etcd (service.call c.request) c.outages store
  cases hrequest : c.request with
  | allocate workerId sessionId portTemplate now =>
      rw [hrequest] at h
      obtain ⟨result, t, hcall, hreply, hstore⟩ := completes_bind.mp h
      refine .inl ⟨workerId, sessionId, portTemplate, now, result, rfl, ?_, ?_⟩
      · rw [PortAllocationService.serve, hrequest]
        exact hreply
      · rw [PortAllocationService.after, PortAllocationService.serve, hrequest, hstore]
        exact hcall
  | release workerId sessionId =>
      rw [hrequest] at h
      obtain ⟨result, t, hcall, hreply, hstore⟩ := completes_bind.mp h
      refine .inr ⟨workerId, sessionId, result, rfl, ?_, ?_⟩
      · rw [PortAllocationService.serve, hrequest]
        exact hreply
      · rw [PortAllocationService.after, PortAllocationService.serve, hrequest, hstore]
        exact hcall

/-- **One call keeps the documents in order**, whatever the range and whatever etcd does. -/
theorem storeOk_after (h : StoreOk service store) (c : PortCall) :
    StoreOk service (service.after store c) := by
  rcases @serve_cases service store c with
    ⟨workerId, sessionId, portTemplate, now, result, -, -, hcall⟩
      | ⟨workerId, sessionId, result, -, -, hcall⟩
  · rcases PortAllocationService.allocatePorts_spec hcall with ⟨hsame, -⟩ | hwrote
    · rw [hsame]
      exact h
    · exact h.allocate hwrote
  · rcases PortAllocationService.releasePorts_spec hcall with
      ⟨-, hsame⟩ | ⟨-, -, hsame⟩ | ⟨-, ⟨-, hsame⟩ | hwrote⟩
    · rw [hsame]
      exact h
    · rw [hsame]
      exact h
    · rw [hsame]
      exact h
    · rw [hwrote]
      exact h.release

/-- **A run of calls keeps the documents in order.** -/
theorem storeOk_replay (service : PortAllocationService) (calls : List PortCall) :
    StoreOk service (replay service.after Dict.empty calls) := by
  have hstep : ∀ store c, StoreOk service store → StoreOk service (service.after store c) :=
    fun _ c h => storeOk_after h c
  exact replay_invariant hstep calls (storeOk_empty service)

/-- In a range that `PortAllocation` accepts every call does what it owes. -/
theorem callKept (hrange : service.RangeAccepted) (h : StoreOk service store) (c : PortCall) :
    CallKept store (service.after store c) c.request (service.serve store c).1 := by
  rcases @serve_cases service store c with
    ⟨workerId, sessionId, portTemplate, now, result, hrequest, hreply, hcall⟩
      | ⟨workerId, sessionId, result, hrequest, hreply, hcall⟩
  · rw [hrequest, hreply]
    rcases PortAllocationService.allocatePorts_spec hcall with ⟨hsame, hnone⟩ | hwrote
    · rw [hsame]
      refine ⟨fun hsuccess => ?_, fun _ => rfl⟩
      obtain ⟨hcount, hports⟩ := hnone hsuccess
      refine ⟨Dict.empty, hports, ?_, fun hne => absurd hcount hne, fun _ _ _ => rfl⟩
      rw [PortTemplate.portNames, List.eq_nil_of_length_eq_zero hcount]
      rfl
    · obtain ⟨-, hordered, ports, hgranted, hstore, hports, hsuccess⟩ := hwrote
      -- the range is not empty, so its ports are accepted
      obtain ⟨hmin, hmax⟩ := hrange.resolve_left (Int.not_le.mpr hordered)
      have hok : result.success = true := hsuccess.mpr fun name port hport => by
        have hin := hgranted.in_range name port hport
        omega
      refine ⟨fun _ => ⟨ports, hports hok, hgranted.names, fun _ => ?_, ?_⟩, fun hfail => ?_⟩
      · rw [hstore, PortStore.entry_set, if_pos rfl, Dict.get?_set_self]
      · intro w sid hother
        rw [hstore, PortStore.entry_set]
        split
        next hw =>
          subst hw
          exact Dict.get?_set_ne _ _ _ fun hsid => hother ⟨rfl, hsid⟩
        next => rfl
      · rw [hok] at hfail
        cases hfail
  · rw [hrequest, hreply]
    rcases PortAllocationService.releasePorts_spec hcall with
      ⟨⟨raised, rfl⟩, hsame⟩ | ⟨hempty, rfl, hsame⟩ | ⟨rfl, ⟨hnone, hsame⟩ | hwrote⟩
    · exact hsame
    · refine ⟨(h.identified workerId sessionId hempty).symm, fun w sid => ?_⟩
      rw [hsame]
      split
      next hentry =>
        rw [hentry.1, hentry.2]
        exact h.identified workerId sessionId hempty
      next => rfl
    · refine ⟨rfl, fun w sid => ?_⟩
      rw [hsame]
      split
      next hentry =>
        rw [hentry.1, hentry.2]
        exact hnone
      next => rfl
    · refine ⟨rfl, fun w sid => ?_⟩
      rw [hwrote, PortStore.entry_set]
      by_cases hw : w = workerId
      · subst hw
        rw [if_pos rfl, Dict.get?_erase]
        by_cases hsid : sid = sessionId
        · rw [if_pos hsid, if_pos ⟨rfl, hsid⟩]
        · rw [if_neg hsid, if_neg fun hboth => hsid hboth.2]
          rfl
      · rw [if_neg hw, if_neg fun hboth => hw hboth.1]

theorem keptThroughout_of_rangeAccepted (hrange : service.RangeAccepted)
    (calls : List PortCall) : KeptThroughout service calls := by
  refine ⟨storeOk_replay service calls, (meets_iff _ _).mpr ?_⟩
  intro before c rest _
  exact callKept hrange (storeOk_replay service before) c

end Sequence

/-! ## §8. Ports outside of what `PortAllocation` accepts. -/

namespace PortAllocationService

/-- The ports from `first` on. -/
def portsFrom (first : Int) (count : Nat) : List Int :=
  (List.range count).map fun n : Nat => first + n

theorem portsFrom_succ (first : Int) (count : Nat) :
    portsFrom first (count + 1) = first :: portsFrom (first + 1) count := by
  unfold portsFrom
  rw [List.range_succ_eq_map, List.map_cons, List.map_map]
  congr 1
  · simp
  · refine List.map_congr_left fun n _ => ?_
    show first + ((n + 1 : Nat) : Int) = first + 1 + n
    push_cast
    omega

/-- The search from `port` on, when the rest of the range is ahead. -/
theorem searchPorts_eq {used : List Int} {count : Nat} {last : Int} :
    ∀ (fuel : Nat) {available : List Int} {port : Int}, port + fuel = last + 1 →
      available.length ≤ count →
      searchPorts used count last fuel available port
        = available ++ ((portsFrom port fuel).filter fun p => decide (p ∉ used)).take
            (count - available.length)
  | 0, available, port, _, _ => by simp [searchPorts, portsFrom]
  | fuel + 1, available, port, hfuel, hle => by
      unfold searchPorts
      have hport : port ≤ last := by omega
      have hnext : port + 1 + (fuel : Int) = last + 1 := by omega
      rw [portsFrom_succ]
      by_cases hmissing : available.length < count
      · rw [if_pos ⟨hmissing, hport⟩]
        by_cases hused : port ∈ used
        · rw [if_neg (not_not_intro hused), searchPorts_eq fuel hnext hle,
            List.filter_cons_of_neg (by simpa using hused)]
        · have hgrown : (available ++ [port]).length ≤ count := by
            rw [List.length_append, List.length_singleton]
            exact hmissing
          have htake : count - available.length
              = (count - (available ++ [port]).length) + 1 := by
            rw [List.length_append, List.length_singleton]
            omega
          rw [if_pos hused, searchPorts_eq fuel hnext hgrown,
            List.filter_cons_of_pos (by simpa using hused), htake, List.take_succ_cons,
            List.append_assoc, List.singleton_append]
      · have hfull : count - available.length = 0 := by omega
        rw [if_neg fun hturn => hmissing hturn.1, hfull, List.take_zero, List.append_nil]

/-- A template of any size: its names are told apart by their length. -/
def templateOfSize (count : Nat) : PortTemplate where
  ports := (List.range count).map fun n =>
    { name := String.ofList (List.replicate (n + 1) 'p'), name_given := by simp }
  names_unique := by
    rw [List.map_map, List.nodup_map_iff_inj_on List.nodup_range]
    intro m _ n _ h
    have hlists := congrArg String.toList h
    simpa using congrArg List.length hlists

variable {service : PortAllocationService}

/-- An allocation from no document at all writes its ports, accepted or not. -/
theorem allocatePorts_first {portTemplate : PortTemplate} {ports : Ports}
    (hrange : service.portRangeMin < service.portRangeMax) (hcount : portTemplate.portCount ≠ 0)
    (henough : ¬(service.findAvailablePorts [] portTemplate.portCount).length
      < portTemplate.portCount)
    (hports : Dict.ofList (portTemplate.portNames.zip
      (service.findAvailablePorts [] portTemplate.portCount)) = ports) :
    ∃ result, alone etcd (service.allocatePorts "worker" "session" portTemplate 0)
        (fun _ => none) Dict.empty
          = (result, Dict.empty.set "worker" (Dict.empty.set "session" ports))
      ∧ (result.success = true ↔ ∃ a, PortAllocation.checked "session" ports 0 = .ok a) := by
  unfold allocatePorts tryAllocate
  rw [if_neg (by decide), if_neg (by decide), if_neg hcount, if_neg (Int.not_le.mpr hrange)]
  simp only [EtcdStateStore.getAllocatedPortsForWorker, EtcdStateStore.getWorkerPorts,
    Resumption.andThen, Resumption.bind, Resumption.call, alone, etcd, Dict.get?_empty]
  rw [if_neg henough, hports]
  have hnothing : (ports.values.any fun port =>
      (Holdings.inUse (Dict.empty : Allocations)).contains port) = false :=
    List.any_eq_false.mpr fun _ _ => by simp [Holdings.inUse, Dict.empty, Dict.values]
  simp only [EtcdStateStore.allocateSessionPorts, EtcdStateStore.getWorkerPorts,
    EtcdStateStore.setWorkerPorts, Resumption.andThen, Resumption.bind, Resumption.call, alone,
    etcd, Dict.get?_empty, Option.getD_none, hnothing, Bool.false_eq_true, if_false,
    Bool.not_true]
  cases PortAllocation.checked "session" ports 0 with
  | error raised =>
      refine ⟨_, rfl, iff_of_false Bool.false_ne_true ?_⟩
      rintro ⟨_, h⟩
      cases h
  | ok allocation => exact ⟨_, rfl, fun _ => ⟨allocation, rfl⟩, fun _ => rfl⟩

/-- The call that asks for every port of the range. -/
def wholeRange (service : PortAllocationService) : PortCall where
  request := .allocate "worker" "session"
    (templateOfSize (service.portRangeMax + 1 - service.portRangeMin).toNat) 0

theorem not_kept_wholeRange (h : ¬service.RangeAccepted) :
    ¬KeptThroughout service [service.wholeRange] := by
  obtain ⟨hordered, hout⟩ := not_or.mp h
  have hordered := Int.lt_of_not_ge hordered
  generalize hcount : (service.portRangeMax + 1 - service.portRangeMin).toNat = count
  have hsize : (templateOfSize count).portCount = count := by
    rw [PortTemplate.portCount, templateOfSize, List.length_map, List.length_range]
  -- with no port in use the search finds the range itself
  have hfound : service.findAvailablePorts [] (templateOfSize count).portCount
      = (List.range count).map fun n : Nat => service.portRangeMin + n := by
    rw [findAvailablePorts, hsize, hcount, searchPorts_eq count (by omega) (Nat.zero_le _)]
    simp [portsFrom]
  have henough : ¬(service.findAvailablePorts [] (templateOfSize count).portCount).length
      < (templateOfSize count).portCount := by
    rw [hfound, hsize, List.length_map, List.length_range]
    exact Nat.lt_irrefl _
  obtain ⟨result, hcall, hsuccess⟩ := allocatePorts_first hordered (by omega) henough rfl
  rw [PortAllocation.checked_isOk (by decide)] at hsuccess
  -- the `n`-th name gets the `n`-th port
  have hport : ∀ n (hn : n < count), (Dict.ofList ((templateOfSize count).portNames.zip
      (service.findAvailablePorts [] (templateOfSize count).portCount))).get?
        (String.ofList (List.replicate (n + 1) 'p')) = some (service.portRangeMin + (n : Int)) := by
    intro n hn
    rw [Dict.get?_eq_some_iff, hfound,
      Dict.entries_ofList_zip (templateOfSize count).portNames_nodup ?_]
    · rw [PortTemplate.portNames, templateOfSize, List.map_map, List.zip_map']
      exact List.mem_map.mpr ⟨n, List.mem_range.mpr hn, rfl⟩
    · rw [PortTemplate.portNames, List.length_map, List.length_map, List.length_range]
      exact Nat.le_of_eq hsize
  generalize Dict.ofList ((templateOfSize count).portNames.zip
    (service.findAvailablePorts [] (templateOfSize count).portCount)) = ports
    at hcall hsuccess hport
  have hserve : service.serve Dict.empty service.wholeRange
      = (.allocated result, Dict.empty.set "worker" (Dict.empty.set "session" ports)) := by
    rw [serve, wholeRange, hcount, call, alone_bind_done, hcall]
  rintro ⟨-, hkept, -⟩
  rw [after, hserve] at hkept
  obtain ⟨-, hunchanged⟩ := hkept
  cases hok : result.success with
  | true =>
      -- both ends of the range are ports of the allocation
      have hfirst := hsuccess.mp hok _ _ (hport 0 (by omega))
      have hlast := hsuccess.mp hok _ _ (hport (count - 1) (by omega))
      omega
  | false => cases congrArg Dict.keys (hunchanged hok)

end PortAllocationService

/-- **The sequences of calls keep the documents in order, and every call does what it owes,
exactly when the range is one that `PortAllocation` accepts.** -/
theorem portsKept_iff (service : PortAllocationService) :
    (∀ calls, KeptThroughout service calls) ↔ service.RangeAccepted := by
  constructor
  · intro h
    by_contra hrange
    exact PortAllocationService.not_kept_wholeRange hrange (h _)
  · exact fun hrange calls => keptThroughout_of_rangeAccepted hrange calls

/-- The service of a range that begins at 1024. -/
def unprivilegedPorts : PortAllocationService where
  portRangeMin := 1024
  portRangeMax := 9999

/-- A template of one port. -/
def oneSerialPort : PortTemplate where
  ports := [⟨"serial", by decide⟩]
  names_unique := by decide

/-- A call that asks it for one port. -/
def serialPort : PortCall where
  request := .allocate "worker-1" "session-1" oneSerialPort 0

/-- The one port is 1024: it is stored, and the call reports a failure. -/
theorem refused_allocation_is_stored :
    ¬KeptThroughout unprivilegedPorts [serialPort] := by
  rintro ⟨-, ⟨-, hunchanged⟩, -⟩
  have hstored : (unprivilegedPorts.after Dict.empty serialPort).entry "worker-1" "session-1"
      = none := by
    rw [hunchanged (by decide)]
    rfl
  have hport : (unprivilegedPorts.after Dict.empty serialPort).entry "worker-1" "session-1"
      ≠ none := by decide
  exact hport hstored

end CmlCloudManager.ControlPlane
