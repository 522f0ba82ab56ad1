/-
  CmlCloudManager.Worker.DiscoveryLoop
  ────────────────────────────────────
  **THE DISCOVERY AND ITS GARBAGE COLLECTION.**

  A run scans the regions one by one: it lists the instances of the matching AMIs,
  hands them to the control plane, and then looks for workers of the region whose
  instance is gone.  A scan that fails counts as one that found nothing; it does not
  make orphans of the workers, because each of them is asked for at EC2 first.

    • `discovery_marks_gone` — a worker is marked as terminated only right after EC2 said
                               that its instance is gone, and only if the scan before had
                               not found it, whatever fails on the way,
    • `garbage_exact`        — where EC2 answers the collection marks the orphans, each of
                               them once, and no other worker.
-/
import CmlCloudManager.Foundation.Resumption
import CmlCloudManager.Worker.WorkerImport
import CmlCloudManager.Worker.WorkerReconciler

namespace CmlCloudManager.Worker

open CmlCloudManager.Foundation
open CmlCloudManager.Foundation.Resumption
open CmlCloudManager.ControlPlane (CMLWorkerStatus givenText)

/-! ## §1. The loop. -/

/-- A worker in the answer of the control plane. -/
structure WorkerRow where
  id : Option String
  ec2InstanceId : Option String := none
  awsInstanceId : Option String := none
  status : String := ""
  deriving DecidableEq

/-- The calls of a discovery. -/
inductive DiscoveryCall where
  | getAmiIdsByName (region amiName : String)
  | listInstancesByAmi (region : String) (amiIds : List String)
  | bulkImportWorkers (region : String) (instances : List DiscoveredInstance)
  | getWorkers (region : String)
  | getInstanceState (region instanceId : String)
  | markWorkerTerminated (workerId : String)

/-- What they answer, or raise; an import answers how many it found and imported. -/
abbrev DiscoveryCall.Reply : DiscoveryCall → Type
  | .getAmiIdsByName .. => Except String (List String)
  | .listInstancesByAmi .. => Except String (List DiscoveredInstance)
  | .bulkImportWorkers .. => Except String (Nat × Nat)
  | .getWorkers _ => Except String (List WorkerRow)
  | .getInstanceState .. => Except String (Option Ec2InstanceState)
  | .markWorkerTerminated _ => Except String Unit

/-- A program over these calls. -/
abbrev DiscoveryProgram (α : Type) : Type := Resumption DiscoveryCall DiscoveryCall.Reply α

/-- A trace of one. -/
abbrev DiscoveryTrace : Type := List (Resumption.Event DiscoveryCall DiscoveryCall.Reply)

/-- What a scan of a region gives: how many were found and imported, and the instances. -/
structure Scan where
  discovered : Nat := 0
  imported : Nat := 0
  discoveredIds : List String := []

/-- `_discover_in_region`; what is raised on the way is caught. -/
def discoverInRegion (region amiPattern : String) : DiscoveryProgram Scan :=
  (Resumption.call (DiscoveryCall.getAmiIdsByName region amiPattern)).bind fun
    | .error _ => .done {}
    | .ok [] => .done {}
    | .ok amiIds =>
        (Resumption.call (DiscoveryCall.listInstancesByAmi region amiIds)).bind fun
          | .error _ => .done {}
          | .ok [] => .done {}
          | .ok instances =>
              (Resumption.call (DiscoveryCall.bulkImportWorkers region instances)).bind fun
                | .error _ => .done {}
                | .ok counts =>
                    .done
                      { discovered := counts.1
                        imported := counts.2
                        discoveredIds := instances.filterMap DiscoveredInstance.instanceId }

/-- The members of `CMLWorkerStatus`. -/
def cmlWorkerStatuses : List CMLWorkerStatus :=
  [.pending, .provisioning, .starting, .running, .draining, .stopping, .stopped, .terminating,
    .shuttingDown, .terminated, .failed, .unknown]

/-- `CMLWorkerStatus(raw_status)`, in any case of its letters, or UNKNOWN. -/
def statusOf (rawStatus : String) : CMLWorkerStatus :=
  let lower := rawStatus.toList.map Char.toLower
  (cmlWorkerStatuses.find? fun s => s.value.toList == lower).getD .unknown

/-- The worker and its instance, where the worker may be an orphan. -/
def orphanCandidate (discoveredIds : List String) (row : WorkerRow) : Option (String × String) :=
  match (givenText row.ec2InstanceId).or (givenText row.awsInstanceId), givenText row.id with
  | some instanceId, some workerId =>
      if statusOf row.status = .terminated ∨ statusOf row.status = .shuttingDown then none
      else if discoveredIds.contains instanceId then none
      else some (workerId, instanceId)
  | _, _ => none

/-- EC2 does not know the instance, or calls it terminated. -/
def isGone : Option Ec2InstanceState → Bool
  | none => true
  | some state => state.state == .terminated

/-- The loop over the workers of a region. -/
def collectOrphans (region : String) (discoveredIds : List String) :
    List WorkerRow → Nat → DiscoveryProgram (Except String Nat)
  | [], orphanCount => .done (.ok orphanCount)
  | row :: rest, orphanCount =>
      match orphanCandidate discoveredIds row with
      | none => collectOrphans region discoveredIds rest orphanCount
      | some (workerId, instanceId) =>
          (Resumption.call (DiscoveryCall.getInstanceState region instanceId)).bind fun
            | .error raised => .done (.error raised)
            | .ok state =>
                if isGone state then
                  (Resumption.call (DiscoveryCall.markWorkerTerminated workerId)).bind fun
                    | .error _ => collectOrphans region discoveredIds rest orphanCount
                    | .ok _ => collectOrphans region discoveredIds rest (orphanCount + 1)
                else collectOrphans region discoveredIds rest orphanCount

/-- `_garbage_collect_orphans`. -/
def garbageCollectOrphans (region : String) (discoveredIds : List String) : DiscoveryProgram Nat :=
  (Resumption.call (DiscoveryCall.getWorkers region)).bind fun
    | .error _ => .done 0
    | .ok rows =>
        (collectOrphans region discoveredIds rows 0).bind fun
          | .error _ => .done 0
          | .ok orphanCount => .done orphanCount

/-- `_run_discovery`: the totals of the regions. -/
def runDiscovery (amiPattern : String) :
    List String → Nat × Nat × Nat → DiscoveryProgram (Nat × Nat × Nat)
  | [], totals => .done totals
  | region :: rest, (discovered, imported, orphans) =>
      (discoverInRegion region amiPattern).bind fun scan =>
        (garbageCollectOrphans region scan.discoveredIds).bind fun count =>
          runDiscovery amiPattern rest
            (discovered + scan.discovered, imported + scan.imported, orphans + count)

/-! ## §2. Nobody is marked without a reason. -/

/-- The instances whose import went through. -/
def importedIds (trace : DiscoveryTrace) : List String :=
  trace.flatMap fun event =>
    match event with
    | ⟨.bulkImportWorkers _ instances, .ok _⟩ => instances.filterMap DiscoveredInstance.instanceId
    | _ => []

/-- A call of the collection after the workers were listed. -/
def DiscoveryCall.isCheck : DiscoveryCall → Bool
  | .getInstanceState .. | .markWorkerTerminated _ => true
  | _ => false

/-- **The collection of a region is under way**: the region was scanned, with these instances as
the result, its workers were listed, and since then only checked. -/
def Collecting (amiPattern region : String) (discoveredIds : List String) (rows : List WorkerRow)
    (past : DiscoveryTrace) : Prop :=
  ∃ before scanned scan checks,
    past = before ++ scanned ++ ⟨.getWorkers region, .ok rows⟩ :: checks
      ∧ (discoverInRegion region amiPattern).Runs scanned scan
      ∧ discoveredIds = importedIds scanned
      ∧ ∀ event ∈ checks, event.1.isCheck = true

/-- Why a worker is marked: it is listed with an instance and a status to check, the scan of the
region had not found the instance, and EC2 just said that the instance is gone. -/
def GoneReason (amiPattern : String) (past : DiscoveryTrace) (workerId : String) : Prop :=
  ∃ region discoveredIds rows row instanceId state,
    Collecting amiPattern region discoveredIds rows past
      ∧ row ∈ rows ∧ orphanCandidate discoveredIds row = some (workerId, instanceId)
      ∧ past.getLast? = some ⟨.getInstanceState region instanceId, .ok state⟩
      ∧ isGone state = true

/-- What the trace holds when a call is made. -/
def DiscoveryJustified (amiPattern : String) (past : DiscoveryTrace) : DiscoveryCall → Prop
  | .markWorkerTerminated workerId => GoneReason amiPattern past workerId
  | _ => True

/-- Nothing is asked of the result. -/
abbrev anyOutcome {α : Type} : DiscoveryTrace → α → Prop := fun _ _ => True

section Marking

variable {amiPattern region : String} {discoveredIds : List String} {rows : List WorkerRow}
  {past : DiscoveryTrace}

theorem Collecting.check (h : Collecting amiPattern region discoveredIds rows past)
    {event : Resumption.Event DiscoveryCall DiscoveryCall.Reply}
    (hcheck : event.1.isCheck = true) :
    Collecting amiPattern region discoveredIds rows (past ++ [event]) := by
  obtain ⟨before, scanned, scan, checks, rfl, hruns, hids, hchecks⟩ := h
  refine ⟨before, scanned, scan, checks ++ [event], by simp, hruns, hids, ?_⟩
  intro other hother
  rcases List.mem_append.mp hother with hother | hother
  · exact hchecks other hother
  · rwa [List.mem_singleton.mp hother]

theorem collectOrphans_guarantees :
    ∀ (rest : List WorkerRow) (orphanCount : Nat) (past : DiscoveryTrace),
      (∀ row ∈ rest, row ∈ rows) → Collecting amiPattern region discoveredIds rows past →
      Guarantees (DiscoveryJustified amiPattern) anyOutcome past
        (collectOrphans region discoveredIds rest orphanCount)
  | [], _, _, _, _ => trivial
  | row :: rest, orphanCount, past, hrows, hpast => by
      obtain ⟨hrow, hrest⟩ := List.forall_mem_cons.mp hrows
      unfold collectOrphans
      cases hcandidate : orphanCandidate discoveredIds row with
      | none => exact collectOrphans_guarantees rest orphanCount past hrest hpast
      | some candidate =>
          obtain ⟨workerId, instanceId⟩ := candidate
          refine Guarantees.ask trivial fun answer => ?_
          rcases answer with raised | state
          · trivial
          have hasked : Collecting amiPattern region discoveredIds rows
              (past ++ [⟨.getInstanceState region instanceId, .ok state⟩]) := hpast.check rfl
          dsimp only
          split
          next hgone =>
            refine Guarantees.ask ?_ fun marked => ?_
            · exact ⟨region, discoveredIds, rows, row, instanceId, state, hasked, hrow, hcandidate,
                List.getLast?_concat .., hgone⟩
            · have hmarked : Collecting amiPattern region discoveredIds rows
                  (past ++ [⟨.getInstanceState region instanceId, .ok state⟩]
                    ++ [⟨.markWorkerTerminated workerId, marked⟩]) := hasked.check rfl
              rcases marked with raised | _
              · exact collectOrphans_guarantees rest orphanCount _ hrest hmarked
              · exact collectOrphans_guarantees rest (orphanCount + 1) _ hrest hmarked
          next => exact collectOrphans_guarantees rest orphanCount _ hrest hasked

theorem garbageCollectOrphans_guarantees {before scanned : DiscoveryTrace} {scan : Scan}
    (hpast : past = before ++ scanned)
    (hruns : (discoverInRegion region amiPattern).Runs scanned scan) :
    Guarantees (DiscoveryJustified amiPattern) anyOutcome past
      (garbageCollectOrphans region (importedIds scanned)) := by
  unfold garbageCollectOrphans
  refine Guarantees.ask trivial fun answer => ?_
  rcases answer with raised | rows
  · trivial
  dsimp only
  rw [guarantees_bind]
  refine (collectOrphans_guarantees rows 0 _ (fun _ h => h) ?_).mono fun past out _ => ?_
  · exact ⟨before, scanned, scan, [], by rw [hpast], hruns, rfl, nofun⟩
  · cases out <;> trivial

theorem discoverInRegion_guarantees (region : String) :
    Guarantees (DiscoveryJustified amiPattern) anyOutcome past
      (discoverInRegion region amiPattern) := by
  unfold discoverInRegion
  refine Guarantees.ask trivial fun answer => ?_
  rcases answer with raised | _ | ⟨amiId, amiIds⟩
  · trivial
  · trivial
  refine Guarantees.ask trivial fun answer => ?_
  rcases answer with raised | _ | ⟨first, instances⟩
  · trivial
  · trivial
  refine Guarantees.ask trivial fun answer => ?_
  cases answer <;> trivial

/-- **What a scan finds** are the instances whose import went through. -/
theorem discoverInRegion_ids {scanned : DiscoveryTrace} {scan : Scan}
    (h : (discoverInRegion region amiPattern).Runs scanned scan) :
    scan.discoveredIds = importedIds scanned := by
  obtain ⟨answer, tr, rfl, h⟩ := h
  rcases answer with raised | _ | ⟨amiId, amiIds⟩
  · obtain ⟨rfl, rfl⟩ := h
    rfl
  · obtain ⟨rfl, rfl⟩ := h
    rfl
  obtain ⟨answer, tr, rfl, h⟩ := h
  rcases answer with raised | _ | ⟨first, instances⟩
  · obtain ⟨rfl, rfl⟩ := h
    rfl
  · obtain ⟨rfl, rfl⟩ := h
    rfl
  obtain ⟨answer, tr, rfl, h⟩ := h
  cases answer with
  | error raised =>
      obtain ⟨rfl, rfl⟩ := h
      rfl
  | ok counts =>
      obtain ⟨rfl, rfl⟩ := h
      exact (List.append_nil _).symm

theorem runDiscovery_guarantees :
    ∀ (regions : List String) (totals : Nat × Nat × Nat) (past : DiscoveryTrace),
      Guarantees (DiscoveryJustified amiPattern) anyOutcome past
        (runDiscovery amiPattern regions totals)
  | [], _, _ => trivial
  | region :: rest, (discovered, imported, orphans), past => by
      unfold runDiscovery
      rw [guarantees_bind]
      refine (discoverInRegion_guarantees region).runs.mono fun past' scan h => ?_
      obtain ⟨scanned, hpast, hruns, -⟩ := h
      rw [guarantees_bind, discoverInRegion_ids hruns]
      refine (garbageCollectOrphans_guarantees hpast hruns).mono fun past count _ => ?_
      exact runDiscovery_guarantees rest _ past

end Marking

/-- **A worker is marked only after EC2 said that its instance is gone**, and only if the scan of
the region had not found it, whatever fails before. -/
theorem discovery_marks_gone (amiPattern : String) (regions : List String)
    {past : DiscoveryTrace} {workerId : String}
    {k : Except String Unit → DiscoveryProgram (Nat × Nat × Nat)}
    (h : (runDiscovery amiPattern regions (0, 0, 0)).Reaches past
      (.await (.markWorkerTerminated workerId) k)) :
    GoneReason amiPattern past workerId :=
  ((runDiscovery_guarantees regions (0, 0, 0) []).reaches h).1

/-- Of the two workers of the region, one was found by the scan, and one has lost its instance. -/
theorem discovery_marks_gone_lost :
    GoneReason "cml-*"
      [⟨.getAmiIdsByName "us-east-1" "cml-*", .ok ["ami-1"]⟩,
        ⟨.listInstancesByAmi "us-east-1" ["ami-1"], .ok [{ instanceId := some "i-2" }]⟩,
        ⟨.bulkImportWorkers "us-east-1" [{ instanceId := some "i-2" }], .ok (1, 0)⟩,
        ⟨.getWorkers "us-east-1",
          .ok
            [{ id := some "w-2", awsInstanceId := some "i-2", status := "running" },
              { id := some "w-1", awsInstanceId := some "i-1", status := "running" }]⟩,
        ⟨.getInstanceState "us-east-1" "i-1", .ok none⟩] "w-1" :=
  discovery_marks_gone "cml-*" ["us-east-1"]
    ⟨_, rfl, _, rfl, _, rfl, _, rfl, _, rfl, rfl⟩

/-! ## §3. Every orphan is marked. -/

/-- The workers that the trace marks. -/
def marked (trace : DiscoveryTrace) : List String :=
  trace.filterMap fun event =>
    match event.1 with
    | .markWorkerTerminated workerId => some workerId
    | _ => none

/-- The orphans among the rows, by what EC2 says of the instances. -/
def orphans (discoveredIds : List String) (ec2 : String → Option Ec2InstanceState)
    (rows : List WorkerRow) : List String :=
  ((rows.filterMap (orphanCandidate discoveredIds)).filter fun c => isGone (ec2 c.2)).map Prod.fst

theorem orphans_cons (discoveredIds : List String) (ec2 : String → Option Ec2InstanceState)
    (row : WorkerRow) (rest : List WorkerRow) :
    orphans discoveredIds ec2 (row :: rest)
      = match orphanCandidate discoveredIds row with
        | none => orphans discoveredIds ec2 rest
        | some (workerId, instanceId) =>
            if isGone (ec2 instanceId) = true then workerId :: orphans discoveredIds ec2 rest
            else orphans discoveredIds ec2 rest := by
  unfold orphans
  rw [List.filterMap_cons]
  cases orphanCandidate discoveredIds row with
  | none => rfl
  | some candidate =>
      simp only [List.filter_cons]
      split <;> rfl

section Exact

variable {respond : (call : DiscoveryCall) → call.Reply} {region : String}
  {ec2 : String → Option Ec2InstanceState}

theorem collectOrphans_exact
    (hec2 : ∀ instanceId, respond (.getInstanceState region instanceId) = .ok (ec2 instanceId))
    (discoveredIds : List String) :
    ∀ (rows : List WorkerRow) (orphanCount : Nat),
      marked ((collectOrphans region discoveredIds rows orphanCount).runWith respond).1
          = orphans discoveredIds ec2 rows
        ∧ ((collectOrphans region discoveredIds rows orphanCount).runWith respond).2
          = .ok (orphanCount + (orphans discoveredIds ec2 rows).countP fun workerId =>
            (respond (.markWorkerTerminated workerId)).isOk)
  | [], _ => ⟨rfl, rfl⟩
  | row :: rest, orphanCount => by
      have ih := collectOrphans_exact hec2 discoveredIds rest
      unfold collectOrphans
      rw [orphans_cons]
      cases hcandidate : orphanCandidate discoveredIds row with
      | none => exact ih orphanCount
      | some candidate =>
          obtain ⟨workerId, instanceId⟩ := candidate
          dsimp only
          rw [runWith_ask, hec2]
          dsimp only
          by_cases hgone : isGone (ec2 instanceId) = true
          · rw [if_pos hgone, if_pos hgone, runWith_ask, List.countP_cons]
            cases hmark : respond (.markWorkerTerminated workerId) with
            | error raised =>
                obtain ⟨hmarked, hcount⟩ := ih orphanCount
                exact ⟨congrArg (workerId :: ·) hmarked, hcount⟩
            | ok _ =>
                obtain ⟨hmarked, hcount⟩ := ih (orphanCount + 1)
                refine ⟨congrArg (workerId :: ·) hmarked, hcount.trans (congrArg Except.ok ?_)⟩
                show _ = orphanCount + (_ + 1)
                omega
          · rw [if_neg hgone, if_neg hgone]
            exact ih orphanCount

/-- **Where EC2 answers, the orphans are marked, each of them once, and nobody else**; the ones
whose marking goes through are counted. -/
theorem garbage_exact {rows : List WorkerRow} (hrows : respond (.getWorkers region) = .ok rows)
    (hec2 : ∀ instanceId, respond (.getInstanceState region instanceId) = .ok (ec2 instanceId))
    (discoveredIds : List String) :
    marked ((garbageCollectOrphans region discoveredIds).runWith respond).1
        = orphans discoveredIds ec2 rows
      ∧ ((garbageCollectOrphans region discoveredIds).runWith respond).2
        = (orphans discoveredIds ec2 rows).countP fun workerId =>
            (respond (.markWorkerTerminated workerId)).isOk := by
  obtain ⟨hmarked, hcount⟩ := collectOrphans_exact hec2 discoveredIds rows 0
  unfold garbageCollectOrphans
  rw [runWith_ask, hrows]
  dsimp only
  rw [runWith_bind, hcount]
  refine ⟨?_, Nat.zero_add _⟩
  show marked (((collectOrphans region discoveredIds rows 0).runWith respond).1 ++ []) = _
  rw [List.append_nil]
  exact hmarked

end Exact

/-- A region with four workers; EC2 knows one of the instances, and two are not looked for. -/
def regionOfFour : (call : DiscoveryCall) → call.Reply
  | .getAmiIdsByName .. => .ok []
  | .listInstancesByAmi .. => .ok []
  | .bulkImportWorkers .. => .ok (0, 0)
  | .getWorkers _ =>
      .ok
        [{ id := some "w-1", awsInstanceId := some "i-1", status := "running" },
          { id := some "w-2", awsInstanceId := some "i-2", status := "stopped" },
          { id := some "w-3", awsInstanceId := some "i-3", status := "Terminated" },
          { id := some "w-4", awsInstanceId := some "i-4", status := "running" }]
  | .getInstanceState _ instanceId =>
      .ok (if instanceId = "i-2" then some { state := .stopped } else none)
  | .markWorkerTerminated _ => .ok ()

theorem garbage_exact_four :
    marked ((garbageCollectOrphans "us-east-1" ["i-4"]).runWith regionOfFour).1 = ["w-1"] := by
  have hec2 : ∀ instanceId, regionOfFour (.getInstanceState "us-east-1" instanceId)
      = .ok (if instanceId = "i-2" then some { state := .stopped } else none) := fun _ => rfl
  have horphans : orphans ["i-4"] (fun instanceId => if instanceId = "i-2" then
      some { state := .stopped } else none)
      [{ id := some "w-1", awsInstanceId := some "i-1", status := "running" },
        { id := some "w-2", awsInstanceId := some "i-2", status := "stopped" },
        { id := some "w-3", awsInstanceId := some "i-3", status := "Terminated" },
        { id := some "w-4", awsInstanceId := some "i-4", status := "running" }] = ["w-1"] := by
    decide
  exact (garbage_exact rfl hec2 ["i-4"]).1.trans horphans

end CmlCloudManager.Worker
