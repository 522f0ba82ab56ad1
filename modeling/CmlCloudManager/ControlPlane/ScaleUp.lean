/-
  CmlCloudManager.ControlPlane.ScaleUp
  ────────────────────────────────────
  **THE CAP ON SCALE-UP REQUESTS.**

  A scale-up request counts the active workers of its region and adds one if
  there are fewer than the maximum.  The count and the add are two accesses to the
  repository with nothing that ties them together, and a count that fails lets the
  request through on purpose.  What the code keeps:

    • no request adds a worker after a count that found the maximum,
    • while no count fails, active workers and requests between their count and
      their add are bounded TOGETHER (`room_step`), so that requests that get in
      each other's way overshoot by at most the number of the others
      (`active_bounded`).
-/
import CmlCloudManager.Foundation.Interleaving
import CmlCloudManager.Foundation.Transition
import CmlCloudManager.ControlPlane.LabletDefinition
import CmlCloudManager.ControlPlane.WorkerCapacity

namespace CmlCloudManager.ControlPlane

open CmlCloudManager.Foundation

/-! ## §1. Workers, templates and settings. -/

/-- `CMLWorkerState`, with what a scale-up request fills in. -/
structure ScaledWorker extends CMLWorkerState where
  name : String
  awsRegion : String
  instanceType : String
  amiName : Option String := none
  desiredStatus : CMLWorkerStatus := .running
  templateName : Option String := none
  createdBy : Option String := none
  createdAt : Int := 0

/-- `WorkerTemplateState`, as far as a worker is made from it. -/
structure WorkerTemplateState where
  instanceType : String
  amiNamePattern : String := ""
  capacity : WorkerCapacity
  enabled : Bool := true

/-- The settings a scale-up request reads. -/
structure ScalingSettings where
  awsAccessKeyId : String := "YOUR_ACCESS_KEY_ID"
  cmlWorkerAmiNames : Dict String String :=
    Dict.ofList [("us-east-1", "CML-2.7.0-Ubuntu-22.04"), ("us-west-2", "CML-2.7.0-Ubuntu-22.04")]
  maxWorkersPerRegion : Int := 10

/-- The workers of a region that are not terminated. -/
def regionWorkers (workers : List ScaledWorker) (awsRegion : String) : List ScaledWorker :=
  (workers.filter fun w => w.status ≠ .terminated).filter fun w => w.awsRegion = awsRegion

/-- How many of them there are. -/
def activeCount (workers : List ScaledWorker) (awsRegion : String) : Int :=
  (regionWorkers workers awsRegion).length

/-! ## §2. `RequestScaleUpCommandHandler`. -/

/-- `RequestScaleUpCommand`. -/
structure RequestScaleUpCommand where
  templateName : String
  reason : String
  requestedBy : String := "resource-scheduler"
  awsRegion : Option String := none

/-- The accesses of the handler. -/
inductive ScalingRequest where
  | getTemplateByName (name : String)
  | getActiveWorkers
  | add (worker : ScaledWorker)

/-- What they answer; a template that is not found and one whose lookup fails are one. -/
abbrev ScalingRequest.Reply : ScalingRequest → Type
  | .getTemplateByName _ => Option WorkerTemplateState
  | .getActiveWorkers => Except String (List ScaledWorker)
  | .add _ => Except String ScaledWorker

/-- A program over them. -/
abbrev ScalingCall (α : Type) : Type := Resumption ScalingRequest ScalingRequest.Reply α

/-- The data of an accepted request. -/
structure ScaleUpAccepted where
  id : String
  name : String
  status : String
  desiredStatus : String
  awsRegion : String
  instanceType : String
  templateName : String
  reason : String
  requestedBy : String
  createdAt : Int
  message : String := "Scale-up accepted - worker-controller will provision EC2 instance"

/-- The results of the handler. -/
inductive ScaleUpResult where
  | created (data : ScaleUpAccepted)
  | notFound (templateName : String)
  | badRequest (message : String)
  | conflict (message : String)
  | internalServerError (message : String)

/-- A command with what the handler takes from elsewhere: a fresh id and the time, also as it
stands in the name. -/
structure ScaleUpRequest where
  command : RequestScaleUpCommand
  workerId : NewId
  now : Int
  timestamp : String

namespace ScaleUpRequest

/-- The region: the one asked for, or the first that the settings lead to. -/
def region (settings : ScalingSettings) (request : ScaleUpRequest) : String :=
  match givenText request.command.awsRegion with
  | some awsRegion => awsRegion
  | none =>
      if settings.awsAccessKeyId ≠ "" then "us-east-1"
      else settings.cmlWorkerAmiNames.keys.head?.getD "us-east-1"

/-- `_check_scaling_constraints`, on the answer of the repository. -/
def checkScalingConstraints (settings : ScalingSettings) (awsRegion : String) :
    Except String (List ScaledWorker) → Option String
  | .ok activeWorkers =>
      let regionWorkers := activeWorkers.filter fun w => w.awsRegion = awsRegion
      let activeCount : Int := regionWorkers.length
      if activeCount ≥ settings.maxWorkersPerRegion then
        some ("Maximum workers per region (" ++ toString settings.maxWorkersPerRegion
          ++ ") reached in " ++ awsRegion ++ ". Active: " ++ toString activeCount)
      else none
  -- fail open: the request goes on when the check fails
  | .error _ => none

/-- The worker the handler creates. -/
def worker (settings : ScalingSettings) (request : ScaleUpRequest)
    (template : WorkerTemplateState) : ScaledWorker where
  id := request.workerId.val
  id_given := request.workerId.property
  declaredCapacity := some template.capacity
  updatedAt := request.now
  name := "cml-" ++ request.command.templateName ++ "-" ++ request.timestamp
  awsRegion := request.region settings
  instanceType := template.instanceType
  amiName :=
    if template.amiNamePattern ≠ "" then some template.amiNamePattern
    else settings.cmlWorkerAmiNames.get? (request.region settings)
  templateName := some request.command.templateName
  createdBy := some request.command.requestedBy
  createdAt := request.now

/-- `handle_async`. -/
def handle (settings : ScalingSettings) (request : ScaleUpRequest) : ScalingCall ScaleUpResult :=
  let templateName := request.command.templateName
  (Resumption.call (ScalingRequest.getTemplateByName templateName)).bind fun
    | none => .done (.notFound templateName)
    | some template =>
        if !template.enabled then
          .done (.badRequest ("Worker template '" ++ templateName ++ "' is disabled"))
        else
          (Resumption.call ScalingRequest.getActiveWorkers).bind fun answer =>
            match checkScalingConstraints settings (request.region settings) answer with
            | some constraintError => .done (.conflict constraintError)
            | none =>
                (Resumption.call (ScalingRequest.add (request.worker settings template))).bind fun
                  | .error raised => .done (.internalServerError ("Scale-up failed: " ++ raised))
                  | .ok saved =>
                      .done (.created
                        { id := saved.id
                          name := saved.name
                          status := saved.status.value
                          desiredStatus := saved.desiredStatus.value
                          awsRegion := saved.awsRegion
                          instanceType := saved.instanceType
                          templateName := templateName
                          reason := request.command.reason
                          requestedBy := request.command.requestedBy
                          createdAt := saved.createdAt })

end ScaleUpRequest

/-! ## §3. The repository and the requests in flight. -/

/-- What the surroundings make of an access. -/
inductive Circumstance where
  /-- The template lookup finds this. -/
  | template (found : Option WorkerTemplateState)
  /-- The access does what it should. -/
  | normal
  /-- It raises before it has any effect. -/
  | raises (message : String)
  /-- The index reports a duplicate, and the repository answers with the worker it has. -/
  | duplicate (existing : ScaledWorker)

/-- The worker repository. -/
def workerRepository (c : Circumstance) (workers : List ScaledWorker) :
    (e : ScalingRequest) → e.Reply × List ScaledWorker
  | .getTemplateByName _ =>
      match c with
      | .template found => (found, workers)
      | _ => (none, workers)
  | .getActiveWorkers =>
      match c with
      | .raises message => (.error message, workers)
      | _ => (.ok (workers.filter fun w => w.status ≠ .terminated), workers)
  | .add worker =>
      match c with
      | .raises message => (.error message, workers)
      | .duplicate existing => (.ok existing, workers)
      | _ => (.ok worker, workers ++ [worker])

/-- A request under way. -/
abbrev ScaleUpThread : Type :=
  Thread ScalingRequest ScalingRequest.Reply ScaleUpResult ScaleUpRequest

/-- Requests around the stored workers. -/
abbrev ScaleUpWorld : Type :=
  Shared ScalingRequest ScalingRequest.Reply ScaleUpResult ScaleUpRequest (List ScaledWorker)

/-- A step of the system: one access of a request, or a change by another party. -/
inductive ScaleUpAction where
  | access (i : Nat) (c : Circumstance)
  | others (workers : List ScaledWorker)

/-- The world after a step. -/
def scaleUpStep (w : ScaleUpWorld) : ScaleUpAction → Option ScaleUpWorld
  | .access i c => advance workerRepository w (i, c)
  | .others workers => some { w with state := workers }

/-! ## §4. What a request guarantees. -/

/-- An access of the handler with its answer. -/
abbrev ScalingEvent : Type := Resumption.Event ScalingRequest ScalingRequest.Reply

/-- The access before was a count, and it found fewer than the maximum, or failed. -/
def FoundRoom (settings : ScalingSettings) (past : List ScalingEvent) (awsRegion : String) :
    Prop :=
  ∃ before answer, past = before ++ [⟨.getActiveWorkers, answer⟩]
    ∧ ∀ activeWorkers, answer = .ok activeWorkers →
        ((activeWorkers.filter fun w => w.awsRegion = awsRegion).length : Int)
          < settings.maxWorkersPerRegion

/-- What is known of a worker that is about to be added. -/
def AddOk (settings : ScalingSettings) (past : List ScalingEvent) (e : ScalingRequest) : Prop :=
  ∀ worker, e = .add worker →
    worker.status ≠ .terminated ∧ FoundRoom settings past worker.awsRegion

theorem checkScalingConstraints_none {settings : ScalingSettings} {awsRegion : String}
    {answer : Except String (List ScaledWorker)}
    (h : ScaleUpRequest.checkScalingConstraints settings awsRegion answer = none) :
    ∀ activeWorkers, answer = .ok activeWorkers →
      ((activeWorkers.filter fun w => w.awsRegion = awsRegion).length : Int)
        < settings.maxWorkersPerRegion := by
  rintro activeWorkers rfl
  unfold ScaleUpRequest.checkScalingConstraints at h
  dsimp only at h
  split at h
  next => cases h
  next hroom => exact Int.lt_of_not_ge hroom

/-- **The accesses of the handler**: its lookup, its count, and the worker that it adds for an
enabled template after a count that found room. -/
theorem handle_rule {settings : ScalingSettings} {request : ScaleUpRequest}
    {Ok : List ScalingEvent → ScalingRequest → Prop}
    (hlookup : Ok [] (.getTemplateByName request.command.templateName))
    (hcount : ∀ past, Ok past .getActiveWorkers)
    (hadd : ∀ template answer, template.enabled = true →
      ScaleUpRequest.checkScalingConstraints settings (request.region settings) answer = none →
      Ok [⟨.getTemplateByName request.command.templateName, some template⟩,
          ⟨.getActiveWorkers, answer⟩] (.add (request.worker settings template))) :
    Resumption.Guarantees Ok (fun _ _ => True) [] (request.handle settings) := by
  unfold ScaleUpRequest.handle
  refine Resumption.guarantees_bind.mpr
    (Resumption.guarantees_call.mpr ⟨hlookup, fun found => ?_⟩)
  cases found with
  | none => trivial
  | some template =>
      dsimp only
      split
      next => trivial
      next henabled =>
        refine Resumption.guarantees_bind.mpr
          (Resumption.guarantees_call.mpr ⟨hcount _, fun answer => ?_⟩)
        split
        next => trivial
        next hnone =>
          refine Resumption.guarantees_bind.mpr
            (Resumption.guarantees_call.mpr ⟨?_, fun saved => ?_⟩)
          · exact hadd template answer (by simpa using henabled) hnone
          · cases saved with
            | error raised => trivial
            | ok saved => trivial

/-- **A request adds a worker only right after a count that found room**, or failed. -/
theorem handle_guarantees (settings : ScalingSettings) (request : ScaleUpRequest) :
    Resumption.Guarantees (AddOk settings) (fun _ _ => True) [] (request.handle settings) := by
  refine handle_rule ?_ ?_ ?_
  · intro worker h
    cases h
  · intro past worker h
    cases h
  · intro template answer _ hnone worker h
    injection h with h
    subst h
    exact ⟨nofun, [_], answer, rfl, checkScalingConstraints_none hnone⟩

/-! ## §5. Active workers and requests on their way. -/

/-- The request adds a worker to the region with its next access. -/
def aboutToAdd (awsRegion : String) (t : ScaleUpThread) : Bool :=
  match t.next with
  | some (.add worker) => worker.awsRegion == awsRegion
  | _ => false

/-- How many requests are between their count and their add in the region. -/
def onTheirWay (awsRegion : String) (w : ScaleUpWorld) : Nat :=
  w.threads.countP (aboutToAdd awsRegion)

/-- A step at which no count fails and at most `k` requests of the region are between their
count and their add; other parties do not raise the number of active workers. -/
structure Orderly (awsRegion : String) (k : Nat) (w : ScaleUpWorld) (a : ScaleUpAction) :
    Prop where
  counted : ∀ i message t, a = .access i (.raises message) → w.threads[i]? = some t →
    t.next ≠ some .getActiveWorkers
  others : ∀ workers, a = .others workers →
    activeCount workers awsRegion ≤ activeCount w.state awsRegion
  few : ∀ w', scaleUpStep w a = some w' → onTheirWay awsRegion w' ≤ k

theorem activeCount_snoc (workers : List ScaledWorker) (worker : ScaledWorker)
    (awsRegion : String) (h : worker.status ≠ .terminated) :
    activeCount (workers ++ [worker]) awsRegion
      = activeCount workers awsRegion + if worker.awsRegion = awsRegion then 1 else 0 := by
  unfold activeCount regionWorkers
  rw [List.filter_append, List.filter_append, List.length_append]
  by_cases hregion : worker.awsRegion = awsRegion
  · simp [h, hregion]
  · simp [h, hregion]

section Step

variable {settings : ScalingSettings} {awsRegion : String} {k : Nat} {w w' : ScaleUpWorld}
  {i : Nat} {t t' : ScaleUpThread}

/-- The requests on their way, when one request goes on. -/
theorem onTheirWay_set (awsRegion : String) (hthread : w.threads[i]? = some t)
    (t' : ScaleUpThread) (s : List ScaledWorker) :
    onTheirWay awsRegion ⟨s, w.threads.set i t'⟩ + (if aboutToAdd awsRegion t then 1 else 0)
      = onTheirWay awsRegion w + if aboutToAdd awsRegion t' then 1 else 0 :=
  countP_set_add (aboutToAdd awsRegion) hthread t'

/-- A request that is about to add has counted just before. -/
theorem foundRoom_of_aboutToAdd (hw : w.Tracked (ScaleUpRequest.handle settings))
    (ht : t ∈ w.threads) (hadd : aboutToAdd awsRegion t = true) :
    FoundRoom settings t.trace awsRegion := by
  have hguarantee := (handle_guarantees settings t.request).reaches (hw t ht)
  unfold aboutToAdd Thread.next at hadd
  cases hprogram : t.program with
  | done => rw [hprogram] at hadd; cases hadd
  | await e rest =>
      rw [hprogram] at hadd hguarantee
      cases e with
      | getTemplateByName => cases hadd
      | getActiveWorkers => cases hadd
      | add worker =>
          obtain ⟨-, hroom⟩ := hguarantee.1 worker rfl
          rw [← beq_iff_eq.mp hadd]
          exact hroom

/-- A request that goes on and is not about to add. -/
theorem bounded_of_set {s : List ScaledWorker} (hthread : w.threads[i]? = some t)
    (hactive : activeCount s awsRegion
      ≤ activeCount w.state awsRegion + if aboutToAdd awsRegion t then 1 else 0)
    (hnot : ¬aboutToAdd awsRegion t' = true) :
    activeCount s awsRegion + onTheirWay awsRegion ⟨s, w.threads.set i t'⟩
      ≤ activeCount w.state awsRegion + onTheirWay awsRegion w := by
  have hset := onTheirWay_set awsRegion hthread t' s
  rw [if_neg hnot] at hset
  split at hactive
  next hadd =>
    rw [if_pos hadd] at hset
    omega
  next hadd =>
    rw [if_neg hadd] at hset
    omega

/-- A request that has just counted, and is about to add, found room. -/
theorem room_of_counted {request : ScaleUpRequest} {e : ScalingRequest}
    {rest : e.Reply → ScalingCall ScaleUpResult} {trace : List ScalingEvent} {answer : e.Reply}
    (hw : w.Tracked (ScaleUpRequest.handle settings))
    (ht : ⟨request, rest answer, trace ++ [⟨e, answer⟩]⟩ ∈ w.threads)
    (hadd : aboutToAdd awsRegion ⟨request, rest answer, trace ++ [⟨e, answer⟩]⟩ = true) :
    ∃ found, (⟨e, answer⟩ : ScalingEvent) = ⟨.getActiveWorkers, found⟩
      ∧ ∀ activeWorkers, found = .ok activeWorkers →
        ((activeWorkers.filter fun w => w.awsRegion = awsRegion).length : Int)
          < settings.maxWorkersPerRegion := by
  obtain ⟨before, found, hpast, hroom⟩ := foundRoom_of_aboutToAdd hw ht hadd
  exact ⟨found, List.singleton_inj.mp (List.append_inj_right' hpast rfl), hroom⟩

/-- What an add does to the number of active workers. -/
theorem activeCount_add (c : Circumstance) (workers : List ScaledWorker) {worker : ScaledWorker}
    (h : worker.status ≠ .terminated) :
    activeCount (workerRepository c workers (.add worker)).2 awsRegion
      ≤ activeCount workers awsRegion + if worker.awsRegion = awsRegion then 1 else 0 := by
  have hgrows : activeCount workers awsRegion
      ≤ activeCount workers awsRegion + if worker.awsRegion = awsRegion then 1 else 0 := by
    split <;> omega
  cases c with
  | raises => exact hgrows
  | duplicate => exact hgrows
  | normal => exact Int.le_of_eq (activeCount_snoc workers worker awsRegion h)
  | template => exact Int.le_of_eq (activeCount_snoc workers worker awsRegion h)

/-- **One step**: active workers and requests on their way grow together only while there is
room. -/
theorem room_step (hw : w.Tracked (ScaleUpRequest.handle settings)) {a : ScaleUpAction}
    (hok : Orderly awsRegion k w a) (hstep : scaleUpStep w a = some w') :
    activeCount w'.state awsRegion + onTheirWay awsRegion w'
        ≤ activeCount w.state awsRegion + onTheirWay awsRegion w
      ∨ activeCount w'.state awsRegion + onTheirWay awsRegion w'
        ≤ settings.maxWorkersPerRegion + k - 1 := by
  have hfew := hok.few w' hstep
  cases a with
  | others workers =>
      injection hstep with hstep
      subst hstep
      have := hok.others workers rfl
      exact .inl (Int.add_le_add_right this _)
  | access i c =>
      have hw' := advance_reaches hw hstep
      obtain ⟨request, e, rest, trace, hthread, rfl⟩ := advance_cases hstep
      have hlt : i < w.threads.length := (List.getElem?_eq_some_iff.mp hthread).1
      have hmem : ∀ t' : ScaleUpThread, t' ∈ w.threads.set i t' :=
        fun t' => List.mem_of_getElem? (List.getElem?_set_self hlt)
      cases e with
      | getTemplateByName name =>
          refine .inl (bounded_of_set hthread ?_ fun hadd => ?_)
          · have hsame : (workerRepository c w.state (.getTemplateByName name)).2 = w.state := by
              cases c <;> rfl
            rw [if_neg (by simp [aboutToAdd, Thread.next]), Int.add_zero]
            exact Int.le_of_eq (congrArg (activeCount · awsRegion) hsame)
          · obtain ⟨found, hevent, -⟩ := room_of_counted hw' (hmem _) hadd
            cases hevent
      | add worker =>
          refine .inl (bounded_of_set hthread ?_ fun hadd => ?_)
          · have hstatus := ((handle_guarantees settings request).reaches
              (hw _ (List.mem_of_getElem? hthread))).1 worker rfl
            have hadded := @activeCount_add awsRegion c w.state _ hstatus.1
            simpa [aboutToAdd, Thread.next] using hadded
          · obtain ⟨found, hevent, -⟩ := room_of_counted hw' (hmem _) hadd
            cases hevent
      | getActiveWorkers =>
          have hsame : (workerRepository c w.state .getActiveWorkers).2 = w.state := by
            cases c <;> rfl
          by_cases hadd : aboutToAdd awsRegion
              ⟨request, rest (workerRepository c w.state .getActiveWorkers).1,
                trace ++ [⟨.getActiveWorkers, (workerRepository c w.state .getActiveWorkers).1⟩]⟩
                  = true
          · -- the count has found room: there is one more request on its way
            obtain ⟨found, hevent, hroom⟩ := room_of_counted hw' (hmem _) hadd
            obtain ⟨-, hfound⟩ := Sigma.mk.inj hevent
            have hroom' : activeCount w.state awsRegion < settings.maxWorkersPerRegion := by
              cases c with
              | raises message => exact absurd rfl (hok.counted i message _ rfl hthread)
              | normal => exact hroom _ (eq_of_heq hfound).symm
              | template => exact hroom _ (eq_of_heq hfound).symm
              | duplicate => exact hroom _ (eq_of_heq hfound).symm
            right
            dsimp only at hfew ⊢
            rw [hsame] at hfew ⊢
            omega
          · refine .inl (bounded_of_set hthread ?_ hadd)
            rw [if_neg (by simp [aboutToAdd, Thread.next]), Int.add_zero]
            exact Int.le_of_eq (congrArg (activeCount · awsRegion) hsame)

end Step

/-! ## §6. Runs. -/

/-- Every step keeps the requests with what they have done. -/
theorem tracked_step {settings : ScalingSettings} {w w' : ScaleUpWorld} {a : ScaleUpAction}
    (hw : w.Tracked (ScaleUpRequest.handle settings)) (hstep : scaleUpStep w a = some w') :
    w'.Tracked (ScaleUpRequest.handle settings) := by
  cases a with
  | access i c => exact advance_reaches hw hstep
  | others workers =>
      injection hstep with hstep
      subst hstep
      exact hw

/-- Before its first access no request is about to add. -/
theorem onTheirWay_start (settings : ScalingSettings) (workers : List ScaledWorker)
    (requests : List ScaleUpRequest) (awsRegion : String) :
    onTheirWay awsRegion (Shared.start (ScaleUpRequest.handle settings) workers requests) = 0 := by
  refine List.countP_eq_zero.mpr fun t ht => ?_
  obtain ⟨request, -, rfl⟩ := List.mem_map.mp ht
  exact Bool.false_ne_true

/-- **A run of orderly steps** keeps active workers and requests on their way within the
maximum and `k - 1` more, or within the number there was at first. -/
theorem active_bounded {settings : ScalingSettings} {awsRegion : String} {k : Nat}
    {workers : List ScaledWorker} {requests : List ScaleUpRequest} {actions : List ScaleUpAction}
    {w : ScaleUpWorld}
    (hrun : Run scaleUpStep (Orderly awsRegion k)
      (Shared.start (ScaleUpRequest.handle settings) workers requests) actions w) :
    activeCount w.state awsRegion + onTheirWay awsRegion w
      ≤ max (activeCount workers awsRegion) (settings.maxWorkersPerRegion + k - 1) := by
  have hstep : ∀ t a u,
      (Shared.Tracked (ScaleUpRequest.handle settings) t
        ∧ activeCount t.state awsRegion + onTheirWay awsRegion t
          ≤ max (activeCount workers awsRegion) (settings.maxWorkersPerRegion + k - 1)) →
      Orderly awsRegion k t a → scaleUpStep t a = some u →
      (Shared.Tracked (ScaleUpRequest.handle settings) u
        ∧ activeCount u.state awsRegion + onTheirWay awsRegion u
          ≤ max (activeCount workers awsRegion) (settings.maxWorkersPerRegion + k - 1)) := by
    rintro t a u ⟨ht, hbound⟩ hok hu
    refine ⟨tracked_step ht hu, ?_⟩
    rcases room_step ht hok hu with hle | hle
    · exact hle.trans hbound
    · exact hle.trans (le_max_right _ _)
  refine (hrun.invariant hstep ⟨tracked_start _ workers requests, ?_⟩).2
  rw [onTheirWay_start]
  simp [Shared.start]

/-- **What the cap comes to.**  Whatever happens, a request that is about to add has just
counted and found room, or its count has failed; and while no count fails, with at most `k`
requests of the region between their count and their add at any time, these requests never
take the region beyond the maximum and `k - 1` more. -/
theorem scaleUp_cap (settings : ScalingSettings) (workers : List ScaledWorker)
    (requests : List ScaleUpRequest) :
    (∀ actions w, Run scaleUpStep anyAction
          (Shared.start (ScaleUpRequest.handle settings) workers requests) actions w →
        ∀ t ∈ w.threads, ∀ awsRegion, aboutToAdd awsRegion t = true →
          FoundRoom settings t.trace awsRegion)
      ∧ ∀ awsRegion k actions w, Run scaleUpStep (Orderly awsRegion k)
          (Shared.start (ScaleUpRequest.handle settings) workers requests) actions w →
        activeCount w.state awsRegion
          ≤ max (activeCount workers awsRegion) (settings.maxWorkersPerRegion + k - 1) := by
  constructor
  · intro actions w hrun t ht awsRegion hadd
    have hstep : ∀ t a u, Shared.Tracked (ScaleUpRequest.handle settings) t → anyAction t a →
        scaleUpStep t a = some u → Shared.Tracked (ScaleUpRequest.handle settings) u :=
      fun _ _ _ ht _ hu => tracked_step ht hu
    exact foundRoom_of_aboutToAdd (hrun.invariant hstep (tracked_start _ workers requests)) ht hadd
  · intro awsRegion k actions w hrun
    have hbound := active_bounded hrun
    have hnat : (0 : Int) ≤ onTheirWay awsRegion w := Int.natCast_nonneg _
    omega

/-- Room for one worker in a region. -/
def oneWorker : ScalingSettings where
  maxWorkersPerRegion := 1

/-- Two requests for a worker. -/
def twoScaleUps : List ScaleUpRequest :=
  [{ command := { templateName := "small", reason := "no capacity" }
     workerId := ⟨"worker-1", by decide⟩, now := 0, timestamp := "20260101-000000" },
   { command := { templateName := "small", reason := "no capacity" }
     workerId := ⟨"worker-2", by decide⟩, now := 0, timestamp := "20260101-000000" }]

/-- The template they name. -/
def smallTemplate : Circumstance :=
  .template (some
    { instanceType := "c5.2xlarge"
      capacity := { cpuCores := 8, memoryGb := 16, storageGb := 100 } })

/-- `Orderly` for steps of requests that do not fail, computed. -/
def orderlyCheck (awsRegion : String) (k : Nat) (w : ScaleUpWorld) (a : ScaleUpAction) : Bool :=
  match a with
  | .others _ => false
  | .access _ (.raises _) => false
  | .access _ _ =>
      match scaleUpStep w a with
      | some w' => decide (onTheirWay awsRegion w' ≤ k)
      | none => true

theorem orderly_of_check {awsRegion : String} {k : Nat} (w : ScaleUpWorld) (a : ScaleUpAction)
    (h : orderlyCheck awsRegion k w a = true) : Orderly awsRegion k w a := by
  unfold orderlyCheck at h
  split at h
  next => cases h
  next => cases h
  next i c hraises =>
    refine ⟨fun _ message _ ha => ?_, nofun, fun w' hw' => ?_⟩
    · injection ha with _ hc
      exact absurd hc (hraises message)
    · rw [hw'] at h
      exact of_decide_eq_true h

/-- The first request is through before the second one counts: it finds the maximum. -/
theorem scaleUp_cap_in_turn :
    ∃ w, exec scaleUpStep (orderlyCheck "us-east-1" 1)
        [.access 0 smallTemplate, .access 0 .normal, .access 0 .normal, .access 1 smallTemplate,
          .access 1 .normal]
        (Shared.start (ScaleUpRequest.handle oneWorker) [] twoScaleUps) = some w
      ∧ activeCount w.state "us-east-1"
        ≤ max (activeCount [] "us-east-1") (oneWorker.maxWorkersPerRegion + (1 : Nat) - 1) := by
  obtain ⟨w, hw⟩ : ∃ w, exec scaleUpStep (orderlyCheck "us-east-1" 1)
      [.access 0 smallTemplate, .access 0 .normal, .access 0 .normal, .access 1 smallTemplate,
        .access 1 .normal]
      (Shared.start (ScaleUpRequest.handle oneWorker) [] twoScaleUps) = some w := ⟨_, rfl⟩
  have hrun := exec_run orderly_of_check _ .nil hw
  exact ⟨w, hw, (scaleUp_cap oneWorker [] twoScaleUps).2 _ _ _ _ hrun⟩

/-- Two requests that count before either adds. -/
def bothCount : List ScaleUpAction :=
  [.access 0 smallTemplate, .access 1 smallTemplate, .access 0 .normal, .access 1 .normal,
    .access 0 .normal, .access 1 .normal]

/-- Two requests one after the other, of which the second one cannot count. -/
def secondCountFails : List ScaleUpAction :=
  [.access 0 smallTemplate, .access 0 .normal, .access 0 .normal, .access 1 smallTemplate,
    .access 1 (.raises "timeout"), .access 1 .normal]

/-- The actions, in a region that is empty and has room for one worker, keep to the maximum. -/
def KeepsToOne (actions : List ScaleUpAction) : Prop :=
  ∀ w, Run scaleUpStep anyAction
      (Shared.start (ScaleUpRequest.handle oneWorker) [] twoScaleUps) actions w →
    activeCount w.state "us-east-1"
      ≤ max (activeCount [] "us-east-1") oneWorker.maxWorkersPerRegion

/-- They do not, if they end with two active workers. -/
theorem not_keepsToOne {actions : List ScaleUpAction}
    (h : (exec scaleUpStep (fun _ _ => true) actions
      (Shared.start (ScaleUpRequest.handle oneWorker) [] twoScaleUps)).map
        (fun w => activeCount w.state "us-east-1") = some 2) : ¬ KeepsToOne actions := by
  intro hkeeps
  obtain ⟨w, hw, hcount⟩ := Option.map_eq_some_iff.mp h
  have hcap := hkeeps w (exec_run (fun _ _ _ => trivial) _ .nil hw)
  rw [hcount] at hcap
  exact absurd hcap (by decide)

/-- Either way there are two active workers where there is room for one. -/
theorem cap_exceeded : ¬ KeepsToOne bothCount ∧ ¬ KeepsToOne secondCountFails :=
  ⟨not_keepsToOne (by decide), not_keepsToOne (by decide)⟩

end CmlCloudManager.ControlPlane
