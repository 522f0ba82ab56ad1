/-
  CmlCloudManager.Worker.WorkerWorld
  ──────────────────────────────────
  **A WORLD FOR THE RECONCILER.**

  The record of one worker, the instances that EC2 has, and what they do with the calls
  of a pass, as long as no call fails.  EC2 is a parameter with the life cycle it
  documents; it moves between any two calls.  The idle detection and the drain of the
  control plane are the handlers themselves, so that they may pause the worker.

    • `serve`             — what the world does with a call,
    • `serve_follows`     — a call that writes no status and changes no instance takes the
                            phase along a path,
    • `serve_state`, `serve_status`, `turn_phase` — and what the others do to it.
-/
import CmlCloudManager.Foundation.Serving
import CmlCloudManager.Worker.ReconcilerTrace
import CmlCloudManager.Worker.WorkerPhases

namespace CmlCloudManager.Worker

open CmlCloudManager.Foundation
open CmlCloudManager.Foundation.Resumption
open CmlCloudManager.ControlPlane (CMLWorkerStatus CMLWorkerStatus.value givenText)

/-! ## §1. EC2. -/

/-- The life cycle of an instance, as EC2 documents it; what a call does to an instance in
another state is left open. -/
structure Ec2LifeCycle where
  afterStart : Ec2State → Ec2State
  afterStop : Ec2State → Ec2State
  afterTerminate : Ec2State → Ec2State
  /-- what a state becomes without a call -/
  becomes : Ec2State → Option Ec2State
  start_stopped : afterStart .stopped = .pending
  stop_running : afterStop .running = .stopping
  terminate_live : ∀ state, state ≠ .shuttingDown → state ≠ .terminated →
    afterTerminate state = .shuttingDown
  becomes_eq : ∀ state, becomes state =
    match state with
    | .pending => some .running
    | .stopping => some .stopped
    | .shuttingDown => some .terminated
    | _ => none

/-- What may become of an instance without a call: its addresses change, its state moves on,
and in the end a terminated instance is forgotten. -/
inductive Ec2LifeCycle.Slides (ec2 : Ec2LifeCycle) :
    Option Ec2InstanceState → Option Ec2InstanceState → Prop where
  | stays {i j} (h : j.state = i.state) : Slides ec2 (some i) (some j)
  | moves {i j} (h : ec2.becomes i.state = some j.state) : Slides ec2 (some i) (some j)
  | forgotten {i} (h : i.state = .terminated) : Slides ec2 (some i) none

/-! ## §2. The world. -/

/-- The record of a worker, and the instances of EC2. -/
structure WorkerWorld where
  worker : CMLWorkerState
  instances : String → Option Ec2InstanceState

namespace WorkerWorld

/-- Where the instance of the worker is. -/
def place (w : WorkerWorld) : Place :=
  (givenText w.worker.awsInstanceId).map fun instanceId =>
    (w.instances instanceId).map Ec2InstanceState.state

/-- The phase of the worker. -/
def phase (w : WorkerWorld) : Phase := ⟨w.worker.status, goalOf w.worker.desiredStatus, w.place⟩

/-- An instance changes its state. -/
def turn (w : WorkerWorld) (instanceId : String) (f : Ec2State → Ec2State) : WorkerWorld :=
  { w with
    instances := Function.update w.instances instanceId
      ((w.instances instanceId).map fun i => { i with state := f i.state }) }

/-- The record changes. -/
def withWorker (w : WorkerWorld) (worker : CMLWorkerState) : WorkerWorld :=
  { w with worker := worker }

end WorkerWorld

/-- The parties of a pass: EC2, and the control plane with its settings, its templates and the way
it writes a record. -/
structure Parties where
  ec2 : Ec2LifeCycle
  idle : IdleSettings
  templates : String → Option TemplateData
  amiIds : String → List String
  iso : Int → String
  ports : PortUsage := {}

/-- What the reconciler goes by is the same in both records. -/
structure SameLife (s t : CMLWorkerState) : Prop where
  status : t.status = s.status
  desiredStatus : t.desiredStatus = s.desiredStatus
  awsInstanceId : t.awsInstanceId = s.awsInstanceId

/-- What happens without a call: EC2 moves, and others report on the worker. -/
structure Drifts (ec2 : Ec2LifeCycle) (w w' : WorkerWorld) : Prop where
  worker : SameLife w.worker w'.worker
  instances : ∀ instanceId, Relation.ReflTransGen ec2.Slides (w.instances instanceId)
    (w'.instances instanceId)

/-- What a call does, when no call fails. -/
def served (parties : Parties) (w : WorkerWorld) :
    (call : WorkerCall) → call.Reply → WorkerWorld → Prop
  | .getPendingSync, r, w' => r = none ∧ w' = w
  | .getWorkerTemplate templateName, r, w' => r = .ok (parties.templates templateName) ∧ w' = w
  | .getAmiIdsByName amiName, r, w' => r = .ok (parties.amiIds amiName) ∧ w' = w
  | .runInstance _, r, w' =>
      -- a new identifier, for an instance that is pending
      ∃ instanceId i, instanceId ≠ "" ∧ w.worker.awsInstanceId ≠ some instanceId
        ∧ i.state = .pending ∧ r = .ok instanceId
        ∧ w' = { w with instances := Function.update w.instances instanceId (some i) }
  | .getInstanceState instanceId, r, w' => r = .ok (w.instances instanceId) ∧ w' = w
  | .startInstance instanceId, _, w' => w' = w.turn instanceId parties.ec2.afterStart
  | .stopInstance instanceId, _, w' => w' = w.turn instanceId parties.ec2.afterStop
  | .terminateInstance instanceId, _, w' => w' = w.turn instanceId parties.ec2.afterTerminate
  | .updateWorkerStatus status instanceId, r, w' =>
      r = .ok ()
        ∧ ∃ now, w' = w.withWorker
            ((updateWorkerStatus status instanceId now w.worker).after w.worker)
  | .updateWorkerEc2Details details, _, w' =>
      ∃ now, w' = w.withWorker ((updateWorkerEc2Details details now w.worker).after w.worker)
  | .stopMonitoring, r, w' => r = .ok () ∧ w' = w
  | .detectWorkerIdle events, r, w' =>
      ∃ faults now,
        r = .ok (detectWorkerIdle parties.idle faults now (some events) w.worker).1
          ∧ w' = w.withWorker (detectWorkerIdle parties.idle faults now (some events) w.worker).2
  | .drainWorker reason requestedBy, _, w' =>
      ∃ now, w' = w.withWorker ((drainWorker reason requestedBy now w.worker).after w.worker)
  | _, _, w' => w' = w

/-- What the world does with a call: EC2 moves, and the call is served. -/
def serve (parties : Parties) : Service WorkerWorld WorkerCall WorkerCall.Reply :=
  fun w call r w' => ∃ moved, Drifts parties.ec2 w moved ∧ served parties moved call r w'

/-! ## §3. What a call does to the phase. -/

/-- The place moves on by itself. -/
abbrev Slid : Place → Place → Prop := Relation.ReflTransGen fun p q => q ∈ p.slides

theorem slid_follows (p : Phase) {place : Place} (h : Slid p.place place) :
    Follows Phase.next p { p with place := place } := by
  induction h with
  | refl => exact .refl
  | tail before last ih =>
      refine ih.tail (List.mem_append_left _ (List.mem_append_left _ ?_))
      exact List.mem_map_of_mem (f := fun place => { p with place := place }) last

/-- A place that does not move stays. -/
theorem slid_still {p q : Place} (hp : p.slides = []) (h : Slid p q) : q = p := by
  induction h with
  | refl => rfl
  | tail before last ih =>
      rw [ih, hp] at last
      cases last

section Calls

variable {parties : Parties} {w w' : WorkerWorld}

theorem slides_slid {ec2 : Ec2LifeCycle} {a b : Option Ec2InstanceState}
    (h : Relation.ReflTransGen ec2.Slides a b) :
    Slid (some (a.map Ec2InstanceState.state)) (some (b.map Ec2InstanceState.state)) := by
  induction h with
  | refl => exact .refl
  | tail before last ih =>
      cases last with
      | stays h =>
          rw [Option.map_some, h]
          exact ih
      | @moves i j h =>
          refine ih.tail ?_
          rw [ec2.becomes_eq] at h
          rw [Option.map_some, Option.map_some]
          cases hstate : i.state <;> rw [hstate] at h <;>
            first
              | cases h
              | (rw [← Option.some.inj h]; decide)
      | forgotten h =>
          refine ih.tail ?_
          rw [Option.map_some, h]
          decide

/-- **EC2 only moves the place.** -/
theorem Drifts.phase (h : Drifts parties.ec2 w w') :
    w'.phase = { w.phase with place := w'.place } ∧ Slid w.place w'.place := by
  obtain ⟨⟨hstatus, hdesired, hid⟩, hslides⟩ := h
  refine ⟨?_, ?_⟩
  · unfold WorkerWorld.phase
    rw [hstatus, hdesired]
  · unfold WorkerWorld.place
    rw [hid]
    cases givenText w.worker.awsInstanceId with
    | none => exact .refl
    | some instanceId => exact slides_slid (hslides instanceId)

theorem Drifts.follows (h : Drifts parties.ec2 w w') : Follows Phase.next w.phase w'.phase := by
  obtain ⟨hphase, hslid⟩ := h.phase
  rw [hphase]
  exact slid_follows w.phase hslid

/-- The call writes no status and changes no instance. -/
def WorkerCall.Untouching : WorkerCall → Prop
  | .runInstance _ => False
  | .startInstance _ => False
  | .stopInstance _ => False
  | .terminateInstance _ => False
  | .updateWorkerStatus .. => False
  | _ => True

/-- The record keeps what the phase is made of. -/
theorem phase_withWorker {t : CMLWorkerState} (h : SameLife w.worker t) :
    (w.withWorker t).phase = w.phase := by
  obtain ⟨hstatus, hdesired, hid⟩ := h
  unfold WorkerWorld.phase WorkerWorld.place WorkerWorld.withWorker
  rw [hstatus, hdesired, hid]

/-- A pause asks for a stop, or leaves the life of the worker alone. -/
theorem pause_life (reason : Option String) (now : Int) (s : CMLWorkerState) :
    let t := (pauseWorker true reason now s).after s
    SameLife s t ∨ t.status = s.status ∧ t.desiredStatus = .stopped
      ∧ t.awsInstanceId = s.awsInstanceId := by
  unfold pauseWorker stopCMLWorker
  by_cases hstatus : s.status = .terminated
  · rw [if_pos hstatus]
    exact .inl ⟨rfl, rfl, rfl⟩
  · rw [if_neg hstatus]
    by_cases hdesired : s.desiredStatus = .stopped
    · rw [if_pos hdesired]
      exact .inl ⟨rfl, rfl, rfl⟩
    · rw [if_neg hdesired]
      refine .inr ⟨?_, ?_, ?_⟩
      · exact CMLWorker.updateDesiredStatus_status (load s) ..
      · exact CMLWorker.updateDesiredStatus_desired (load s) ..
      · exact CMLWorker.updateDesiredStatus_instance (load s) ..

/-- A detection stops a worker that runs, or leaves its life alone. -/
theorem detect_life (idle : IdleSettings) (faults : DetectFaults) (now : Int)
    (events : List ActivityEvent) (s : CMLWorkerState) :
    let t := (detectWorkerIdle idle faults now (some events) s).2
    SameLife s t ∨ s.status = .running ∧ t.status = .running ∧ t.desiredStatus = .stopped
      ∧ t.awsInstanceId = s.awsInstanceId := by
  unfold detectWorkerIdle
  cases faults.update with
  | some fault => cases fault <;> exact .inl ⟨rfl, rfl, rfl⟩
  | none =>
      -- the activity is no part of the life
      have hactivity : SameLife s (updateActivityOf idle now events s) := ⟨rfl, rfl, rfl⟩
      dsimp only
      unfold evaluateIdle
      cases faults.query with
      | some fault => cases fault <;> exact .inl hactivity
      | none =>
          dsimp only
          split
          next heligible =>
            cases faults.pause with
            | some fault => cases fault <;> exact .inl hactivity
            | none =>
                have hrunning : s.status = .running := by
                  unfold getWorkerIdleStatus at heligible
                  simp only [Bool.and_eq_true, decide_eq_true_eq] at heligible
                  exact heligible.2
                have hpause := pause_life (some (autoPauseReason idle (getWorkerIdleStatus idle now
                  (updateActivityOf idle now events s)).idleSeconds)) now
                  (updateActivityOf idle now events s)
                dsimp only at hpause ⊢
                rw [apply_ite Prod.snd, ite_self]
                rcases hpause with h | ⟨hstatus, hdesired, hid⟩
                · exact .inl ⟨h.1, h.2, h.3⟩
                · exact .inr ⟨hrunning, hstatus.trans hrunning, hdesired, hid⟩
          next => exact .inl hactivity

/-- A drain stops a worker that runs. -/
theorem drain_life (reason requestedBy : String) (now : Int) (s : CMLWorkerState) :
    let t := (drainWorker reason requestedBy now s).after s
    t = s ∨ s.status = .running ∧ t.status = .draining ∧ t.desiredStatus = .stopped
      ∧ t.awsInstanceId = s.awsInstanceId := by
  unfold drainWorker
  split
  next => exact .inl rfl
  next hrunning =>
    have hdrained := (load s).updateStatus_sameSpec .draining now
    refine .inr ⟨not_not.mp hrunning, ?_, ?_, ?_⟩
    · exact (CMLWorker.updateDesiredStatus_status _ ..).trans (CMLWorker.updateStatus_status ..)
    · exact CMLWorker.updateDesiredStatus_desired _ ..
    · exact (CMLWorker.updateDesiredStatus_instance _ ..).trans hdrained.awsInstanceId

/-- A pause of a worker that runs is a step of its phase. -/
theorem pause_step {t : CMLWorkerState} (hrunning : w.worker.status = .running)
    (hstatus : t.status = .running ∨ t.status = .draining) (hdesired : t.desiredStatus = .stopped)
    (hid : t.awsInstanceId = w.worker.awsInstanceId) :
    Follows Phase.next w.phase (w.withWorker t).phase := by
  have hphase : (w.withWorker t).phase = { w.phase with status := t.status, goal := .stop } := by
    unfold WorkerWorld.phase WorkerWorld.place WorkerWorld.withWorker
    rw [hdesired, hid]
    rfl
  have hpauses : w.phase.pauses = { w.phase with status := .draining, goal := .stop }
      :: if w.phase.goal = .stop then [] else [{ w.phase with goal := .stop }] :=
    if_pos hrunning
  rw [hphase]
  rcases hstatus with hstatus | hstatus
  · by_cases hgoal : w.phase.goal = .stop
    · -- it was stopped before
      have hsame : ({ w.phase with status := t.status, goal := .stop } : Phase) = w.phase := by
        rw [hstatus, ← hgoal, ← hrunning]
        rfl
      rw [hsame]
    · refine Relation.ReflTransGen.single (List.mem_append_right _ ?_)
      rw [hpauses, if_neg hgoal, hstatus, ← hrunning]
      exact List.mem_cons_of_mem _ List.mem_cons_self
  · refine Relation.ReflTransGen.single (List.mem_append_right _ ?_)
    rw [hpauses, hstatus]
    exact List.mem_cons_self

/-- **A call that touches nothing takes the phase along a path.** -/
theorem serve_follows {call : WorkerCall} {r : call.Reply} (hcall : call.Untouching)
    (h : serve parties w call r w') : Follows Phase.next w.phase w'.phase := by
  obtain ⟨moved, hdrift, hserved⟩ := h
  refine hdrift.follows.trans ?_
  have hstill : w' = moved → Follows Phase.next moved.phase w'.phase := by
    rintro rfl
    exact .refl
  cases call with
  | runInstance => exact hcall.elim
  | startInstance => exact hcall.elim
  | stopInstance => exact hcall.elim
  | terminateInstance => exact hcall.elim
  | updateWorkerStatus => exact hcall.elim
  | updateWorkerEc2Details details =>
      obtain ⟨now, rfl⟩ := hserved
      have hsame : SameLife moved.worker
          ((updateWorkerEc2Details details now moved.worker).after moved.worker) := ⟨rfl, rfl, rfl⟩
      rw [phase_withWorker hsame]
  | detectWorkerIdle events =>
      obtain ⟨faults, now, -, rfl⟩ := hserved
      rcases detect_life parties.idle faults now events moved.worker with
        h | ⟨hrunning, hstatus, hdesired, hid⟩
      · rw [phase_withWorker h]
      · exact pause_step hrunning (.inl hstatus) hdesired hid
  | drainWorker reason requestedBy =>
      obtain ⟨now, rfl⟩ := hserved
      rcases drain_life reason requestedBy now moved.worker with
        h | ⟨hrunning, hstatus, hdesired, hid⟩
      · rw [h]
        exact .refl
      · exact pause_step hrunning (.inr hstatus) hdesired hid
  | getPendingSync => exact hstill hserved.2
  | getWorkerTemplate => exact hstill hserved.2
  | getAmiIdsByName => exact hstill hserved.2
  | getInstanceState => exact hstill hserved.2
  | stopMonitoring => exact hstill hserved.2
  | _ => exact hstill hserved

theorem Drifts.trans {w'' : WorkerWorld} (h : Drifts parties.ec2 w w')
    (h' : Drifts parties.ec2 w' w'') : Drifts parties.ec2 w w'' where
  worker :=
    ⟨h'.worker.status.trans h.worker.status,
      h'.worker.desiredStatus.trans h.worker.desiredStatus,
      h'.worker.awsInstanceId.trans h.worker.awsInstanceId⟩
  instances := fun instanceId => (h.instances instanceId).trans (h'.instances instanceId)

/-- A report on the details is nothing that the reconciler goes by. -/
theorem serve_detail {call : WorkerCall} {r : call.Reply} (hcall : call.Detail)
    (h : serve parties w call r w') : Drifts parties.ec2 w w' := by
  obtain ⟨moved, hdrift, hserved⟩ := h
  cases call with
  | describeImage imageId =>
      obtain rfl : w' = moved := hserved
      exact hdrift
  | updateWorkerEc2Details details =>
      obtain ⟨now, rfl⟩ := hserved
      have hsame : Drifts parties.ec2 moved (moved.withWorker
          ((updateWorkerEc2Details details now moved.worker).after moved.worker)) :=
        ⟨⟨rfl, rfl, rfl⟩, fun _ => .refl⟩
      exact hdrift.trans hsame
  | _ => exact hcall.elim

/-- EC2 says where the instance is. -/
theorem serve_state {instanceId : String} {r : (WorkerCall.getInstanceState instanceId).Reply}
    (hid : givenText w.worker.awsInstanceId = some instanceId)
    (h : serve parties w (.getInstanceState instanceId) r w') :
    ∃ i, r = .ok i ∧ Drifts parties.ec2 w w'
      ∧ w'.place = some (i.map Ec2InstanceState.state) := by
  obtain ⟨moved, hdrift, rfl, rfl⟩ := h
  refine ⟨_, rfl, hdrift, ?_⟩
  unfold WorkerWorld.place
  rw [hdrift.worker.awsInstanceId, hid]
  rfl

/-- The instance of the worker turns to another state. -/
theorem turn_phase {instanceId : String}
    (hid : givenText w.worker.awsInstanceId = some instanceId) (f : Ec2State → Ec2State) :
    (w.turn instanceId f).phase = { w.phase with place := w.place.map (Option.map f) } := by
  unfold WorkerWorld.phase WorkerWorld.place WorkerWorld.turn
  simp only [hid, Option.map_some, Function.update_self, Option.map_map]
  rfl

/-- A status that is written is the status then; the rest of the life stays. -/
theorem updateWorkerStatus_life (status : CMLWorkerStatus) (now : Int) (s : CMLWorkerState) :
    let t := (updateWorkerStatus status none now s).after s
    t.status = status ∧ t.desiredStatus = s.desiredStatus ∧ t.awsInstanceId = s.awsInstanceId := by
  unfold updateWorkerStatus
  split
  next hterminated =>
    subst hterminated
    unfold markWorkerTerminated
    split
    next h => exact ⟨h, rfl, rfl⟩
    next =>
      have hspec := (load s).terminate_sameSpec (some "worker-controller") now
      exact ⟨CMLWorker.terminate_status (load s) .., hspec.desiredStatus, hspec.awsInstanceId⟩
  next =>
    unfold updateCMLWorkerStatus
    have hspec := (load s).updateStatus_sameSpec status now
    by_cases h : s.status = status
    · simp only [if_pos h]
      exact ⟨h, rfl, rfl⟩
    · simp only [if_neg h]
      exact ⟨CMLWorker.updateStatus_status (load s) .., hspec.desiredStatus, hspec.awsInstanceId⟩

/-- The instance that was launched is recorded with the status. -/
theorem launched_life {instanceId : String} (hid : instanceId ≠ "") (now : Int)
    (s : CMLWorkerState) :
    let t := (updateWorkerStatus .provisioning (some instanceId) now s).after s
    t.status = .provisioning ∧ t.desiredStatus = s.desiredStatus
      ∧ t.awsInstanceId = some instanceId := by
  have hspec := (load s).updateStatus_sameSpec .provisioning now
  unfold updateWorkerStatus updateCMLWorkerStatus
  rw [if_neg (by decide), ControlPlane.givenText_some hid]
  simp only [Handled.after, List.getLast?_append, List.getLast?_singleton, Option.some_or,
    Option.getD_some]
  exact ⟨CMLWorker.updateStatus_status (load s) .., hspec.desiredStatus, rfl⟩

/-- The status of the worker is written. -/
theorem serve_status {status : CMLWorkerStatus}
    {r : (WorkerCall.updateWorkerStatus status none).Reply}
    (h : serve parties w (.updateWorkerStatus status none) r w') :
    r = .ok () ∧ Slid w.place w'.place
      ∧ w'.phase = { w.phase with status := status, place := w'.place } := by
  obtain ⟨moved, hdrift, rfl, now, rfl⟩ := h
  obtain ⟨hstatus, hdesired, hid⟩ := updateWorkerStatus_life status now moved.worker
  have hplace : (moved.withWorker ((updateWorkerStatus status none now moved.worker).after
      moved.worker)).place = moved.place := by
    unfold WorkerWorld.place WorkerWorld.withWorker
    rw [hid]
  refine ⟨rfl, ?_, ?_⟩
  · rw [hplace]
    exact hdrift.phase.2
  · unfold WorkerWorld.phase
    rw [hplace, WorkerWorld.withWorker, hstatus, hdesired, hdrift.worker.desiredStatus]

end Calls

end CmlCloudManager.Worker
