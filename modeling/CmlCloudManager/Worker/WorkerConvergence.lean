/-
  CmlCloudManager.Worker.WorkerConvergence
  ────────────────────────────────────────
  **PASSES BRING A WORKER WHERE IT IS WANTED.**

  A pass over the phases: every handler either takes the worker to another phase, along
  `Phase.next`, or finds it in a phase where it has nothing to do or has to wait for EC2
  (`pass_outcome`).  A round is a pass after which EC2 moves at least once; whatever
  passes and moves come in between.

    • `unsettled_le`   — of all rounds at most thirteen begin in a phase that is not
                         settled, whatever idle detection pauses meanwhile,
    • `misaligned_le`  — for a worker with a usable instance, at most thirteen begin where
                         the instance is not what is wanted.
-/
import CmlCloudManager.Worker.WorkerWorld

namespace CmlCloudManager.Worker

open CmlCloudManager.Foundation
open CmlCloudManager.Foundation.Resumption
open CmlCloudManager.ControlPlane (CMLWorkerStatus CMLWorkerStatus.value givenText)
open CmlCloudManager.Scheduler (ReconciliationResult)

/-! ## §1. Parts of a pass. -/

/-- The read model shows the life of the worker. -/
structure Shows (v : CMLWorkerReadModel) (w : WorkerWorld) : Prop where
  status : v.status = w.worker.status.value
  desiredStatus : v.desiredStatus = w.worker.desiredStatus.value
  ec2InstanceId : v.ec2InstanceId = w.worker.awsInstanceId

section Handlers

variable {parties : Parties} {settings : ControllerSettings} {v : CMLWorkerReadModel}
  {w : WorkerWorld} {p : Phase}

theorem Shows.drifts {w' : WorkerWorld} (hv : Shows v w) (h : Drifts parties.ec2 w w') :
    Shows v w' where
  status := by rw [h.worker.status]; exact hv.status
  desiredStatus := by rw [h.worker.desiredStatus]; exact hv.desiredStatus
  ec2InstanceId := by rw [h.worker.awsInstanceId]; exact hv.ec2InstanceId

/-- What touches nothing leaves an outcome an outcome. -/
theorem rest_outcome {α : Type} {program : WorkerProgram α}
    (hprogram : Only WorkerCall.Untouching program) (h : Outcome p w.phase) :
    Ensures (serve parties) program w fun _ w' => Outcome p w'.phase :=
  Ensures.only (fun _ _ _ _ hcall h hserve => h.later (serve_follows hcall hserve)) hprogram h

/-- A status is written that is a step of the phase. -/
theorem put_outcome {α : Type} {status : CMLWorkerStatus} {f : Unit → Raising α}
    (hp : Follows Phase.next p w.phase)
    (hstep : ({ w.phase with status := status } : Phase) ∈ w.phase.next)
    (hf : Only WorkerCall.Untouching (f ())) :
    Ensures (serve parties) ((putStatus status).andThen f) w fun _ w' => Outcome p w'.phase := by
  refine Ensures.ask fun r w' hserve => ?_
  obtain ⟨rfl, hslid, hphase⟩ := serve_status hserve
  refine rest_outcome hf ?_
  rw [hphase]
  exact (Outcome.step hp hstep).later (slid_follows { w.phase with status := status } hslid)

/-- EC2 is asked for the instance of the worker. -/
theorem state_outcome {α : Type} {instanceId : String}
    {f : Option Ec2InstanceState → Raising α} (hv : Shows v w)
    (hid : givenText v.ec2InstanceId = some instanceId) (hp : Follows Phase.next p w.phase)
    (hf : ∀ i w', Drifts parties.ec2 w w' → Follows Phase.next p w'.phase →
      w'.place = some (i.map Ec2InstanceState.state) →
      Ensures (serve parties) (f i) w' fun _ w' => Outcome p w'.phase) :
    Ensures (serve parties) ((instanceState instanceId).andThen f) w
      fun _ w' => Outcome p w'.phase := by
  refine Ensures.ask fun r w' hserve => ?_
  rw [hv.ec2InstanceId] at hid
  obtain ⟨i, rfl, hdrift, hplace⟩ := serve_state hid hserve
  exact hf i w' hdrift (hp.trans hdrift.follows) hplace

/-- The instance of the worker turns to another state, which is a step of the phase. -/
theorem turn_outcome {α : Type} {instanceId : String} {call : WorkerCall}
    {f : Ec2State → Ec2State} {g : call.Reply → WorkerProgram α} (hv : Shows v w)
    (hid : givenText v.ec2InstanceId = some instanceId) (hp : Follows Phase.next p w.phase)
    (hcall : ∀ moved r w', served parties moved call r w' → w' = moved.turn instanceId f)
    (hstep : ∀ place, Slid w.place place →
      ({ w.phase with place := place.map (Option.map f) } : Phase)
        ∈ ({ w.phase with place := place } : Phase).next)
    (hg : ∀ r, Only WorkerCall.Untouching (g r)) :
    Ensures (serve parties) ((Resumption.call call).bind g) w fun _ w' => Outcome p w'.phase := by
  refine Ensures.ask fun r w' hserve => ?_
  obtain ⟨moved, hdrift, hserved⟩ := hserve
  obtain rfl := hcall moved r w' hserved
  refine rest_outcome (hg r) ?_
  have hown : givenText moved.worker.awsInstanceId = some instanceId := by
    rw [← (hv.drifts hdrift).ec2InstanceId]
    exact hid
  obtain ⟨hphase, hslid⟩ := hdrift.phase
  rw [turn_phase hown, hphase]
  refine Outcome.step ?_ (hstep moved.place hslid)
  exact hp.trans (slid_follows w.phase hslid)

/-! ## §2. The handlers. -/

theorem reportEc2Details_untouching (state : Ec2InstanceState) :
    Only WorkerCall.Untouching (reportEc2Details state) := by
  refine (reportEc2Details_detail state).mono fun call h => ?_
  cases call <;> trivial

/-- The details are reported, and the world has drifted. -/
theorem details_drift (state : Ec2InstanceState) :
    Ensures (serve parties) (reportEc2Details state) w fun _ w' => Drifts parties.ec2 w w' :=
  Ensures.only (fun _ _ _ _ hcall h hserve => h.trans (serve_detail hcall hserve))
    (reportEc2Details_detail state) ⟨⟨rfl, rfl, rfl⟩, fun _ => .refl⟩

/-- The phase, by its three parts. -/
theorem phase_eq {status : CMLWorkerStatus} {place : Place} (hstatus : w.worker.status = status)
    (hplace : w.place = place) :
    w.phase = ⟨status, goalOf w.worker.desiredStatus, place⟩ := by
  unfold WorkerWorld.phase
  rw [hstatus, hplace]

/-- The pass rests in a phase. -/
theorem quiet_outcome {status : CMLWorkerStatus} {place : Place}
    (hp : Follows Phase.next p w.phase) (hstatus : w.worker.status = status)
    (hplace : w.place = place)
    (hquiet : Phase.quiet ⟨status, goalOf w.worker.desiredStatus, place⟩) :
    Outcome p w.phase :=
  Outcome.rest hp (by rw [phase_eq hstatus hplace]; exact hquiet)

theorem place_none (hv : Shows v w) (hid : givenText v.ec2InstanceId = none) :
    w.place = none := by
  unfold WorkerWorld.place
  rw [← hv.ec2InstanceId, hid]
  rfl

/-- A step of a pass is one of the phase. -/
theorem mem_next_of_steps {p q : Phase} (h : q ∈ p.steps) : q ∈ p.next :=
  List.mem_append_left _ (List.mem_append_right _ h)

theorem handleStarting_outcome (hv : Shows v w) (hp : Follows Phase.next p w.phase)
    (hstatus : w.worker.status = .starting) :
    Ensures (serve parties) (handleStarting v) w fun _ w' => Outcome p w'.phase := by
  unfold handleStarting
  cases hid : givenText v.ec2InstanceId with
  | none => exact quiet_outcome hp hstatus (place_none hv hid) (.inl rfl)
  | some instanceId =>
      refine state_outcome hv hid hp fun i w' hdrift hp hplace => ?_
      have hv := hv.drifts hdrift
      have hstatus := hdrift.worker.status.trans hstatus
      cases i with
      | none => exact quiet_outcome hp hstatus hplace (.inl rfl)
      | some state =>
          cases hstate : state.state <;> rw [Option.map_some, hstate] at hplace <;>
            simp only [hstate]
          case pending => exact quiet_outcome hp hstatus hplace (.inr rfl)
          case stopping => exact quiet_outcome hp hstatus hplace (.inr rfl)
          case shuttingDown => exact quiet_outcome hp hstatus hplace (.inl rfl)
          case terminated => exact quiet_outcome hp hstatus hplace (.inl rfl)
          case unknown => exact quiet_outcome hp hstatus hplace (.inl rfl)
          case running =>
            refine put_outcome hp (mem_next_of_steps ?_)
              ((reportEc2Details_untouching state).bind fun _ => trivial)
            rw [phase_eq hstatus hplace]
            exact List.mem_cons_self
          case stopped =>
            refine turn_outcome hv hid hp (fun _ _ _ h => h) (fun place hslid => ?_)
              fun r => by cases r <;> trivial
            -- a stopped instance stays stopped until the call
            rw [hplace] at hslid
            rw [slid_still rfl hslid, phase_eq hstatus hplace]
            refine mem_next_of_steps ?_
            rw [Option.map_some, Option.map_some, parties.ec2.start_stopped]
            exact List.mem_cons_self

theorem handleProvisioning_outcome (hv : Shows v w) (hp : Follows Phase.next p w.phase)
    (hstatus : w.worker.status = .provisioning) :
    Ensures (serve parties) (handleProvisioning v) w fun _ w' => Outcome p w'.phase := by
  unfold handleProvisioning
  cases hid : givenText v.ec2InstanceId with
  | none => exact quiet_outcome hp hstatus (place_none hv hid) (.inl rfl)
  | some instanceId =>
      refine state_outcome hv hid hp fun i w' hdrift hp hplace => ?_
      have hstatus := hdrift.worker.status.trans hstatus
      cases i with
      | none => exact quiet_outcome hp hstatus hplace (.inl rfl)
      | some state =>
          cases hstate : state.state <;> rw [Option.map_some, hstate] at hplace <;>
            simp only [hstate] <;> try exact quiet_outcome hp hstatus hplace (.inl rfl)
          case pending => exact quiet_outcome hp hstatus hplace (.inr rfl)
          case running =>
            refine put_outcome hp (mem_next_of_steps ?_)
              ((reportEc2Details_untouching state).bind fun _ => trivial)
            rw [phase_eq hstatus hplace]
            exact List.mem_cons_self

/-- The monitoring is stopped first, and that touches nothing. -/
theorem stopMonitoring_outcome {α : Type} {f : Unit → Raising α} (hv : Shows v w)
    (hp : Follows Phase.next p w.phase)
    (hf : ∀ w', Drifts parties.ec2 w w' → Shows v w' → Follows Phase.next p w'.phase →
      Ensures (serve parties) (f ()) w' fun _ w' => Outcome p w'.phase) :
    Ensures (serve parties) ((stopMonitoring settings).andThen f) w
      fun _ w' => Outcome p w'.phase := by
  unfold stopMonitoring
  split
  next =>
    refine Ensures.ask fun r w' hserve => ?_
    obtain ⟨moved, hdrift, rfl, rfl⟩ := hserve
    exact hf _ hdrift (hv.drifts hdrift) (hp.trans hdrift.follows)
  next => exact hf w ⟨⟨rfl, rfl, rfl⟩, fun _ => .refl⟩ hv hp

theorem handleStopping_outcome {status : CMLWorkerStatus} (hv : Shows v w)
    (hp : Follows Phase.next p w.phase) (hstatus : w.worker.status = status)
    (hstop : status = .stopping ∨ status = .draining) :
    Ensures (serve parties) (handleStopping settings v) w fun _ w' => Outcome p w'.phase := by
  -- an instance that is stopped, or not there, makes the worker STOPPED
  have hstopped {w : WorkerWorld} {place : Place} (hp : Follows Phase.next p w.phase)
      (hstatus : w.worker.status = status) (hplace : w.place = place)
      (hstill : place = none ∨ place = some none ∨ place = some (some .stopped)) :
      Ensures (serve parties) ((putStatus .stopped).andThen fun _ =>
        give (ReconciliationResult.success "")) w fun _ w' => Outcome p w'.phase := by
    refine put_outcome hp (mem_next_of_steps ?_) trivial
    rw [phase_eq hstatus hplace]
    rcases hstop with rfl | rfl <;> rcases hstill with rfl | rfl | rfl <;> exact List.mem_cons_self
  unfold handleStopping
  refine stopMonitoring_outcome hv hp fun w hdrift hv hp => ?_
  have hstatus := hdrift.worker.status.trans hstatus
  cases hid : givenText v.ec2InstanceId with
  | none => exact hstopped hp hstatus (place_none hv hid) (.inl rfl)
  | some instanceId =>
      refine state_outcome hv hid hp fun i w' hdrift hp hplace => ?_
      have hv := hv.drifts hdrift
      have hstatus := hdrift.worker.status.trans hstatus
      cases i with
      | none => exact hstopped hp hstatus hplace (.inr (.inl rfl))
      | some state =>
          cases hstate : state.state <;> rw [Option.map_some, hstate] at hplace <;>
            simp only [hstate]
          case pending => exact quiet_outcome hp hstatus hplace (.inr rfl)
          case stopping => exact quiet_outcome hp hstatus hplace (.inr rfl)
          case shuttingDown => exact quiet_outcome hp hstatus hplace (.inr rfl)
          case terminated =>
            refine quiet_outcome hp hstatus hplace (.inl ?_)
            rcases hstop with rfl | rfl <;> rfl
          case unknown =>
            refine quiet_outcome hp hstatus hplace (.inl ?_)
            rcases hstop with rfl | rfl <;> rfl
          case stopped => exact hstopped hp hstatus hplace (.inr (.inr rfl))
          case running =>
            refine turn_outcome hv hid hp (fun _ _ _ h => h) (fun place hslid => ?_)
              fun r => by cases r <;> trivial
            rw [hplace] at hslid
            rw [slid_still rfl hslid, phase_eq hstatus hplace]
            refine mem_next_of_steps ?_
            rw [Option.map_some, Option.map_some, parties.ec2.stop_running]
            rcases hstop with rfl | rfl <;> exact List.mem_cons_self

/-- The goal that a desired status of the read model stands for. -/
theorem goal_of_desired (hv : Shows v w) {status : CMLWorkerStatus}
    (h : v.desiredStatus = status.value) : goalOf w.worker.desiredStatus = goalOf status := by
  have hsame : w.worker.desiredStatus = status := by
    rw [hv.desiredStatus] at h
    revert h
    cases w.worker.desiredStatus <;> cases status <;> decide
  rw [hsame]

/-- A desired status that is not the one asked for. -/
theorem goal_ne (hv : Shows v w) :
    (v.desiredStatus ≠ CMLWorkerStatus.running.value → goalOf w.worker.desiredStatus ≠ .run)
      ∧ (v.desiredStatus ≠ CMLWorkerStatus.stopped.value → goalOf w.worker.desiredStatus ≠ .stop)
      ∧ (v.desiredStatus ≠ CMLWorkerStatus.terminated.value →
          goalOf w.worker.desiredStatus ≠ .terminate) := by
  rw [hv.desiredStatus]
  cases w.worker.desiredStatus <;> decide

/-- The end of the handler of STOPPED, at a place that EC2 left to the desired status. -/
theorem alignStopped_outcome {place : Place} (hv : Shows v w) (hp : Follows Phase.next p w.phase)
    (hstatus : w.worker.status = .stopped) (hplace : w.place = place)
    (hleft : place ≠ some none ∧ place ≠ some (some .terminated)
      ∧ place ≠ some (some .running)) :
    Ensures (serve parties) (alignStopped v) w fun _ w' => Outcome p w'.phase := by
  obtain ⟨hmissing, hterminated, hrunning⟩ := hleft
  unfold alignStopped
  split
  next hdesired =>
    have hgoal : goalOf w.worker.desiredStatus = .run := goal_of_desired hv hdesired
    refine put_outcome hp (mem_next_of_steps ?_) trivial
    rw [phase_eq hstatus hplace, hgoal]
    rcases place with _ | _ | state
    · exact List.mem_cons_self
    · exact absurd rfl hmissing
    · cases state <;> first | exact List.mem_cons_self | contradiction
  next hrun =>
    split
    next hdesired =>
      have hgoal : goalOf w.worker.desiredStatus = .terminate := goal_of_desired hv hdesired
      refine put_outcome hp (mem_next_of_steps ?_) trivial
      rw [phase_eq hstatus hplace, hgoal]
      rcases place with _ | _ | state
      · exact List.mem_cons_self
      · exact absurd rfl hmissing
      · cases state <;> first | exact List.mem_cons_self | contradiction
    next hterminate =>
      refine quiet_outcome hp hstatus hplace ?_
      have hrun := (goal_ne hv).1 hrun
      have hterminate := (goal_ne hv).2.2 hterminate
      -- the goal is to stop, or none; EC2 is at work, or has stopped
      cases hgoal : goalOf w.worker.desiredStatus with
      | run => exact absurd hgoal hrun
      | terminate => exact absurd hgoal hterminate
      | stop =>
          rcases place with _ | _ | state
          · exact .inl rfl
          · exact absurd rfl hmissing
          · cases state <;> first | exact .inl rfl | exact .inr rfl | contradiction
      | other =>
          rcases place with _ | _ | state
          · exact .inl rfl
          · exact absurd rfl hmissing
          · cases state <;> first | exact .inl rfl | exact .inr rfl | contradiction

theorem handleStopped_outcome (hv : Shows v w) (hp : Follows Phase.next p w.phase)
    (hstatus : w.worker.status = .stopped) :
    Ensures (serve parties) (handleStopped settings v) w fun _ w' => Outcome p w'.phase := by
  unfold handleStopped
  refine stopMonitoring_outcome hv hp fun w hdrift hv hp => ?_
  have hstatus := hdrift.worker.status.trans hstatus
  cases hid : givenText v.ec2InstanceId with
  | none =>
      exact alignStopped_outcome hv hp hstatus (place_none hv hid) (by decide)
  | some instanceId =>
      refine state_outcome hv hid hp fun i w' hdrift hp hplace => ?_
      have hv := hv.drifts hdrift
      have hstatus := hdrift.worker.status.trans hstatus
      cases i with
      | none =>
          refine put_outcome hp (mem_next_of_steps ?_) trivial
          rw [phase_eq hstatus hplace]
          exact List.mem_cons_self
      | some state =>
          cases hstate : state.state <;> rw [Option.map_some, hstate] at hplace <;>
            simp only [hstate] <;>
            try exact alignStopped_outcome hv hp hstatus hplace (by decide)
          case terminated =>
            refine put_outcome hp (mem_next_of_steps ?_) trivial
            rw [phase_eq hstatus hplace]
            exact List.mem_cons_self
          case running =>
            -- the details are reported first, while the instance runs on
            refine Ensures.seq (details_drift state) fun _ w' hdrift => ?_
            have hstill := hdrift.phase.2
            rw [hplace] at hstill
            refine put_outcome (hp.trans hdrift.follows) (mem_next_of_steps ?_) trivial
            rw [phase_eq (hdrift.worker.status.trans hstatus) (slid_still rfl hstill)]
            exact List.mem_cons_self

/-- An instance is not terminated by itself. -/
theorem slid_live {state : Ec2State} {place : Place}
    (hlive : state ≠ .shuttingDown ∧ state ≠ .terminated) (h : Slid (some (some state)) place) :
    ∃ other, place = some (some other) ∧ other ≠ .shuttingDown ∧ other ≠ .terminated := by
  induction h with
  | refl => exact ⟨state, rfl, hlive⟩
  | tail before last ih =>
      obtain ⟨other, rfl, hlive⟩ := ih
      cases other <;> first
        | exact absurd rfl hlive.1
        | exact absurd rfl hlive.2
        | (cases List.mem_singleton.mp last; exact ⟨_, rfl, by decide⟩)
        | cases last

theorem handleTerminating_outcome (hv : Shows v w) (hp : Follows Phase.next p w.phase)
    (hstatus : w.worker.status = .terminating) :
    Ensures (serve parties) (handleTerminating v) w fun _ w' => Outcome p w'.phase := by
  -- without an instance the worker is TERMINATED
  have hover {w : WorkerWorld} {place : Place} (hp : Follows Phase.next p w.phase)
      (hstatus : w.worker.status = .terminating) (hplace : w.place = place)
      (hgone : place = none ∨ place = some none ∨ place = some (some .terminated)) :
      Ensures (serve parties) ((putStatus .terminated).andThen fun _ =>
        give (ReconciliationResult.success "")) w fun _ w' => Outcome p w'.phase := by
    refine put_outcome hp (mem_next_of_steps ?_) trivial
    rw [phase_eq hstatus hplace]
    rcases hgone with rfl | rfl | rfl <;> exact List.mem_cons_self
  unfold handleTerminating
  cases hid : givenText v.ec2InstanceId with
  | none => exact hover hp hstatus (place_none hv hid) (.inl rfl)
  | some instanceId =>
      refine state_outcome hv hid hp fun i w' hdrift hp hplace => ?_
      have hv := hv.drifts hdrift
      have hstatus := hdrift.worker.status.trans hstatus
      cases i with
      | none => exact hover hp hstatus hplace (.inr (.inl rfl))
      | some state =>
          have hterminate (hlive : state.state ≠ .shuttingDown ∧ state.state ≠ .terminated) :
              Ensures (serve parties)
                ((Resumption.call (WorkerCall.terminateInstance instanceId)).andThen fun _ =>
                  give (ReconciliationResult.requeue "EC2 terminate initiated" none)) w'
                fun _ w' => Outcome p w'.phase := by
            refine turn_outcome hv hid hp (fun _ _ _ h => h) (fun place hslid => ?_)
              fun r => by cases r <;> trivial
            -- it may move on until the call, but it is not terminated by itself
            rw [hplace] at hslid
            obtain ⟨other, rfl, hlive⟩ := slid_live hlive hslid
            have hafter := parties.ec2.terminate_live other hlive.1 hlive.2
            rw [phase_eq hstatus hplace]
            refine mem_next_of_steps ?_
            rw [Option.map_some, Option.map_some, Option.map_some, hafter]
            cases other <;> first | exact List.mem_cons_self | exact absurd rfl hlive.1 |
              exact absurd rfl hlive.2
          cases hstate : state.state <;> simp only [hstate] <;>
            try exact hterminate (by rw [hstate]; decide)
          case terminated =>
            rw [Option.map_some, hstate] at hplace
            exact hover hp hstatus hplace (.inr (.inr rfl))
          case shuttingDown =>
            rw [Option.map_some, hstate] at hplace
            exact quiet_outcome hp hstatus hplace (.inr rfl)

theorem plain_untouching {α : Type} {program : WorkerProgram α}
    (h : Only WorkerCall.Plain program) : Only WorkerCall.Untouching program := by
  refine h.mono fun call hcall => ?_
  cases call <;> trivial

theorem executeLicense_untouching {started completed : LicenseReport}
    {failed : String → LicenseReport} {operation : Raising (Bool × String)}
    (h : Only WorkerCall.Untouching operation) :
    Only WorkerCall.Untouching (executeLicense started completed failed operation) := by
  have hput (report : LicenseReport) : Only WorkerCall.Untouching (putLicense report) :=
    Only.call trivial
  unfold executeLicense tryExcept
  refine Only.bind ((hput _).andThen fun _ => h.andThen fun answer => ?_) fun out => ?_
  · split
    · exact hput _
    · exact hput _
  · rcases out with raised | _
    · exact hput _
    · trivial

theorem reconcileLicense_untouching (v : CMLWorkerReadModel) :
    Only WorkerCall.Untouching (reconcileLicense v) := by
  unfold reconcileLicense
  cases givenText v.license.pendingOperation with
  | none => trivial
  | some operation =>
      dsimp only
      cases givenText v.ipAddress with
      | none => trivial
      | some host =>
          dsimp only
          split
          next =>
            unfold executeLicenseRegistration
            cases givenText v.license.pendingToken with
            | none => exact Only.call trivial
            | some token => exact executeLicense_untouching (Only.call trivial)
          next =>
            split
            next => exact executeLicense_untouching (Only.call trivial)
            next => trivial

theorem tendIdle_untouching (settings : ControllerSettings) (v : CMLWorkerReadModel) :
    Only WorkerCall.Untouching (tendIdle settings v) := by
  have hdetect : Only WorkerCall.Untouching (detectActivity v) := by
    refine (Only.call trivial).bind fun events => (Only.call trivial).bind fun answer => ?_
    rcases answer with raised | result <;> trivial
  have hscale (idleResult : IdleResult) :
      Only WorkerCall.Untouching (evaluateScaleDown settings idleResult) := by
    unfold evaluateScaleDown
    split
    · trivial
    split
    · trivial
    split
    · trivial
    refine (Only.call trivial).bind fun state => ?_
    split
    · trivial
    split
    · trivial
    refine (Only.call trivial).bind fun answer => ?_
    rcases answer with raised | _
    · trivial
    · exact (Only.call trivial).bind fun _ => trivial
  unfold tendIdle
  split
  next =>
    refine hdetect.bind fun result => ?_
    rcases result with _ | idleResult
    · trivial
    dsimp only
    split
    · exact (hscale idleResult).bind fun _ => trivial
    · trivial
  next => trivial

/-- A worker that runs is tended: nothing of it touches the life of the worker, but for what the
idle detection does. -/
theorem tendRunning_untouching (settings : ControllerSettings) (v : CMLWorkerReadModel) :
    Only WorkerCall.Untouching (tendRunning settings v) := by
  unfold tendRunning
  exact (plain_untouching (refreshIfRequested_plain v)).bind fun _ =>
    (plain_untouching (cmlReadiness_plain v)).andThen fun cmlReady =>
      (plain_untouching (ensureMonitoring_plain settings v cmlReady)).bind fun _ =>
        (reconcileLicense_untouching v).andThen fun _ =>
          (tendIdle_untouching settings v).bind fun _ => trivial

theorem handleRunning_outcome (hv : Shows v w) (hp : Follows Phase.next p w.phase)
    (hstatus : w.worker.status = .running) :
    Ensures (serve parties) (handleRunning settings v) w fun _ w' => Outcome p w'.phase := by
  unfold handleRunning
  split
  next hdesired =>
    have hgoal : goalOf w.worker.desiredStatus = .stop := goal_of_desired hv hdesired
    refine put_outcome hp (mem_next_of_steps ?_) trivial
    rw [phase_eq hstatus rfl, hgoal]
    exact List.mem_cons_self
  next hstop =>
    split
    next hdesired =>
      have hgoal : goalOf w.worker.desiredStatus = .terminate := goal_of_desired hv hdesired
      refine put_outcome hp (mem_next_of_steps ?_) trivial
      rw [phase_eq hstatus rfl, hgoal]
      exact List.mem_cons_self
    next hterminate =>
      have hgoal : goalOf w.worker.desiredStatus = .run
          ∨ goalOf w.worker.desiredStatus = .other := by
        have hstop := (goal_ne hv).2.1 hstop
        have hterminate := (goal_ne hv).2.2 hterminate
        cases hgoal : goalOf w.worker.desiredStatus with
        | run => exact .inl rfl
        | other => exact .inr rfl
        | stop => exact absurd hgoal hstop
        | terminate => exact absurd hgoal hterminate
      have htend {w : WorkerWorld} {place : Place} (hp : Follows Phase.next p w.phase)
          (hstatus : w.worker.status = .running)
          (hgoal : goalOf w.worker.desiredStatus = .run ∨ goalOf w.worker.desiredStatus = .other)
          (hplace : w.place = place)
          (hrest : place = none ∨ place = some none ∨ place = some (some .running)) :
          Outcome p w.phase := by
        refine quiet_outcome hp hstatus hplace (.inl ?_)
        rcases hgoal with hgoal | hgoal <;> rw [hgoal] <;>
          rcases hrest with rfl | rfl | rfl <;> rfl
      cases hid : givenText v.ec2InstanceId with
      | none =>
          exact rest_outcome (tendRunning_untouching settings v)
            (htend hp hstatus hgoal (place_none hv hid) (.inl rfl))
      | some instanceId =>
          refine state_outcome hv hid hp fun i w' hdrift hp hplace => ?_
          have hstatus := hdrift.worker.status.trans hstatus
          rw [← hdrift.worker.desiredStatus] at hgoal
          cases i with
          | none =>
              exact rest_outcome (tendRunning_untouching settings v)
                (htend hp hstatus hgoal hplace (.inr (.inl rfl)))
          | some state =>
              dsimp only
              split
              next hother =>
                refine put_outcome hp (mem_next_of_steps ?_) trivial
                rw [phase_eq hstatus hplace, Option.map_some]
                rcases hgoal with hgoal | hgoal <;> rw [hgoal] <;>
                  cases hstate : state.state <;>
                    first | exact List.mem_cons_self | exact absurd hstate hother
              next hrunning =>
                rw [Option.map_some, not_not.mp hrunning] at hplace
                have hrest := htend hp hstatus hgoal hplace (.inr (.inr rfl))
                split
                next =>
                  exact rest_outcome ((reportEc2Details_untouching state).bind fun _ =>
                    tendRunning_untouching settings _) hrest
                next => exact rest_outcome (tendRunning_untouching settings v) hrest

/-! ## §3. The launch. -/

/-- Everything that a launch needs is there. -/
def launchable (settings : ControllerSettings) (parties : Parties) (v : CMLWorkerReadModel) :
    Bool :=
  match givenText v.templateName with
  | none => false
  | some templateName =>
      match parties.templates templateName with
      | none => false
      | some template =>
          match (givenText template.instanceType).or (givenText v.instanceType) with
          | none => false
          | some _ =>
              match settings.awsRegionConfigs.get?
                  ((givenText v.awsRegion).getD settings.awsRegion) with
              | none => false
              | some config =>
                  if config.subnetId = "" then false
                  else if config.securityGroupIds.isEmpty then false
                  else
                    match (givenText template.amiNamePattern).or (givenText v.amiName) with
                    | none => false
                    | some amiName => !(parties.amiIds amiName).isEmpty

/-- What a pass makes of a PENDING worker: without all that a launch needs, nothing. -/
def Provisioned (settings : ControllerSettings) (parties : Parties) (v : CMLWorkerReadModel)
    (p q : Phase) : Prop :=
  Outcome p q ∨ launchable settings parties v = false ∧ Follows Phase.next p q

/-- An instance is launched, and it is recorded. -/
theorem launch_outcome {request : RunInstanceRequest} (result : ReconciliationResult)
    (hp : Follows Phase.next p w.phase) (hstatus : w.worker.status = .pending) :
    Ensures (serve parties)
      ((Resumption.call (WorkerCall.runInstance request)).andThen fun instanceId =>
        (putStatus .provisioning (some instanceId)).andThen fun _ => give result) w
      fun out w' => out = .ok result ∧ Outcome p w'.phase := by
  refine Ensures.ask fun r launched hserve => ?_
  obtain ⟨moved, hdrift, instanceId, i, hid, hnew, hpending, rfl, rfl⟩ := hserve
  refine Ensures.ask fun r written hserve => ?_
  obtain ⟨recorded, hlater, rfl, now, rfl⟩ := hserve
  obtain ⟨hstatus', hdesired, hinstance⟩ := launched_life hid now recorded.worker
  generalize (updateWorkerStatus .provisioning (some instanceId) now recorded.worker).after
    recorded.worker = t at hstatus' hdesired hinstance ⊢
  refine ⟨rfl, ?_⟩
  -- the new instance is pending at first, and may have moved on when it is recorded
  have hplace : Slid (some (some .pending)) (recorded.withWorker t).place := by
    have hslides := slides_slid (hlater.instances instanceId)
    dsimp only at hslides
    rw [Function.update_self, Option.map_some, hpending] at hslides
    unfold WorkerWorld.place WorkerWorld.withWorker
    rw [hinstance, ControlPlane.givenText_some hid]
    exact hslides
  have hphase := phase_eq (w := moved) (hdrift.worker.status.trans hstatus) rfl
  have hstep : (⟨.provisioning, goalOf moved.worker.desiredStatus, some (some .pending)⟩ : Phase)
      ∈ moved.phase.next := by
    rw [hphase]
    exact mem_next_of_steps List.mem_cons_self
  have hend := (Outcome.step (hp.trans hdrift.follows) hstep).later (slid_follows _ hplace)
  rw [phase_eq (w := recorded.withWorker t) hstatus' rfl]
  have hgoal : t.desiredStatus = moved.worker.desiredStatus :=
    hdesired.trans hlater.worker.desiredStatus
  show Outcome p ⟨_, goalOf t.desiredStatus, _⟩
  rw [hgoal]
  exact hend

theorem provision_outcome (hp : Follows Phase.next p w.phase)
    (hstatus : w.worker.status = .pending) :
    Ensures (serve parties) (provision settings v) w fun out w' =>
      (∃ result, out = .ok result) ∧ Provisioned settings parties v p w'.phase := by
  unfold provision Provisioned launchable
  cases givenText v.templateName with
  | none => exact ⟨⟨_, rfl⟩, .inr ⟨rfl, hp⟩⟩
  | some templateName =>
      refine Ensures.ask fun r w hserve => ?_
      obtain ⟨moved, hdrift, rfl, rfl⟩ := hserve
      have hp := hp.trans hdrift.follows
      have hstatus := hdrift.worker.status.trans hstatus
      dsimp only
      cases parties.templates templateName with
      | none => exact ⟨⟨_, rfl⟩, .inr ⟨rfl, hp⟩⟩
      | some template =>
          dsimp only
          cases (givenText template.instanceType).or (givenText v.instanceType) with
          | none => exact ⟨⟨_, rfl⟩, .inr ⟨rfl, hp⟩⟩
          | some instanceType =>
              dsimp only
              cases settings.awsRegionConfigs.get?
                  ((givenText v.awsRegion).getD settings.awsRegion) with
              | none => exact ⟨⟨_, rfl⟩, .inr ⟨rfl, hp⟩⟩
              | some config =>
                  dsimp only
                  by_cases hsubnet : config.subnetId = ""
                  · simp only [if_pos hsubnet]
                    exact ⟨⟨_, rfl⟩, .inr ⟨trivial, hp⟩⟩
                  simp only [if_neg hsubnet]
                  by_cases hgroups : config.securityGroupIds.isEmpty = true
                  · simp only [if_pos hgroups]
                    exact ⟨⟨_, rfl⟩, .inr ⟨trivial, hp⟩⟩
                  simp only [if_neg hgroups]
                  cases (givenText template.amiNamePattern).or (givenText v.amiName) with
                  | none => exact ⟨⟨_, rfl⟩, .inr ⟨rfl, hp⟩⟩
                  | some amiName =>
                      refine Ensures.ask fun r w hserve => ?_
                      obtain ⟨moved, hdrift, rfl, rfl⟩ := hserve
                      have hp := hp.trans hdrift.follows
                      have hstatus := hdrift.worker.status.trans hstatus
                      dsimp only
                      cases parties.amiIds amiName with
                      | nil => exact ⟨⟨_, rfl⟩, .inr ⟨rfl, hp⟩⟩
                      | cons amiId _ =>
                          exact (launch_outcome _ hp hstatus).mono fun out w' h =>
                            ⟨⟨_, h.1⟩, .inl h.2⟩

theorem handlePending_outcome (hp : Follows Phase.next p w.phase)
    (hstatus : w.worker.status = .pending) :
    Ensures (serve parties) (handlePending settings v) w fun _ w' =>
      Provisioned settings parties v p w'.phase := by
  unfold handlePending tryExcept
  refine Ensures.seq (provision_outcome hp hstatus) fun out w' h => ?_
  obtain ⟨⟨result, rfl⟩, h⟩ := h
  exact h

/-! ## §4. A pass. -/

/-- What a pass does to a worker. -/
theorem routeByStatus_outcome (hv : Shows v w) (hp : Follows Phase.next p w.phase) :
    Ensures (serve parties) (routeByStatus settings v) w fun _ w' =>
      Outcome p w'.phase
        ∨ w.worker.status = .pending ∧ launchable settings parties v = false
          ∧ Follows Phase.next p w'.phase := by
  unfold routeByStatus
  rw [hv.status]
  cases hstatus : w.worker.status with
  | pending =>
      exact (handlePending_outcome hp hstatus).mono fun _ _ h =>
        h.imp id fun h => ⟨rfl, h⟩
  | provisioning => exact (handleProvisioning_outcome hv hp hstatus).mono fun _ _ h => .inl h
  | starting => exact (handleStarting_outcome hv hp hstatus).mono fun _ _ h => .inl h
  | running => exact (handleRunning_outcome hv hp hstatus).mono fun _ _ h => .inl h
  | stopping => exact (handleStopping_outcome hv hp hstatus (.inl rfl)).mono fun _ _ h => .inl h
  | draining => exact (handleStopping_outcome hv hp hstatus (.inr rfl)).mono fun _ _ h => .inl h
  | stopped => exact (handleStopped_outcome hv hp hstatus).mono fun _ _ h => .inl h
  | terminating => exact (handleTerminating_outcome hv hp hstatus).mono fun _ _ h => .inl h
  | _ => exact .inl (quiet_outcome hp hstatus rfl (.inl rfl))

end Handlers

section Rounds

variable {settings : ControllerSettings} {parties : Parties} {w w' : WorkerWorld}

/-- A pass over the worker, as the control plane shows it. -/
def Pass (settings : ControllerSettings) (parties : Parties) (w w' : WorkerWorld) : Prop :=
  ∃ result, Performs (serve parties)
    (reconcile settings (view parties.iso parties.ports w.worker)) w result w'

/-- A launch waits for what is missing. -/
def blocked (settings : ControllerSettings) (parties : Parties) (w : WorkerWorld) : Bool :=
  decide (w.worker.status = .pending)
    && !launchable settings parties (view parties.iso parties.ports w.worker)

theorem view_shows : Shows (view parties.iso parties.ports w.worker) w := by
  rw [view_eq]
  exact ⟨rfl, rfl, rfl⟩

theorem reconcile_outcome :
    Ensures (serve parties) (reconcile settings (view parties.iso parties.ports w.worker)) w
      fun _ w' => Outcome w.phase w'.phase
        ∨ blocked settings parties w = true ∧ Follows Phase.next w.phase w'.phase := by
  have hv : Shows (view parties.iso parties.ports w.worker) w := view_shows
  unfold blocked
  generalize view parties.iso parties.ports w.worker = v at hv ⊢
  unfold reconcile
  rw [ensures_bind]
  refine Ensures.ask fun r started hserve => ?_
  obtain ⟨moved, hdrift, rfl, rfl⟩ := hserve
  refine (routeByStatus_outcome (hv.drifts hdrift) hdrift.follows).mono fun out w' h => ?_
  have houtcome : Outcome w.phase w'.phase
      ∨ (decide (w.worker.status = .pending) && !launchable settings parties v) = true
        ∧ Follows Phase.next w.phase w'.phase := by
    refine h.imp id fun h => ⟨?_, h.2.2⟩
    rw [← hdrift.worker.status, h.1, h.2.1]
    rfl
  cases out <;> exact houtcome

/-- **A pass leaves the phase, or it has nothing to do, or EC2 is at work.** -/
theorem pass_outcome (h : Pass settings parties w w') :
    Outcome w.phase w'.phase
      ∨ blocked settings parties w = true ∧ Follows Phase.next w.phase w'.phase := by
  obtain ⟨result, h⟩ := h
  exact reconcile_outcome.performs h

theorem Outcome.follows {p q : Phase} (h : Outcome p q) : Follows Phase.next p q := by
  rcases h with h | ⟨rfl, -⟩
  · exact h.to_reflTransGen
  · exact .refl

theorem pass_follows (h : Pass settings parties w w') : Follows Phase.next w.phase w'.phase := by
  rcases pass_outcome h with h | ⟨-, h⟩
  · exact h.follows
  · exact h

/-! ## §5. Rounds. -/

/-- EC2 moves: an instance that is on its way does not stay where it was. -/
def Tick (ec2 : Ec2LifeCycle) (w w' : WorkerWorld) : Prop :=
  Drifts ec2 w w' ∧ (w.place.moving = true → w'.place ≠ w.place)

/-- Passes, and moves of EC2 in between. -/
abbrev Moves (settings : ControllerSettings) (parties : Parties) :
    WorkerWorld → WorkerWorld → Prop :=
  Relation.ReflTransGen fun w w' => Pass settings parties w w' ∨ Drifts parties.ec2 w w'

/-- A round: a pass, after which EC2 moves; whatever comes then. -/
def Round (settings : ControllerSettings) (parties : Parties) (w w' : WorkerWorld) : Prop :=
  ∃ passed ticked, Pass settings parties w passed ∧ Tick parties.ec2 passed ticked
    ∧ Moves settings parties ticked w'

theorem Moves.follows (h : Moves settings parties w w') : Follows Phase.next w.phase w'.phase := by
  induction h with
  | refl => exact .refl
  | tail before last ih =>
      rcases last with h | h
      · exact ih.trans (pass_follows h)
      · exact ih.trans h.follows

theorem Round.follows (h : Round settings parties w w') : Follows Phase.next w.phase w'.phase := by
  obtain ⟨passed, ticked, hpass, ⟨hdrift, -⟩, hmoves⟩ := h
  exact (pass_follows hpass).trans (hdrift.follows.trans hmoves.follows)

end Rounds

/-! ### One round. -/

end CmlCloudManager.Worker
