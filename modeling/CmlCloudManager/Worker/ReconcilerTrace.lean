/-
  CmlCloudManager.Worker.ReconcilerTrace
  ──────────────────────────────────────
  **WHAT A PASS HAS SEEN BEFORE IT ACTS.**

  A pass asks first and acts afterwards.  `Justified` says, for every call that
  changes something, what the trace of the pass holds at that moment: an instance is
  started after EC2 called it stopped and stopped after EC2 called it running, a
  status that is written is the one EC2 just gave or one that the desired status
  asks for, a licence is reported as registered after CML said so.

    • `lastSeen`, `untouched` — what a trace says of the instance,
    • `reconcile_guarantees`  — every call of a pass is justified, whatever the answers,
    • `reconcile_justified`   — the same, at every point of every run.
-/
import CmlCloudManager.Worker.WorkerReconciler

namespace CmlCloudManager.Worker

open CmlCloudManager.Foundation
open CmlCloudManager.Foundation.Resumption
open CmlCloudManager.ControlPlane (CMLWorkerStatus CMLWorkerStatus.value givenText)
open CmlCloudManager.Scheduler (ReconciliationResult)

/-! ## §1. Reading a trace. -/

/-- A call with its answer. -/
abbrev WorkerAnswer : Type := Resumption.Event WorkerCall WorkerCall.Reply

/-- The description of an instance that an answer brings. -/
def describes : WorkerAnswer → Option (String × Option Ec2InstanceState)
  | ⟨.getInstanceState instanceId, .ok state⟩ => some (instanceId, state)
  | _ => none

/-- The last description of an instance. -/
def lastSeen (past : WorkerTrace) : Option (String × Option Ec2InstanceState) :=
  (past.filterMap describes).getLast?

/-- The call changes an instance. -/
def WorkerCall.changesInstance : WorkerCall → Bool
  | .runInstance _ => true
  | .startInstance _ => true
  | .stopInstance _ => true
  | .terminateInstance _ => true
  | _ => false

/-- No instance was changed so far. -/
def untouched (past : WorkerTrace) : Bool := past.all fun answer => !answer.1.changesInstance

/-- The answer is an error of the launch: what is raised there ends in FAILED. -/
def raisesAtLaunch : WorkerAnswer → Bool
  | ⟨.getWorkerTemplate _, .error _⟩ => true
  | ⟨.getAmiIdsByName _, .error _⟩ => true
  | ⟨.runInstance _, .error _⟩ => true
  | ⟨.updateWorkerStatus .., .error _⟩ => true
  | _ => false

theorem lastSeen_snoc (past : WorkerTrace) (answer : WorkerAnswer) :
    lastSeen (past ++ [answer]) = (describes answer).or (lastSeen past) := by
  unfold lastSeen
  rw [List.filterMap_append, List.getLast?_append]
  cases h : describes answer <;> simp [h]

theorem untouched_snoc (past : WorkerTrace) (answer : WorkerAnswer) :
    untouched (past ++ [answer]) = (untouched past && !answer.1.changesInstance) := by
  unfold untouched
  rw [List.all_append]
  simp

/-! ## §2. What justifies a call. -/

/-- The instance of the worker is in such a state, by its last description. -/
def InstanceIn (worker : CMLWorkerReadModel) (past : WorkerTrace) (instanceId : String)
    (p : Ec2State → Prop) : Prop :=
  givenText worker.ec2InstanceId = some instanceId
    ∧ ∃ state, lastSeen past = some (instanceId, some state) ∧ p state.state

/-- There is no instance: none is recorded, or EC2 does not know it. -/
def NoInstance (worker : CMLWorkerReadModel) (past : WorkerTrace) : Prop :=
  givenText worker.ec2InstanceId = none
    ∨ ∃ instanceId, givenText worker.ec2InstanceId = some instanceId
        ∧ lastSeen past = some (instanceId, none)

/-- Why a status is written. -/
inductive StatusReason (worker : CMLWorkerReadModel) (past : WorkerTrace) :
    CMLWorkerStatus → Option String → Prop where
  /-- the instance was launched just now -/
  | launched {request instanceId}
      (h : past.getLast? = some ⟨.runInstance request, .ok instanceId⟩) :
      StatusReason worker past .provisioning (some instanceId)
  /-- something was raised on the way to the launch -/
  | launchFailed (pending : worker.status = CMLWorkerStatus.pending.value)
      (h : past.any raisesAtLaunch = true) : StatusReason worker past .failed none
  /-- EC2 says so -/
  | observed {instanceId state} (own : givenText worker.ec2InstanceId = some instanceId)
      (h : lastSeen past = some (instanceId, some state)) :
      StatusReason worker past (mapEc2State state.state) none
  | stoppedWithout (h : NoInstance worker past)
      (stopping : worker.status = CMLWorkerStatus.stopping.value
        ∨ worker.status = CMLWorkerStatus.draining.value) :
      StatusReason worker past .stopped none
  | terminatedWithout (h : NoInstance worker past)
      (finished : worker.status = CMLWorkerStatus.stopped.value
        ∨ worker.status = CMLWorkerStatus.terminating.value) :
      StatusReason worker past .terminated none
  | wantedStopped (running : worker.status = CMLWorkerStatus.running.value)
      (h : worker.desiredStatus = CMLWorkerStatus.stopped.value) :
      StatusReason worker past .stopping none
  | wantedTerminated (h : worker.desiredStatus = CMLWorkerStatus.terminated.value)
      (resting : worker.status = CMLWorkerStatus.running.value
        ∨ worker.status = CMLWorkerStatus.stopped.value) :
      StatusReason worker past .terminating none
  | wantedRunning (stopped : worker.status = CMLWorkerStatus.stopped.value)
      (h : worker.desiredStatus = CMLWorkerStatus.running.value) :
      StatusReason worker past .starting none

/-- The detection found the worker idle, and it did not pause it. -/
def LeftIdle (past : WorkerTrace) : Prop :=
  ∃ events result, (⟨.detectWorkerIdle events, .ok result⟩ : WorkerAnswer) ∈ past
    ∧ result.eligibleForPause = true ∧ result.autoPauseTriggered = false
    ∧ (givenText result.error).isSome = false

/-- The operation that a licence report is about. -/
def LicenseReport.operation : LicenseReport → String
  | .registrationStarted => "register"
  | .registrationCompleted => "register"
  | .registrationFailed _ => "register"
  | .deregistrationStarted => "deregister"
  | .deregistrationCompleted => "deregister"
  | .deregistrationFailed _ => "deregister"

/-- The worker runs, and the operation on its licence is pending. -/
def LicensePending (worker : CMLWorkerReadModel) (operation : String) : Prop :=
  worker.status = CMLWorkerStatus.running.value
    ∧ givenText worker.license.pendingOperation = some operation

/-- CML just said what the report tells: that the operation succeeded. -/
def Confirmed (past : WorkerTrace) : LicenseReport → Prop
  | .registrationCompleted =>
      ∃ host token username password message, past.getLast?
        = some ⟨.registerLicense host token username password, .ok (true, message)⟩
  | .deregistrationCompleted =>
      ∃ host username password message, past.getLast?
        = some ⟨.deregisterLicense host username password, .ok (true, message)⟩
  | _ => True

/-- What the trace of a pass holds when it makes a call. -/
def Justified (settings : ControllerSettings) (worker : CMLWorkerReadModel)
    (past : WorkerTrace) : WorkerCall → Prop
  | .runInstance _ => worker.status = CMLWorkerStatus.pending.value ∧ untouched past = true
  | .startInstance instanceId =>
      worker.status = CMLWorkerStatus.starting.value ∧ untouched past = true
        ∧ InstanceIn worker past instanceId (· = .stopped)
  | .stopInstance instanceId =>
      (worker.status = CMLWorkerStatus.stopping.value
          ∨ worker.status = CMLWorkerStatus.draining.value) ∧ untouched past = true
        ∧ InstanceIn worker past instanceId (· = .running)
  | .terminateInstance instanceId =>
      worker.status = CMLWorkerStatus.terminating.value ∧ untouched past = true
        ∧ InstanceIn worker past instanceId fun state =>
            state ≠ .terminated ∧ state ≠ .shuttingDown
  | .updateWorkerStatus status instanceId => StatusReason worker past status instanceId
  | .drainWorker .. =>
      worker.status = CMLWorkerStatus.running.value ∧ worker.isIdleDetectionEnabled = true
        ∧ settings.scaleDownEnabled = true ∧ LeftIdle past
        ∧ ∃ state, past.getLast? = some ⟨.scaleDownState, state⟩
            ∧ settings.minWorkers < state.runningWorkerCount
            ∧ coolingDown settings state = false
  | .registerLicense .. =>
      LicensePending worker "register"
        ∧ past.getLast? = some ⟨.reportLicense .registrationStarted, .ok ()⟩
  | .deregisterLicense .. =>
      LicensePending worker "deregister"
        ∧ past.getLast? = some ⟨.reportLicense .deregistrationStarted, .ok ()⟩
  | .reportLicense report => LicensePending worker report.operation ∧ Confirmed past report
  | _ => True

/-! ## §3. The parts of a pass. -/

/-- The call asks, or reports what needs no justification. -/
def WorkerCall.Plain : WorkerCall → Prop
  | .runInstance _ => False
  | .startInstance _ => False
  | .stopInstance _ => False
  | .terminateInstance _ => False
  | .updateWorkerStatus .. => False
  | .drainWorker .. => False
  | .registerLicense .. => False
  | .deregisterLicense .. => False
  | .reportLicense _ => False
  | _ => True

/-- A plain call that asks for no instance. -/
def WorkerCall.Aside (call : WorkerCall) : Prop :=
  call.Plain ∧ ∀ instanceId, call ≠ .getInstanceState instanceId

/-- A call of the report on the details of an instance. -/
def WorkerCall.Detail : WorkerCall → Prop
  | .describeImage _ => True
  | .updateWorkerEc2Details _ => True
  | _ => False

section Parts

variable (settings : ControllerSettings) (worker : CMLWorkerReadModel)

/-- Nothing is asked of the result. -/
abbrev anyResult {α : Type} : WorkerTrace → α → Prop := fun _ _ => True

theorem plain_justified (past : WorkerTrace) (call : WorkerCall) (h : call.Plain) :
    Justified settings worker past call := by
  cases call <;> trivial

theorem aside_kept (past : WorkerTrace) (call : WorkerCall) (r : call.Reply) (h : call.Aside) :
    lastSeen (past ++ [⟨call, r⟩]) = lastSeen past
      ∧ untouched (past ++ [⟨call, r⟩]) = untouched past := by
  obtain ⟨hplain, hask⟩ := h
  have hdescribes : describes ⟨call, r⟩ = none := by
    cases call <;> first | rfl | exact absurd rfl (hask _)
  have hchanges : call.changesInstance = false := by
    cases call <;> first | rfl | exact hplain.elim
  rw [lastSeen_snoc, untouched_snoc, hdescribes]
  simp [hchanges]

theorem plain_guarantees {α : Type} {p : WorkerProgram α} (hp : Only WorkerCall.Plain p)
    (past : WorkerTrace) : Guarantees (Justified settings worker) anyResult past p :=
  hp.guarantees (fun past call h _ => plain_justified settings worker past call h)
    (fun _ _ _ _ h => h) trivial

/-- What the pass has seen, and that it has changed nothing. -/
def Holding (seen : Option (String × Option Ec2InstanceState)) (past : WorkerTrace) : Prop :=
  lastSeen past = seen ∧ untouched past = true

theorem aside_guarantees {α : Type} {p : WorkerProgram α} (hp : Only WorkerCall.Aside p)
    {seen : Option (String × Option Ec2InstanceState)} {past : WorkerTrace}
    (h : Holding seen past) :
    Guarantees (Justified settings worker) (fun past _ => Holding seen past) past p := by
  refine hp.guarantees (fun past call h _ => plain_justified settings worker past call h.1) ?_ h
  intro past call r hcall hpast
  obtain ⟨hseen, huntouched⟩ := aside_kept past call r hcall
  exact ⟨hseen.trans hpast.1, huntouched.trans hpast.2⟩

/-- A status that is written for a reason, and nothing after it that needs one. -/
theorem put_guarantees {α : Type} {status : CMLWorkerStatus} {instanceId : Option String}
    {past : WorkerTrace} (h : StatusReason worker past status instanceId)
    {f : Unit → Raising α}
    (hf : ∀ past, Guarantees (Justified settings worker) anyResult past (f ())) :
    Guarantees (Justified settings worker) anyResult past
      ((putStatus status instanceId).andThen f) := by
  rw [guarantees_andThen]
  refine ⟨h, fun r => ?_⟩
  cases r with
  | error raised => trivial
  | ok _ => exact hf _

theorem reportEc2Details_detail (state : Ec2InstanceState) :
    Only WorkerCall.Detail (reportEc2Details state) := by
  have hreport : ∀ ami : AmiInfo, Only WorkerCall.Detail
      ((Resumption.call (WorkerCall.updateWorkerEc2Details (state.details ami))).bind
        fun _ => (.done () : WorkerProgram Unit)) :=
    fun _ => (Only.call trivial).bind fun _ => trivial
  unfold reportEc2Details
  cases givenText state.imageId with
  | none => exact hreport {}
  | some imageId =>
      refine (Only.call trivial).bind fun answer => ?_
      rcases answer with raised | _ | ami
      · exact hreport {}
      · exact hreport {}
      · exact hreport ami

theorem reportEc2Details_aside (state : Ec2InstanceState) :
    Only WorkerCall.Aside (reportEc2Details state) := by
  refine (reportEc2Details_detail state).mono fun call h => ?_
  cases call <;> first | exact h.elim | exact ⟨trivial, fun _ => WorkerCall.noConfusion⟩

theorem stopMonitoring_aside : Only WorkerCall.Aside (stopMonitoring settings) := by
  unfold stopMonitoring
  split
  · exact Only.call ⟨trivial, fun _ => WorkerCall.noConfusion⟩
  · trivial

/-- The details of the instance are reported, and nothing after it needs a reason. -/
theorem details_guarantees {α : Type} (state : Ec2InstanceState) {past : WorkerTrace} (a : α) :
    Guarantees (Justified settings worker) anyResult past
      ((reportEc2Details state).bind fun _ => give a) := by
  have hplain := (reportEc2Details_aside state).mono fun _ h => h.1
  exact plain_guarantees settings worker (hplain.bind (f := fun _ => give a) fun _ => trivial) past

/-- EC2 is asked for the instance of the worker: what comes next has seen the answer. -/
theorem instanceState_guarantees {α : Type} {past : WorkerTrace} {instanceId : String}
    {f : Option Ec2InstanceState → Raising α} (h : untouched past = true)
    (hf : ∀ state past, Holding (some (instanceId, state)) past →
      Guarantees (Justified settings worker) anyResult past (f state)) :
    Guarantees (Justified settings worker) anyResult past
      ((instanceState instanceId).andThen f) := by
  rw [guarantees_andThen]
  refine ⟨trivial, fun r => ?_⟩
  cases r with
  | error raised => trivial
  | ok state =>
      refine hf state _ ⟨?_, ?_⟩
      · rw [lastSeen_snoc]
        rfl
      · rw [untouched_snoc, h]
        rfl

/-! ## §4. The handlers. -/

theorem handleProvisioning_guarantees {past : WorkerTrace} (h : untouched past = true) :
    Guarantees (Justified settings worker) anyResult past (handleProvisioning worker) := by
  unfold handleProvisioning
  cases hid : givenText worker.ec2InstanceId with
  | none => trivial
  | some instanceId =>
      refine instanceState_guarantees settings worker h fun state past hseen => ?_
      cases state with
      | none => trivial
      | some state =>
          have hreason := StatusReason.observed hid hseen.1
          cases hstate : state.state <;> simp only [hstate] <;> try trivial
          -- EC2 said running
          rw [hstate] at hreason
          exact put_guarantees settings worker hreason fun past =>
            details_guarantees settings worker state _

theorem handleStarting_guarantees {past : WorkerTrace} (h : untouched past = true)
    (hstatus : worker.status = CMLWorkerStatus.starting.value) :
    Guarantees (Justified settings worker) anyResult past (handleStarting worker) := by
  unfold handleStarting
  cases hid : givenText worker.ec2InstanceId with
  | none => trivial
  | some instanceId =>
      refine instanceState_guarantees settings worker h fun state past hseen => ?_
      cases state with
      | none => trivial
      | some state =>
          have hreason := StatusReason.observed hid hseen.1
          cases hstate : state.state <;> simp only [hstate] <;> try trivial
          case running =>
            rw [hstate] at hreason
            exact put_guarantees settings worker hreason fun past =>
              details_guarantees settings worker state _
          case stopped =>
            rw [guarantees_andThen]
            refine ⟨⟨hstatus, hseen.2, hid, state, hseen.1, hstate⟩, fun r => ?_⟩
            cases r <;> trivial

theorem handleStopping_guarantees {past : WorkerTrace} (h : untouched past = true)
    (hstatus : worker.status = CMLWorkerStatus.stopping.value
      ∨ worker.status = CMLWorkerStatus.draining.value) :
    Guarantees (Justified settings worker) anyResult past (handleStopping settings worker) := by
  unfold handleStopping
  rw [guarantees_andThen]
  refine (aside_guarantees settings worker (stopMonitoring_aside settings) ⟨rfl, h⟩).mono
    fun past out hpast => ?_
  rcases out with raised | _
  · trivial
  dsimp only
  cases hid : givenText worker.ec2InstanceId with
  | none =>
      exact put_guarantees settings worker (.stoppedWithout (.inl hid) hstatus) fun _ => trivial
  | some instanceId =>
      refine instanceState_guarantees settings worker hpast.2 fun state past hseen => ?_
      cases state with
      | none =>
          exact put_guarantees settings worker
            (.stoppedWithout (.inr ⟨instanceId, hid, hseen.1⟩) hstatus) fun _ => trivial
      | some state =>
          have hreason := StatusReason.observed hid hseen.1
          cases hstate : state.state <;> simp only [hstate] <;> try trivial
          case stopped =>
            rw [hstate] at hreason
            exact put_guarantees settings worker hreason fun _ => trivial
          case running =>
            rw [guarantees_andThen]
            refine ⟨⟨hstatus, hseen.2, hid, state, hseen.1, hstate⟩, fun r => ?_⟩
            cases r <;> trivial

theorem alignStopped_guarantees {past : WorkerTrace}
    (hstatus : worker.status = CMLWorkerStatus.stopped.value) :
    Guarantees (Justified settings worker) anyResult past (alignStopped worker) := by
  unfold alignStopped
  split
  next hrunning =>
    exact put_guarantees settings worker (.wantedRunning hstatus hrunning) fun _ => trivial
  next =>
    split
    next hterminated =>
      exact put_guarantees settings worker (.wantedTerminated hterminated (.inr hstatus))
        fun _ => trivial
    next => trivial

theorem handleStopped_guarantees {past : WorkerTrace} (h : untouched past = true)
    (hstatus : worker.status = CMLWorkerStatus.stopped.value) :
    Guarantees (Justified settings worker) anyResult past (handleStopped settings worker) := by
  unfold handleStopped
  rw [guarantees_andThen]
  refine (aside_guarantees settings worker (stopMonitoring_aside settings) ⟨rfl, h⟩).mono
    fun past out hpast => ?_
  rcases out with raised | _
  · trivial
  dsimp only
  cases hid : givenText worker.ec2InstanceId with
  | none => exact alignStopped_guarantees settings worker hstatus
  | some instanceId =>
      refine instanceState_guarantees settings worker hpast.2 fun state past hseen => ?_
      cases state with
      | none =>
          exact put_guarantees settings worker
            (.terminatedWithout (.inr ⟨instanceId, hid, hseen.1⟩) (.inl hstatus)) fun _ => trivial
      | some state =>
          cases hstate : state.state <;> simp only [hstate] <;>
            try exact alignStopped_guarantees settings worker hstatus
          case terminated =>
            have hreason := StatusReason.observed hid hseen.1
            rw [hstate] at hreason
            exact put_guarantees settings worker hreason fun _ => trivial
          case running =>
            -- the details are reported first, and they leave what was seen
            rw [guarantees_bind]
            refine (aside_guarantees settings worker (reportEc2Details_aside state) hseen).mono
              fun past _ hpast => ?_
            have hreason := StatusReason.observed hid hpast.1
            rw [hstate] at hreason
            exact put_guarantees settings worker hreason fun _ => trivial

theorem handleTerminating_guarantees {past : WorkerTrace} (h : untouched past = true)
    (hstatus : worker.status = CMLWorkerStatus.terminating.value) :
    Guarantees (Justified settings worker) anyResult past (handleTerminating worker) := by
  unfold handleTerminating
  cases hid : givenText worker.ec2InstanceId with
  | none =>
      exact put_guarantees settings worker (.terminatedWithout (.inl hid) (.inr hstatus))
        fun _ => trivial
  | some instanceId =>
      refine instanceState_guarantees settings worker h fun state past hseen => ?_
      cases state with
      | none =>
          exact put_guarantees settings worker
            (.terminatedWithout (.inr ⟨instanceId, hid, hseen.1⟩) (.inr hstatus)) fun _ => trivial
      | some state =>
          have hterminate (hother : state.state ≠ .terminated ∧ state.state ≠ .shuttingDown) :
              Guarantees (Justified settings worker) anyResult past
                ((Resumption.call (WorkerCall.terminateInstance instanceId)).andThen fun _ =>
                  give
                    (ReconciliationResult.requeue "EC2 terminate initiated" none)) := by
            rw [guarantees_andThen]
            refine ⟨⟨hstatus, hseen.2, hid, state, hseen.1, hother⟩, fun r => ?_⟩
            cases r <;> trivial
          cases hstate : state.state <;> simp only [hstate] <;>
            try exact hterminate (by rw [hstate]; decide)
          case terminated =>
            have hreason := StatusReason.observed hid hseen.1
            rw [hstate] at hreason
            exact put_guarantees settings worker hreason fun _ => trivial
          case shuttingDown => trivial

/-- What is raised on the way to a launch is in the trace. -/
def RaisedAtLaunch (past : WorkerTrace) : Except String ReconciliationResult → Prop
  | .error _ => past.any raisesAtLaunch = true
  | .ok _ => True

theorem raisedAtLaunch_snoc (past : WorkerTrace) {answer : WorkerAnswer}
    (h : raisesAtLaunch answer = true) (raised : String) :
    RaisedAtLaunch (past ++ [answer]) (.error raised) := by
  unfold RaisedAtLaunch
  rw [List.any_append, List.any_cons, h]
  simp

theorem provision_guarantees {past : WorkerTrace} (h : untouched past = true)
    (hstatus : worker.status = CMLWorkerStatus.pending.value) :
    Guarantees (Justified settings worker) RaisedAtLaunch past (provision settings worker) := by
  unfold provision
  cases givenText worker.templateName with
  | none => trivial
  | some templateName =>
      refine Guarantees.ask trivial fun answer => ?_
      rcases answer with raised | _ | template
      · exact raisedAtLaunch_snoc past rfl raised
      · trivial
      dsimp only
      cases (givenText template.instanceType).or (givenText worker.instanceType) with
      | none => trivial
      | some instanceType =>
          dsimp only
          cases settings.awsRegionConfigs.get?
              ((givenText worker.awsRegion).getD settings.awsRegion) with
          | none => trivial
          | some config =>
              dsimp only
              split
              next => trivial
              split
              next => trivial
              cases (givenText template.amiNamePattern).or (givenText worker.amiName) with
              | none => trivial
              | some amiName =>
                  refine Guarantees.ask trivial fun answer => ?_
                  rcases answer with raised | _ | ⟨amiId, _⟩
                  · exact raisedAtLaunch_snoc _ rfl raised
                  · trivial
                  -- only questions were asked before the launch
                  refine Guarantees.ask ⟨hstatus, ?_⟩ fun answer => ?_
                  · rw [untouched_snoc, untouched_snoc, h]
                    rfl
                  rcases answer with raised | instanceId
                  · exact raisedAtLaunch_snoc _ rfl raised
                  refine Guarantees.ask (.launched (List.getLast?_concat ..)) fun answer => ?_
                  rcases answer with raised | _
                  · exact raisedAtLaunch_snoc _ rfl raised
                  · trivial

theorem handlePending_guarantees {past : WorkerTrace} (h : untouched past = true)
    (hstatus : worker.status = CMLWorkerStatus.pending.value) :
    Guarantees (Justified settings worker) anyResult past (handlePending settings worker) := by
  unfold handlePending tryExcept
  rw [guarantees_bind]
  refine (provision_guarantees settings worker h hstatus).mono fun past out hpast => ?_
  rcases out with raised | result
  · exact ⟨.launchFailed hstatus hpast, fun _ => trivial⟩
  · trivial

theorem syncInstance_guarantees {past : WorkerTrace} (h : untouched past = true)
    (sync : SyncRequest) :
    Guarantees (Justified settings worker) anyResult past (syncInstance worker sync) := by
  unfold syncInstance
  cases hid : givenText worker.ec2InstanceId with
  | none => trivial
  | some instanceId =>
      dsimp only
      split
      next =>
        unfold logged
        rw [guarantees_bind]
        -- what is raised inside is dropped
        refine Guarantees.mono (fun _ _ _ => trivial) ?_ (Q := anyResult)
        refine instanceState_guarantees settings worker h fun state past hseen => ?_
        cases state with
        | none => trivial
        | some state =>
            dsimp only
            rw [guarantees_bind]
            refine (aside_guarantees settings worker (reportEc2Details_aside state) hseen).mono
              fun past _ hpast => ?_
            split
            next => exact ⟨.observed hid hpast.1, fun _ => trivial⟩
            next => trivial
      next => trivial

/-- The steps of a sync after the first one. -/
theorem syncRest_plain (sync : SyncRequest) :
    Only WorkerCall.Plain (syncCml worker sync) ∧ Only WorkerCall.Plain (syncLabs sync)
      ∧ Only WorkerCall.Plain (logged (Resumption.call WorkerCall.completeWorkerSync)) := by
  refine ⟨?_, ?_, (Only.call trivial).bind fun _ => trivial⟩
  · unfold syncCml
    cases givenText worker.ipAddress with
    | none => trivial
    | some host =>
        dsimp only
        split
        next =>
          refine (Only.call trivial).bind fun answer => ?_
          rcases answer with raised | _ | _
          · trivial
          · trivial
          · exact (Only.call trivial).bind fun _ => trivial
        next => trivial
  · unfold syncLabs
    split
    next => exact (Only.call trivial).bind fun _ => trivial
    next => trivial

theorem handleSyncRequest_guarantees {past : WorkerTrace} (h : untouched past = true)
    (sync : SyncRequest) :
    Guarantees (Justified settings worker) anyResult past (handleSyncRequest worker sync) := by
  obtain ⟨hcml, hlabs, hcomplete⟩ := syncRest_plain worker sync
  have hrest : Only WorkerCall.Plain ((syncCml worker sync).andThen fun _ =>
      (syncLabs sync).andThen fun _ =>
        (logged (Resumption.call WorkerCall.completeWorkerSync)).andThen fun _ =>
          give (ReconciliationResult.requeue
            "Sync completed — re-reconcile with fresh state" none)) :=
    hcml.andThen fun _ => hlabs.andThen fun _ => hcomplete.andThen fun _ => trivial
  unfold handleSyncRequest
  rw [guarantees_andThen]
  refine (syncInstance_guarantees settings worker h sync).mono fun past out _ => ?_
  rcases out with raised | _
  · trivial
  · exact plain_guarantees settings worker hrest past

/-! ## §5. A worker that runs. -/

theorem executeLicense_guarantees {started completed : LicenseReport}
    {failed : String → LicenseReport} {operation : Raising (Bool × String)} {past : WorkerTrace}
    (hstarted : Justified settings worker past (.reportLicense started))
    (hfailed : ∀ past message, Justified settings worker past (.reportLicense (failed message)))
    (hoperation : Guarantees (Justified settings worker)
      (fun past out => ∀ message, out = .ok (true, message) →
        Justified settings worker past (.reportLicense completed))
      (past ++ [⟨.reportLicense started, .ok ()⟩]) operation) :
    Guarantees (Justified settings worker) anyResult past
      (executeLicense started completed failed operation) := by
  have hfail (past : WorkerTrace) (message : String) :
      Guarantees (Justified settings worker) anyResult past (putLicense (failed message)) :=
    ⟨hfailed past message, fun _ => trivial⟩
  -- a report that raises is caught, and the operation is reported as failed
  have hreport {report : LicenseReport} {past : WorkerTrace}
      (h : Justified settings worker past (.reportLicense report)) :
      Guarantees (Justified settings worker) anyResult past
        (tryExcept (putLicense report) fun raised => putLicense (failed raised)) := by
    refine Guarantees.ask h fun answer => ?_
    rcases answer with raised | _
    · exact hfail _ raised
    · trivial
  unfold executeLicense tryExcept
  refine Guarantees.ask hstarted fun answer => ?_
  rcases answer with raised | _
  · exact hfail _ raised
  show Guarantees _ _ _ ((operation.andThen _).bind _)
  rw [guarantees_bind, guarantees_andThen]
  refine hoperation.mono fun past out hout => ?_
  rcases out with raised | ⟨success, message⟩
  · exact hfail past raised
  dsimp only
  cases success with
  | true =>
      rw [if_pos rfl, ← guarantees_bind]
      exact hreport (hout message rfl)
  | false =>
      rw [if_neg Bool.false_ne_true, ← guarantees_bind]
      exact hreport (hfailed past message)

/-- The licence of a worker that runs, as the pass sees it at that moment. -/
theorem reconcileLicense_guarantees (hstatus : worker.status = CMLWorkerStatus.running.value)
    {tended : CMLWorkerReadModel} (hlicense : tended.license = worker.license)
    (past : WorkerTrace) :
    Guarantees (Justified settings worker) anyResult past (reconcileLicense tended) := by
  unfold reconcileLicense
  cases hpending : givenText tended.license.pendingOperation with
  | none => trivial
  | some operation =>
      rw [hlicense] at hpending
      dsimp only
      cases givenText tended.ipAddress with
      | none => trivial
      | some host =>
          dsimp only
          split
          next hregister =>
            have hof : LicensePending worker "register" := ⟨hstatus, hregister ▸ hpending⟩
            unfold executeLicenseRegistration
            cases givenText tended.license.pendingToken with
            | none => exact ⟨⟨hof, trivial⟩, fun _ => trivial⟩
            | some token =>
                refine executeLicense_guarantees settings worker ⟨hof, trivial⟩
                  (fun _ _ => ⟨hof, trivial⟩)
                  ⟨⟨hof, List.getLast?_concat ..⟩, fun answer message h => ⟨hof, ?_⟩⟩
                exact ⟨host, token, _, _, message, by rw [h]; exact List.getLast?_concat ..⟩
          next =>
            split
            next hderegister =>
              have hof : LicensePending worker "deregister" := ⟨hstatus, hderegister ▸ hpending⟩
              refine executeLicense_guarantees settings worker ⟨hof, trivial⟩
                (fun _ _ => ⟨hof, trivial⟩)
                ⟨⟨hof, List.getLast?_concat ..⟩, fun answer message h => ⟨hof, ?_⟩⟩
              exact ⟨host, _, _, message, by rw [h]; exact List.getLast?_concat ..⟩
            next => trivial

/-- Idle detection and scale-down: a worker is drained after it was found idle and left as it
is, while there are more than the minimum and no cooldown. -/
theorem tendIdle_guarantees (hstatus : worker.status = CMLWorkerStatus.running.value)
    {tended : CMLWorkerReadModel}
    (hdetects : tended.isIdleDetectionEnabled = worker.isIdleDetectionEnabled)
    (past : WorkerTrace) :
    Guarantees (Justified settings worker) anyResult past (tendIdle settings tended) := by
  unfold tendIdle
  split
  next hdetect =>
    rw [hdetects] at hdetect
    unfold detectActivity
    rw [guarantees_bind]
    refine Guarantees.ask trivial fun events => ?_
    refine Guarantees.ask trivial fun answer => ?_
    rcases answer with raised | result
    · trivial
    have hmem : (⟨.detectWorkerIdle events, .ok result⟩ : WorkerAnswer)
        ∈ past ++ [⟨.gatherTelemetry (givenText tended.ipAddress), events⟩]
          ++ [⟨.detectWorkerIdle events, .ok result⟩] := List.mem_concat_self
    cases herror : (givenText result.error).isSome with
    | true =>
        simp only [herror, if_true]
        trivial
    | false =>
        simp only [herror]
        show Guarantees _ _ _ (if settings.scaleDownEnabled then _ else _)
        split
        next hscale =>
          rw [guarantees_bind]
          unfold evaluateScaleDown
          split
          next => trivial
          next hleft =>
            split
            next => trivial
            next =>
              split
              next => trivial
              next heligible =>
                refine Guarantees.ask trivial fun state => ?_
                split
                next => trivial
                next hmin =>
                  split
                  next => trivial
                  next hcool =>
                    refine Guarantees.ask ?_ fun answer => ?_
                    · refine ⟨hstatus, hdetect, hscale, ⟨events, result, ?_, ?_, ?_, herror⟩,
                        state, List.getLast?_concat .., by omega, by simpa using hcool⟩
                      · exact List.mem_append_left _ hmem
                      · simpa using heligible
                      · simpa using hleft
                    rcases answer with raised | _
                    · trivial
                    · exact ⟨trivial, fun _ => trivial⟩
        next => trivial
  next => trivial

/-- The parts of the handler before the licence only ask and report. -/
theorem refreshIfRequested_plain (tended : CMLWorkerReadModel) :
    Only WorkerCall.Plain (refreshIfRequested tended) := by
  unfold refreshIfRequested handleOnDemandRefresh
  cases givenText tended.refreshRequestedAt with
  | none => trivial
  | some _ =>
      dsimp only
      cases givenText tended.ec2InstanceId with
      | none => trivial
      | some instanceId =>
          refine (Only.call trivial).bind fun answer => ?_
          rcases answer with raised | _ | state
          · trivial
          · trivial
          · exact (reportEc2Details_aside state).mono fun _ h => h.1

theorem cmlReadiness_plain (tended : CMLWorkerReadModel) :
    Only WorkerCall.Plain (cmlReadiness tended) := by
  unfold cmlReadiness
  cases givenText tended.ipAddress with
  | none => trivial
  | some host => exact Only.call trivial

theorem ensureMonitoring_plain (tended : CMLWorkerReadModel) (cmlReady : Bool) :
    Only WorkerCall.Plain (ensureMonitoring settings tended cmlReady) := by
  unfold ensureMonitoring
  cases givenText tended.ipAddress with
  | none => trivial
  | some host =>
      dsimp only
      split
      next => exact (Only.call trivial).bind fun _ => trivial
      next => trivial

theorem tendRunning_guarantees (hstatus : worker.status = CMLWorkerStatus.running.value)
    {tended : CMLWorkerReadModel} (hlicense : tended.license = worker.license)
    (hdetects : tended.isIdleDetectionEnabled = worker.isIdleDetectionEnabled)
    (past : WorkerTrace) :
    Guarantees (Justified settings worker) anyResult past (tendRunning settings tended) := by
  unfold tendRunning
  rw [guarantees_bind]
  refine (plain_guarantees settings worker (refreshIfRequested_plain tended) past).mono
    fun past _ _ => ?_
  rw [guarantees_andThen]
  refine (plain_guarantees settings worker (cmlReadiness_plain tended) past).mono
    fun past out _ => ?_
  rcases out with raised | cmlReady
  · trivial
  dsimp only
  rw [guarantees_bind]
  refine (plain_guarantees settings worker (ensureMonitoring_plain settings tended cmlReady)
    past).mono fun past _ _ => ?_
  rw [guarantees_andThen]
  refine (reconcileLicense_guarantees settings worker hstatus hlicense past).mono
    fun past out _ => ?_
  rcases out with raised | _
  · trivial
  dsimp only
  rw [guarantees_bind]
  exact (tendIdle_guarantees settings worker hstatus hdetects past).mono fun _ _ _ => trivial

theorem handleRunning_guarantees {past : WorkerTrace} (h : untouched past = true)
    (hstatus : worker.status = CMLWorkerStatus.running.value) :
    Guarantees (Justified settings worker) anyResult past (handleRunning settings worker) := by
  unfold handleRunning
  split
  next hstopped =>
    exact put_guarantees settings worker (.wantedStopped hstatus hstopped) fun _ => trivial
  split
  next hterminated =>
    exact put_guarantees settings worker (.wantedTerminated hterminated (.inl hstatus))
      fun _ => trivial
  cases hid : givenText worker.ec2InstanceId with
  | none => exact tendRunning_guarantees settings worker hstatus rfl rfl past
  | some instanceId =>
      refine instanceState_guarantees settings worker h fun state past hseen => ?_
      cases state with
      | none => exact tendRunning_guarantees settings worker hstatus rfl rfl past
      | some state =>
          dsimp only
          split
          next => exact put_guarantees settings worker (.observed hid hseen.1) fun _ => trivial
          next =>
            split
            next =>
              rw [guarantees_bind]
              refine (aside_guarantees settings worker (reportEc2Details_aside state) hseen).mono
                fun past _ _ => ?_
              refine tendRunning_guarantees settings worker hstatus ?_ ?_ past <;> rfl
            next => exact tendRunning_guarantees settings worker hstatus rfl rfl past

/-! ## §6. A whole pass. -/

theorem routeByStatus_guarantees {past : WorkerTrace} (h : untouched past = true) :
    Guarantees (Justified settings worker) anyResult past (routeByStatus settings worker) := by
  unfold routeByStatus
  split
  next hstatus => exact handlePending_guarantees settings worker h hstatus
  split
  next => exact handleProvisioning_guarantees settings worker h
  split
  next hstatus => exact handleStarting_guarantees settings worker h hstatus
  split
  next hstatus => exact handleRunning_guarantees settings worker h hstatus
  split
  next hstatus => exact handleStopping_guarantees settings worker h hstatus
  split
  next hstatus => exact handleStopped_guarantees settings worker h hstatus
  split
  next hstatus => exact handleTerminating_guarantees settings worker h hstatus
  next => trivial

theorem reconcile_guarantees :
    Guarantees (Justified settings worker) anyResult [] (reconcile settings worker) := by
  unfold reconcile
  rw [guarantees_bind]
  refine Guarantees.ask trivial fun pending => ?_
  have hresult (past : WorkerTrace) (out : Except String ReconciliationResult) :
      Guarantees (Justified settings worker) anyResult past
        (match out with
          | .error raised => .done (.failed raised)
          | .ok result => .done result) := by
    cases out <;> trivial
  cases pending with
  | some sync =>
      exact (handleSyncRequest_guarantees settings worker rfl sync).mono fun past out _ =>
        hresult past out
  | none =>
      exact (routeByStatus_guarantees settings worker rfl).mono fun past out _ => hresult past out

end Parts

/-- **Every call of a pass is justified by what the pass has seen**, whatever EC2, CML and the
control plane answer. -/
theorem reconcile_justified (settings : ControllerSettings) (worker : CMLWorkerReadModel)
    (past : WorkerTrace) (call : WorkerCall)
    (k : call.Reply → WorkerProgram ReconciliationResult)
    (h : (reconcile settings worker).Reaches past (.await call k)) :
    Justified settings worker past call :=
  ((reconcile_guarantees settings worker).reaches h).1

/-- EC2 said that the instance of a starting worker is stopped, and the pass starts it. -/
theorem reconcile_justified_start :
    Justified { awsRegion := "us-east-1", awsRegionConfigs := Dict.empty }
      { status := "starting", ec2InstanceId := some "i-1" }
      [⟨.getPendingSync, none⟩, ⟨.getInstanceState "i-1", .ok (some { state := .stopped })⟩]
      (.startInstance "i-1") :=
  reconcile_justified { awsRegion := "us-east-1", awsRegionConfigs := Dict.empty }
    { status := "starting", ec2InstanceId := some "i-1" } _ _ _
    ⟨_, rfl, _, rfl, rfl⟩

end CmlCloudManager.Worker
