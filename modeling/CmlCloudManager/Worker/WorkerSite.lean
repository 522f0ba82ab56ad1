/-
  CmlCloudManager.Worker.WorkerSite
  ─────────────────────────────────
  **COMMANDS AND PASSES ON ONE RECORD.**

  The API handles commands on a worker while any number of passes over it are under way;
  each pass works on what the control plane showed when it began.  Every answer may be
  anything, an answer may get lost after the request was carried out, and a handler that
  saves twice may be cut off in between.

    • `siteStep`         — one action: a command, the begin of a pass, its next call,
    • `site_invariant`   — what every save keeps holds of the record in every run, and
                           every pass is where the answers it got have brought it,
    • `chained_run`      — so the history of a worker is one chain from its creation to
                           its status.
-/
import CmlCloudManager.Foundation.Interleaving
import CmlCloudManager.Foundation.Transition
import CmlCloudManager.Worker.ReconcilerTrace

namespace CmlCloudManager.Worker

open CmlCloudManager.Foundation
open CmlCloudManager.ControlPlane (CMLWorkerStatus CMLWorkerStatus.value givenText)
open CmlCloudManager.Scheduler (ReconciliationResult)

/-! ## §1. The site. -/

/-- The record of a worker, and the sync request that is pending. -/
structure WorkerSite where
  worker : CMLWorkerState
  pendingSync : Option SyncRequest := none

/-- The record after the first saves of a handler. -/
def Handled.kept (h : Handled) (saved : Nat) (s : CMLWorkerState) : CMLWorkerState :=
  (h.saves.take saved).getLast?.getD s

/-- What the surroundings add to a call: the clock, the answers of the other parties, what the
request raises where the answer of the control plane is lost, and how many saves go through. -/
structure Surroundings where
  now : Int
  answers : (call : WorkerCall) → call.Reply
  lost : Option String
  saved : Nat
  idle : IdleSettings
  faults : DetectFaults
  licenseInfo : Option LicenseInfo
  cmlReady : Bool

/-- An outage: what can raise, raises. -/
def outage : (call : WorkerCall) → call.Reply
  | .getPendingSync => none
  | .collectAndReportCmlData _ => ()
  | .gatherTelemetry _ => []
  | .scaleDownState => {}
  | .noteScaleDown => ()
  | .getWorkerTemplate _ => .error "Connection refused"
  | .getAmiIdsByName _ => .error "Connection refused"
  | .runInstance _ => .error "Connection refused"
  | .getInstanceState _ => .error "Connection refused"
  | .describeImage _ => .error "Connection refused"
  | .checkHealth _ => .error "Connection refused"
  | .registerLicense .. => .error "Connection refused"
  | .deregisterLicense .. => .error "Connection refused"
  | .detectWorkerIdle _ => .error "Connection refused"
  | .startInstance _ => .error "Connection refused"
  | .stopInstance _ => .error "Connection refused"
  | .terminateInstance _ => .error "Connection refused"
  | .updateWorkerStatus .. => .error "Connection refused"
  | .updateWorkerEc2Details _ => .error "Connection refused"
  | .stopMonitoring => .error "Connection refused"
  | .ensureMonitoring .. => .error "Connection refused"
  | .triggerLabDiscovery .. => .error "Connection refused"
  | .completeWorkerSync => .error "Connection refused"
  | .reportLicense _ => .error "Connection refused"
  | .drainWorker .. => .error "Connection refused"

/-- The surroundings of an outage. -/
def Surroundings.outage (now : Int) : Surroundings where
  now := now
  answers := Worker.outage
  lost := none
  saved := 0
  idle :=
    { relevantCategories := [], excludedUser := fun _ => false, oneDecimal := toString }
  faults := {}
  licenseInfo := none
  cmlReady := false

/-- All goes well: there is one template and one AMI, and the instance runs. -/
def calm : (call : WorkerCall) → call.Reply
  | .getPendingSync => none
  | .collectAndReportCmlData _ => ()
  | .gatherTelemetry _ => []
  | .scaleDownState => {}
  | .noteScaleDown => ()
  | .getWorkerTemplate _ =>
      .ok (some { instanceType := some "m5zn.metal", amiNamePattern := some "cml-*" })
  | .getAmiIdsByName _ => .ok ["ami-1"]
  | .runInstance _ => .ok "i-1"
  | .getInstanceState _ => .ok (some { state := .running })
  | .describeImage _ => .ok none
  | .checkHealth _ => .ok true
  | .registerLicense .. => .ok (true, "")
  | .deregisterLicense .. => .ok (true, "")
  | .detectWorkerIdle _ => .ok {}
  | .startInstance _ => .ok ()
  | .stopInstance _ => .ok ()
  | .terminateInstance _ => .ok ()
  | .updateWorkerStatus .. => .ok ()
  | .updateWorkerEc2Details _ => .ok ()
  | .stopMonitoring => .ok ()
  | .ensureMonitoring .. => .ok ()
  | .triggerLabDiscovery .. => .ok ()
  | .completeWorkerSync => .ok ()
  | .reportLicense _ => .ok ()
  | .drainWorker .. => .ok ()

/-- The surroundings then; every save goes through. -/
def Surroundings.calm (now : Int) : Surroundings :=
  { Surroundings.outage now with answers := Worker.calm, saved := 2, cmlReady := true }

/-- A handler is called. -/
def WorkerSite.call (s : WorkerSite) (saved : Nat) (h : Handled) : WorkerSite :=
  { s with worker := h.kept saved s.worker }

/-- What a call of a pass finds and leaves. -/
def access (around : Surroundings) (s : WorkerSite) : (call : WorkerCall) → call.Reply × WorkerSite
  | .getPendingSync => (if around.lost.isSome then none else s.pendingSync, s)
  | .updateWorkerStatus status instanceId =>
      (around.answers (.updateWorkerStatus status instanceId),
        s.call around.saved (updateWorkerStatus status instanceId around.now s.worker))
  | .updateWorkerEc2Details details =>
      (around.answers (.updateWorkerEc2Details details),
        s.call around.saved (updateWorkerEc2Details details around.now s.worker))
  | .collectAndReportCmlData host =>
      (around.answers (.collectAndReportCmlData host),
        s.call around.saved
          (updateWorkerCmlData around.licenseInfo around.cmlReady around.now s.worker))
  | .completeWorkerSync =>
      (around.answers .completeWorkerSync,
        if around.saved = 0 then s else { s with pendingSync := none })
  | .reportLicense report =>
      (around.answers (.reportLicense report),
        s.call around.saved (reportLicense report around.now s.worker))
  | .detectWorkerIdle events =>
      let detected := detectWorkerIdle around.idle around.faults around.now (some events) s.worker
      (match around.lost with
        | some raised => .error raised
        | none => .ok detected.1,
        { s with worker := detected.2 })
  | .drainWorker reason requestedBy =>
      (around.answers (.drainWorker reason requestedBy),
        s.call around.saved (drainWorker reason requestedBy around.now s.worker))
  | call => (around.answers call, s)

/-- The site with the passes that are under way. -/
abbrev Site : Type :=
  Shared WorkerCall WorkerCall.Reply ReconciliationResult (ControllerSettings × CMLWorkerReadModel)
    WorkerSite

/-- A pass that is under way, or over. -/
abbrev SitePass : Type :=
  Thread WorkerCall WorkerCall.Reply ReconciliationResult (ControllerSettings × CMLWorkerReadModel)

/-- The program of a pass. -/
def passBody (request : ControllerSettings × CMLWorkerReadModel) :
    WorkerProgram ReconciliationResult :=
  reconcile request.1 request.2

/-- An action on the site. -/
inductive SiteAction where
  /-- a request to the API, of which so many saves go through -/
  | command (command : WorkerCommand) (now : Int) (saved : Nat)
  /-- the worker-controller gets the worker and begins a pass -/
  | beginPass (settings : ControllerSettings) (iso : Int → String) (ports : PortUsage)
  /-- a pass makes its next call -/
  | turn (i : Nat) (around : Surroundings)

/-- The sync request of a command that was accepted. -/
def requestedSync (command : WorkerCommand) (handled : Handled) : Option SyncRequest :=
  match command with
  | .requestSync scope includeLabs reason =>
      if handled.result.isSuccess then
        some { scope := scope, includeLabs := includeLabs, reason := reason }
      else none
  | _ => none

/-- One action; a record that is deleted is no longer there for another one. -/
def siteStep (w : Site) : SiteAction → Option Site
  | .command command now saved =>
      let handled := handle command now w.state.worker
      if handled.deletes then none
      else
        let requested := if saved = 0 then none else requestedSync command handled
        some { w with
          state :=
            { w.state.call saved handled with
              pendingSync := requested.or w.state.pendingSync } }
  | .beginPass settings iso ports =>
      let request := (settings, view iso ports w.state.worker)
      some { w with
        threads := w.threads ++ [{ request := request, program := passBody request }] }
  | .turn i around => advance access w (i, around)

/-- A site without passes. -/
def Site.alone (s : WorkerSite) : Site := { state := s, threads := [] }

/-! ## §2. What holds of the record. -/

/-- A status that the command reports is one of `S`. -/
def WorkerCommand.Within (S : CMLWorkerStatus → Prop) : WorkerCommand → Prop
  | .updateStatus status _ => S status
  | _ => True

/-- A status that the call reports is one of `S`. -/
def WorkerCall.Within (S : CMLWorkerStatus → Prop) : WorkerCall → Prop
  | .updateWorkerStatus status _ => S status
  | _ => True

/-- A condition on records that every save of a handler keeps, if only statuses of `S` are
reported. -/
structure SaveInvariant (S : CMLWorkerStatus → Prop) (P : CMLWorkerState → Prop) : Prop where
  handled : ∀ command now s, command.Within S → P s → ∀ t ∈ (handle command now s).saves, P t
  activity : ∀ settings now events s, P s → P (updateActivityOf settings now events s)

section SaveInvariant

variable {S : CMLWorkerStatus → Prop} {P : CMLWorkerState → Prop}

theorem kept_of_saves {h : Handled} {s : CMLWorkerState} (hs : P s) (hsaves : ∀ t ∈ h.saves, P t)
    (saved : Nat) : P (h.kept saved s) := by
  unfold Handled.kept
  cases hlast : (h.saves.take saved).getLast? with
  | none => exact hs
  | some t => exact hsaves t (List.mem_of_mem_take (List.mem_of_getLast? hlast))

theorem SaveInvariant.detect (hP : SaveInvariant S P) {s : CMLWorkerState} (hs : P s)
    (idle : IdleSettings) (faults : DetectFaults) (now : Int) (events : List ActivityEvent) :
    P (detectWorkerIdle idle faults now (some events) s).2 := by
  unfold detectWorkerIdle
  cases faults.update with
  | some fault => cases fault <;> exact hs
  | none =>
      have hactivity := hP.activity idle now events s hs
      dsimp only
      unfold evaluateIdle
      cases faults.query with
      | some fault => cases fault <;> exact hactivity
      | none =>
          dsimp only
          split
          next =>
            cases faults.pause with
            | some fault => cases fault <;> exact hactivity
            | none =>
                dsimp only
                rw [apply_ite Prod.snd, ite_self]
                exact after_of_saves hactivity fun t ht =>
                  hP.handled (.pause true _) now _ trivial hactivity t ht
          next => exact hactivity

/-- A call of a pass keeps it. -/
theorem SaveInvariant.access (hP : SaveInvariant S P) {s : WorkerSite} (hs : P s.worker)
    (around : Surroundings) {call : WorkerCall} (hcall : call.Within S) :
    P (access around s call).2.worker := by
  have hhandle (command : WorkerCommand) (hcommand : command.Within S) :
      P (s.call around.saved (handle command around.now s.worker)).worker :=
    kept_of_saves hs (hP.handled command around.now s.worker hcommand hs) around.saved
  cases call with
  | updateWorkerStatus status instanceId => exact hhandle (.updateStatus status instanceId) hcall
  | updateWorkerEc2Details details => exact hhandle (.updateEc2Details details) trivial
  | collectAndReportCmlData host =>
      exact hhandle (.updateCmlData around.licenseInfo around.cmlReady) trivial
  | reportLicense report => exact hhandle (.reportLicense report) trivial
  | drainWorker reason requestedBy => exact hhandle (.drain reason requestedBy) trivial
  | detectWorkerIdle events => exact hP.detect hs around.idle around.faults around.now events
  | completeWorkerSync =>
      show P (if around.saved = 0 then s else { s with pendingSync := none }).worker
      split <;> exact hs
  | _ => exact hs

/-- A pass began on a record with `P`, it is where its answers have brought it, and each of these
is one of `A`. -/
structure Begun (P : CMLWorkerState → Prop) (A : WorkerAnswer → Prop) (t : SitePass) : Prop where
  request : ∃ settings iso ports s, P s ∧ t.request = (settings, view iso ports s)
  reaches : (passBody t.request).Reaches t.trace t.program
  answers : ∀ answer ∈ t.trace, A answer

/-- Each call of a pass was justified by the answers before it. -/
theorem Begun.justified {P : CMLWorkerState → Prop} {A : WorkerAnswer → Prop} {t : SitePass}
    (h : Begun P A t) {answer : WorkerAnswer} (hanswer : answer ∈ t.trace) :
    ∃ past, (∀ earlier ∈ past, A earlier) ∧ Justified t.request.1 t.request.2 past answer.1 := by
  obtain ⟨past, after, htrace⟩ := List.append_of_mem hanswer
  have hreaches := h.reaches
  rw [htrace] at hreaches
  obtain ⟨k, hbefore⟩ := hreaches.before
  refine ⟨past, fun earlier hearlier => h.answers earlier ?_, ?_⟩
  · rw [htrace]
    exact List.mem_append_left _ hearlier
  · exact reconcile_justified t.request.1 t.request.2 past answer.1 k hbefore

/-- The record is one with `P`, and so were those that the passes began on. -/
structure SiteInvariant (P : CMLWorkerState → Prop) (A : WorkerAnswer → Prop) (w : Site) :
    Prop where
  record : P w.state.worker
  threads : ∀ t ∈ w.threads, Begun P A t

/-- The surroundings of every call are fair. -/
def fairly (Fair : Surroundings → Prop) (_ : Site) : SiteAction → Prop
  | .turn _ around => Fair around
  | _ => True

theorem siteInvariant_step (hP : SaveInvariant (fun _ => True) P) {Fair : Surroundings → Prop}
    {A : WorkerAnswer → Prop}
    (hA : ∀ around s call, Fair around → A ⟨call, (access around s call).1⟩)
    {w w' : Site} {action : SiteAction} (hw : SiteInvariant P A w) (hfair : fairly Fair w action)
    (hstep : siteStep w action = some w') : SiteInvariant P A w' := by
  cases action with
  | command command now saved =>
      have hcommand : command.Within fun _ => True := by cases command <;> trivial
      simp only [siteStep] at hstep
      split at hstep
      · cases hstep
      · cases hstep
        exact ⟨kept_of_saves hw.record
          (hP.handled command now w.state.worker hcommand hw.record) saved, hw.threads⟩
  | beginPass settings iso ports =>
      cases hstep
      refine ⟨hw.record, fun t ht => ?_⟩
      rcases List.mem_append.mp ht with ht | ht
      · exact hw.threads t ht
      · obtain rfl := List.mem_singleton.mp ht
        exact ⟨⟨settings, iso, ports, w.state.worker, hw.record, rfl⟩, rfl, List.forall_mem_nil _⟩
  | turn i around =>
      obtain ⟨request, call, k, trace, hthread, rfl⟩ := advance_cases hstep
      have hcall : call.Within fun _ => True := by cases call <;> trivial
      refine ⟨hP.access hw.record around hcall, fun t ht => ?_⟩
      rcases List.mem_or_eq_of_mem_set ht with ht | rfl
      · exact hw.threads t ht
      · have hbefore := hw.threads _ (List.mem_of_getElem? hthread)
        refine ⟨hbefore.request, hbefore.reaches.step _, fun answer hanswer => ?_⟩
        rcases List.mem_append.mp hanswer with hanswer | hanswer
        · exact hbefore.answers answer hanswer
        · obtain rfl := List.mem_singleton.mp hanswer
          exact hA around w.state call hfair

/-- With nothing asked of the surroundings. -/
theorem siteInvariant_step_any (hP : SaveInvariant (fun _ => True) P) {w w' : Site}
    {action : SiteAction} (hw : SiteInvariant P (fun _ => True) w)
    (hstep : siteStep w action = some w') : SiteInvariant P (fun _ => True) w' := by
  have hfair : fairly (fun _ => True) w action := by cases action <;> trivial
  exact siteInvariant_step hP (fun _ _ _ _ => trivial) hw hfair hstep

/-- **What every save keeps holds of the record in every run**, and what fair surroundings make
of the answers holds of those that the passes got. -/
theorem site_invariant (hP : SaveInvariant (fun _ => True) P) {Fair : Surroundings → Prop}
    {A : WorkerAnswer → Prop}
    (hA : ∀ around s call, Fair around → A ⟨call, (access around s call).1⟩)
    {s : WorkerSite} {w : Site} {acts : List SiteAction}
    (h : Run siteStep (fairly Fair) (.alone s) acts w) (hs : P s.worker) :
    SiteInvariant P A w :=
  h.invariant (fun _ _ _ hw hfair hstep => siteInvariant_step hP hA hw hfair hstep)
    ⟨hs, List.forall_mem_nil _⟩

/-- With nothing asked of the surroundings. -/
theorem site_invariant_any (hP : SaveInvariant (fun _ => True) P) {s : WorkerSite} {w : Site}
    {acts : List SiteAction} (h : Run siteStep anyAction (.alone s) acts w) (hs : P s.worker) :
    SiteInvariant P (fun _ => True) w :=
  h.invariant (fun _ _ _ hw _ hstep => siteInvariant_step_any hP hw hstep)
    ⟨hs, List.forall_mem_nil _⟩

/-- Nothing is asked of the record. -/
theorem true_saves : SaveInvariant S fun _ => True :=
  ⟨fun _ _ _ _ _ _ _ => trivial, fun _ _ _ _ _ => trivial⟩

end SaveInvariant

/-- What the events of the commands keep, every save keeps. -/
theorem saveInvariant_of_raises {S : CMLWorkerStatus → Prop} {P : CMLWorkerState → Prop}
    (hP : ∀ command, command.Within S → RaiseInvariant command P) : SaveInvariant S P where
  handled := fun command now _ hcommand h => (hP command hcommand).saves h now
  activity := fun _ _ _ s h => (hP .requestRefresh trivial).raise (w := load s) h trivial

/-! ## §3. The history. -/

/-- The history of the record is one chain. -/
def CMLWorkerState.ChainedHistory (s : CMLWorkerState) : Prop := Chained s.stateHistory s.status

theorem chained_saves : SaveInvariant (fun _ => True) CMLWorkerState.ChainedHistory := by
  refine saveInvariant_of_raises fun command _ =>
    ⟨fun s event hevent h => ?_, fun _ _ _ h => h, fun _ _ h => h⟩
  refine chained_on h ?_
  cases event with
  | created => exact hevent.elim
  | imported => exact hevent.elim
  | statusUpdated => exact hevent.1
  | _ => trivial

/-- How a record comes into being. -/
inductive Born : CMLWorkerState → Prop where
  | created (workerId name awsRegion : String) (instanceType createdBy : Option String)
      (now : Int) : Born (CMLWorker.create workerId name awsRegion instanceType createdBy now).state
  | imported (workerId name awsRegion awsInstanceId : String) (details : Ec2Details)
      (instanceState : String) (createdBy : Option String) (now : Int) :
      Born (CMLWorker.importFromExistingInstance workerId name awsRegion awsInstanceId details
        instanceState createdBy now).state

/-- **The history of a worker is one chain**: it leads from its creation, status by status, to the
status that it has, after any commands and any number of overlapping passes. -/
theorem chained_run {s : CMLWorkerState} (hs : Born s) {acts : List SiteAction} {w : Site}
    (h : Run siteStep anyAction (.alone { worker := s }) acts w) :
    Chained w.state.worker.stateHistory w.state.worker.status := by
  have hborn : s.ChainedHistory := by
    cases hs with
    | created => exact .first rfl
    | imported => exact .first rfl
  exact (site_invariant_any chained_saves h hborn).record

/-- A worker runs; one pass is under way when it is stopped, a second one takes that up, and a
bulk import finds the instance stopped. -/
def overlappingPasses : List SiteAction :=
  let settings : ControllerSettings :=
    { awsRegion := "us-east-1", awsRegionConfigs := Dict.empty }
  [.command (.updateStatus .running (some "i-1")) 5 2, .beginPass settings toString {},
    .command (.stop none false none) 7 1, .beginPass settings toString {},
    .turn 0 (.calm 8), .turn 1 (.calm 9), .turn 1 (.calm 10),
    .command (.syncRegistered { instanceId := some "i-1", state := "stopped" }) 11 1,
    .turn 0 (.calm 12), .turn 0 (.calm 13)]

theorem chained_run_overlapping :
    ∃ w, Run siteStep anyAction
        (.alone { worker :=
          (CMLWorker.create "w-1" "worker" "us-east-1" (some "m5zn.metal") none 0).state })
        overlappingPasses w
      ∧ w.state.worker.stateHistory.map (fun entry => entry.toState)
          = [.pending, .running, .stopping, .stopped]
      ∧ Chained w.state.worker.stateHistory w.state.worker.status := by
  have hrun : (exec siteStep (fun _ _ => true) overlappingPasses
      (.alone { worker :=
        (CMLWorker.create "w-1" "worker" "us-east-1" (some "m5zn.metal") none 0).state })).map
        (fun w => w.state.worker.stateHistory.map fun entry => entry.toState)
      = some [.pending, .running, .stopping, .stopped] := by decide
  obtain ⟨w, hw, hhistory⟩ := Option.map_eq_some_iff.mp hrun
  have run := exec_run (fun _ _ _ => trivial) overlappingPasses .nil hw
  exact ⟨w, run, hhistory,
    chained_run (.created "w-1" "worker" "us-east-1" (some "m5zn.metal") none 0) run⟩

end CmlCloudManager.Worker
