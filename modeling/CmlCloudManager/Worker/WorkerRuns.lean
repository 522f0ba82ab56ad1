/-
  CmlCloudManager.Worker.WorkerRuns
  ─────────────────────────────────
  **WHAT NO RUN ON A WORKER DOES.**

  Three promises of the API that no pass ever keeps, whatever the interleaving of
  commands and passes and whatever the parties answer.

    • `license_unreached`  — no licence operation reaches CML: the request raises, and
                             the view has no pending operation,
    • `drain_unreached`    — no idle worker is drained for a scale-down: the detection
                             that finds it eligible has paused it already,
    • `termination_lost`   — after a termination or a soft delete the instance is not
                             even looked at: the command itself puts the worker into a
                             status that no pass tends.
-/
import CmlCloudManager.Worker.WorkerSite

namespace CmlCloudManager.Worker

open CmlCloudManager.Foundation
open CmlCloudManager.ControlPlane (CMLWorkerStatus CMLWorkerStatus.value givenText)
open CmlCloudManager.Scheduler (ReconciliationResult)

/-! ## §1. The licence. -/

/-- The call is a part of a licence operation. -/
def WorkerCall.ofLicense : WorkerCall → Bool
  | .reportLicense _ => true
  | .registerLicense .. => true
  | .deregisterLicense .. => true
  | _ => false

/-- Nothing is pending for the licence. -/
def CMLWorkerState.NoneRequested (s : CMLWorkerState) : Prop :=
  s.license.pendingOperation = none ∧ s.license.pendingToken = none

theorem reportedLicense_pending (license : CMLLicense) (info : Option LicenseInfo) :
    (CMLWorkerState.reportedLicense license info).pendingOperation = license.pendingOperation
      ∧ (CMLWorkerState.reportedLicense license info).pendingToken = license.pendingToken := by
  unfold CMLWorkerState.reportedLicense
  cases info with
  | none => exact ⟨rfl, rfl⟩
  | some info =>
      dsimp only
      cases givenText info.registrationStatus with
      | none => exact ⟨rfl, rfl⟩
      | some regStatus =>
          dsimp only
          split
          · exact ⟨rfl, rfl⟩
          split <;> exact ⟨rfl, rfl⟩

theorem noneRequested_on {command : WorkerCommand} {s : CMLWorkerState} (h : s.NoneRequested)
    {event : WorkerEvent} (hevent : event.By command s) : (s.on event).NoneRequested := by
  cases event with
  | licenseRegistrationRequested => exact hevent.elim
  | licenseDeregistrationRequested => exact hevent.elim
  | statusUpdated old new now init =>
      have hsame := CMLWorkerState.afterStatus_sameSpec
        (CMLWorkerState.recordTransition { s with status := new } (some old) new now) new now init
      unfold CMLWorkerState.NoneRequested CMLWorkerState.on
      rw [hsame.license]
      exact h
  | terminated now by' =>
      unfold CMLWorkerState.NoneRequested CMLWorkerState.on CMLWorkerState.recordTransition
      dsimp only
      rw [(CMLWorkerState.computeDuration_sameSpec _).license]
      exact h
  | cmlMetricsUpdated info now =>
      obtain ⟨hoperation, htoken⟩ := reportedLicense_pending s.license info
      exact ⟨hoperation.trans h.1, htoken.trans h.2⟩
  | licenseRegistrationCompleted => exact ⟨rfl, rfl⟩
  | licenseRegistrationFailed => exact ⟨rfl, rfl⟩
  | licenseDeregistrationCompleted => exact ⟨rfl, rfl⟩
  | licenseDeregistrationFailed => exact ⟨rfl, h.2⟩
  | _ => exact h

theorem noneRequested_saves : SaveInvariant (fun _ => True) CMLWorkerState.NoneRequested :=
  saveInvariant_of_raises fun _ _ =>
    ⟨fun _ _ hevent h => noneRequested_on h hevent, fun _ _ _ h => h, fun _ _ h => h⟩

/-- A pass works on a view, and there no operation is pending. -/
theorem Begun.notOfLicense {P : CMLWorkerState → Prop} {A : WorkerAnswer → Prop} {t : SitePass}
    (h : Begun P A t) {answer : WorkerAnswer} (hanswer : answer ∈ t.trace) :
    answer.1.ofLicense = false := by
  obtain ⟨settings, iso, ports, s, -, hrequest⟩ := h.request
  obtain ⟨past, -, hjustified⟩ := h.justified hanswer
  rw [hrequest] at hjustified
  have hnone (operation : String) : ¬LicensePending (view iso ports s) operation := by
    intro hpending
    have hoperation := hpending.2
    rw [view_license] at hoperation
    cases hoperation
  obtain ⟨call, r⟩ := answer
  cases call with
  | reportLicense report => exact (hnone _ hjustified.1).elim
  | registerLicense => exact (hnone _ hjustified.1).elim
  | deregisterLicense => exact (hnone _ hjustified.1).elim
  | _ => rfl

/-- **No licence operation is ever pending, and none reaches CML.** -/
theorem license_unreached {s : CMLWorkerState} (hs : Born s) {acts : List SiteAction} {w : Site}
    (h : Run siteStep anyAction (.alone { worker := s }) acts w) :
    w.state.worker.NoneRequested
      ∧ ∀ t ∈ w.threads, ∀ answer ∈ t.trace, answer.1.ofLicense = false := by
  have hborn : s.NoneRequested := by cases hs <;> exact ⟨rfl, rfl⟩
  have hw := site_invariant_any noneRequested_saves h hborn
  exact ⟨hw.record, fun t ht answer hanswer => (hw.threads t ht).notOfLicense hanswer⟩

/-- A licence is requested for a worker that was created, and a pass asks for the sync. -/
theorem license_unreached_requested :
    let s := (CMLWorker.create "w-1" "worker" "us-east-1" (some "m5zn.metal") none 0).state
    s.NoneRequested
      ∧ ∀ answer ∈ ([⟨.getPendingSync, none⟩] : WorkerTrace), answer.1.ofLicense = false := by
  intro s
  have h := license_unreached (.created "w-1" "worker" "us-east-1" (some "m5zn.metal") none 0)
    (.snoc (.snoc (.snoc .nil trivial rfl) trivial rfl) trivial rfl :
      Run siteStep anyAction (.alone { worker := s })
        [.command (.registerLicense "token" false) 5 1,
          .beginPass { awsRegion := "us-east-1", awsRegionConfigs := Dict.empty } toString {},
          .turn 0 (.outage 6)] _)
  exact ⟨h.1, h.2 _ (List.mem_singleton_self _)⟩

/-! ## §2. The scale-down. -/

/-- A detection that found the worker eligible paused it, or says that it could not. -/
def HonestDetection : WorkerAnswer → Prop
  | ⟨.detectWorkerIdle _, .ok result⟩ =>
      result.eligibleForPause = true →
        result.autoPauseTriggered = true ∨ (givenText result.error).isSome = true
  | _ => True

/-- The request for a pause does not raise without a text. -/
def PauseSpeaks (around : Surroundings) : Prop := around.faults.pause ≠ some (.raises "")

theorem access_honest (around : Surroundings) (s : WorkerSite) (call : WorkerCall)
    (h : PauseSpeaks around) : HonestDetection ⟨call, (access around s call).1⟩ := by
  cases call with
  | detectWorkerIdle events =>
      unfold access
      dsimp only
      cases around.lost with
      | some raised => trivial
      | none =>
          intro heligible
          rcases detect_eligible around.idle heligible with htriggered | herror | hsilent
          · exact .inl htriggered
          · exact .inr herror
          · exact absurd hsilent h
  | _ => trivial

/-- **No pass ever drains a worker**: a worker that a pass may drain was found idle and left
alone, and a detection that is honest leaves no such worker. -/
theorem drain_unreached {s : WorkerSite} {acts : List SiteAction} {w : Site}
    (h : Run siteStep (fairly PauseSpeaks) (.alone s) acts w) :
    ∀ t ∈ w.threads, ∀ answer ∈ t.trace, ∀ reason requestedBy,
      answer.1 ≠ .drainWorker reason requestedBy := by
  intro t ht answer hanswer reason requestedBy hdrain
  have hw := site_invariant true_saves access_honest h trivial
  obtain ⟨past, hpast, hjustified⟩ := (hw.threads t ht).justified hanswer
  rw [hdrain] at hjustified
  obtain ⟨-, -, -, ⟨events, result, hdetected, heligible, hleft, herror⟩, -⟩ := hjustified
  rcases hpast _ hdetected heligible with htriggered | hfailed
  · rw [htriggered] at hleft
    cases hleft
  · rw [hfailed] at herror
    cases herror

/-- The check of `PauseSpeaks` for runs in which no pause goes wrong. -/
def pauseSpeaks (_ : Site) : SiteAction → Bool
  | .turn _ around => around.faults.pause.isNone
  | _ => true

theorem pauseSpeaks_sound (w : Site) (action : SiteAction) (h : pauseSpeaks w action = true) :
    fairly PauseSpeaks w action := by
  cases action with
  | turn i around =>
      have hnone : around.faults.pause = none := Option.isNone_iff_eq_none.mp h
      show around.faults.pause ≠ some (.raises "")
      rw [hnone]
      exact nofun
  | _ => trivial

/-- A pass with the scale-down enabled goes over a worker that nobody uses. -/
def idlePass : List SiteAction :=
  let settings : ControllerSettings :=
    { awsRegion := "us-east-1", awsRegionConfigs := Dict.empty, scaleDownEnabled := true }
  [.beginPass settings toString {}, .turn 0 (.calm 7200), .turn 0 (.calm 7201),
    .turn 0 (.calm 7202), .turn 0 (.calm 7203), .turn 0 (.calm 7204), .turn 0 (.calm 7205)]

/-- The detection pauses the worker, and the pass does not drain it. -/
theorem drain_unreached_paused :
    ∃ w, Run siteStep (fairly PauseSpeaks)
        (.alone { worker :=
          { createdAt := 0, updatedAt := 0, status := .running, awsInstanceId := some "i-1",
            publicIp := some "3.0.0.1" } }) idlePass w
      ∧ w.state.worker.manualPauseCount = 1
      ∧ ∀ t ∈ w.threads, ∀ answer ∈ t.trace, ∀ reason requestedBy,
        answer.1 ≠ .drainWorker reason requestedBy := by
  have hrun : (exec siteStep pauseSpeaks idlePass
      (.alone { worker :=
        { createdAt := 0, updatedAt := 0, status := .running, awsInstanceId := some "i-1",
          publicIp := some "3.0.0.1" } })).map (fun w => w.state.worker.manualPauseCount)
      = some 1 := by decide +kernel
  obtain ⟨w, hw, hpaused⟩ := Option.map_eq_some_iff.mp hrun
  have run := exec_run pauseSpeaks_sound idlePass .nil hw
  exact ⟨w, run, hpaused, drain_unreached run⟩

/-! ## §3. The end of a worker. -/

/-- The commands that neither ask for a sync nor report what EC2 says. -/
def WorkerCommand.Ordinary : WorkerCommand → Prop
  | .requestSync .. => False
  | .updateStatus .. => False
  | .syncRegistered _ => False
  | _ => True

/-- The action is not such a command. -/
def ordinarily (_ : Site) : SiteAction → Prop
  | .command command .. => command.Ordinary
  | _ => True

/-- A pass that has asked for a sync request at most, and is over when there is none. -/
structure Idle (t : SitePass) : Prop where
  trace : ∀ answer ∈ t.trace, answer.1 = .getPendingSync
  next : (∃ result, t.program = .done result)
    ∨ ∃ k : Option SyncRequest → WorkerProgram ReconciliationResult,
        t.program = .await .getPendingSync k ∧ ∃ result, k none = .done result

/-- Nobody tends the worker, and nobody has asked to. -/
structure Forsaken (w : Site) : Prop where
  status : Untended w.state.worker.status
  sync : w.state.pendingSync = none
  threads : ∀ t ∈ w.threads, Idle t

/-- No event of an ordinary command brings the worker back. -/
theorem untended_raised {command : WorkerCommand} (h : command.Ordinary) :
    RaiseInvariant command fun s => Untended s.status := by
  refine ⟨fun s event hevent hs => ?_, fun _ _ _ hs => hs, fun _ _ hs => hs⟩
  cases event with
  | created => exact hevent.elim
  | imported => exact hevent.elim
  | terminated =>
      simp only [CMLWorkerState.on, CMLWorkerState.recordTransition_status,
        CMLWorkerState.computeDuration_status]
      exact .inr (.inl rfl)
  | statusUpdated old new now init =>
      simp only [CMLWorkerState.on, CMLWorkerState.afterStatus_status,
        CMLWorkerState.recordTransition_status]
      have hsets := hevent.2
      cases command with
      | delete => exact .inl hsets
      | drain =>
          rw [hsets.1] at hs
          rcases hs with h | h | h | h <;> cases h
      | updateStatus => exact h.elim
      | syncRegistered => exact h.elim
      | _ => exact hsets.elim
  | _ => exact hs

theorem forsaken_step {w w' : Site} {action : SiteAction} (hw : Forsaken w)
    (hordinary : ordinarily w action) (hstep : siteStep w action = some w') : Forsaken w' := by
  cases action with
  | command command now saved =>
      simp only [siteStep] at hstep
      split at hstep
      · cases hstep
      · cases hstep
        have hsaves := (untended_raised hordinary).saves hw.status now
        refine ⟨kept_of_saves hw.status hsaves saved, ?_, hw.threads⟩
        have hnone : requestedSync command (handle command now w.state.worker) = none := by
          cases command <;> first | rfl | exact hordinary.elim
        show (if saved = 0 then none else _).or w.state.pendingSync = none
        rw [hnone, ite_self, hw.sync]
        rfl
  | beginPass settings iso ports =>
      cases hstep
      refine ⟨hw.status, hw.sync, fun t ht => ?_⟩
      rcases List.mem_append.mp ht with ht | ht
      · exact hw.threads t ht
      · obtain rfl := List.mem_singleton.mp ht
        have hview : (view iso ports w.state.worker).status
            = CMLWorkerStatus.value w.state.worker.status := by
          rw [view_eq]
        obtain ⟨k, hprogram, hk⟩ := dead_reconcile settings hview hw.status
        exact ⟨List.forall_mem_nil _, .inr ⟨k, hprogram, _, hk⟩⟩
  | turn i around =>
      obtain ⟨request, call, k, trace, hthread, rfl⟩ := advance_cases hstep
      have hidle := hw.threads _ (List.mem_of_getElem? hthread)
      rcases hidle.next with ⟨result, hdone⟩ | ⟨k', hawait, result, hresult⟩
      · cases hdone
      -- the pass asks for a sync request, and there is none
      obtain ⟨rfl, hk⟩ := Resumption.await.inj hawait
      obtain rfl := eq_of_heq hk
      have hanswer : (access around w.state .getPendingSync).1 = none := by
        show (if around.lost.isSome then none else w.state.pendingSync) = none
        rw [hw.sync, ite_self]
      refine ⟨hw.status, hw.sync, fun t ht => ?_⟩
      rcases List.mem_or_eq_of_mem_set ht with ht | rfl
      · exact hw.threads t ht
      · refine ⟨fun answer hmem => ?_, .inl ⟨result, ?_⟩⟩
        · rcases List.mem_append.mp hmem with hmem | hmem
          · exact hidle.trace answer hmem
          · obtain rfl := List.mem_singleton.mp hmem
            rfl
        · show k (access around w.state .getPendingSync).1 = _
          rw [hanswer, hresult]

/-- The commands that are to end a worker, without a hard delete. -/
def WorkerCommand.EndsWorker : WorkerCommand → Prop
  | .terminate .. => True
  | .delete forceHardDelete _ => forceHardDelete = false
  | _ => False

/-- Where such a command changes the worker, it puts it into a status that nobody tends. -/
theorem untended_of_ends {command : WorkerCommand} (h : command.EndsWorker) {now : Int}
    {s : CMLWorkerState} (hsaves : (handle command now s).saves ≠ []) :
    Untended ((handle command now s).after s).status := by
  cases command with
  | terminate terminatedBy reason =>
      simp only [handle, terminateCMLWorker] at hsaves ⊢
      split at hsaves
      · cases hsaves rfl
      next hstatus =>
        split at hsaves
        · cases hsaves rfl
        next hdesired =>
          rw [if_neg hstatus, if_neg hdesired]
          exact .inr (.inl (CMLWorker.terminate_status ..))
  | delete forceHardDelete deletedBy =>
      obtain rfl : forceHardDelete = false := h
      simp only [handle, deleteCMLWorker] at hsaves ⊢
      split at hsaves
      · cases hsaves rfl
      next hstatus =>
        rw [if_neg hstatus]
        cases givenText s.awsInstanceId with
        | some _ => exact .inl (CMLWorker.updateStatus_status ..)
        | none => exact .inr (.inl (CMLWorker.terminate_status ..))
  | _ => exact h.elim

/-- **A termination is never carried out**: after a terminate or a soft delete that changed the
worker, no pass in any run of ordinary commands does more than to ask for a sync request. -/
theorem termination_lost {s : CMLWorkerState} {command : WorkerCommand}
    (hends : command.EndsWorker) {now : Int} (hsaves : (handle command now s).saves ≠ [])
    {acts : List SiteAction} {w : Site}
    (h : Run siteStep ordinarily (.alone { worker := (handle command now s).after s }) acts w) :
    ∀ t ∈ w.threads, ∀ answer ∈ t.trace, answer.1 = .getPendingSync := by
  have hstart : Forsaken (.alone { worker := (handle command now s).after s }) :=
    ⟨untended_of_ends hends hsaves, rfl, List.forall_mem_nil _⟩
  have hend := h.invariant (fun _ _ _ => forsaken_step) hstart
  exact fun t ht => (hend.threads t ht).trace

/-- A worker that runs is terminated and started again; a pass asks for a sync request. -/
theorem termination_lost_running :
    let s : CMLWorkerState :=
      { createdAt := 0, updatedAt := 0, status := .running, awsInstanceId := some "i-1" }
    ∃ w, Run siteStep ordinarily
        (.alone { worker := (handle (.terminate (some "admin") none) 4 s).after s })
        [.beginPass { awsRegion := "us-east-1", awsRegionConfigs := Dict.empty } toString {},
          .command (.start none false none) 5 1, .turn 0 (.outage 6)] w
      ∧ ∀ t ∈ w.threads, ∀ answer ∈ t.trace, answer.1 = .getPendingSync := by
  intro s
  have hends : (WorkerCommand.terminate (some "admin") none).EndsWorker := trivial
  have hsaves : (handle (.terminate (some "admin") none) 4 s).saves ≠ [] := List.cons_ne_nil _ _
  have hrun : Run siteStep ordinarily
      (.alone { worker := (handle (.terminate (some "admin") none) 4 s).after s })
      [.beginPass { awsRegion := "us-east-1", awsRegionConfigs := Dict.empty } toString {},
        .command (.start none false none) 5 1, .turn 0 (.outage 6)] _ :=
    .snoc (.snoc (.snoc .nil trivial rfl) trivial rfl) trivial rfl
  exact ⟨_, hrun, termination_lost hends hsaves hrun⟩

end CmlCloudManager.Worker
