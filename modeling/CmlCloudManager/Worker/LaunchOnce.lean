/-
  CmlCloudManager.Worker.LaunchOnce
  ─────────────────────────────────
  **ONE LAUNCH FOR A WORKER.**

  A pending worker is launched by the pass that finds it pending, and the first thing
  that this pass does afterwards is to report a status.  While the passes over a worker
  do not overlap, and the reports of a status are handled, the worker is pending for no
  later pass: an instance is asked for once at most, also if the answer of EC2, or the
  one to the report, is lost.

    • `reconcile_reports` — after the request for an instance a pass reports a status,
    • `launch_once`       — over the life of a worker at most one instance is asked for.
-/
import CmlCloudManager.Worker.WorkerSite

namespace CmlCloudManager.Worker

open CmlCloudManager.Foundation
open CmlCloudManager.Foundation.Resumption
open CmlCloudManager.ControlPlane (CMLWorkerStatus CMLWorkerStatus.value givenText)
open CmlCloudManager.Scheduler (ReconciliationResult)

/-! ## §1. The report after a launch. -/

/-- The call asks for an instance. -/
def WorkerCall.launches : WorkerCall → Prop
  | .runInstance _ => True
  | _ => False

/-- The call reports a status other than PENDING. -/
def WorkerCall.reportsStatus : WorkerCall → Prop
  | .updateWorkerStatus status _ => status ≠ .pending
  | _ => False

/-- After a launch the program reports. -/
abbrev Reports {α : Type} (p : WorkerProgram α) : Prop :=
  Followed WorkerCall.launches WorkerCall.reportsStatus p

section Reports

variable (settings : ControllerSettings) (worker : CMLWorkerReadModel)

theorem reports_andThen {α β : Type} {p : Raising α} {f : α → Raising β} (hp : Reports p)
    (hf : ∀ a, Reports (f a)) : Reports (p.andThen f) := by
  refine hp.bind fun out => ?_
  cases out with
  | error raised => trivial
  | ok a => exact hf a

/-- A call that asks for no instance. -/
theorem reports_call {call : WorkerCall} (h : ¬call.launches) : Reports (Resumption.call call) :=
  fun _ => ⟨trivial, fun hcall => absurd hcall h⟩

theorem plain_reports {α : Type} {p : WorkerProgram α} (hp : Only WorkerCall.Plain p) :
    Reports p := by
  refine (hp.mono fun call hcall => ?_).followed
  cases call <;> first | exact id | exact hcall.elim

theorem handleSyncRequest_reports (sync : SyncRequest) :
    Reports (handleSyncRequest worker sync) := by
  obtain ⟨hcml, hlabs, hcomplete⟩ := syncRest_plain worker sync
  have hinstance : Reports (syncInstance worker sync) := by
    unfold syncInstance
    cases givenText worker.ec2InstanceId with
    | none => trivial
    | some instanceId =>
        dsimp only
        split
        next =>
          refine Followed.bind ?_ fun _ => trivial
          refine reports_andThen (reports_call id) fun state => ?_
          cases state with
          | none => trivial
          | some state =>
              have hdetails := plain_reports
                ((reportEc2Details_aside state).mono fun _ h => h.1)
              refine hdetails.bind fun _ => ?_
              split
              · exact reports_call id
              · trivial
        next => trivial
  unfold handleSyncRequest
  refine reports_andThen hinstance fun _ => ?_
  exact plain_reports
    (hcml.andThen fun _ => hlabs.andThen fun _ => hcomplete.andThen fun _ => trivial)

theorem failed_ne : CMLWorkerStatus.failed ≠ .pending := by decide

theorem provisioning_ne : CMLWorkerStatus.provisioning ≠ .pending := by decide

/-- The launch itself: PROVISIONING is reported where it went through, FAILED where it did not. -/
theorem handlePending_reports : Reports (handlePending settings worker) := by
  have hgive (result : Except String ReconciliationResult) : Reports
      (tryExcept (.done result) fun raised =>
        (putStatus .failed).bind fun _ => give (ReconciliationResult.failed raised)) := by
    cases result with
    | ok result => trivial
    | error raised =>
        have hreport : Reports (putStatus .failed) := reports_call id
        exact hreport.bind (f := fun _ => give (ReconciliationResult.failed raised))
          fun _ => trivial
  have hput (instanceId : String) : Reports
      (tryExcept ((putStatus .provisioning (some instanceId)).andThen fun _ =>
          give (ReconciliationResult.requeue "EC2 instance launched, waiting for running state"
            none))
        fun raised =>
          (putStatus .failed).bind fun _ => give (ReconciliationResult.failed raised)) := by
    refine fun r => ⟨?_, fun h => h.elim⟩
    cases r with
    | ok _ => trivial
    | error raised => exact hgive (.error raised)
  unfold handlePending provision
  cases givenText worker.templateName with
  | none => trivial
  | some templateName =>
      refine fun answer => ⟨?_, fun h => h.elim⟩
      rcases answer with raised | _ | template
      · exact hgive (.error raised)
      · trivial
      dsimp only [Resumption.bind]
      cases (givenText template.instanceType).or (givenText worker.instanceType) with
      | none => trivial
      | some instanceType =>
          dsimp only
          cases settings.awsRegionConfigs.get?
              ((givenText worker.awsRegion).getD settings.awsRegion) with
          | none => trivial
          | some config =>
              dsimp only
              split
              · trivial
              split
              · trivial
              cases (givenText template.amiNamePattern).or (givenText worker.amiName) with
              | none => trivial
              | some amiName =>
                  refine fun answer => ⟨?_, fun h => h.elim⟩
                  rcases answer with raised | _ | ⟨amiId, _⟩
                  · exact hgive (.error raised)
                  · trivial
                  refine fun answer => ?_
                  -- whatever EC2 answers, a status is reported next
                  rcases answer with raised | instanceId
                  · exact ⟨hgive (.error raised), fun _ => ⟨_, _, rfl, failed_ne⟩⟩
                  · exact ⟨hput instanceId, fun _ => ⟨_, _, rfl, provisioning_ne⟩⟩

/-- **After the request for an instance a pass reports a status.** -/
theorem reconcile_reports (hpending : worker.status = CMLWorkerStatus.pending.value) :
    Reports (reconcile settings worker) := by
  have hroute : routeByStatus settings worker = handlePending settings worker := by
    unfold routeByStatus
    rw [if_pos hpending]
  unfold reconcile
  refine Followed.bind (Followed.bind (reports_call id) fun sync => ?_) fun out => ?_
  · cases sync with
    | none =>
        show Reports (routeByStatus settings worker)
        rw [hroute]
        exact handlePending_reports settings worker
    | some sync => exact handleSyncRequest_reports worker sync
  · cases out <;> trivial

end Reports

/-! ## §2. The passes over a worker. -/

/-- How often the trace asks for an instance. -/
def launchesOf (trace : WorkerTrace) : Nat :=
  trace.countP fun answer =>
    match answer.1 with
    | .runInstance _ => true
    | _ => false

/-- How often an instance was asked for. -/
def Site.launches (w : Site) : Nat := (w.threads.map fun t => launchesOf t.trace).sum

/-- The passes do not overlap, a status report of a pass is handled, and PENDING is set by nobody
else. -/
def Orderly (w : Site) : SiteAction → Prop
  | .command command _ _ => command.Within (· ≠ .pending)
  | .beginPass .. => ∀ t ∈ w.threads, t.next = none
  | .turn i around =>
      ∀ t, w.threads[i]? = some t → ∀ status instanceId,
        t.next = some (.updateWorkerStatus status instanceId) → 0 < around.saved

theorem launchesOf_snoc (trace : WorkerTrace) (call : WorkerCall) (r : call.Reply) :
    (launchesOf (trace ++ [⟨call, r⟩]) = launchesOf trace + 1 ∧ call.launches)
      ∨ (launchesOf (trace ++ [⟨call, r⟩]) = launchesOf trace ∧ ¬call.launches) := by
  unfold launchesOf
  rw [List.countP_append]
  cases call <;> first | exact .inl ⟨rfl, trivial⟩ | exact .inr ⟨rfl, id⟩

/-- A pass that asked for an instance has changed one. -/
theorem launchesOf_untouched {trace : WorkerTrace} (h : untouched trace = true) :
    launchesOf trace = 0 := by
  unfold launchesOf
  rw [List.countP_eq_zero]
  intro answer hanswer
  have hkept := List.all_eq_true.mp h answer hanswer
  obtain ⟨call, r⟩ := answer
  cases call with
  | runInstance => cases hkept
  | _ => exact Bool.false_ne_true

/-- PENDING is not a status that a pass writes. -/
theorem StatusReason.ne_pending {worker : CMLWorkerReadModel} {past : WorkerTrace}
    {status : CMLWorkerStatus} {instanceId : Option String}
    (h : StatusReason worker past status instanceId) : status ≠ .pending := by
  cases h with
  | @observed _ state =>
      cases state.state <;> decide
  | _ => decide

/-- PENDING is not a status that an import writes either. -/
theorem reportedStatus_ne_pending {state : String} {status : CMLWorkerStatus}
    (h : reportedStatus state = some status) : status ≠ .pending := by
  rintro rfl
  unfold reportedStatus at h
  repeat' split at h
  all_goals cases h

theorem pending_left : SaveInvariant (· ≠ .pending) fun s => s.status ≠ .pending := by
  refine saveInvariant_of_raises fun command hcommand =>
    ⟨fun s event hevent hs => ?_, fun _ _ _ hs => hs, fun _ _ hs => hs⟩
  cases event with
  | created => exact hevent.elim
  | imported => exact hevent.elim
  | terminated =>
      simp only [CMLWorkerState.on, CMLWorkerState.recordTransition_status,
        CMLWorkerState.computeDuration_status]
      decide
  | statusUpdated old new now init =>
      simp only [CMLWorkerState.on, CMLWorkerState.afterStatus_status,
        CMLWorkerState.recordTransition_status]
      have hsets := hevent.2
      cases command with
      | delete =>
          obtain rfl : new = .shuttingDown := hsets
          decide
      | drain =>
          obtain rfl : new = .draining := hsets.2
          decide
      | updateStatus status instanceId =>
          obtain rfl : new = status := hsets
          exact hcommand
      | syncRegistered found => exact reportedStatus_ne_pending hsets
      | _ => exact hsets.elim
  | _ => exact hs

/-- A handler of which at least one save goes through. -/
theorem kept_status {h : Handled} {s : CMLWorkerState} {status : CMLWorkerStatus}
    (hsaves : ∀ t ∈ h.saves, t.status = status) (hnone : h.saves = [] → s.status = status)
    {saved : Nat} (hsaved : 0 < saved) : (h.kept saved s).status = status := by
  unfold Handled.kept
  cases hlast : (h.saves.take saved).getLast? with
  | none =>
      refine hnone ?_
      rcases List.take_eq_nil_iff.mp (List.getLast?_eq_none_iff.mp hlast) with h | h
      · omega
      · exact h
  | some t => exact hsaves t (List.mem_of_mem_take (List.mem_of_getLast? hlast))

/-- A status report that is handled leaves the worker in that status. -/
theorem reported_status (status : CMLWorkerStatus) (instanceId : Option String) (now : Int)
    (s : CMLWorkerState) {saved : Nat} (hsaved : 0 < saved) :
    ((updateWorkerStatus status instanceId now s).kept saved s).status = status := by
  unfold updateWorkerStatus
  split
  next hterminated =>
    subst hterminated
    unfold markWorkerTerminated
    split
    next hstatus => exact kept_status (List.forall_mem_nil _) (fun _ => hstatus) hsaved
    next =>
      refine kept_status (fun t ht => ?_) (fun h => absurd h (List.cons_ne_nil _ _)) hsaved
      obtain rfl := List.mem_singleton.mp ht
      exact CMLWorker.terminate_status ..
  next =>
    have hupdated := CMLWorker.updateStatus_status (load s) status now
    have hfirst : ∀ t ∈ (if s.status = status then []
        else [((load s).updateStatus status now).state]), t.status = status := by
      intro t ht
      split at ht
      · cases ht
      · obtain rfl := List.mem_singleton.mp ht
        exact hupdated
    unfold updateCMLWorkerStatus
    cases givenText instanceId with
    | none =>
        refine kept_status hfirst (fun h => ?_) hsaved
        by_contra hne
        dsimp only at h
        rw [if_neg hne] at h
        cases h
    | some instanceId =>
        refine kept_status (fun t ht => ?_) (fun h => ?_) hsaved
        · rcases List.mem_append.mp ht with ht | ht
          · exact hfirst t ht
          · obtain rfl := List.mem_singleton.mp ht
            exact hupdated
        · exact absurd (List.append_eq_nil_iff.mp h).2 (List.cons_ne_nil _ _)

/-! ## §3. One launch. -/

/-- The pass can ask for no instance any more: it has done so, or the worker was not pending. -/
def Spent (t : SitePass) : Prop :=
  0 < launchesOf t.trace ∨ t.request.2.status ≠ CMLWorkerStatus.pending.value

/-- What holds between the actions of an orderly run. -/
structure Launched (w : Site) : Prop where
  begun : SiteInvariant (fun _ => True) (fun _ => True) w
  /-- only the last pass is under way -/
  last : ∀ i t, w.threads[i]? = some t → t.next ≠ none → i + 1 = w.threads.length
  /-- nothing was launched, or the status has changed since, or it is about to be reported -/
  launched : w.launches = 0
    ∨ (w.launches = 1 ∧ w.state.worker.status ≠ .pending
        ∧ ∀ t ∈ w.threads, t.next ≠ none → Spent t)
    ∨ (w.launches = 1 ∧ ∃ t ∈ w.threads, 0 < launchesOf t.trace
        ∧ ∃ call, t.next = some call ∧ call.reportsStatus)

theorem value_ne_pending {status : CMLWorkerStatus} (h : status ≠ .pending) :
    status.value ≠ CMLWorkerStatus.pending.value := by
  cases status <;> first | exact absurd rfl h | decide

section Launched

variable {w w' : Site}

/-- There is one pass under way at most. -/
theorem Launched.unique (hw : Launched w) {i : Nat} {t t' : SitePass}
    (ht : w.threads[i]? = some t) (hnext : t.next ≠ none) (ht' : t' ∈ w.threads)
    (hnext' : t'.next ≠ none) : t' = t := by
  obtain ⟨j, hj⟩ := List.getElem?_of_mem ht'
  have hi := hw.last i t ht hnext
  have hjlast := hw.last j t' hj hnext'
  obtain rfl : j = i := by omega
  exact Option.some.inj (hj.symm.trans ht)

theorem launched_command (hw : Launched w) {command : WorkerCommand} {now : Int} {saved : Nat}
    (hallowed : command.Within (· ≠ .pending))
    (hstep : siteStep w (.command command now saved) = some w') : Launched w' := by
  have hbegun := siteInvariant_step_any true_saves hw.begun hstep
  simp only [siteStep] at hstep
  split at hstep
  · cases hstep
  cases hstep
  refine ⟨hbegun, hw.last, ?_⟩
  rcases hw.launched with hnone | ⟨hone, hstatus, hspent⟩ | ⟨hone, hreporting⟩
  · exact .inl hnone
  · exact .inr (.inl ⟨hone,
      kept_of_saves hstatus (pending_left.handled command now _ hallowed hstatus) saved, hspent⟩)
  · exact .inr (.inr ⟨hone, hreporting⟩)

theorem launched_begin (hw : Launched w) {settings : ControllerSettings} {iso : Int → String}
    {ports : PortUsage} (hover : ∀ t ∈ w.threads, t.next = none)
    (hstep : siteStep w (.beginPass settings iso ports) = some w') : Launched w' := by
  have hbegun := siteInvariant_step_any true_saves hw.begun hstep
  cases hstep
  have hlaunches : ∀ t : SitePass, launchesOf t.trace = 0 →
      ((w.threads ++ [t]).map fun t => launchesOf t.trace).sum = w.launches := by
    intro t ht
    rw [List.map_append, List.sum_append]
    simp [ht, Site.launches]
  refine ⟨hbegun, fun i t ht hnext => ?_, ?_⟩
  · -- the passes before are over
    rcases Nat.lt_or_ge i w.threads.length with hi | hi
    · rw [List.getElem?_append_left hi] at ht
      exact absurd (hover t (List.mem_of_getElem? ht)) hnext
    · have hlt := (List.getElem?_eq_some_iff.mp ht).1
      simp only [List.length_append, List.length_singleton] at hlt ⊢
      omega
  · rcases hw.launched with hnone | ⟨hone, hstatus, hspent⟩ | ⟨hone, t, ht, -, call, hcall, -⟩
    · exact .inl ((hlaunches _ rfl).trans hnone)
    · refine .inr (.inl ⟨(hlaunches _ rfl).trans hone, hstatus, fun t ht hnext => ?_⟩)
      rcases List.mem_append.mp ht with ht | ht
      · exact hspent t ht hnext
      · obtain rfl := List.mem_singleton.mp ht
        refine .inr ?_
        show (view iso ports w.state.worker).status ≠ _
        rw [view_eq]
        exact value_ne_pending hstatus
    · rw [hover t ht] at hcall
      cases hcall

/-- A pass that asks for an instance has asked for none before, and reports a status next. -/
theorem launch_awaits {settings : ControllerSettings} {worker : CMLWorkerReadModel}
    {trace : WorkerTrace} {call : WorkerCall}
    {k : call.Reply → WorkerProgram ReconciliationResult}
    (h : (reconcile settings worker).Reaches trace (.await call k)) (hlaunch : call.launches) :
    worker.status = CMLWorkerStatus.pending.value ∧ launchesOf trace = 0
      ∧ ∀ r, ∃ e k', k r = .await e k' ∧ e.reportsStatus := by
  have hjustified := reconcile_justified settings worker trace call k h
  obtain ⟨hpending, huntouched⟩ : worker.status = CMLWorkerStatus.pending.value
      ∧ untouched trace = true := by
    cases call <;> first | exact hjustified | exact hlaunch.elim
  refine ⟨hpending, launchesOf_untouched huntouched, fun r => ?_⟩
  have hlaunched : (⟨call, r⟩ : WorkerAnswer).1.launches := hlaunch
  exact (reconcile_reports settings worker hpending).reaches hlaunched (h.step r)

/-- The call of a pass leaves a worker that is not pending so. -/
theorem access_left {settings : ControllerSettings} {worker : CMLWorkerReadModel}
    {trace : WorkerTrace} {call : WorkerCall} (hjustified : Justified settings worker trace call)
    {s : WorkerSite} (hs : s.worker.status ≠ .pending) (around : Surroundings) :
    (access around s call).2.worker.status ≠ .pending := by
  refine pending_left.access hs around ?_
  cases call with
  | updateWorkerStatus => exact hjustified.ne_pending
  | _ => trivial

theorem launched_turn (hw : Launched w) {i : Nat} {around : Surroundings}
    (hallowed : Orderly w (.turn i around)) (hstep : siteStep w (.turn i around) = some w') :
    Launched w' := by
  have hbegun := siteInvariant_step_any true_saves hw.begun hstep
  obtain ⟨request, call, k, trace, hthread, rfl⟩ := advance_cases hstep
  have hreaches := (hw.begun.threads _ (List.mem_of_getElem? hthread)).reaches
  have hjustified := reconcile_justified request.1 request.2 trace call k hreaches
  have hnext : (⟨request, .await call k, trace⟩ : SitePass).next ≠ none := Option.some_ne_none _
  have hilast : i + 1 = w.threads.length := hw.last i _ hthread hnext
  dsimp only at hthread hbegun ⊢
  -- the pass after the call
  obtain ⟨t', ht'⟩ : ∃ t' : SitePass, t' = ⟨request, k (access around w.state call).1,
      trace ++ [⟨call, (access around w.state call).1⟩]⟩ := ⟨_, rfl⟩
  rw [← ht'] at hbegun ⊢
  have htrace : t'.trace = trace ++ [⟨call, (access around w.state call).1⟩] := by rw [ht']
  have hsum := sum_map_set_add (fun t : SitePass => launchesOf t.trace) hthread t'
  have hsites : Site.launches ⟨(access around w.state call).2, w.threads.set i t'⟩
      + launchesOf trace = w.launches + launchesOf t'.trace := hsum
  have hat : (w.threads.set i t')[i]? = some t' := List.getElem?_set_self (by omega)
  have hlast : ∀ j t, (w.threads.set i t')[j]? = some t → t.next ≠ none → j = i := by
    intro j t ht htnext
    by_contra hj
    rw [List.getElem?_set_ne (Ne.symm hj)] at ht
    have hjlast := hw.last j t ht htnext
    omega
  -- no other pass is under way
  have hspent (h : Spent t') : ∀ t ∈ w.threads.set i t', t.next ≠ none → Spent t := by
    intro t ht htnext
    obtain ⟨j, hj⟩ := List.getElem?_of_mem ht
    obtain rfl := hlast j t hj htnext
    obtain rfl := Option.some.inj (hj.symm.trans hat)
    exact h
  refine ⟨hbegun, fun j t ht htnext => ?_, ?_⟩
  · rw [hlast j t ht htnext, List.length_set]
    exact hilast
  have hcounts := launchesOf_snoc trace call (access around w.state call).1
  rw [← htrace] at hcounts
  rcases hw.launched with
    hnone | ⟨hone, hstatus, hold⟩ | ⟨hone, t, ht, hlaunched, call', hcall', hreports⟩
  · rcases hcounts with ⟨hcount, hlaunch⟩ | ⟨hcount, -⟩
    · obtain ⟨-, hzero, hawait⟩ := launch_awaits hreaches hlaunch
      obtain ⟨e, k', hk, he⟩ := hawait (access around w.state call).1
      refine .inr (.inr ⟨by omega, t', List.mem_of_getElem? hat, by omega, e, ?_, he⟩)
      rw [ht', hk]
      rfl
    · exact .inl (by omega)
  · have hthis := hold _ (List.mem_of_getElem? hthread) hnext
    rcases hcounts with ⟨hcount, hlaunch⟩ | ⟨hcount, -⟩
    · obtain ⟨hpending, hzero, -⟩ := launch_awaits hreaches hlaunch
      rcases hthis with hpos | hleft
      · exact absurd hzero (Nat.pos_iff_ne_zero.mp hpos)
      · exact absurd hpending hleft
    · refine .inr (.inl ⟨by omega, access_left hjustified hstatus around, hspent ?_⟩)
      rcases hthis with hpos | hleft
      · exact .inl (hcount ▸ hpos)
      · exact .inr (by rw [ht']; exact hleft)
  · -- the pass that launched reports a status, and the report is handled
    obtain rfl := hw.unique hthread hnext ht (by rw [hcall']; exact Option.some_ne_none _)
    obtain rfl : call = call' := Option.some.inj hcall'
    rcases hcounts with ⟨-, hlaunch⟩ | ⟨hcount, -⟩
    · cases call <;> first | exact hreports.elim | exact hlaunch.elim
    refine .inr (.inl ⟨by omega, ?_, hspent (.inl (hcount ▸ hlaunched))⟩)
    cases call with
    | updateWorkerStatus status instanceId =>
        have hsaved := hallowed _ hthread status instanceId rfl
        show ((updateWorkerStatus status instanceId around.now w.state.worker).kept around.saved
          w.state.worker).status ≠ .pending
        rw [reported_status status instanceId around.now w.state.worker hsaved]
        exact hreports
    | _ => exact hreports.elim

end Launched

/-- **At most one instance is asked for** in the life of a worker whose passes do not overlap. -/
theorem launch_once {s : WorkerSite} {acts : List SiteAction} {w : Site}
    (h : Run siteStep Orderly (.alone s) acts w) : w.launches ≤ 1 := by
  have hstart : Launched (.alone s) :=
    ⟨⟨trivial, List.forall_mem_nil _⟩, fun _ _ ht => absurd ht (Option.some_ne_none _).symm,
      .inl rfl⟩
  have hstep : ∀ w action w', Launched w → Orderly w action → siteStep w action = some w' →
      Launched w' := by
    intro w action w' hw hallowed hstep
    cases action with
    | command command now saved => exact launched_command hw hallowed hstep
    | beginPass settings iso ports => exact launched_begin hw hallowed hstep
    | turn i around => exact launched_turn hw hallowed hstep
  rcases (h.invariant hstep hstart).launched with hnone | ⟨hone, -⟩ | ⟨hone, -⟩ <;> omega

/-- The check of `Orderly` for runs in which every save of a pass goes through. -/
def orderly (w : Site) : SiteAction → Bool
  | .command (.updateStatus status _) _ _ => decide (status ≠ .pending)
  | .command .. => true
  | .beginPass .. => w.threads.all fun t => t.next.isNone
  | .turn _ around => decide (0 < around.saved)

theorem orderly_sound (w : Site) (action : SiteAction) (h : orderly w action = true) :
    Orderly w action := by
  cases action with
  | command command now saved =>
      cases command with
      | updateStatus status instanceId =>
          have hstatus : status ≠ .pending := of_decide_eq_true h
          exact hstatus
      | _ => trivial
  | beginPass settings iso ports =>
      exact fun t ht => Option.isNone_iff_eq_none.mp (List.all_eq_true.mp h t ht)
  | turn i around => exact fun _ _ _ _ _ => of_decide_eq_true h

/-- Two passes over a worker that was created from a template, with a stop and a start between
them. -/
def launchedAndTended : List SiteAction :=
  let settings : ControllerSettings :=
    { awsRegion := "us-east-1"
      awsRegionConfigs :=
        Dict.ofList [("us-east-1", { subnetId := "subnet-1", securityGroupIds := ["sg-1"] })] }
  [.beginPass settings toString {}, .turn 0 (.calm 1), .turn 0 (.calm 2), .turn 0 (.calm 3),
    .turn 0 (.calm 4), .turn 0 (.calm 5), .command (.stop none false none) 6 1,
    .command (.start none false none) 7 1, .beginPass settings toString {},
    .turn 1 (.calm 8), .turn 1 (.calm 9), .turn 1 (.calm 10)]

/-- The first pass launches an instance, the second finds it running. -/
theorem launch_once_tended :
    ∃ w, Run siteStep Orderly
        (.alone { worker := { createdAt := 0, updatedAt := 0, templateName := some "small" } })
        launchedAndTended w
      ∧ (w.state.worker.status = .running ∧ 0 < w.launches) ∧ w.launches ≤ 1 := by
  have hrun : (exec siteStep orderly launchedAndTended
      (.alone { worker := { createdAt := 0, updatedAt := 0, templateName := some "small" } })).map
        (fun w => decide (w.state.worker.status = .running ∧ 0 < w.launches))
      = some true := by decide +kernel
  obtain ⟨w, hw, hlaunched⟩ := Option.map_eq_some_iff.mp hrun
  have run := exec_run orderly_sound launchedAndTended .nil hw
  exact ⟨w, run, of_decide_eq_true hlaunched, launch_once run⟩

end CmlCloudManager.Worker
