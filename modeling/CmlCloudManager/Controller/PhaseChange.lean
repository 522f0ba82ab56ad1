/-
  CmlCloudManager.Controller.PhaseChange
  ──────────────────────────────────────
  **LEAVING A PHASE DOES NOT STOP ITS PIPELINE.**

  The controller of `Controller.Reconciler` together with the status of the
  sessions: control-plane commands move a session at any time, a snapshot says
  where it was when it was read, and `_reconcile_inner` routes by the snapshot.

  An overdue session is expired, most statuses have no pipeline, and the handler
  of the phase that was left is looked at in no case: its task goes on.

    • `quiet_step`     — a handler with no dispatch ahead stays so, unless a run
      of it is started,
    • `phase_left`     — if a pipeline is only ever left when its handlers have
      no dispatch ahead, none of its steps is dispatched afterwards,
    • `phase_left_stopped` — so it is where the handlers have come to their end by
      then and none is started again,
    • `late_dispatch`  — and if one has a dispatch ahead, some continuation makes it.
-/
import CmlCloudManager.Foundation.Along
import CmlCloudManager.ControlPlane.LabletSession
import CmlCloudManager.Controller.Redispatch
import Mathlib.Logic.Relation

namespace CmlCloudManager.Controller

open CmlCloudManager.Foundation
open CmlCloudManager.Pipeline
open CmlCloudManager.ControlPlane

/-! ## §1. Statuses and phases. -/

/-- The pipeline that runs for a status. -/
def phasePipeline : LabletSessionStatus → Option String
  | .instantiating => some "instantiate"
  | .collecting => some "collect_evidence"
  | .grading => some "compute_grading"
  | .stopping => some "teardown"
  | _ => none

/-- The status comes after the one the pipeline runs for. -/
def Left (pipelineName : String) (status : LabletSessionStatus) : Prop :=
  ∃ phase, phasePipeline phase = some pipelineName
    ∧ Relation.TransGen (fun s s' => s' ∈ validTransitions s) phase status

/-- How far the lifecycle has come. -/
def stage : LabletSessionStatus → Nat
  | .pending => 0
  | .scheduled => 1
  | .instantiating => 2
  | .ready => 3
  | .running => 4
  | .collecting => 5
  | .grading => 6
  | .expired => 7
  | .stopping => 8
  | .stopped => 9
  | .archived => 10
  | .terminated => 11

theorem stage_lt {s s' : LabletSessionStatus} (h : s' ∈ validTransitions s) :
    stage s < stage s' := by
  cases s <;> cases s' <;> revert h <;> decide

/-- No status comes back: the one a phase is left with is a later one. -/
theorem Left.stage_lt {pl : String} {status : LabletSessionStatus} (h : Left pl status) :
    ∃ phase, phasePipeline phase = some pl ∧ stage phase < stage status := by
  obtain ⟨phase, hphase, hafter⟩ := h
  refine ⟨phase, hphase, ?_⟩
  induction hafter with
  | single hnext => exact Controller.stage_lt hnext
  | tail _ hnext ih => exact Nat.lt_trans ih (Controller.stage_lt hnext)

/-- The first phase is INSTANTIATING. -/
theorem instantiating_le_phase {status : LabletSessionStatus} {pl : String}
    (h : phasePipeline status = some pl) : stage .instantiating ≤ stage status := by
  cases status <;> cases h <;> decide

/-- What a session snapshot says besides the progress. -/
structure SessionView where
  status : LabletSessionStatus
  workerId : Option String
  workerIp : Option String
  timeslotEnd : Option Int

/-- Where `_reconcile_inner` goes with a snapshot. -/
inductive Route where
  | expire
  | phase (pipelineName : String)
  /-- Another handler, or none; no pipeline is involved. -/
  | other
  deriving DecidableEq

/-- The early expiry check, at the time `now`. -/
def overdue (view : SessionView) (now : Int) : Bool :=
  match view.timeslotEnd with
  | none => false
  | some timeslotEnd =>
      !([.stopping, .stopped, .archived, .terminated].contains view.status)
        && decide (timeslotEnd ≤ now)

/-- `_reconcile_inner`. -/
def reconcileInner (view : SessionView) (now : Int) : Route :=
  if overdue view now then .expire
  else if (givenText view.workerId).isNone then .other
  else if (givenText view.workerIp).isNone
      && [.instantiating, .ready, .running, .collecting, .grading, .stopping].contains view.status
  then .other
  else
    match phasePipeline view.status with
    | some pipelineName => .phase pipelineName
    | none => .other

/-! ## §2. The controller and the statuses. -/

/-- What the property is about. -/
inductive PhaseEvent where
  /-- A reconcile call has processed a snapshot with this status. -/
  | processed (sessionId : String) (status : LabletSessionStatus)
  | dispatched (sessionId pipelineName stepName : String)
  deriving DecidableEq

/-- The controller, and the statuses in the control plane. -/
structure PhasedWorld where
  controller : World
  status : Dict String LabletSessionStatus
  /-- In step with `controller.snapshots`. -/
  views : List SessionView := []
  /-- The reconcile calls that await `expire_session`, with the status of their snapshot. -/
  expiring : Dict String LabletSessionStatus := Dict.empty
  /-- The same for the calls in a pipeline phase. -/
  inPhase : Dict String LabletSessionStatus := Dict.empty
  /-- No transition reads it. -/
  trace : List PhaseEvent := []

/-- Before the first reconcile call. -/
def PhasedWorld.initial (repo : SessionRepository) (status : Dict String LabletSessionStatus) :
    PhasedWorld :=
  { controller := World.initial repo, status := status }

inductive PhasedAction where
  /-- A control-plane command moves the session. -/
  | command (sessionId : String) (status : LabletSessionStatus)
  /-- A session is read, by the listing or for a watch event. -/
  | read (sessionId : String) (workerId workerIp : Option String) (timeslotEnd : Option Int)
  /-- A reconcile call takes the lock of its session and routes the snapshot. -/
  | reconcile (snapshot : Nat) (now : Int) (setup : Setup)
  /-- `expire_session` returns, or fails without having reached the control plane. -/
  | expireReturned (sessionId : String) (reached : Bool)
  /-- Everything else, as in `Controller.Reconciler`. -/
  | controller (a : Action)

namespace PhasedWorld

/-- The reconcile call has come to its end. -/
def finish (w : PhasedWorld) (sessionId : String) (status : LabletSessionStatus) : PhasedWorld :=
  { w with trace := w.trace ++ [.processed sessionId status] }

/-- A phase call that no longer holds the lock has come to its end. -/
def settle (w : PhasedWorld) (sessionId : String) : PhasedWorld :=
  match w.inPhase.get? sessionId, w.controller.calls.get? sessionId with
  | some status, none => finish { w with inPhase := w.inPhase.erase sessionId } sessionId status
  | _, _ => w

/-- Some reconcile call holds the lock of the session. -/
def locked (w : PhasedWorld) (sessionId : String) : Bool :=
  (w.controller.calls.get? sessionId).isSome || (w.expiring.get? sessionId).isSome

end PhasedWorld

/-- `ExpireLabletSessionCommand` is accepted for these statuses (EXPIRED is reported as done). -/
def acceptsExpiry (status : LabletSessionStatus) : Bool :=
  status = .expired || (validTransitions status).contains .expired

/-- The answer of `expire_session`. -/
def expireReturned (w : PhasedWorld) (sessionId : String) (snapshot : LabletSessionStatus)
    (reached : Bool) : PhasedWorld :=
  let w := { w with expiring := w.expiring.erase sessionId }
  if reached && ((w.status.get? sessionId).map acceptsExpiry).getD false then
    -- "the call that itself expired the session"
    { w with status := w.status.set sessionId .expired }.finish sessionId .expired
  else w.finish sessionId snapshot

/-- A reconcile call with the snapshot of a session whose lock is free. -/
def reconcile (cat : Catalog) (w : PhasedWorld) (n : Nat) (sessionId : String)
    (view : SessionView) (now : Int) (setup : Setup) : Option PhasedWorld :=
  match reconcileInner view now with
  | .expire => some { w with expiring := w.expiring.set sessionId view.status }
  | .other => some (w.finish sessionId view.status)
  | .phase pipelineName =>
      (step cat w.controller (.enter n pipelineName setup)).map fun c =>
        { w with controller := c, inPhase := w.inPhase.set sessionId view.status }.settle sessionId

/-- The dispatch an action of the controller makes. -/
def dispatchEvent (w : World) (a : Action) : List PhaseEvent :=
  match dispatchedBy w a with
  | some (sessionId, pipelineName, stepName) => [.dispatched sessionId pipelineName stepName]
  | none => []

/-- An action of the controller that is not the start of a reconcile call. -/
def controllerStep (cat : Catalog) (w : PhasedWorld) (a : Action) : Option PhasedWorld :=
  match a with
  | .fetchSession _ => none
  | .enter _ _ _ => none
  | .definitionFetched sessionId _ _ | .terminateReturned sessionId =>
      (step cat w.controller a).map fun c => { w with controller := c }.settle sessionId
  | _ =>
      (step cat w.controller a).map fun c =>
        { w with controller := c, trace := w.trace ++ dispatchEvent w.controller a }

/-- **One action.** -/
def phasedStep (cat : Catalog) (w : PhasedWorld) : PhasedAction → Option PhasedWorld
  | .command sid status =>
      match w.status.get? sid with
      | none => none
      | some current =>
          if status ∈ validTransitions current then
            some { w with status := w.status.set sid status }
          else none
  | .read sid workerId workerIp timeslotEnd =>
      match w.status.get? sid with
      | none => none
      | some status =>
          (step cat w.controller (.fetchSession sid)).map fun c =>
            { w with
              controller := c
              views := w.views ++ [⟨status, workerId, workerIp, timeslotEnd⟩] }
  | .reconcile n now setup =>
      match w.controller.snapshots[n]?, w.views[n]? with
      | some session, some view =>
          if w.locked session.id then none else reconcile cat w n session.id view now setup
      | _, _ => none
  | .expireReturned sid reached =>
      match w.expiring.get? sid with
      | none => none
      | some snapshot => some (expireReturned w sid snapshot reached)
  | .controller a => controllerStep cat w a

/-! ## §3. Handlers with nothing ahead. -/

/-- Some behaviour of the surroundings makes the program dispatch a step. -/
def Dispatches (left : Exec (Except ExecuteError PipelineResult)) : Prop :=
  ∃ tr request k, left.Reaches tr (.await (.dispatch request) k)

/-- The task may dispatch a step from here (one it is waiting for is dispatched already). -/
def TaskState.MayDispatch : TaskState → Prop
  | .ready left => Dispatches left
  | .waiting _ k => ∃ r, Dispatches (k r)
  | .completing => False
  | .finished => False

/-- No handler of the pipeline has a dispatch ahead for the session. -/
def Quiet (w : World) (sessionId pipelineName : String) : Prop :=
  ∀ i h t, w.handlers.get? i = some h → h.sessionId = sessionId → h.pipelineName = pipelineName →
    h.task = some t → ¬ t.MayDispatch

/-- A reconcile call has processed a snapshot of the session in which the phase was left. -/
def LeftIn (trace : List PhaseEvent) (sessionId pipelineName : String) : Prop :=
  ∃ status, .processed sessionId status ∈ trace ∧ Left pipelineName status

/-- A dispatched step belongs to a pipeline whose phase has not been left. -/
def InPhase (past : List PhaseEvent) : PhaseEvent → Prop
  | .processed _ _ => True
  | .dispatched sessionId pipelineName _ => ¬ LeftIn past sessionId pipelineName

/-- Every dispatch of the trace. -/
def NoLateDispatch (trace : List PhaseEvent) : Prop := Along InPhase [] trace

/-- A phase is left only when its handlers have no dispatch ahead, and no run with one is
started for it afterwards. -/
structure LeavesQuiet (cat : Catalog) (w : PhasedWorld) (a : PhasedAction) : Prop where
  left : ∀ u sid pl, phasedStep cat w a = some u → LeftIn u.trace sid pl → ¬ LeftIn w.trace sid pl →
    Quiet w.controller sid pl
  started : ∀ u i h t, phasedStep cat w a = some u → Starts w.controller u.controller i h →
    LeftIn u.trace h.sessionId h.pipelineName → h.task = some t → ¬ t.MayDispatch

/-- No handler of the pipeline runs for the session. -/
def Stopped (w : World) (sessionId pipelineName : String) : Prop :=
  ∀ i h, w.handlers.get? i = some h → h.sessionId = sessionId → h.pipelineName = pipelineName →
    h.isRunning = false

/-- A phase is left only when its handlers have come to their end, and none is started for it
afterwards. -/
structure LeavesStopped (cat : Catalog) (w : PhasedWorld) (a : PhasedAction) : Prop where
  left : ∀ u sid pl, phasedStep cat w a = some u → LeftIn u.trace sid pl → ¬ LeftIn w.trace sid pl →
    Stopped w.controller sid pl
  started : ∀ u i h, phasedStep cat w a = some u → Starts w.controller u.controller i h →
    ¬ LeftIn u.trace h.sessionId h.pipelineName

theorem not_mayDispatch_of_stopped {h : LifecyclePhaseHandler} {t : TaskState}
    (hstopped : h.isRunning = false) (ht : h.task = some t) : ¬ t.MayDispatch := by
  unfold LifecyclePhaseHandler.isRunning at hstopped
  rw [ht] at hstopped
  cases t with
  | ready left => cases hstopped
  | waiting e k => cases hstopped
  | completing => cases hstopped
  | finished => exact id

/-- A handler at its end has nothing ahead. -/
theorem LeavesStopped.quiet {cat : Catalog} {w : PhasedWorld} {a : PhasedAction}
    (h : LeavesStopped cat w a) : LeavesQuiet cat w a where
  left := by
    intro u sid pl hu hleft hbefore i g t hget hsid hpl ht
    exact not_mayDispatch_of_stopped (h.left u sid pl hu hleft hbefore i g hget hsid hpl) ht
  started := fun u i g _ hu hstarts hleft _ => absurd hleft (h.started u i g hu hstarts)

section Programs

variable {cat : Catalog} {w w' : World} {sid pl : String}

theorem dispatches_now {request : DispatchRequest}
    (k : Effect.Response (.dispatch request) → Exec (Except ExecuteError PipelineResult)) :
    Dispatches (.await (.dispatch request) k) := ⟨[], request, k, rfl⟩

theorem dispatches_later {e : Effect} {r : e.Response}
    {k : e.Response → Exec (Except ExecuteError PipelineResult)} (h : Dispatches (k r)) :
    Dispatches (.await e k) := by
  obtain ⟨tr, request, k', hreach⟩ := h
  exact ⟨⟨e, r⟩ :: tr, request, k', k, rfl, hreach⟩

/-- A quiet pipeline stays quiet when one handler is replaced by one with nothing ahead. -/
theorem Quiet.set (hq : Quiet w sid pl) {i : Nat} {h : LifecyclePhaseHandler}
    (hh : w'.handlers = w.handlers.set i h)
    (hone : h.sessionId = sid → h.pipelineName = pl → ∀ t, h.task = some t → ¬ t.MayDispatch) :
    Quiet w' sid pl := by
  intro j g t hget hsid hpl htask
  rw [hh] at hget
  rcases Dict.get?_set_eq_some hget with ⟨-, rfl⟩ | ⟨-, hget⟩
  · exact hone hsid hpl t htask
  · exact hq j g t hget hsid hpl htask

/-- The task of one handler goes on, and what is ahead of it was ahead before. -/
theorem Quiet.goOn (hq : Quiet w sid pl) {i : Nat} {h : LifecyclePhaseHandler}
    {t t' : TaskState} (hget : w.handlers.get? i = some h) (htask : h.task = some t)
    (hh : w'.handlers = w.handlers.set i { h with task := some t' })
    (hback : t'.MayDispatch → t.MayDispatch) : Quiet w' sid pl := by
  refine hq.set hh ?_
  intro hsid hpl t'' ht'' hmay
  obtain rfl := Option.some.inj ht''
  exact hq i h t hget hsid hpl htask (hback hmay)

/-- A run is started in which nothing is dispatched. -/
theorem Quiet.start (hq : Quiet w sid pl) {i : Nat} {h : LifecyclePhaseHandler} {setup : Setup}
    (hh : w'.handlers = w.handlers.set i (h.start setup))
    (hstopped : ∀ g, w.handlers.get? i = some g → g.isRunning = false)
    (hstart : ∀ i h t, Starts w w' i h → h.sessionId = sid → h.pipelineName = pl →
      h.task = some t → ¬ t.MayDispatch) : Quiet w' sid pl := by
  refine hq.set hh ?_
  intro hsid hpl t ht
  refine hstart i (h.start setup) t ⟨?_, rfl, hstopped⟩ hsid hpl ht
  rw [hh]
  exact Dict.get?_set_self _ _ _

theorem Quiet.phase (inv : ControlInv cat none w) (hq : Quiet w sid pl)
    (hmove : w'.handlers = w.handlers
      ∨ ∃ (h : LifecyclePhaseHandler) (setup : Setup),
        w'.handlers = w.handlers.set w.nextHandler (h.start setup))
    (hstart : ∀ i h t, Starts w w' i h → h.sessionId = sid → h.pipelineName = pl →
      h.task = some t → ¬ t.MayDispatch) : Quiet w' sid pl := by
  rcases hmove with hh | ⟨h, setup, hh⟩
  · unfold Quiet
    rw [hh]
    exact hq
  · refine hq.start hh ?_ hstart
    intro g hg
    rw [inv.fresh] at hg
    cases hg

/-- **One action of the controller**: a pipeline with no dispatch ahead stays so, unless a run
of it is started. -/
theorem quiet_step {a : Action} (inv : ControlInv cat none w) (hstep : step cat w a = some w')
    (hq : Quiet w sid pl)
    (hstart : ∀ i h t, Starts w w' i h → h.sessionId = sid → h.pipelineName = pl →
      h.task = some t → ¬ t.MayDispatch) : Quiet w' sid pl := by
  cases step_moves hstep with
  | fetchSession hget => exact hq
  | @enter n pl' setup session hsnap hpl hlock =>
      have hmove := (checkHandler_exit { w with nextCall := w.nextCall + 1 }
        (newCall w session pl') setup).handlers.2
      exact hq.phase inv (hmove.imp id fun ⟨h, hh⟩ => ⟨h, setup, hh⟩) hstart
  | @definitionFetched sid' served setup c hcall hpoint =>
      have hmove := (continueWith_exit (cacheDefinition w c (answerOf cat c served)) c
        (answerOf cat c served) setup).handlers.2
      have hsame := cacheDefinition_frame w c (answerOf cat c served)
      rw [hsame.2.1, hsame.2.2] at hmove
      exact hq.phase inv (hmove.imp id fun ⟨h, hh⟩ => ⟨h, setup, hh⟩) hstart
  | cleanedUp hcall hpoint => exact hq
  | terminateReturned hcall hpoint => exact hq
  | @called i h e k hget htask =>
      refine hq.goOn hget htask rfl ?_
      -- what may be dispatched after the call might be dispatched before it
      rintro ⟨r, hr⟩
      exact dispatches_later hr
  | @finished i h out hget htask =>
      cases out with
      | ok result => exact hq.set rfl (by rintro - - t ⟨⟩ hmay; exact hmay)
      | error e => exact hq.set rfl (by rintro - - t ⟨⟩ hmay; exact hmay)
  | @dispatchReturned i h request k outcome hget htask =>
      exact hq.goOn hget htask rfl (fun hmay => ⟨outcome, hmay⟩)
  | @persistReturned i h site update k stored hget htask =>
      exact hq.goOn hget htask rfl (fun hmay => ⟨(), hmay⟩)
  | @recorded i h hget htask =>
      exact hq.goOn hget htask (completeHandler_frame w i h).1 id
  | event => exact hq
  | @signal n setup sig hsig =>
      rcases signalHandler_cases { w with signals := w.signals.eraseIdx n } sig setup with
        heq | ⟨i, h, -, hget, hstopped, heq⟩
      · rw [heq]
        exact hq
      · rw [heq] at hstart ⊢
        refine hq.start rfl ?_ hstart
        intro g hg
        rw [← Option.some.inj (hget.symm.trans hg)]
        exact hstopped

/-- What is dispatched was ahead. -/
theorem Quiet.not_dispatched (hq : Quiet w sid pl) {a : Action} {n : String} :
    dispatchedBy w a ≠ some (sid, pl, n) := by
  intro h
  obtain ⟨i, g, request, k, hget, hsid, hpl, -, htask⟩ := dispatchedBy_some h
  exact hq i g _ hget hsid hpl htask (dispatches_now k)

end Programs

/-! ## §4. What an action can do. -/

/-- An action moves the controller by at most one of its actions, and is at most one event. -/
structure PhasedEffect (cat : Catalog) (w u : PhasedWorld) (ev : Option PhaseEvent) : Prop where
  trace : u.trace = w.trace ++ ev.toList
  controller : u.controller = w.controller ∨ ∃ b, step cat w.controller b = some u.controller
  dispatched : ∀ sid pl n, ev = some (.dispatched sid pl n) →
    ∃ b, dispatchedBy w.controller b = some (sid, pl, n)

theorem settle_effect {cat : Catalog} {w u : PhasedWorld} (sid : String) (ht : u.trace = w.trace)
    (hc : u.controller = w.controller ∨ ∃ b, step cat w.controller b = some u.controller) :
    ∃ ev, PhasedEffect cat w (u.settle sid) ev := by
  unfold PhasedWorld.settle
  split
  next status _ _ =>
    refine ⟨some (.processed sid status), ?_, hc, by simp⟩
    show u.trace ++ _ = _
    rw [ht]
    rfl
  next => exact ⟨none, by simp [ht], hc, by simp⟩

theorem controllerStep_effect {cat : Catalog} {w u : PhasedWorld} {a : Action}
    (h : controllerStep cat w a = some u) : ∃ ev, PhasedEffect cat w u ev := by
  unfold controllerStep at h
  split at h
  · cases h
  · cases h
  · obtain ⟨c, hc, rfl⟩ := Option.map_eq_some_iff.mp h
    exact settle_effect _ rfl (.inr ⟨_, hc⟩)
  · obtain ⟨c, hc, rfl⟩ := Option.map_eq_some_iff.mp h
    exact settle_effect _ rfl (.inr ⟨_, hc⟩)
  · obtain ⟨c, hc, rfl⟩ := Option.map_eq_some_iff.mp h
    unfold dispatchEvent
    split
    next sid pl n hd =>
      refine ⟨some (.dispatched sid pl n), rfl, .inr ⟨a, hc⟩, ?_⟩
      intro sid' pl' n' he
      cases he
      exact ⟨a, hd⟩
    next => exact ⟨none, rfl, .inr ⟨a, hc⟩, by simp⟩

theorem reconcile_effect {cat : Catalog} {w u : PhasedWorld} {n : Nat} {sid : String}
    {view : SessionView} {now : Int} {setup : Setup}
    (h : reconcile cat w n sid view now setup = some u) : ∃ ev, PhasedEffect cat w u ev := by
  unfold reconcile at h
  split at h
  · cases h
    exact ⟨none, by simp, .inl rfl, by simp⟩
  · cases h
    exact ⟨some (.processed sid view.status), rfl, .inl rfl, by simp⟩
  · obtain ⟨c, hc, rfl⟩ := Option.map_eq_some_iff.mp h
    exact settle_effect _ rfl (.inr ⟨_, hc⟩)

/-- **Every possible action**. -/
theorem phasedStep_effect {cat : Catalog} {w u : PhasedWorld} {a : PhasedAction}
    (h : phasedStep cat w a = some u) : ∃ ev, PhasedEffect cat w u ev := by
  cases a with
  | command sid status =>
      simp only [phasedStep] at h
      split at h
      next => cases h
      next =>
        split at h
        next => cases h; exact ⟨none, by simp, .inl rfl, by simp⟩
        next => cases h
  | read sid workerId workerIp timeslotEnd =>
      simp only [phasedStep] at h
      split at h
      next => cases h
      next =>
        obtain ⟨c, hc, rfl⟩ := Option.map_eq_some_iff.mp h
        exact ⟨none, by simp, .inr ⟨_, hc⟩, by simp⟩
  | reconcile n now setup =>
      simp only [phasedStep] at h
      split at h
      next =>
        split at h
        next => cases h
        next => exact reconcile_effect h
      next => cases h
  | expireReturned sid reached =>
      simp only [phasedStep] at h
      split at h
      next => cases h
      next snapshot _ =>
        cases h
        unfold expireReturned
        dsimp only
        split
        · exact ⟨some (.processed sid .expired), rfl, .inl rfl, by simp⟩
        · exact ⟨some (.processed sid snapshot), rfl, .inl rfl, by simp⟩
  | controller a => exact controllerStep_effect h

/-! ## §5. Runs. -/

/-- Pipelines whose phase was left are quiet, and none of their steps was dispatched since. -/
structure PhaseInv (cat : Catalog) (w : PhasedWorld) : Prop where
  control : ControlInv cat none w.controller
  quiet : ∀ sid pl, LeftIn w.trace sid pl → Quiet w.controller sid pl
  inPhase : NoLateDispatch w.trace

theorem phaseInv_initial (cat : Catalog) (repo : SessionRepository)
    (status : Dict String LabletSessionStatus) :
    PhaseInv cat (PhasedWorld.initial repo status) where
  control := controlInv_initial cat repo
  quiet := by
    rintro sid pl ⟨s, hs, -⟩
    cases hs
  inPhase := trivial

theorem noLateDispatch_append {trace : List PhaseEvent} (ev : Option PhaseEvent) :
    NoLateDispatch (trace ++ ev.toList)
      ↔ NoLateDispatch trace ∧ ∀ e, ev = some e → InPhase trace e := by
  unfold NoLateDispatch
  rw [along_append]
  cases ev <;> simp [Along]

theorem PhaseInv.step {cat : Catalog} {w u : PhasedWorld} {a : PhasedAction}
    (inv : PhaseInv cat w) (hcond : LeavesQuiet cat w a) (h : phasedStep cat w a = some u) :
    PhaseInv cat u := by
  obtain ⟨ev, heff⟩ := phasedStep_effect h
  have hquiet : ∀ sid pl, LeftIn u.trace sid pl → Quiet w.controller sid pl := by
    intro sid pl hleft
    by_cases hbefore : LeftIn w.trace sid pl
    · exact inv.quiet sid pl hbefore
    · exact hcond.left u sid pl h hleft hbefore
  refine ⟨?_, ?_, ?_⟩
  · rcases heff.controller with hc | ⟨b, hb⟩
    · rw [hc]
      exact inv.control
    · exact inv.control.step hb
  · intro sid pl hleft
    rcases heff.controller with hc | ⟨b, hb⟩
    · rw [hc]
      exact hquiet sid pl hleft
    · refine quiet_step inv.control hb (hquiet sid pl hleft) ?_
      rintro i g t hstarts rfl rfl ht
      exact hcond.started u i g t h hstarts hleft ht
  · rw [heff.trace, noLateDispatch_append]
    refine ⟨inv.inPhase, ?_⟩
    intro e he
    cases e with
    | processed sid s => trivial
    | dispatched sid pl n =>
        -- the step was ahead before this action, so its phase had not been left
        obtain ⟨b, hb⟩ := heff.dispatched sid pl n he
        exact fun hleft => (inv.quiet sid pl hleft).not_dispatched hb

section Runs

variable {cat : Catalog} {repo : SessionRepository} {status : Dict String LabletSessionStatus}
  {acts : List PhasedAction} {w : PhasedWorld}

theorem phaseInv_run
    (run : Run (phasedStep cat) (LeavesQuiet cat) (PhasedWorld.initial repo status) acts w) :
    PhaseInv cat w :=
  run.invariant (fun _ _ _ inv hcond h => inv.step hcond h) (phaseInv_initial cat repo status)

/-- **A phase that is left quietly stays quiet**: in every run in which phases are left only when
their handlers have no dispatch ahead (and no run with one is started for them afterwards), no
step of a pipeline is dispatched for a session once a reconcile call has processed a snapshot of
that session whose status is no longer that phase. -/
theorem phase_left
    (run : Run (phasedStep cat) (LeavesQuiet cat) (PhasedWorld.initial repo status) acts w) :
    NoLateDispatch w.trace :=
  (phaseInv_run run).inPhase

/-- **No step comes late where the handlers are at their end** before the phase is left, and are
not started again. -/
theorem phase_left_stopped
    (run : Run (phasedStep cat) (LeavesStopped cat) (PhasedWorld.initial repo status) acts w) :
    NoLateDispatch w.trace :=
  (phaseInv_run (run.mono fun _ _ h => h.quiet)).inPhase

end Runs

/-! ## §6. The condition is needed. -/

section Necessity

variable {cat : Catalog} {w₀ w : PhasedWorld} {acts : List PhasedAction} {i : Nat}
  {h : LifecyclePhaseHandler}

theorem taskOf_of_get {c : World} {t : TaskState} (hget : c.handlers.get? i = some h)
    (htask : h.task = some t) : c.taskOf i = some (h, t) := by
  simp [World.taskOf, hget, htask]

/-- The next call of a scheduled task is a dispatch. -/
theorem advance_dispatches {request : DispatchRequest}
    {k : Effect.Response (.dispatch request) → Exec (Except ExecuteError PipelineResult)}
    (run : Run (phasedStep cat) anyAction w₀ acts w)
    (hleft : LeftIn w.trace h.sessionId h.pipelineName)
    (hget : w.controller.handlers.get? i = some h)
    (htask : h.task = some (.ready (.await (.dispatch request) k))) :
    ∃ acts u, Run (phasedStep cat) anyAction w₀ acts u ∧ ¬ NoLateDispatch u.trace := by
  have ht := taskOf_of_get hget htask
  have hev : dispatchEvent w.controller (.advance i)
      = [.dispatched h.sessionId h.pipelineName request.stepName] := by
    simp [dispatchEvent, dispatchedBy, ht]
  have hstep : phasedStep cat w (.controller (.advance i)) = some
      { w with
        controller := w.controller.setHandler i
          { h with task := some (.waiting (.dispatch request) k) }
        trace := w.trace ++ [.dispatched h.sessionId h.pipelineName request.stepName] } := by
    simp [phasedStep, controllerStep, step, ht, hev]
  refine ⟨_, _, run.snoc trivial hstep, ?_⟩
  intro hlate
  exact ((noLateDispatch_append (some _)).mp hlate).2 _ rfl hleft

/-- An action of the controller's tasks that is no dispatch. -/
theorem controller_moves {a : Action} {c : World}
    (run : Run (phasedStep cat) anyAction w₀ acts w)
    (ha : controllerStep cat w a = (step cat w.controller a).map fun c =>
      { w with controller := c, trace := w.trace ++ dispatchEvent w.controller a })
    (hstep : step cat w.controller a = some c) (hno : dispatchEvent w.controller a = []) :
    ∃ acts, Run (phasedStep cat) anyAction w₀ acts { w with controller := c } := by
  refine ⟨_, run.snoc (a := .controller a) trivial ?_⟩
  show controllerStep cat w a = _
  rw [ha, hstep, hno, List.append_nil]
  rfl

/-- An answer brings a waiting task on. -/
theorem answer_returns {e : Effect} (r : e.Response)
    {k : e.Response → Exec (Except ExecuteError PipelineResult)}
    (run : Run (phasedStep cat) anyAction w₀ acts w)
    (hget : w.controller.handlers.get? i = some h) (htask : h.task = some (.waiting e k)) :
    ∃ acts c, Run (phasedStep cat) anyAction w₀ acts { w with controller := c }
      ∧ c.handlers.get? i = some { h with task := some (.ready (k r)) } := by
  have ht := taskOf_of_get hget htask
  cases e with
  | dispatch request =>
      obtain ⟨acts', run'⟩ := controller_moves (a := .dispatchReturned i r)
        (c := w.controller.setHandler i { h with task := some (.ready (k r)) }) run rfl
        (by simp [step, ht]) rfl
      exact ⟨acts', _, run', Dict.get?_set_self _ _ _⟩
  | persist site update =>
      obtain ⟨acts', run'⟩ := controller_moves (a := .persistReturned i true)
        (c := { w.controller.setHandler i { h with task := some (.ready (k ())) } with
          repo := (handleUpdate w.controller.repo update).2 }) run rfl
        (by simp [step, ht]) rfl
      exact ⟨acts', _, run', Dict.get?_set_self _ _ _⟩

/-- A scheduled task that may dispatch: by induction on the calls before the dispatch. -/
theorem ready_dispatches {request : DispatchRequest}
    {k : Effect.Response (.dispatch request) → Exec (Except ExecuteError PipelineResult)} :
    ∀ (tr : Trace) {w : PhasedWorld} {acts : List PhasedAction} {h : LifecyclePhaseHandler}
      {left : Exec (Except ExecuteError PipelineResult)},
      Run (phasedStep cat) anyAction w₀ acts w →
      LeftIn w.trace h.sessionId h.pipelineName → w.controller.handlers.get? i = some h →
      h.task = some (.ready left) → left.Reaches tr (.await (.dispatch request) k) →
      ∃ acts u, Run (phasedStep cat) anyAction w₀ acts u ∧ ¬ NoLateDispatch u.trace
  | [], w, acts, h, left, run, hleft, hget, htask, hreach => by
      have hnow : left = .await (.dispatch request) k := hreach
      subst hnow
      exact advance_dispatches run hleft hget htask
  | ⟨e, r⟩ :: tr, w, acts, h, left, run, hleft, hget, htask, hreach => by
      obtain ⟨k', rfl, hreach⟩ := hreach
      cases e with
      | dispatch request' => exact advance_dispatches run hleft hget htask
      | persist site update =>
          -- the task calls, the answer comes, and the rest is shorter
          have ht := taskOf_of_get hget htask
          obtain ⟨acts', run'⟩ := controller_moves (a := .advance i)
            (c := w.controller.setHandler i
              { h with task := some (.waiting (.persist site update) k') })
            run rfl (by simp [step, ht]) (by simp [dispatchEvent, dispatchedBy, ht])
          obtain ⟨acts'', c, run'', hget'⟩ :=
            answer_returns r run' (Dict.get?_set_self _ _ _) rfl
          exact ready_dispatches tr (w := { w with controller := c })
            (h := { h with task := some (.ready (k' r)) }) run'' hleft hget' rfl hreach

/-- **A dispatch ahead can come**: if a handler of a pipeline whose phase was left may still
dispatch, some continuation of the run does it. -/
theorem late_dispatch {t : TaskState} (run : Run (phasedStep cat) anyAction w₀ acts w)
    (hleft : LeftIn w.trace h.sessionId h.pipelineName)
    (hget : w.controller.handlers.get? i = some h) (htask : h.task = some t)
    (hmay : t.MayDispatch) :
    ∃ acts u, Run (phasedStep cat) anyAction w₀ acts u ∧ ¬ NoLateDispatch u.trace := by
  cases t with
  | ready left =>
      obtain ⟨tr, request, k, hreach⟩ := hmay
      exact ready_dispatches tr run hleft hget htask hreach
  | waiting e k =>
      obtain ⟨r, tr, request, k', hreach⟩ := hmay
      obtain ⟨acts', c, run', hget'⟩ := answer_returns r run hget htask
      exact ready_dispatches tr (w := { w with controller := c })
        (h := { h with task := some (.ready (k r)) }) run' hleft hget' rfl hreach
  | completing => exact hmay.elim
  | finished => exact hmay.elim

end Necessity

/-! ## §7. A session that expires while its lab boots. -/

/-- The phase is entered, the timeslot ends while `boot` is under way, the session is expired,
and then `boot` returns. -/
def expiredBoot : List PhasedAction :=
  [.read "s1" (some "w1") (some "10.0.0.1") (some 100),
    .reconcile 0 50 plainSetup,
    .controller (.definitionFetched "s1" true plainSetup),
    .controller (.advance 0),
    .reconcile 0 100 plainSetup,
    .expireReturned "s1" true,
    .controller (.dispatchReturned 0 (.returned Dict.empty)),
    .controller (.advance 0),
    .controller (.persistReturned 0 true),
    .controller (.advance 0)]

/-- **The pipeline of an expired session goes on**: after the reconcile call that expired the
session, `link` is dispatched for it. -/
theorem expired_session_dispatches :
    ∃ w, Run (phasedStep bootThenLink) anyAction
        (PhasedWorld.initial newSession (Dict.ofList [("s1", .instantiating)])) expiredBoot w
      ∧ w.status.get? "s1" = some .expired ∧ ¬ NoLateDispatch w.trace := by
  have hrun : (exec (phasedStep bootThenLink) (fun _ _ => true) expiredBoot
      (PhasedWorld.initial newSession (Dict.ofList [("s1", .instantiating)]))).map
        (fun w => (w.status.get? "s1", w.trace))
      = some (some .expired, [.processed "s1" .instantiating, .dispatched "s1" "instantiate" "boot",
          .processed "s1" .expired, .dispatched "s1" "instantiate" "link"]) := by decide
  obtain ⟨w, hw, hcheck⟩ := Option.map_eq_some_iff.mp hrun
  rw [Prod.mk.injEq] at hcheck
  refine ⟨w, exec_run (fun _ _ _ => trivial) expiredBoot .nil hw, hcheck.1, ?_⟩
  rw [hcheck.2]
  intro hlate
  -- EXPIRED comes right after INSTANTIATING
  have hleft : Left "instantiate" .expired :=
    ⟨.instantiating, rfl, .single (by decide)⟩
  exact hlate.2.2.2.1 ⟨.expired, by simp, hleft⟩

/-- The check of `LeavesStopped` for runs that leave no phase before all handlers are finished. -/
def leavesStopped (cat : Catalog) (w : PhasedWorld) (a : PhasedAction) : Bool :=
  match phasedStep cat w a with
  | none => true
  | some u =>
      u.trace.all (fun ev =>
          match ev with
          | .processed _ status => decide (stage status ≤ stage .instantiating)
          | .dispatched _ _ _ => true)
        || (w.controller.handlers.entries ++ u.controller.handlers.entries).all
          (fun e => !e.2.isRunning)

theorem leavesStopped_sound {cat : Catalog} (w : PhasedWorld) (a : PhasedAction)
    (h : leavesStopped cat w a = true) : LeavesStopped cat w a := by
  unfold leavesStopped at h
  cases hs : phasedStep cat w a with
  | none => exact ⟨by simp [hs], by simp [hs]⟩
  | some u =>
      rw [hs] at h
      rcases Bool.or_eq_true_iff.mp h with hearly | hstopped
      · -- nothing is left yet
        have hnot : ∀ sid pl, ¬ LeftIn u.trace sid pl := by
          rintro sid pl ⟨status, hmem, hleft⟩
          obtain ⟨phase, hphase, hlt⟩ := hleft.stage_lt
          have hle := of_decide_eq_true (List.all_eq_true.mp hearly _ hmem)
          have hge := instantiating_le_phase hphase
          omega
        constructor
        · intro u' sid pl hu' hleft
          obtain rfl := Option.some.inj (hs.symm.trans hu')
          exact absurd hleft (hnot sid pl)
        · intro u' i g hu' _
          obtain rfl := Option.some.inj (hs.symm.trans hu')
          exact hnot _ _
      · have hall : ∀ e ∈ w.controller.handlers.entries ++ u.controller.handlers.entries,
            e.2.isRunning = false := by
          intro e he
          simpa using List.all_eq_true.mp hstopped e he
        constructor
        · intro u' sid pl _ _ _ i g hget _ _
          have hmem := (Dict.get?_eq_some_iff _ _ _).mp hget
          exact hall (i, g) (List.mem_append_left _ hmem)
        · intro u' i g hu' hstarts
          obtain rfl := Option.some.inj (hs.symm.trans hu')
          -- a handler that is started runs
          have hmem := (Dict.get?_eq_some_iff _ _ _).mp hstarts.1
          have hidle := hall (i, g) (List.mem_append_right _ hmem)
          rw [hstarts.2.1] at hidle
          cases hidle

/-- The pipeline has come to its end when the session expires. -/
def expiredAfterBoot : List PhasedAction :=
  [.read "s1" (some "w1") (some "10.0.0.1") (some 100),
    .reconcile 0 50 plainSetup,
    .controller (.definitionFetched "s1" true plainSetup)]
    ++ (oneStep 0 (.returned Dict.empty) ++ oneStep 0 (.returned Dict.empty)
      ++ [Action.advance 0, .recorded 0]).map .controller
    ++ [.reconcile 0 100 plainSetup, .expireReturned "s1" true]

theorem phase_left_after_boot :
    ∃ w, Run (phasedStep bootThenLink) (LeavesQuiet bootThenLink)
        (PhasedWorld.initial newSession (Dict.ofList [("s1", .instantiating)])) expiredAfterBoot w
      ∧ w.trace.getLast? = some (.processed "s1" .expired) ∧ NoLateDispatch w.trace := by
  have hrun : (exec (phasedStep bootThenLink) (leavesStopped bootThenLink) expiredAfterBoot
      (PhasedWorld.initial newSession (Dict.ofList [("s1", .instantiating)]))).map
        (fun w => w.trace.getLast?) = some (some (.processed "s1" .expired)) := by decide
  obtain ⟨w, hw, hlast⟩ := Option.map_eq_some_iff.mp hrun
  have run := (exec_run leavesStopped_sound expiredAfterBoot .nil hw).mono fun _ _ h => h.quiet
  exact ⟨w, run, hlast, phase_left run⟩

end CmlCloudManager.Controller
