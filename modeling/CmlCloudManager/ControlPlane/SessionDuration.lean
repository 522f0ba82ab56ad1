/-
  CmlCloudManager.ControlPlane.SessionDuration
  ────────────────────────────────────────────
  **WHEN A SESSION ENDED, AND HOW LONG IT RAN.**

  `ended_at` is written by three handlers: STOPPED and EXPIRED overwrite it,
  TERMINATED only fills it in.  ARCHIVED does not touch it, although the table
  lets the teardown go from STOPPING to ARCHIVED past STOPPED.

  Two kinds of step go wrong, and no others (`session_duration_iff`):

    • archiving out of STOPPING a session that never got an `ended_at`,
    • stopping a session that already ended, at another time: an expired session
      goes through STOPPING again, and STOPPED moves its end.
-/
import CmlCloudManager.ControlPlane.LabletSession
import CmlCloudManager.Foundation.Replay

namespace CmlCloudManager.ControlPlane

open CmlCloudManager.Foundation

/-! ## §1. What is expected of the times. -/

/-- The statuses of a session that is over. -/
def LabletSessionStatus.isOver (status : LabletSessionStatus) : Bool :=
  status ∈ [.stopped, .archived, .expired, .terminated]

/-- The statuses before a session ends for the first time. -/
def LabletSessionStatus.isOpen (status : LabletSessionStatus) : Bool :=
  status ∈ [.pending, .scheduled, .instantiating, .ready, .running, .collecting, .grading]

/-- A session that is over has its end, and the duration from its start. -/
def EndedRight (s : LabletSessionState) : Prop :=
  s.status.isOver = true → ∃ stop, s.endedAt = some stop
    ∧ ∀ start, s.startedAt = some start → s.durationSeconds = some (stop - start)

/-- **The duration of a session over a run**: right whenever it is over, and its end never
moves. -/
structure SessionDuration (s : LabletSessionState) (calls : List Call) : Prop where
  ended : ∀ before after, calls = before ++ after → EndedRight (replay callStep s before)
  stable : ∀ before mid after stop, calls = before ++ mid ++ after →
    (replay callStep s before).endedAt = some stop →
    (replay callStep s (before ++ mid)).endedAt = some stop

/-- **The steps that keep the end**: a session is archived out of STOPPING only with an end,
and stopped only without one (or at that very time). -/
def EndsOnce (s : LabletSessionState) (call : Call) : Prop :=
  s.status = .stopping →
    (call.operation.target = some .archived → s.endedAt.isSome)
      ∧ (call.operation.target = some .stopped → ∀ stop, s.endedAt = some stop →
        stop = call.clock.now)

/-! ## §2. The invariant. -/

/-- **How the times go with the status.** -/
structure TimesKept (s : LabletSessionState) : Prop where
  /-- An open session has no end yet. -/
  notEnded : s.status.isOpen = true → s.endedAt = none
  /-- A session that is over has one. -/
  hasEnd : s.status.isOver = true → s.endedAt.isSome
  /-- The duration is computed with the end, and only then. -/
  duration : ∀ start stop, s.startedAt = some start → s.endedAt = some stop →
    s.durationSeconds = some (stop - start)
  noDuration : s.endedAt = none → s.durationSeconds = none

theorem TimesKept.endedRight {s : LabletSessionState} (h : TimesKept s) : EndedRight s := by
  intro hover
  obtain ⟨stop, hstop⟩ := Option.isSome_iff_exists.mp (h.hasEnd hover)
  exact ⟨stop, hstop, fun start hstart => h.duration start stop hstart hstop⟩

theorem Times.computeDuration_of_some {t : Times} {start stop : Int}
    (hs : t.startedAt = some start) (he : t.endedAt = some stop) :
    t.computeDuration = { t with durationSeconds := some (stop - start) } := by
  unfold Times.computeDuration
  rw [hs, he]

theorem Times.computeDuration_endedAt (t : Times) : t.computeDuration.endedAt = t.endedAt := by
  unfold Times.computeDuration
  split <;> rfl

theorem Times.computeDuration_startedAt (t : Times) :
    t.computeDuration.startedAt = t.startedAt := by
  unfold Times.computeDuration
  split <;> rfl

/-- Only three moves write the end of a session. -/
theorem moveTo_endedAt (now : Int) (t : Times) (dst : LabletSessionStatus) :
    (t.moveTo now dst).endedAt
      = if dst = .stopped ∨ dst = .expired then some now
        else if dst = .terminated then t.endedAt.or (some now) else t.endedAt := by
  cases dst with
  | stopped => exact Times.computeDuration_endedAt _
  | expired => exact Times.computeDuration_endedAt _
  | terminated =>
      show (if _ then _ else _ : Times).endedAt = _
      split
      · exact Times.computeDuration_endedAt _
      · rfl
  | _ => rfl

/-- The duration is the one of the start and the end that are stored. -/
structure TimesRight (t : Times) : Prop where
  duration : ∀ start stop, t.startedAt = some start → t.endedAt = some stop →
    t.durationSeconds = some (stop - start)
  noDuration : t.endedAt = none → t.durationSeconds = none

theorem computeDuration_right {t : Times} (h : t.endedAt.isSome) :
    TimesRight t.computeDuration := by
  obtain ⟨stop, hstop⟩ := Option.isSome_iff_exists.mp h
  refine ⟨fun start stop' hstart hstop' => ?_, fun hnone => ?_⟩
  · rw [Times.computeDuration_startedAt] at hstart
    rw [Times.computeDuration_endedAt] at hstop'
    rw [Times.computeDuration_of_some hstart hstop']
  · rw [Times.computeDuration_endedAt, hstop] at hnone
    cases hnone

/-- A move keeps the times right, if the clock is started before the end. -/
theorem moveTo_right {t : Times} (h : TimesRight t) (now : Int) (dst : LabletSessionStatus)
    (hstart : dst = .running → t.endedAt = none) : TimesRight (t.moveTo now dst) := by
  cases dst with
  | running =>
      have hnone := hstart rfl
      refine ⟨fun start stop _ hstop => ?_, fun _ => h.noDuration hnone⟩
      rw [show (t.moveTo now .running).endedAt = t.endedAt from rfl, hnone] at hstop
      cases hstop
  | stopped => exact computeDuration_right rfl
  | expired => exact computeDuration_right rfl
  | terminated =>
      have hsome : (t.endedAt.or (some now)).isSome := by
        cases t.endedAt <;> rfl
      show TimesRight (if t.durationSeconds.isNone then _ else _)
      split
      next => exact computeDuration_right hsome
      next hduration =>
        -- a duration is there, so the end was there before
        cases hend : t.endedAt with
        | none => exact absurd (by rw [h.noDuration hend]; rfl) hduration
        | some stop =>
            have hsame : ({ t with endedAt := t.endedAt.or (some now) } : Times) = t := by
              rw [hend]
              show ({ t with endedAt := some stop } : Times) = t
              rw [← hend]
            rw [hend] at hsame
            rw [hsame]
            exact h
  | pending => exact h
  | scheduled => exact h
  | instantiating => exact h
  | ready => exact h
  | collecting => exact h
  | grading => exact h
  | stopping => exact h
  | archived => exact h

/-! ## §3. The moves of the table. -/

theorem isOpen_of_move {a b : LabletSessionStatus} (h : b ∈ validTransitions a)
    (hb : b.isOpen = true) : a.isOpen = true := by
  revert h hb
  cases a <;> cases b <;> decide

theorem isOpen_of_expired {a : LabletSessionStatus} (h : .expired ∈ validTransitions a) :
    a.isOpen = true := by
  revert h
  cases a <;> decide

theorem stopping_of_stopped {a : LabletSessionStatus} (h : .stopped ∈ validTransitions a) :
    a = .stopping := by
  revert h
  cases a <;> decide

theorem of_archived {a : LabletSessionStatus} (h : .archived ∈ validTransitions a) :
    a = .stopping ∨ a = .stopped := by
  revert h
  cases a <;> decide

theorem TimesKept.right {s : LabletSessionState} (h : TimesKept s) : TimesRight s.times :=
  ⟨h.duration, h.noDuration⟩

/-- What a call that keeps status and times keeps. -/
theorem TimesKept.congr {s s' : LabletSessionState} (h : TimesKept s)
    (hstatus : s'.status = s.status) (htimes : s'.times = s.times) : TimesKept s' := by
  have hend : s'.endedAt = s.endedAt := congrArg Times.endedAt htimes
  have hstart : s'.startedAt = s.startedAt := congrArg Times.startedAt htimes
  have hduration : s'.durationSeconds = s.durationSeconds :=
    congrArg Times.durationSeconds htimes
  refine ⟨?_, ?_, ?_, ?_⟩
  · rw [hstatus, hend]
    exact h.notEnded
  · rw [hstatus, hend]
    exact h.hasEnd
  · rw [hstart, hend, hduration]
    exact h.duration
  · rw [hend, hduration]
    exact h.noDuration

/-- **The step lemma**: a call that ends the session once keeps the invariant. -/
theorem timesKept_step (s : LabletSessionState) (call : Call) (h : TimesKept s)
    (honce : EndsOnce s call) : TimesKept (callStep s call) := by
  have effect := perform_effect call s
  unfold callStep
  generalize outcome (perform call.clock call.operation) s = result at effect
  cases effect with
  | refused e why => exact h
  | requeued operation status history fromState toState times => exact h.congr status times
  | kept target status history times => exact h.congr status times
  | @moved s' dst entry target allowed status history fromState toState times =>
      have hend : s'.endedAt = _ :=
        (congrArg Times.endedAt times).trans (moveTo_endedAt _ _ _)
      have hright : TimesRight s'.times := by
        rw [times]
        refine moveTo_right h.right _ _ fun hrunning => ?_
        rw [hrunning] at allowed
        exact h.notEnded (isOpen_of_move allowed rfl)
      refine ⟨fun hopen => ?_, fun hover => ?_, hright.duration, hright.noDuration⟩
      · -- only an open session goes to an open status
        rw [status] at hopen
        have hnone := h.notEnded (isOpen_of_move allowed hopen)
        rw [hend, if_neg, if_neg]
        · exact hnone
        · rintro rfl
          cases hopen
        · rintro (rfl | rfl) <;> cases hopen
      · rw [status] at hover
        rw [hend]
        split
        next => rfl
        next hnot =>
          split
          next =>
            show (s.endedAt.or _).isSome
            cases s.endedAt <;> rfl
          next hterm =>
            -- what is left is the archive
            have harchived : dst = .archived := by
              revert hover hnot hterm
              cases dst <;> decide
            subst harchived
            rcases of_archived allowed with hstatus | hstatus
            · exact (honce hstatus).1 target
            · exact h.hasEnd (by rw [hstatus]; rfl)

/-- The end stays where it is. -/
theorem endedAt_step {s : LabletSessionState} {call : Call} {stop : Int} (h : TimesKept s)
    (honce : EndsOnce s call) (hstop : s.endedAt = some stop) :
    (callStep s call).endedAt = some stop := by
  have effect := perform_effect call s
  unfold callStep
  generalize outcome (perform call.clock call.operation) s = result at effect
  cases effect with
  | refused e why => exact hstop
  | requeued operation status history fromState toState times =>
      exact (congrArg Times.endedAt times).trans hstop
  | kept target status history times => exact (congrArg Times.endedAt times).trans hstop
  | @moved s' dst entry target allowed status history fromState toState times =>
      have hend : s'.endedAt = _ :=
        (congrArg Times.endedAt times).trans (moveTo_endedAt _ _ _)
      show s'.endedAt = some stop
      rw [hend]
      split
      next hwrites =>
        rcases hwrites with rfl | rfl
        · have hstopping := stopping_of_stopped allowed
          rw [(honce hstopping).2 target stop hstop]
        · rw [h.notEnded (isOpen_of_expired allowed)] at hstop
          cases hstop
      next =>
        split
        next =>
          show s.endedAt.or _ = some stop
          rw [hstop]
          rfl
        next => exact hstop

/-- A created session has no times at all. -/
theorem timesKept_create {c : Clock} {newId : String} {args : CreateArgs}
    {s : LabletSessionState} (h : LabletSessionState.create c newId args = .ok s) :
    TimesKept s := by
  obtain ⟨hstatus, htimes, -⟩ := create_ok h
  have hend : s.endedAt = none := congrArg Times.endedAt htimes
  have hduration : s.durationSeconds = none := congrArg Times.durationSeconds htimes
  refine ⟨fun _ => hend, fun hover => ?_, fun start stop _ hstop => ?_, fun _ => hduration⟩
  · rw [hstatus] at hover
    cases hover
  · rw [hend] at hstop
    cases hstop

/-! ## §4. Runs of calls. -/

/-- The session ended at this time. -/
def EndedAt (stop : Int) (s : LabletSessionState) : Prop :=
  TimesKept s ∧ s.endedAt = some stop

/-- In a run that ends the session once the times are kept. -/
theorem sessionDuration_of_endsOnce {s : LabletSessionState} {calls : List Call}
    (hs : TimesKept s) (honce : Meets callStep EndsOnce s calls) : SessionDuration s calls := by
  have kept : ∀ before after, calls = before ++ after → TimesKept (replay callStep s before) := by
    intro before after hsplit
    rw [hsplit, meets_append] at honce
    exact honce.1.invariant timesKept_step hs
  refine ⟨fun before after hsplit => (kept before after hsplit).endedRight, ?_⟩
  intro before mid after stop hsplit hstop
  have hmid : Meets callStep EndsOnce (replay callStep s before) mid := by
    rw [hsplit, List.append_assoc, meets_append, meets_append] at honce
    exact honce.2.1
  rw [replay_append]
  have hbefore : EndedAt stop (replay callStep s before) :=
    ⟨kept before (mid ++ after) (by rw [hsplit, List.append_assoc]), hstop⟩
  have hafter : EndedAt stop (replay callStep (replay callStep s before) mid) :=
    hmid.invariant (fun t call ht hcall =>
      ⟨timesKept_step t call ht.1 hcall, endedAt_step ht.1 hcall ht.2⟩) hbefore
  exact hafter.2

/-- A session that leaves STOPPING does so by the operation it is asked for. -/
theorem moved_of_stopping {s : LabletSessionState} {call : Call} {dst : LabletSessionStatus}
    (hstatus : s.status = .stopping) (target : call.operation.target = some dst)
    (hallowed : dst ∈ validTransitions .stopping) :
    (callStep s call).status = dst
      ∧ (callStep s call).times = s.times.moveTo call.clock.now dst := by
  have effect := perform_effect call s
  unfold callStep
  generalize outcome (perform call.clock call.operation) s = result at effect
  cases effect with
  | refused e why => exact absurd (hstatus ▸ hallowed) (why dst target)
  | requeued operation status history fromState toState times =>
      rw [operation] at target
      cases target
  | kept target' status history times =>
      rw [target'] at target
      cases target
  | moved target' allowed status history fromState toState times =>
      rw [target', Option.some.injEq] at target
      subst target
      exact ⟨status, times⟩

/-- **The times of a session are right** throughout a run exactly when every call of it ends
the session once. -/
theorem session_duration_iff (c : Clock) (newId : String) (args : CreateArgs)
    (s : LabletSessionState) (created : LabletSessionState.create c newId args = .ok s)
    (calls : List Call) : SessionDuration s calls ↔ Meets callStep EndsOnce s calls := by
  constructor
  · intro hright
    rw [meets_iff]
    intro before call after hsplit hstopping
    have hsplit' : calls = before ++ [call] ++ after := by
      rw [hsplit]
      simp
    refine ⟨fun htarget => ?_, fun htarget stop hstop => ?_⟩
    · -- archived without an end is over without an end
      obtain ⟨hstatus, htimes⟩ := moved_of_stopping hstopping htarget (by decide)
      have hended := hright.ended (before ++ [call]) after hsplit'
      rw [replay_snoc] at hended
      obtain ⟨stop, hstop, -⟩ := hended (by rw [hstatus]; rfl)
      have hsame : (callStep (replay callStep s before) call).endedAt
          = (replay callStep s before).endedAt := congrArg Times.endedAt htimes
      rw [← hsame, hstop]
      rfl
    · -- stopped at another time moves the end
      obtain ⟨-, htimes⟩ := moved_of_stopping hstopping htarget (by decide)
      have hstable := hright.stable before [call] after stop hsplit' hstop
      rw [replay_snoc] at hstable
      have hnow : (callStep (replay callStep s before) call).endedAt = some call.clock.now :=
        (congrArg Times.endedAt htimes).trans (Times.computeDuration_endedAt _)
      rw [hnow, Option.some.injEq] at hstable
      exact hstable.symm
  · intro honce
    exact sessionDuration_of_endsOnce (timesKept_create created) honce

/-- A session that runs out of time after it was ready, and is then torn down. -/
def expiredThenStopped : List Call :=
  [{ clock := { now := 10 }, operation := .schedule "w1" Dict.empty "lab1" "resource-scheduler" },
   { clock := { now := 20 }, operation := .startInstantiation },
   { clock := { now := 30 }, operation := .markReady "u1" "cml1" },
   { clock := { now := 40 }, operation := .markRunning },
   { clock := { now := 3600 }, operation := .expire "timeslot_expired" },
   { clock := { now := 3700 }, operation := .startStopping none },
   { clock := { now := 3800 }, operation := .markStopped }]

/-- A session that is archived out of STOPPING. -/
def archivedWithoutEnd : List Call :=
  [{ clock := { now := 10 }, operation := .schedule "w1" Dict.empty "lab1" "resource-scheduler" },
   { clock := { now := 20 }, operation := .startInstantiation },
   { clock := { now := 30 }, operation := .markReady "u1" "cml1" },
   { clock := { now := 40 }, operation := .markRunning },
   { clock := { now := 50 }, operation := .startStopping none },
   { clock := { now := 60 }, operation := .archive "lablet-controller" }]

/-- **Two ways to lose the end**: archived without one, and moved when the teardown of an
expired session stops it. -/
theorem end_lost_or_moved :
    (replay callStep reservedSession archivedWithoutEnd).status = .archived
      ∧ (replay callStep reservedSession archivedWithoutEnd).endedAt = none
      ∧ ¬ SessionDuration reservedSession archivedWithoutEnd
      ∧ (replay callStep reservedSession (expiredThenStopped.take 5)).endedAt = some 3600
      ∧ (replay callStep reservedSession expiredThenStopped).endedAt = some 3800
      ∧ ¬ SessionDuration reservedSession expiredThenStopped := by
  refine ⟨rfl, rfl, fun h => ?_, rfl, rfl, fun h => ?_⟩
  · obtain ⟨stop, hstop, -⟩ := h.ended archivedWithoutEnd [] (by simp) rfl
    cases hstop
  · have hstable := h.stable (expiredThenStopped.take 5) (expiredThenStopped.drop 5) [] 3600
      (by simp) rfl
    rw [List.take_append_drop] at hstable
    have hmoved : (replay callStep reservedSession expiredThenStopped).endedAt = some 3800 := rfl
    rw [hmoved] at hstable
    cases hstable

theorem session_duration_iff_archived :
    SessionDuration reservedSession archivedWithoutEnd
      ↔ Meets callStep EndsOnce reservedSession archivedWithoutEnd :=
  session_duration_iff _ _ _ _ reservedSession_created _

end CmlCloudManager.ControlPlane
