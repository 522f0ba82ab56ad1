/-
  CmlCloudManager.Worker.IdleDetection
  ────────────────────────────────────
  **IDLE DETECTION AND AUTO-PAUSE.**

  A detection filters the telemetry of CML, stores what is left of it, asks whether the
  worker is idle, and pauses it if it may be paused.  A pause is a stop command with a
  reason; which counter it raises is decided by the TEXT of the reason.

    • `detect_eligible`      — a detection that finds the worker eligible has paused it,
                               or says in its result that it could not,
    • `pauses_counted`       — over every history of commands, the automatic counters stay
                               as they were and the manual one counts every pause.

  Times are in seconds; `minute` is a minute.
-/
import CmlCloudManager.Foundation.Replay
import CmlCloudManager.Worker.WorkerCommands

namespace CmlCloudManager.Worker

open CmlCloudManager.Foundation
open CmlCloudManager.ControlPlane (CMLWorkerStatus CMLWorkerStatus.value givenText)

/-! ## §1. Telemetry. -/

/-- A minute. -/
def minute : Int := 60

/-- The settings of an idle detection: the effective ones of the system, and those of the
telemetry filter.  `excludedUser` is the match of the pattern, `oneDecimal` the format of the
minutes in a text. -/
structure IdleSettings where
  enabled : Bool := true
  timeoutMinutes : Int := 60
  checkIntervalSeconds : Int := 300
  autoPauseSnoozeMinutes : Int := 60
  activityEventsMaxStored : Nat := 10
  relevantCategories : List String
  excludedUser : String → Bool
  oneDecimal : Int → String

/-- `filter_relevant_events`; an event without a readable time is skipped. -/
def filterRelevantEvents (settings : IdleSettings) (events : List ActivityEvent) :
    List ActivityEvent :=
  events.filter fun event =>
    event.timestamp.isSome && settings.relevantCategories.contains event.category
      && !(event.category == "user_activity" && settings.excludedUser event.userId)

/-- The time of an event that passed the filter. -/
def ActivityEvent.time (event : ActivityEvent) : Int := event.timestamp.getD 0

/-- `get_most_recent_events`: the newest first. -/
def getMostRecentEvents (events : List ActivityEvent) (maxCount : Nat) : List ActivityEvent :=
  (events.mergeSort fun a b => decide (b.time ≤ a.time)).take maxCount

/-- `get_latest_activity_timestamp`. -/
def getLatestActivityTimestamp (events : List ActivityEvent) : Option Int :=
  (events.map ActivityEvent.time).max?

/-! ## §2. The idle status. -/

/-- `calculate_idle_duration`, in seconds. -/
def calculateIdleDuration (now : Int) (s : CMLWorkerState) : Option Int :=
  s.lastActivityAt.map fun lastActivity => now - lastActivity

/-- `in_snooze_period`. -/
def inSnoozePeriod (snoozeMinutes now : Int) (s : CMLWorkerState) : Bool :=
  match s.lastResumedAt with
  | none => false
  | some lastResumed => decide (now - lastResumed < snoozeMinutes * minute)

/-- The time from which a worker counts as idle: its last activity, else its last resume, else
its creation. -/
def idleSince (s : CMLWorkerState) : Int := (s.lastActivityAt.or s.lastResumedAt).getD s.createdAt

/-- `IdleDetectionService.is_worker_idle`. -/
def isWorkerIdle (idleThresholdMinutes now : Int) (s : CMLWorkerState) : Bool :=
  decide (idleThresholdMinutes * minute ≤ now - idleSince s)

/-- What `GetWorkerIdleStatusQuery` answers. -/
structure IdleStatus where
  isIdle : Bool
  idleSeconds : Option Int
  inSnoozePeriod : Bool
  autoPauseEnabled : Bool
  eligibleForPause : Bool

/-- `GetWorkerIdleStatusQueryHandler`. -/
def getWorkerIdleStatus (settings : IdleSettings) (now : Int) (s : CMLWorkerState) : IdleStatus :=
  let idle := isWorkerIdle settings.timeoutMinutes now s
  let snooze := inSnoozePeriod settings.autoPauseSnoozeMinutes now s
  let autoPauseEnabled := settings.enabled && s.isIdleDetectionEnabled
  { isIdle := idle
    idleSeconds := calculateIdleDuration now s
    inSnoozePeriod := snooze
    autoPauseEnabled := autoPauseEnabled
    eligibleForPause := idle && autoPauseEnabled && !snooze && decide (s.status = .running) }

/-! ## §3. The detection. -/

/-- The result of an idle detection. -/
structure IdleResult where
  telemetryFetched : Bool := false
  activityUpdated : Bool := false
  idleCheckPerformed : Bool := false
  isIdle : Bool := false
  idleSeconds : Option Int := none
  eligibleForPause : Bool := false
  inSnoozePeriod : Bool := false
  autoPauseTriggered : Bool := false
  error : Option String := none
  deriving DecidableEq

/-- What goes wrong with a request of the handler: its result is a failure, or it raises. -/
inductive Fault where
  | fails
  | raises (message : String)

/-- The faults of one detection. -/
structure DetectFaults where
  update : Option Fault := none
  query : Option Fault := none
  pause : Option Fault := none

/-- The text of the reason of an automatic pause. -/
def autoPauseReason (settings : IdleSettings) (idleSeconds : Option Int) : String :=
  "Auto-paused after " ++ settings.oneDecimal (idleSeconds.getD 0) ++ " minutes idle"

/-- `UpdateWorkerActivityCommand` of a detection. -/
def updateActivityOf (settings : IdleSettings) (now : Int) (events : List ActivityEvent)
    (s : CMLWorkerState) : CMLWorkerState :=
  let filtered := filterRelevantEvents settings events
  let latest := getLatestActivityTimestamp filtered
  let target :=
    if settings.timeoutMinutes = 0 then none
    else latest.map fun t => t + settings.timeoutMinutes * minute
  ((load s).updateActivity (getMostRecentEvents filtered settings.activityEventsMaxStored) latest
    now (some (now + settings.checkIntervalSeconds)) target now).state

/-- The last two steps of a detection: the idle status of the worker, and the pause. -/
def evaluateIdle (settings : IdleSettings) (faults : DetectFaults) (now : Int)
    (s : CMLWorkerState) : IdleResult × CMLWorkerState :=
  match faults.query with
  | some .fails =>
      ({ telemetryFetched := true, activityUpdated := true
         error := some "Failed to check idle status" }, s)
  | some (.raises message) =>
      ({ telemetryFetched := true, activityUpdated := true, error := some message }, s)
  | none =>
      let status := getWorkerIdleStatus settings now s
      let result : IdleResult :=
        { telemetryFetched := true
          activityUpdated := true
          idleCheckPerformed := true
          isIdle := status.isIdle
          idleSeconds := status.idleSeconds
          eligibleForPause := status.eligibleForPause
          inSnoozePeriod := status.inSnoozePeriod }
      if status.eligibleForPause then
        match faults.pause with
        | some .fails => ({ result with error := some "Failed to trigger auto-pause" }, s)
        | some (.raises message) => ({ result with error := some message }, s)
        | none =>
            let reason := autoPauseReason settings status.idleSeconds
            let paused := pauseWorker true (some reason) now s
            if paused.result.isSuccess then
              ({ result with autoPauseTriggered := true }, paused.after s)
            else ({ result with error := some "Failed to trigger auto-pause" }, paused.after s)
      else (result, s)

/-- `DetectWorkerIdleCommandHandler`. -/
def detectWorkerIdle (settings : IdleSettings) (faults : DetectFaults) (now : Int)
    (rawTelemetryEvents : Option (List ActivityEvent)) (s : CMLWorkerState) :
    IdleResult × CMLWorkerState :=
  match rawTelemetryEvents with
  | none => ({ error := some "No telemetry events provided" }, s)
  | some events =>
      match faults.update with
      | some .fails => ({ telemetryFetched := true, error := some "Failed to update activity" }, s)
      | some (.raises message) => ({ telemetryFetched := true, error := some message }, s)
      | none => evaluateIdle settings faults now (updateActivityOf settings now events s)

/-- `ReportActivityEventsCommandHandler`; the times of the events are read in advance. -/
def reportActivityEvents (now : Int) (events : List ActivityEvent) (s : CMLWorkerState) :
    CMLWorkerState :=
  if events.isEmpty then s
  else
    let lastActivityAt :=
      events.foldl (fun latest event =>
        match event.timestamp with
        | some t => if latest < t then t else latest
        | none => latest) now
    ((load s).updateActivity events (some lastActivityAt) now none none now).state

/-! ## §4. Who is paused. -/

section Detection

variable (settings : IdleSettings)

/-- The activity of a worker is no part of what the other commands look at. -/
theorem updateActivityOf_frame (now : Int) (events : List ActivityEvent) (s : CMLWorkerState) :
    let t := updateActivityOf settings now events s
    t.status = s.status ∧ t.desiredStatus = s.desiredStatus ∧ t.pauseReason = s.pauseReason
      ∧ t.autoPauseCount = s.autoPauseCount ∧ t.manualPauseCount = s.manualPauseCount
      ∧ t.autoResumeCount = s.autoResumeCount ∧ t.manualResumeCount = s.manualResumeCount :=
  ⟨rfl, rfl, rfl, rfl, rfl, rfl, rfl⟩

theorem autoPauseReason_given (idleSeconds : Option Int) :
    givenText (some (autoPauseReason settings idleSeconds))
      = some (autoPauseReason settings idleSeconds) := by
  refine ControlPlane.givenText_some fun h => ?_
  have hlen := congrArg String.length h
  unfold autoPauseReason at hlen
  simp only [String.length_append, String.length_empty] at hlen
  have hprefix : "Auto-paused after ".length = 18 := rfl
  omega

/-- The reason of an automatic pause is not the one that the counters look for. -/
theorem autoPauseReason_ne (idleSeconds : Option Int) :
    autoPauseReason settings idleSeconds ≠ "idle_timeout" := by
  intro h
  have hhead := congrArg (fun t : String => t.toList.head?) h
  unfold autoPauseReason at hhead
  simp only [String.toList_append, List.head?_append] at hhead
  cases hhead

/-- An automatic pause of a worker that is not terminated succeeds. -/
theorem pauseWorker_succeeds {s : CMLWorkerState} (h : s.status ≠ .terminated) (now : Int)
    (reason : Option String) : (pauseWorker true reason now s).result.isSuccess = true := by
  unfold pauseWorker stopCMLWorker
  simp only [if_neg h]
  split <;> rfl

/-- **A detection that finds a worker eligible has paused it, or says that it could not.**  The
one way out is a request that raises without a text. -/
theorem evaluateIdle_eligible {faults : DetectFaults} {now : Int} {s : CMLWorkerState}
    (h : (evaluateIdle settings faults now s).1.eligibleForPause = true) :
    (evaluateIdle settings faults now s).1.autoPauseTriggered = true
      ∨ (givenText (evaluateIdle settings faults now s).1.error).isSome = true
      ∨ faults.pause = some (.raises "") := by
  unfold evaluateIdle at h ⊢
  cases hquery : faults.query with
  | some fault =>
      rw [hquery] at h
      cases fault <;> cases h
  | none =>
      rw [hquery] at h
      dsimp only at h ⊢
      by_cases heligible : (getWorkerIdleStatus settings now s).eligibleForPause = true
      · rw [if_pos heligible]
        cases hpause : faults.pause with
        | some fault =>
            cases fault with
            | fails => exact .inr (.inl rfl)
            | raises message =>
                by_cases hempty : message = ""
                · subst hempty
                  exact .inr (.inr rfl)
                · refine .inr (.inl ?_)
                  show (givenText (some message)).isSome = true
                  rw [ControlPlane.givenText_some hempty]
                  rfl
        | none =>
            -- the worker runs, so that the stop command is not refused
            have hrunning : s.status = .running := by
              unfold getWorkerIdleStatus at heligible
              simp only [Bool.and_eq_true, decide_eq_true_eq] at heligible
              exact heligible.2
            have hsuccess := pauseWorker_succeeds (s := s) (by rw [hrunning]; decide) now
              (some (autoPauseReason settings (getWorkerIdleStatus settings now s).idleSeconds))
            refine .inl ?_
            dsimp only
            rw [if_pos hsuccess]
      · rw [if_neg heligible] at h
        exact absurd h heligible

theorem detect_eligible {faults : DetectFaults} {now : Int}
    {events : Option (List ActivityEvent)} {s : CMLWorkerState}
    (h : (detectWorkerIdle settings faults now events s).1.eligibleForPause = true) :
    (detectWorkerIdle settings faults now events s).1.autoPauseTriggered = true
      ∨ (givenText (detectWorkerIdle settings faults now events s).1.error).isSome = true
      ∨ faults.pause = some (.raises "") := by
  unfold detectWorkerIdle at h ⊢
  cases events with
  | none => cases h
  | some events =>
      cases hupdate : faults.update with
      | some fault =>
          rw [hupdate] at h
          cases fault <;> cases h
      | none =>
          rw [hupdate] at h
          exact evaluateIdle_eligible settings h

/-! ## §5. The counters of a worker. -/

/-- What happens to a worker. -/
inductive PauseAction where
  | command (command : WorkerCommand)
  | detect (faults : DetectFaults) (rawTelemetryEvents : Option (List ActivityEvent))
  | report (events : List ActivityEvent)
  | toggle (enabled : Bool)

/-- The worker after an action at a time. -/
def pauseStep (s : CMLWorkerState) (a : Int × PauseAction) : CMLWorkerState :=
  match a.2 with
  | .command command => (handle command a.1 s).after s
  | .detect faults events => (detectWorkerIdle settings faults a.1 events s).2
  | .report events => reportActivityEvents a.1 events s
  | .toggle enabled => ((load s).toggleIdleDetection enabled a.1).state

/-- The command gives no reason that a counter looks for, as the API and the worker-controller
issue it: they give none.  After a hard delete there is no worker. -/
def WorkerCommand.Issued : WorkerCommand → Prop
  | .start _ isAutoResume reason =>
      (givenText reason).getD (if isAutoResume then "auto" else "manual") ≠ "auto"
  | .stop _ isAutoPause reason =>
      (givenText reason).getD (if isAutoPause then "idle_timeout" else "manual") ≠ "idle_timeout"
  | .pause isAutoPause reason =>
      (givenText reason).getD (if isAutoPause then "idle_timeout" else "manual") ≠ "idle_timeout"
  | .delete forceHardDelete _ => forceHardDelete = false
  | _ => True

/-- The commands of the history are issued so. -/
def PauseAction.Issued : PauseAction → Prop
  | .command sent => sent.Issued
  | _ => True

/-- The stop command goes through. -/
def Stoppable (s : CMLWorkerState) : Prop := s.status ≠ .terminated ∧ s.desiredStatus ≠ .stopped

instance (s : CMLWorkerState) : Decidable (Stoppable s) := inferInstanceAs (Decidable (_ ∧ _))

/-- The action pauses the worker by hand: a stop or a pause command that goes through. -/
def pausedByHand (s : CMLWorkerState) (a : Int × PauseAction) : Nat :=
  match a.2 with
  | .command (.stop ..) => if Stoppable s then 1 else 0
  | .command (.pause ..) => if Stoppable s then 1 else 0
  | _ => 0

/-- The action pauses the worker by idle detection. -/
def pausedByDetection (s : CMLWorkerState) (a : Int × PauseAction) : Nat :=
  match a.2 with
  | .detect faults events =>
      if (detectWorkerIdle settings faults a.1 events s).1.autoPauseTriggered ∧ Stoppable s then 1
      else 0
  | _ => 0

/-- How often it happens along a history. -/
def timesAlong (count : CMLWorkerState → Int × PauseAction → Nat) :
    CMLWorkerState → List (Int × PauseAction) → Nat
  | _, [] => 0
  | s, a :: rest => count s a + timesAlong count (pauseStep settings s a) rest

/-- The counters of two states of a worker agree. -/
structure SameCounters (s t : CMLWorkerState) : Prop where
  autoPause : t.autoPauseCount = s.autoPauseCount
  manualPause : t.manualPauseCount = s.manualPauseCount
  autoResume : t.autoResumeCount = s.autoResumeCount
  reason : t.pauseReason = s.pauseReason

theorem updateDesiredStatus_counters (w : CMLWorker) (status : CMLWorkerStatus)
    (by' reason : Option String) (now : Int) :
    SameCounters w.state (w.updateDesiredStatus status by' reason now).state := by
  rcases w.updateDesiredStatus_state status by' reason now with h | h <;> rw [h] <;>
    exact ⟨rfl, rfl, rfl, rfl⟩

/-- **The frame of the counters**: only an event of a pause or of a resume writes them. -/
theorem sameCounters_raised {command : WorkerCommand} (hpauses : ¬command.Pauses)
    (hresumes : ¬command.Resumes) (s : CMLWorkerState) :
    RaiseInvariant command (SameCounters s) := by
  refine ⟨fun t event hevent h => ?_, fun _ _ _ h => ⟨h.1, h.2, h.3, h.4⟩,
    fun _ _ h => ⟨h.1, h.2, h.3, h.4⟩⟩
  cases event with
  | created => exact hevent.elim
  | imported => exact hevent.elim
  | paused => exact absurd hevent hpauses
  | resumed => exact absurd hevent hresumes
  | statusUpdated old new now init => cases new <;> exact ⟨h.1, h.2, h.3, h.4⟩
  | terminated now by' =>
      simp only [CMLWorkerState.on, CMLWorkerState.computeDuration]
      split <;> exact ⟨h.1, h.2, h.3, h.4⟩
  | _ => exact ⟨h.1, h.2, h.3, h.4⟩

/-- What one action does to the counters. -/
structure CountsAs (hand detection : Nat) (s t : CMLWorkerState) : Prop where
  autoPause : t.autoPauseCount = s.autoPauseCount
  manualPause : t.manualPauseCount = s.manualPauseCount + hand + detection
  autoResume : t.autoResumeCount = s.autoResumeCount
  reason : t.pauseReason ≠ some "idle_timeout"

theorem SameCounters.countsAs {s t : CMLWorkerState} (h : SameCounters s t)
    (hs : s.pauseReason ≠ some "idle_timeout") : CountsAs 0 0 s t :=
  ⟨h.1, h.2, h.3, by rw [h.4]; exact hs⟩

/-- A stop command with a reason that is not the one of the automatic counter. -/
theorem stop_countsAs {s : CMLWorkerState} (hs : s.pauseReason ≠ some "idle_timeout")
    (stoppedBy : Option String) (auto : Bool) (reason : Option String) {text : String}
    (htext : (givenText reason).getD (if auto then "idle_timeout" else "manual") = text)
    (hne : text ≠ "idle_timeout") (now : Int) :
    CountsAs (if Stoppable s then 1 else 0) 0 s
      ((stopCMLWorker stoppedBy auto reason now s).after s) := by
  unfold stopCMLWorker
  by_cases hstatus : s.status = .terminated
  · have hno : ¬Stoppable s := fun h => h.1 hstatus
    rw [if_neg hno, if_pos hstatus]
    exact ⟨rfl, rfl, rfl, hs⟩
  · rw [if_neg hstatus]
    by_cases hdesired : s.desiredStatus = .stopped
    · have hno : ¬Stoppable s := fun h => h.2 hdesired
      rw [if_neg hno, if_pos hdesired]
      exact ⟨rfl, rfl, rfl, hs⟩
    · have hgo : Stoppable s := ⟨hstatus, hdesired⟩
      rw [if_pos hgo, if_neg hdesired]
      simp only [htext]
      have hcounters := updateDesiredStatus_counters (load s) .stopped
        (if auto then none else stoppedBy) (some text) now
      refine ⟨?_, ?_, hcounters.3, ?_⟩
      · show (if text = "idle_timeout" then _ else _) = _
        rw [if_neg hne]
        exact hcounters.1
      · show (if text = "idle_timeout" then _ else _ + 1) = _
        rw [if_neg hne, hcounters.2]
        rfl
      · show some text ≠ _
        exact fun h => hne (Option.some.inj h)

/-- A start command with a reason that is not the one of the automatic counter. -/
theorem start_countsAs {s : CMLWorkerState} (hs : s.pauseReason ≠ some "idle_timeout")
    (startedBy : Option String) (auto : Bool) (reason : Option String) {text : String}
    (htext : (givenText reason).getD (if auto then "auto" else "manual") = text)
    (hne : text ≠ "auto") (now : Int) :
    CountsAs 0 0 s ((startCMLWorker startedBy auto reason now s).after s) := by
  unfold startCMLWorker
  by_cases hstatus : s.status = .terminated
  · rw [if_pos hstatus]
    exact ⟨rfl, rfl, rfl, hs⟩
  · rw [if_neg hstatus]
    by_cases hdesired : s.desiredStatus = .running
    · rw [if_pos hdesired]
      exact ⟨rfl, rfl, rfl, hs⟩
    · rw [if_neg hdesired]
      simp only [htext]
      have hcounters := updateDesiredStatus_counters (load s) .running
        (if auto then none else startedBy) (some text) now
      have hreason : ((load s).updateDesiredStatus .running (if auto then none else startedBy)
          (some text) now).state.pauseReason ≠ some "idle_timeout" := by
        rw [hcounters.4]
        exact hs
      refine ⟨hcounters.1, hcounters.2, ?_, ?_⟩
      · show (if text = "auto" then _ else _) = _
        rw [if_neg hne]
        exact hcounters.3
      · -- the worker was not paused by the text of the automatic counter, so its reason stays
        show (if decide (_ = some "idle_timeout") = true then none else _) ≠ _
        rw [decide_eq_false hreason]
        exact hreason

theorem evaluateIdle_countsAs {s : CMLWorkerState} (hs : s.pauseReason ≠ some "idle_timeout")
    (faults : DetectFaults) (now : Int) :
    CountsAs 0
      (if (evaluateIdle settings faults now s).1.autoPauseTriggered ∧ Stoppable s then 1 else 0) s
      (evaluateIdle settings faults now s).2 := by
  have hnothing : CountsAs 0 0 s s := ⟨rfl, rfl, rfl, hs⟩
  unfold evaluateIdle
  cases faults.query with
  | some fault => cases fault <;> exact hnothing
  | none =>
      dsimp only
      by_cases heligible : (getWorkerIdleStatus settings now s).eligibleForPause = true
      · rw [if_pos heligible]
        cases faults.pause with
        | some fault => cases fault <;> exact hnothing
        | none =>
            have hrunning : s.status ≠ .terminated := by
              unfold getWorkerIdleStatus at heligible
              simp only [Bool.and_eq_true, decide_eq_true_eq] at heligible
              rw [heligible.2]
              decide
            have hsuccess := pauseWorker_succeeds hrunning now
              (some (autoPauseReason settings (getWorkerIdleStatus settings now s).idleSeconds))
            dsimp only
            rw [if_pos hsuccess]
            have htext : (givenText (some (autoPauseReason settings
                  (getWorkerIdleStatus settings now s).idleSeconds))).getD "idle_timeout"
                = autoPauseReason settings (getWorkerIdleStatus settings now s).idleSeconds := by
              rw [autoPauseReason_given]
              rfl
            have hcounts := stop_countsAs hs (some "system") true _ htext
              (autoPauseReason_ne settings _) now
            simp only [true_and]
            refine ⟨hcounts.1, ?_, hcounts.3, hcounts.4⟩
            rw [Nat.add_zero]
            exact hcounts.2
      · rw [if_neg heligible]
        exact hnothing

/-- A command: a stop or a pause counts, and the others leave the counters alone. -/
theorem handle_countsAs {s : CMLWorkerState} (hs : s.pauseReason ≠ some "idle_timeout")
    {command : WorkerCommand} (hissued : command.Issued) (now : Int) :
    CountsAs (pausedByHand s (now, .command command)) 0 s ((handle command now s).after s) := by
  have hothers (hpauses : ¬command.Pauses) (hresumes : ¬command.Resumes) :
      CountsAs 0 0 s ((handle command now s).after s) :=
    ((sameCounters_raised hpauses hresumes s).after ⟨rfl, rfl, rfl, rfl⟩ now).countsAs hs
  cases command with
  | start startedBy auto reason => exact start_countsAs hs startedBy auto reason rfl hissued now
  | stop stoppedBy auto reason => exact stop_countsAs hs stoppedBy auto reason rfl hissued now
  | pause auto reason => exact stop_countsAs hs _ auto reason rfl hissued now
  | _ => exact hothers not_false not_false

/-- **One action**: only pauses count, and each of them counts as a manual one. -/
theorem pauseStep_countsAs {s : CMLWorkerState} (hs : s.pauseReason ≠ some "idle_timeout")
    (a : Int × PauseAction) (hissued : a.2.Issued) :
    CountsAs (pausedByHand s a) (pausedByDetection settings s a) s (pauseStep settings s a) := by
  obtain ⟨now, action⟩ := a
  cases action with
  | command command => exact handle_countsAs hs hissued now
  | detect faults events =>
      show CountsAs 0 (if _ ∧ _ then 1 else 0) s (detectWorkerIdle settings faults now events s).2
      unfold detectWorkerIdle
      cases events with
      | none => exact ⟨rfl, rfl, rfl, hs⟩
      | some events =>
          cases faults.update with
          | some fault => cases fault <;> exact ⟨rfl, rfl, rfl, hs⟩
          | none =>
              obtain ⟨-, -, hreason, -⟩ := updateActivityOf_frame settings now events s
              have h := evaluateIdle_countsAs settings
                (s := updateActivityOf settings now events s) (by rw [hreason]; exact hs) faults now
              exact ⟨h.1, h.2, h.3, h.4⟩
  | report events =>
      show CountsAs 0 0 s (reportActivityEvents now events s)
      unfold reportActivityEvents
      split
      next => exact ⟨rfl, rfl, rfl, hs⟩
      next => exact ⟨rfl, rfl, rfl, hs⟩
  | toggle enabled =>
      show CountsAs 0 0 s ((load s).toggleIdleDetection enabled now).state
      unfold CMLWorker.toggleIdleDetection
      split <;> exact ⟨rfl, rfl, rfl, hs⟩

/-- **Every pause counts as a manual one**, also those of the idle detection; the automatic
counters stay as they are. -/
theorem pauses_counted (s : CMLWorkerState) (hs : s.pauseReason ≠ some "idle_timeout")
    (history : List (Int × PauseAction)) (hissued : ∀ a ∈ history, a.2.Issued) :
    let t := replay (pauseStep settings) s history
    t.autoPauseCount = s.autoPauseCount ∧ t.autoResumeCount = s.autoResumeCount
      ∧ t.pauseReason ≠ some "idle_timeout"
      ∧ t.manualPauseCount = s.manualPauseCount + timesAlong settings pausedByHand s history
          + timesAlong settings (pausedByDetection settings) s history := by
  induction history generalizing s with
  | nil => exact ⟨rfl, rfl, hs, rfl⟩
  | cons a rest ih =>
      obtain ⟨hfirst, hrest⟩ := List.forall_mem_cons.mp hissued
      have hstep := pauseStep_countsAs settings hs a hfirst
      obtain ⟨hauto, hresume, hreason, hmanual⟩ :=
        ih (pauseStep settings s a) hstep.reason hrest
      refine ⟨hauto.trans hstep.autoPause, hresume.trans hstep.autoResume, hreason, ?_⟩
      rw [replay_cons, hmanual, hstep.manualPause]
      simp only [timesAlong]
      omega

end Detection

/-- A worker that nobody uses is paused by the detection, started, stopped by hand and
terminated. -/
theorem pauses_counted_stop :
    let settings : IdleSettings :=
      { relevantCategories := [], excludedUser := fun _ => false, oneDecimal := toString }
    let s : CMLWorkerState := { createdAt := 0, updatedAt := 0, status := .running }
    let history : List (Int × PauseAction) :=
      [(7200, .detect {} (some [])), (7300, .command (.start (some "admin") false none)),
        (7400, .command (.updateStatus .running none)),
        (7500, .command (.stop (some "admin") false none)),
        (7600, .command (.terminate (some "admin") none))]
    let t := replay (pauseStep settings) s history
    t.manualPauseCount = 2 ∧ t.autoPauseCount = 0 := by
  intro settings s history t
  have hissued : ∀ a ∈ history, a.2.Issued := by
    simp [history, PauseAction.Issued, WorkerCommand.Issued, ControlPlane.givenText]
  have hcounts := pauses_counted settings s (by decide) history hissued
  have hpauses : s.manualPauseCount + timesAlong settings pausedByHand s history
      + timesAlong settings (pausedByDetection settings) s history = 2 := by decide +kernel
  exact ⟨hcounts.2.2.2.trans hpauses, hcounts.1⟩

end CmlCloudManager.Worker
