/-
  CmlCloudManager.ControlPlane.RunHistory
  ───────────────────────────────────────
  **THE RUNS OF A LAB.**

  A lab keeps a list of its most recent runs.  The completion of a start opens one,
  the completion of a stop, a wipe or a delete closes the last that is open; the
  bind of a session opens one as well, and `RecordLabRun` adds a run as its request
  has it.  At most one run should be open, the last one, and a run that is closed
  should not end before it began.

  Only the completion of a start looks whether a run is open, and nothing compares
  the times of a run: `RunSafe` says when no harm comes of it.

  Main results:
    • `closeLastOpen_concat`  — what closing makes of a history in order,
    • `ran_latest`            — the history holds the most recent runs, and no more
      than its bound, after any commands,
    • `ran_inOrder_iff`       — one command keeps the history in order iff it is safe,
    • `run_history_iff`       — and so do any commands.
-/
import CmlCloudManager.ControlPlane.RevisionHistory
import CmlCloudManager.ControlPlane.LabBinding

namespace CmlCloudManager.ControlPlane

open CmlCloudManager.Foundation CmlCloudManager.Pipeline

/-! ## §1. `RecordLabRun`. -/

/-- A `datetime`: its microseconds, in UTC where it names no zone, and whether it names one. -/
structure IsoDateTime where
  micros : Int
  aware : Bool

/-- `RecordLabRunCommand`. -/
structure RecordLabRunCommand where
  labRecordId : String
  startedAt : Option String := none
  stoppedAt : Option String := none
  startedBy : String := "system"
  stopReason : Option String := none
  labletSessionId : Option String := none
  finalState : Option String := none

/-- The answer of `RecordLabRun`. -/
structure RunRecorded where
  runId : NewId
  labRecordId : String
  startedAt : IsoDateTime
  stoppedAt : Option IsoDateTime
  durationSeconds : Option Int
  startedBy : String
  message : String := "Run recorded"

/-- `_parse_datetime`. -/
def parseDateTime (fromIsoFormat : String → Option IsoDateTime) (value : Option String) :
    Option IsoDateTime :=
  (givenText value).bind fromIsoFormat

/-- The whole seconds of a run; two `datetime`s are only subtracted if both name a zone or none
does. -/
def runSeconds (startedAt : IsoDateTime) : Option IsoDateTime → Except String (Option Int)
  | none => .ok none
  | some stoppedAt =>
      if stoppedAt.aware = startedAt.aware then
        .ok (some (wholeSeconds (stoppedAt.micros - startedAt.micros)))
      else .error "can't subtract offset-naive and offset-aware datetimes"

section Record

variable (fromIsoFormat : String → Option IsoDateTime)

/-- When the run started: now, if the request does not say. -/
def RecordLabRunCommand.start (request : RecordLabRunCommand) (now : Int) : IsoDateTime :=
  (parseDateTime fromIsoFormat request.startedAt).getD ⟨now, true⟩

/-- When the run stopped, if the request says. -/
def RecordLabRunCommand.stop (request : RecordLabRunCommand) : Option IsoDateTime :=
  parseDateTime fromIsoFormat request.stoppedAt

/-- The run of a request. -/
def RecordLabRunCommand.run (request : RecordLabRunCommand) (now : Int) (newRunId : NewId)
    (durationSeconds : Option Int) : LabRunRecord where
  runId := newRunId
  startedAt := (request.start fromIsoFormat now).micros
  stoppedAt := (request.stop fromIsoFormat).map IsoDateTime.micros
  durationSeconds := durationSeconds
  startedBy := request.startedBy
  stopReason := request.stopReason
  labletSessionId := request.labletSessionId
  finalState := request.finalState

/-- `RecordLabRunCommandHandler.handle_async`; what raises is answered as an internal error. -/
def recordLabRun (now : Int) (newRunId : NewId) (db : LabRecords) (request : RecordLabRunCommand) :
    Except String (OperationResult RunRecorded) × LabRecords :=
  match db.store.find request.labRecordId with
  | none => (.ok (.notFound request.labRecordId), db)
  | some lab =>
      let startedAt := request.start fromIsoFormat now
      let stoppedAt := request.stop fromIsoFormat
      match runSeconds startedAt stoppedAt with
      | .error e =>
          (.error ("Error recording run for lab " ++ request.labRecordId ++ ": " ++ e), db)
      | .ok durationSeconds =>
          (.ok (.ok
            { runId := newRunId
              labRecordId := request.labRecordId
              startedAt := startedAt
              stoppedAt := stoppedAt
              durationSeconds := durationSeconds
              startedBy := request.startedBy }),
            db.save (lab.recordRun (request.run fromIsoFormat now newRunId durationSeconds)) false)

end Record

/-! ## §2. What the three commands make of the record. -/

namespace LabRecord

/-- What `CompleteLabAction` makes of the record. -/
def completed (lab : LabRecord) (now : Int) (newRunId : NewId)
    (action cmlState : Option String) : LabRecord :=
  match (givenText action).or (givenText lab.pendingAction) with
  | none => lab
  | some action =>
      let targetStatus := actionToStatus.get? action
      let cleared := lab.completePendingAction
      let moved :=
        match applyActionTransition now cleared targetStatus with
        | .ok moved => moved
        | .error _ => cleared
      (moved.recordActionRun now newRunId action targetStatus).1.withCmlState cmlState

/-- The run that a bind opens. -/
def boundRun (now : Int) (newRunId : NewId) (sessionId : String) : LabRunRecord where
  runId := newRunId
  startedAt := now
  startedBy := "lablet-controller"
  labletSessionId := some sessionId

/-- What `BindLabToSession` makes of the record; of the session it reads whether it is known, and
which record it has. -/
def boundToSession (lab : LabRecord) (now : Int) (newRunId : NewId)
    (request : BindLabToSessionCommand) : Option (Option String) → LabRecord
  | none => lab
  | some labRecordId =>
      if lab.activeLabletSessionId = some request.sessionId
          ∧ labRecordId = some request.labRecordId then lab
      else
        match boundToOther request lab.toLabRecordState with
        | some _ => lab
        | none =>
            (lab.recordRun (boundRun now newRunId request.sessionId)).bindToLablet
              request.sessionId newRunId.val

/-- What `RecordLabRun` makes of the record. -/
def withRun (fromIsoFormat : String → Option IsoDateTime) (lab : LabRecord) (now : Int)
    (newRunId : NewId) (request : RecordLabRunCommand) : LabRecord :=
  match runSeconds (request.start fromIsoFormat now) (request.stop fromIsoFormat) with
  | .error _ => lab
  | .ok durationSeconds =>
      lab.recordRun (request.run fromIsoFormat now newRunId durationSeconds)

end LabRecord

/-- `CompleteLabAction` stores what it makes of the record. -/
theorem completeLabAction_stores {now : Int} {newRunId : NewId} {db : LabRecords}
    {request : CompleteLabActionCommand} {lab : LabRecord}
    (hfind : db.store.find request.labRecordId = some lab) :
    (completeLabAction now newRunId db request).2
      = match (givenText request.action).or (givenText lab.pendingAction) with
        | none => db
        | some _ => db.save (lab.completed now newRunId request.action request.cmlState) false := by
  unfold completeLabAction LabRecord.completed
  rw [hfind]
  dsimp only
  cases (givenText request.action).or (givenText lab.pendingAction) <;> rfl

/-- `RecordLabRun` stores what it makes of the record. -/
theorem recordLabRun_stores {fromIsoFormat : String → Option IsoDateTime} {now : Int}
    {newRunId : NewId} {db : LabRecords} {request : RecordLabRunCommand} {lab : LabRecord}
    (hfind : db.store.find request.labRecordId = some lab) :
    (recordLabRun fromIsoFormat now newRunId db request).2
      = match runSeconds (request.start fromIsoFormat now) (request.stop fromIsoFormat) with
        | .error _ => db
        | .ok _ => db.save (lab.withRun fromIsoFormat now newRunId request) false := by
  unfold recordLabRun LabRecord.withRun
  rw [hfind]
  dsimp only
  cases runSeconds (request.start fromIsoFormat now) (request.stop fromIsoFormat) <;> rfl

/-- `BindLabToSession` stores the run history it makes of the record. -/
theorem bindLabToSession_stores {c : Clock} {newRunId : NewId} {db : BindingStore}
    {request : BindLabToSessionCommand} {lab : LabRecord}
    (hfind : db.labRecords.find request.labRecordId = some lab.toLabRecordState)
    (hruns : (db.detailsOf request.labRecordId).runHistory = lab.runHistory) :
    ((bindLabToSession c newRunId db request).2.detailsOf request.labRecordId).runHistory
      = (lab.boundToSession c.now newRunId request
          ((db.sessions.find request.sessionId).map
            LabletSessionState.labRecordId)).runHistory := by
  unfold bindLabToSession LabRecord.boundToSession
  rw [hfind]
  dsimp only
  cases db.sessions.find request.sessionId with
  | none => exact hruns
  | some session =>
      dsimp only [Option.map_some]
      split
      next => exact hruns
      next =>
        cases boundToOther request lab.toLabRecordState with
        | some other => exact hruns
        | none =>
            have hdetails : ∀ details : LabDetails,
                ((db.labDetails.set request.labRecordId details).get?
                  request.labRecordId).getD {} = details := by
              intro details
              rw [Dict.get?_set_self]
              rfl
            unfold BindingStore.detailsOf at hruns ⊢
            dsimp only
            rw [hdetails, hruns]
            rfl

/-! ## §3. Histories in order. -/

/-- The run is closed. -/
def LabRunRecord.Closed (run : LabRunRecord) : Prop := run.stoppedAt ≠ none

/-- A run that is closed did not end before it began, and its duration is the difference. -/
def LabRunRecord.Timed (run : LabRunRecord) : Prop :=
  ∀ stopped, run.stoppedAt = some stopped →
    run.startedAt ≤ stopped ∧ run.durationSeconds = some (wholeSeconds (stopped - run.startedAt))

/-- The run, closed. -/
def LabRunRecord.close (run : LabRunRecord) (stoppedAt : Int) (stopReason finalState : String) :
    LabRunRecord :=
  { run with
    stoppedAt := some stoppedAt
    durationSeconds := some (wholeSeconds (stoppedAt - run.startedAt))
    stopReason := some stopReason
    finalState := some finalState }

/-- **Runs in order**: at most the last is open, and the others are timed. -/
structure RunsInOrder (runs : List LabRunRecord) : Prop where
  openLast : ∀ before run after, runs = before ++ run :: after → run.stoppedAt = none → after = []
  timed : ∀ run ∈ runs, run.Timed

theorem runsInOrder_nil : RunsInOrder [] :=
  ⟨fun before run after h => by simp at h, fun run h => absurd h List.not_mem_nil⟩

/-- Runs are in order iff all but the last are closed, and all are timed. -/
theorem runsInOrder_concat_iff (runs : List LabRunRecord) (last : LabRunRecord) :
    RunsInOrder (runs ++ [last]) ↔ (∀ run ∈ runs, run.Closed ∧ run.Timed) ∧ last.Timed := by
  constructor
  · intro h
    refine ⟨fun run hrun => ⟨fun hopen => ?_, ?_⟩, ?_⟩
    · obtain ⟨before, after, rfl⟩ := List.append_of_mem hrun
      have hend := h.openLast before run (after ++ [last]) (by simp) hopen
      exact absurd hend (by simp)
    · exact h.timed run (List.mem_append_left _ hrun)
    · exact h.timed last (by simp)
  · rintro ⟨hruns, hlast⟩
    refine ⟨fun before run after hsplit hopen => ?_, fun run hrun => ?_⟩
    · rcases List.eq_nil_or_concat after with rfl | ⟨after, last', rfl⟩
      · rfl
      · -- the run stands before the last one
        rw [List.concat_eq_append, ← List.cons_append, ← List.append_assoc] at hsplit
        obtain ⟨rfl, -⟩ := List.append_inj' hsplit rfl
        exact absurd hopen (hruns run (by simp)).1
    · rcases List.mem_append.mp hrun with hrun | hrun
      · exact (hruns run hrun).2
      · rw [List.mem_singleton.mp hrun]
        exact hlast

/-- A run more, within the bound. -/
theorem bounded_concat (runs : List LabRunRecord) (run : LabRunRecord) :
    LabRecord.bounded (runs ++ [run])
      = runs.drop (runs.length + 1 - LabRecord.maxRunHistorySize) ++ [run] := by
  unfold LabRecord.bounded
  rw [List.length_append, List.length_singleton, List.drop_append_of_le_length]
  unfold LabRecord.maxRunHistorySize
  omega

/-- The last run, if it is open. -/
def openRun (runs : List LabRunRecord) : Option LabRunRecord :=
  match runs.getLast? with
  | some run => if run.stoppedAt = none then some run else none
  | none => none

theorem openRun_concat (runs : List LabRunRecord) (last : LabRunRecord) :
    openRun (runs ++ [last]) = if last.stoppedAt = none then some last else none := by
  unfold openRun
  rw [List.getLast?_concat]

/-- **A run more** keeps the runs in order iff none is open and it is timed itself. -/
theorem bounded_inOrder_iff {runs : List LabRunRecord} (h : RunsInOrder runs)
    (run : LabRunRecord) :
    RunsInOrder (LabRecord.bounded (runs ++ [run])) ↔ openRun runs = none ∧ run.Timed := by
  rw [bounded_concat, runsInOrder_concat_iff]
  refine and_congr_left fun _ => ?_
  rcases List.eq_nil_or_concat runs with rfl | ⟨before, last, rfl⟩
  · exact iff_of_true (fun run hrun => by simp at hrun) rfl
  · rw [List.concat_eq_append] at h ⊢
    obtain ⟨hbefore, hlast⟩ := (runsInOrder_concat_iff before last).mp h
    have hdrop : (before ++ [last]).drop ((before ++ [last]).length + 1
        - LabRecord.maxRunHistorySize)
      = before.drop ((before ++ [last]).length + 1 - LabRecord.maxRunHistorySize) ++ [last] := by
      refine List.drop_append_of_le_length ?_
      rw [List.length_append, List.length_singleton]
      unfold LabRecord.maxRunHistorySize
      omega
    rw [hdrop, openRun_concat]
    constructor
    · intro hclosed
      exact if_neg (hclosed last (by simp)).1
    · intro hnone run hrun
      rcases List.mem_append.mp hrun with hrun | hrun
      · exact hbefore run (List.mem_of_mem_drop hrun)
      · rw [List.mem_singleton.mp hrun]
        refine ⟨fun hopen => ?_, hlast⟩
        rw [if_pos hopen] at hnone
        cases hnone

/-! ### Closing a run. -/

section Close

variable {stoppedAt : Int} {stopReason finalState : String}

/-- Nothing is closed where all runs are. -/
theorem closeLastOpen_closed :
    ∀ {runs : List LabRunRecord}, (∀ run ∈ runs, run.Closed) →
      closeLastOpen stoppedAt stopReason finalState runs = none
  | [], _ => rfl
  | run :: rest, h => by
      unfold closeLastOpen
      rw [closeLastOpen_closed fun r hr => h r (List.mem_cons_of_mem _ hr)]
      exact if_neg (h run List.mem_cons_self)

/-- The last run is closed if it is open. -/
theorem closeLastOpen_open {last : LabRunRecord} (h : last.stoppedAt = none) :
    ∀ runs : List LabRunRecord,
      closeLastOpen stoppedAt stopReason finalState (runs ++ [last])
        = some (runs ++ [last.close stoppedAt stopReason finalState], last.runId)
  | [] => by
      show closeLastOpen stoppedAt stopReason finalState [last] = _
      unfold closeLastOpen closeLastOpen
      exact if_pos h
  | run :: rest => by
      rw [List.cons_append, closeLastOpen, closeLastOpen_open h rest]
      rfl

/-- Closing a run leaves the runs the same as they were, as far as their ids go. -/
theorem closeLastOpen_runIds :
    ∀ {runs closed : List LabRunRecord} {runId : NewId},
      closeLastOpen stoppedAt stopReason finalState runs = some (closed, runId) →
        closed.map LabRunRecord.runId = runs.map LabRunRecord.runId
  | [], closed, runId, h => by cases h
  | run :: rest, closed, runId, h => by
      unfold closeLastOpen at h
      split at h
      next rest' runId' hrest =>
        obtain ⟨rfl, -⟩ := Prod.mk.inj (Option.some.inj h)
        rw [List.map_cons, List.map_cons, closeLastOpen_runIds hrest]
      next =>
        split at h
        next =>
          obtain ⟨rfl, -⟩ := Prod.mk.inj (Option.some.inj h)
          rfl
        next => cases h

end Close

/-! ## §4. The commands. -/

/-- A command on a record; a bind comes with what it finds of its session. -/
inductive RunCommand where
  | complete (now : Int) (newRunId : NewId) (action cmlState : Option String)
  | bind (now : Int) (newRunId : NewId) (request : BindLabToSessionCommand)
      (session : Option (Option String))
  | record (now : Int) (newRunId : NewId) (request : RecordLabRunCommand)

namespace LabRecord

section Commands

variable (fromIsoFormat : String → Option IsoDateTime)

/-- The record after a command. -/
def ran (lab : LabRecord) : RunCommand → LabRecord
  | .complete now newRunId action cmlState => lab.completed now newRunId action cmlState
  | .bind now newRunId request session => lab.boundToSession now newRunId request session
  | .record now newRunId request => lab.withRun fromIsoFormat now newRunId request

/-- The action that is completed. -/
def doneAction (lab : LabRecord) (action : Option String) : Option String :=
  (givenText action).or (givenText lab.pendingAction)

/-- A stop, a wipe or a delete is completed. -/
def Closes (lab : LabRecord) (action : Option String) : Prop :=
  lab.doneAction action = some "stop" ∨ lab.doneAction action = some "wipe"
    ∨ lab.doneAction action = some "delete"

instance (lab : LabRecord) (action : Option String) : Decidable (lab.Closes action) :=
  inferInstanceAs (Decidable (_ ∨ _ ∨ _))

/-- A bind goes ahead: the session is known, and the record is bound to no other and not to it at
both ends. -/
def Binds (lab : LabRecord) (request : BindLabToSessionCommand)
    (session : Option (Option String)) : Prop :=
  ∃ labRecordId, session = some labRecordId
    ∧ ¬ (lab.activeLabletSessionId = some request.sessionId
        ∧ labRecordId = some request.labRecordId)
    ∧ boundToOther request lab.toLabRecordState = none

/-- **When a command keeps the runs in order**: a completion that closes a run finds none that
starts later; a bind that goes ahead finds no run that is open; and a run that is recorded neither,
and does not end before it begins. -/
def RunSafe (lab : LabRecord) : RunCommand → Prop
  | .complete now _ action _ =>
      lab.Closes action → ∀ run, lab.activeRun = some run → run.startedAt ≤ now
  | .bind _ _ request session => lab.Binds request session → lab.activeRun = none
  | .record now _ request =>
      (∃ duration, runSeconds (request.start fromIsoFormat now) (request.stop fromIsoFormat)
          = .ok duration) →
        lab.activeRun = none ∧ ∀ stop, request.stop fromIsoFormat = some stop →
          (request.start fromIsoFormat now).micros ≤ stop.micros

/-- The run that a command adds, if it adds one. -/
def addedRun (lab : LabRecord) : RunCommand → Option LabRunRecord
  | .complete now newRunId action _ =>
      if lab.doneAction action = some "start" ∧ lab.activeRun.isNone then
        some { runId := newRunId, startedAt := now, startedBy := "user" }
      else none
  | .bind now newRunId request (some labRecordId) =>
      if lab.activeLabletSessionId = some request.sessionId
          ∧ labRecordId = some request.labRecordId then none
      else if (boundToOther request lab.toLabRecordState).isSome then none
      else some (boundRun now newRunId request.sessionId)
  | .bind _ _ _ none => none
  | .record now newRunId request =>
      match runSeconds (request.start fromIsoFormat now) (request.stop fromIsoFormat) with
      | .error _ => none
      | .ok durationSeconds => some (request.run fromIsoFormat now newRunId durationSeconds)

/-- The time at which a command closes the run that is open, if it closes one. -/
def closingTime (lab : LabRecord) : RunCommand → Option Int
  | .complete now _ action _ => if lab.Closes action then some now else none
  | _ => none

/-- **What a command makes of the run history.** -/
inductive RunEffect (lab : LabRecord) (command : RunCommand) : List LabRunRecord → Prop where
  | kept (adds : lab.addedRun fromIsoFormat command = none)
      (closes : lab.closingTime command = none) : RunEffect lab command lab.runHistory
  | added {run : LabRunRecord} (adds : lab.addedRun fromIsoFormat command = some run)
      (closes : lab.closingTime command = none) :
      RunEffect lab command (bounded (lab.runHistory ++ [run]))
  | closed {stoppedAt : Int} {stopReason finalState : String}
      (adds : lab.addedRun fromIsoFormat command = none)
      (closes : lab.closingTime command = some stoppedAt) :
      RunEffect lab command
        (match closeLastOpen stoppedAt stopReason finalState lab.runHistory with
          | none => lab.runHistory
          | some (closed, _) => closed)

end Commands

/-! ### A completion. -/

theorem guarded_runHistory {lab lab' prepared : LabRecord} {target : LabRecordStatus}
    (h : lab.guarded target (.ok prepared) = .ok lab') : lab' = prepared :=
  (Except.ok.inj (guarded_ok h).2).symm

theorem applyActionTransition_runHistory {lab lab' : LabRecord} {now : Int}
    {target : Option LabRecordStatus} (h : applyActionTransition now lab target = .ok lab') :
    lab'.runHistory = lab.runHistory := by
  unfold applyActionTransition at h
  split at h
  next => rw [guarded_runHistory h]; rfl
  next => rw [guarded_runHistory h]; rfl
  next => rw [guarded_runHistory h]; rfl
  next => rw [guarded_runHistory h]; rfl
  next =>
    obtain rfl := Except.ok.inj h
    rfl

theorem dropPendingAction_runHistory (lab : LabRecord) (error : Option String) :
    (lab.dropPendingAction error).runHistory = lab.runHistory := by
  unfold dropPendingAction
  split <;> rfl

theorem withCmlState_runHistory (lab : LabRecord) (cmlState : Option String) :
    (lab.withCmlState cmlState).runHistory = lab.runHistory := by
  unfold withCmlState
  split <;> rfl

/-- A completion changes the run history as `_record_run` does. -/
theorem completed_runHistory {lab : LabRecord} {now : Int} {newRunId : NewId}
    {action cmlState : Option String} {done : String} (h : lab.doneAction action = some done) :
    ∃ moved : LabRecord, moved.runHistory = lab.runHistory
      ∧ (lab.completed now newRunId action cmlState).runHistory
        = (moved.recordActionRun now newRunId done (actionToStatus.get? done)).1.runHistory := by
  have hcleared := dropPendingAction_runHistory lab none
  unfold completed
  rw [show (givenText action).or (givenText lab.pendingAction) = some done from h]
  dsimp only
  cases hmoved : applyActionTransition now lab.completePendingAction (actionToStatus.get? done) with
  | error e => exact ⟨_, hcleared, withCmlState_runHistory ..⟩
  | ok moved =>
      exact ⟨moved, (applyActionTransition_runHistory hmoved).trans hcleared,
        withCmlState_runHistory ..⟩

/-- Nothing was completed. -/
theorem completed_none {lab : LabRecord} {now : Int} {newRunId : NewId}
    {action cmlState : Option String} (h : lab.doneAction action = none) :
    lab.completed now newRunId action cmlState = lab := by
  unfold completed
  rw [show (givenText action).or (givenText lab.pendingAction) = none from h]

/-- `_close_active_run` on the run history. -/
theorem closeActiveRun_runHistory (lab : LabRecord) (stoppedAt : Int)
    (stopReason finalState : String) :
    (lab.closeActiveRun stoppedAt stopReason finalState).1.runHistory
      = match closeLastOpen stoppedAt stopReason finalState lab.runHistory with
        | none => lab.runHistory
        | some (closed, _) => closed := by
  unfold closeActiveRun
  cases closeLastOpen stoppedAt stopReason finalState lab.runHistory <;> rfl

variable {fromIsoFormat : String → Option IsoDateTime}

theorem completed_effect (lab : LabRecord) (now : Int) (newRunId : NewId)
    (action cmlState : Option String) :
    RunEffect fromIsoFormat lab (.complete now newRunId action cmlState)
      (lab.completed now newRunId action cmlState).runHistory := by
  cases hdone : lab.doneAction action with
  | none =>
      rw [completed_none hdone]
      refine .kept (if_neg ?_) (if_neg ?_)
      · rw [hdone]
        exact fun h => absurd h.1 (by simp)
      · unfold Closes
        rw [hdone]
        simp
  | some done =>
      obtain ⟨moved, hmoved, hruns⟩ := @completed_runHistory lab now newRunId action cmlState done
        hdone
      -- the transition before does not touch the history
      have hactive : moved.activeRun = lab.activeRun := by
        unfold activeRun
        rw [hmoved]
      rw [hruns]
      unfold recordActionRun
      split
      next hstart =>
        subst hstart
        have hcloses : lab.closingTime (.complete now newRunId action cmlState) = none := by
          refine if_neg ?_
          unfold Closes
          rw [hdone]
          decide
        rw [hactive]
        -- a start adds a run, unless one is open
        cases hopen : lab.activeRun with
        | some run =>
            have hadds : lab.addedRun fromIsoFormat (.complete now newRunId action cmlState)
                = none := by
              refine if_neg fun h => ?_
              rw [hopen] at h
              cases h.2
            have hkept := RunEffect.kept hadds hcloses
            rw [← hmoved] at hkept
            exact hkept
        | none =>
            have hadds : lab.addedRun fromIsoFormat (.complete now newRunId action cmlState)
                = some { runId := newRunId, startedAt := now, startedBy := "user" } := by
              refine if_pos ⟨hdone, ?_⟩
              rw [hopen]
              rfl
            have hadded := RunEffect.added hadds hcloses
            rw [← hmoved] at hadded
            exact hadded
      next hstart =>
        have hadds :
            lab.addedRun fromIsoFormat (.complete now newRunId action cmlState) = none := by
          refine if_neg fun h => hstart ?_
          exact Option.some.inj (hdone.symm.trans h.1)
        split
        next hcloses =>
          have hcloses : lab.closingTime (.complete now newRunId action cmlState) = some now := by
            refine if_pos ?_
            unfold Closes
            rw [hdone]
            simpa using hcloses
          rw [closeActiveRun_runHistory, hmoved]
          exact .closed hadds hcloses
        next hcloses =>
          have hcloses : lab.closingTime (.complete now newRunId action cmlState) = none := by
            refine if_neg ?_
            unfold Closes
            rw [hdone]
            simpa using hcloses
          rw [hmoved]
          exact .kept hadds hcloses

theorem boundToSession_effect (lab : LabRecord) (now : Int) (newRunId : NewId)
    (request : BindLabToSessionCommand) (session : Option (Option String)) :
    RunEffect fromIsoFormat lab (.bind now newRunId request session)
      (lab.boundToSession now newRunId request session).runHistory := by
  cases session with
  | none => exact .kept rfl rfl
  | some labRecordId =>
      unfold boundToSession
      dsimp only
      split
      next halready => exact .kept (if_pos halready) rfl
      next halready =>
        cases hother : boundToOther request lab.toLabRecordState with
        | some other =>
            refine .kept ((if_neg halready).trans (if_pos ?_)) rfl
            rw [hother]
            rfl
        | none =>
            refine .added ((if_neg halready).trans (if_neg ?_)) rfl
            rw [hother]
            exact Bool.false_ne_true

/-- **Every command** leaves the run history alone, adds a run or closes one. -/
theorem ran_effect (lab : LabRecord) (command : RunCommand) :
    RunEffect fromIsoFormat lab command (lab.ran fromIsoFormat command).runHistory := by
  cases command with
  | complete now newRunId action cmlState => exact completed_effect ..
  | bind now newRunId request session => exact boundToSession_effect ..
  | record now newRunId request =>
      unfold ran withRun
      dsimp only
      cases hseconds : runSeconds (request.start fromIsoFormat now)
          (request.stop fromIsoFormat) with
      | error e =>
          refine .kept ?_ rfl
          unfold addedRun
          dsimp only
          rw [hseconds]
      | ok durationSeconds =>
          refine .added ?_ rfl
          unfold addedRun
          dsimp only
          rw [hseconds]

/-! ## §5. One command. -/

/-- A run that was just opened. -/
theorem timed_of_open {run : LabRunRecord} (h : run.stoppedAt = none) : run.Timed := by
  intro stopped hstopped
  rw [h] at hstopped
  cases hstopped

/-- A run that is recorded is timed iff it does not end before it begins. -/
theorem run_timed_iff {request : RecordLabRunCommand} {now : Int} {newRunId : NewId}
    {durationSeconds : Option Int}
    (h : runSeconds (request.start fromIsoFormat now) (request.stop fromIsoFormat)
      = .ok durationSeconds) :
    (request.run fromIsoFormat now newRunId durationSeconds).Timed
      ↔ ∀ stop, request.stop fromIsoFormat = some stop →
        (request.start fromIsoFormat now).micros ≤ stop.micros := by
  unfold LabRunRecord.Timed RecordLabRunCommand.run
  dsimp only
  cases hstop : request.stop fromIsoFormat with
  | none => simp
  | some stop =>
      rw [hstop] at h
      unfold runSeconds at h
      dsimp only at h
      split at h
      next => simp [← Except.ok.inj h]
      next => cases h

/-- A bind goes ahead exactly when it adds a run. -/
theorem addedRun_bind (lab : LabRecord) (now : Int) (newRunId : NewId)
    (request : BindLabToSessionCommand) (session : Option (Option String)) (run : LabRunRecord) :
    lab.addedRun fromIsoFormat (.bind now newRunId request session) = some run
      ↔ lab.Binds request session ∧ run = boundRun now newRunId request.sessionId := by
  unfold Binds
  cases session with
  | none => exact iff_of_false (by simp [addedRun]) (by simp)
  | some labRecordId =>
      unfold addedRun
      simp only [Option.some.injEq, exists_eq_left']
      split
      next halready => exact iff_of_false (by simp) fun h => h.1.1 halready
      next halready =>
        split
        next hother =>
          refine iff_of_false (by simp) fun h => ?_
          rw [h.1.2] at hother
          cases hother
        next hother =>
          rw [Option.not_isSome_iff_eq_none] at hother
          rw [Option.some.injEq, eq_comm]
          exact (and_iff_right ⟨halready, hother⟩).symm

/-- A command is safe iff the run it adds finds none open and is timed, and the run it closes did
not start later. -/
theorem runSafe_iff (lab : LabRecord) (command : RunCommand) :
    lab.RunSafe fromIsoFormat command
      ↔ (∀ run, lab.addedRun fromIsoFormat command = some run →
          lab.activeRun = none ∧ run.Timed)
        ∧ ∀ stoppedAt, lab.closingTime command = some stoppedAt →
          ∀ run, lab.activeRun = some run → run.startedAt ≤ stoppedAt := by
  cases command with
  | complete now newRunId action cmlState =>
      -- a start adds an open run, and only where none is open
      have hadds : ∀ run, lab.addedRun fromIsoFormat (.complete now newRunId action cmlState)
          = some run → lab.activeRun = none ∧ run.Timed := by
        intro run hrun
        unfold addedRun at hrun
        dsimp only at hrun
        split at hrun
        next hstart =>
          obtain rfl := Option.some.inj hrun
          exact ⟨Option.isNone_iff_eq_none.mp hstart.2, timed_of_open rfl⟩
        next => cases hrun
      rw [and_iff_right hadds]
      unfold closingTime RunSafe
      dsimp only
      split
      next hcloses => simp [hcloses]
      next hcloses => simp [hcloses]
  | bind now newRunId request session =>
      -- neither binding nor recording closes a run
      have hcloses : ∀ stoppedAt, lab.closingTime (.bind now newRunId request session)
          = some stoppedAt → ∀ run, lab.activeRun = some run → run.startedAt ≤ stoppedAt := by
        intro stoppedAt h
        cases h
      rw [and_iff_left hcloses]
      constructor
      · intro hsafe run hrun
        obtain ⟨hbinds, rfl⟩ := (addedRun_bind ..).mp hrun
        exact ⟨hsafe hbinds, timed_of_open rfl⟩
      · intro h hbinds
        exact (h _ ((addedRun_bind ..).mpr ⟨hbinds, rfl⟩)).1
  | record now newRunId request =>
      have hcloses : ∀ stoppedAt, lab.closingTime (.record now newRunId request)
          = some stoppedAt → ∀ run, lab.activeRun = some run → run.startedAt ≤ stoppedAt := by
        intro stoppedAt h
        cases h
      rw [and_iff_left hcloses]
      unfold RunSafe addedRun
      dsimp only
      cases hseconds : runSeconds (request.start fromIsoFormat now)
          (request.stop fromIsoFormat) with
      | error e => simp
      | ok durationSeconds =>
          have htimed := @run_timed_iff fromIsoFormat request now newRunId durationSeconds hseconds
          simp [htimed]

end LabRecord

/-- **Closing a run** keeps the runs in order iff it did not start later. -/
theorem closed_inOrder_iff {runs : List LabRunRecord} (h : RunsInOrder runs) (stoppedAt : Int)
    (stopReason finalState : String) :
    RunsInOrder (match closeLastOpen stoppedAt stopReason finalState runs with
        | none => runs
        | some (closed, _) => closed)
      ↔ ∀ run, openRun runs = some run → run.startedAt ≤ stoppedAt := by
  rcases List.eq_nil_or_concat runs with rfl | ⟨before, last, rfl⟩
  · exact iff_of_true runsInOrder_nil fun run hrun => by cases hrun
  · rw [List.concat_eq_append] at h ⊢
    obtain ⟨hbefore, hlast⟩ := (runsInOrder_concat_iff before last).mp h
    rw [openRun_concat]
    by_cases hopen : last.stoppedAt = none
    · rw [closeLastOpen_open hopen, if_pos hopen]
      dsimp only
      rw [runsInOrder_concat_iff, and_iff_right hbefore]
      simp [LabRunRecord.Timed, LabRunRecord.close]
    · have hclosed : ∀ run ∈ before ++ [last], run.Closed := by
        intro run hrun
        rcases List.mem_append.mp hrun with hrun | hrun
        · exact (hbefore run hrun).1
        · rw [List.mem_singleton.mp hrun]
          exact hopen
      rw [closeLastOpen_closed hclosed, if_neg hopen]
      exact iff_of_true h fun run hrun => by cases hrun

namespace LabRecord

variable {fromIsoFormat : String → Option IsoDateTime}

/-- **The step lemma**: a command keeps the runs in order iff it is safe. -/
theorem ran_inOrder_iff {lab : LabRecord} (h : RunsInOrder lab.runHistory) (command : RunCommand) :
    RunsInOrder (lab.ran fromIsoFormat command).runHistory
      ↔ lab.RunSafe fromIsoFormat command := by
  rw [runSafe_iff]
  have heffect := @ran_effect fromIsoFormat lab command
  generalize (lab.ran fromIsoFormat command).runHistory = runs at heffect
  cases heffect with
  | kept adds closes =>
      rw [adds, closes]
      refine iff_of_true h ⟨fun run hrun => ?_, fun time htime => ?_⟩
      · cases hrun
      · cases htime
  | @added run adds closes =>
      rw [adds, closes, bounded_inOrder_iff h]
      constructor
      · intro hrun
        refine ⟨fun run' heq => ?_, fun time htime => ?_⟩
        · rw [← Option.some.inj heq]
          exact hrun
        · cases htime
      · exact fun hrun => hrun.1 run rfl
  | @closed stoppedAt stopReason finalState adds closes =>
      rw [adds, closes, closed_inOrder_iff h]
      constructor
      · intro hrun
        refine ⟨fun run heq => ?_, fun time htime => ?_⟩
        · cases heq
        · rw [← Option.some.inj htime]
          exact hrun
      · exact fun hrun => hrun.2 stoppedAt rfl

end LabRecord

/-! ## §6. Any sequence of commands. -/

/-- A record, and the runs that were ever added to it, oldest first. -/
structure RunLog where
  lab : LabRecord
  added : List NewId

namespace RunLog

/-- The log after a command. -/
def ran (fromIsoFormat : String → Option IsoDateTime) (log : RunLog) (command : RunCommand) :
    RunLog where
  lab := log.lab.ran fromIsoFormat command
  added := log.added ++ (log.lab.addedRun fromIsoFormat command).toList.map LabRunRecord.runId

/-- The history holds the most recent runs, as many as fit. -/
def Latest (log : RunLog) : Prop :=
  log.lab.runHistory.map LabRunRecord.runId = LabRecord.bounded log.added

/-- **The run history** is within its bound, holds the most recent runs, and is in order. -/
structure Sound (log : RunLog) : Prop where
  size : log.lab.runHistory.length ≤ LabRecord.maxRunHistorySize
  latest : log.Latest
  inOrder : RunsInOrder log.lab.runHistory

/-- The command is safe for the record. -/
def CommandSafe (fromIsoFormat : String → Option IsoDateTime) (log : RunLog)
    (command : RunCommand) : Prop :=
  log.lab.RunSafe fromIsoFormat command

variable {fromIsoFormat : String → Option IsoDateTime}

/-- The last of a list and one more are the last of what there was last and one more. -/
theorem bounded_bounded {α : Type} (xs : List α) (x : α) :
    LabRecord.bounded (LabRecord.bounded xs ++ [x]) = LabRecord.bounded (xs ++ [x]) := by
  unfold LabRecord.bounded
  rw [List.length_append, List.length_append, List.length_drop, List.length_singleton,
    ← List.drop_append_of_le_length (Nat.sub_le ..), List.drop_drop]
  congr 1
  unfold LabRecord.maxRunHistorySize
  omega

theorem map_bounded {α β : Type} (f : α → β) (xs : List α) :
    (LabRecord.bounded xs).map f = LabRecord.bounded (xs.map f) := by
  unfold LabRecord.bounded
  rw [List.map_drop, List.length_map]

/-- **The most recent runs**: every command keeps them. -/
theorem Latest.ran {log : RunLog} (h : log.Latest) (command : RunCommand) :
    (log.ran fromIsoFormat command).Latest := by
  unfold Latest RunLog.ran
  dsimp only
  have heffect := @LabRecord.ran_effect fromIsoFormat log.lab command
  generalize (log.lab.ran fromIsoFormat command).runHistory = runs at heffect
  cases heffect with
  | kept adds closes =>
      rw [adds, Option.toList_none, List.map_nil, List.append_nil]
      exact h
  | @added run adds closes =>
      have hruns : log.lab.runHistory.map LabRunRecord.runId = LabRecord.bounded log.added := h
      rw [adds, Option.toList_some, List.map_singleton, map_bounded, List.map_append,
        List.map_singleton, hruns, bounded_bounded]
  | @closed stoppedAt stopReason finalState adds closes =>
      rw [adds, Option.toList_none, List.map_nil, List.append_nil]
      cases hclose : closeLastOpen stoppedAt stopReason finalState log.lab.runHistory with
      | none => exact h
      | some closed => exact (closeLastOpen_runIds hclose).trans h

/-- What is the most recent fits. -/
theorem Latest.size {log : RunLog} (h : log.Latest) :
    log.lab.runHistory.length ≤ LabRecord.maxRunHistorySize := by
  have hlength := congrArg List.length h
  unfold LabRecord.bounded at hlength
  rw [List.length_map, List.length_drop] at hlength
  omega

end RunLog

/-- A record that was just made, with no run. -/
def unused (lab : LabRecord) : RunLog where
  lab := lab
  added := []

/-- **Run history**: after any commands it holds the most recent runs; and it is in order all along
iff every command is safe where it comes. -/
theorem run_history_iff (fromIsoFormat : String → Option IsoDateTime) (lab : LabRecord)
    (hcreated : lab.Created) (commands : List RunCommand) :
    (∀ before, before <+: commands →
        (replay (RunLog.ran fromIsoFormat) (unused lab) before).Sound)
      ↔ Meets (RunLog.ran fromIsoFormat) (RunLog.CommandSafe fromIsoFormat) (unused lab)
          commands := by
  have hempty := hcreated.blank.runHistory
  have hlatest : (unused lab).Latest := by
    unfold RunLog.Latest unused
    rw [hempty]
    rfl
  have hinOrder : RunsInOrder (unused lab).lab.runHistory := by
    unfold unused
    rw [hempty]
    exact runsInOrder_nil
  refine @always_iff_meets _ _ (RunLog.ran fromIsoFormat) (RunLog.CommandSafe fromIsoFormat)
    RunLog.Latest RunLog.Sound (fun log command h => h.ran command) ?_ commands _ hlatest
    ⟨hlatest.size, hlatest, hinOrder⟩
  intro log command hlog hsound
  have hnext := @RunLog.Latest.ran fromIsoFormat log hlog command
  constructor
  · exact fun h => (LabRecord.ran_inOrder_iff hsound.inOrder command).mp h.inOrder
  · exact fun h => ⟨hnext.size, hnext, (LabRecord.ran_inOrder_iff hsound.inOrder command).mpr h⟩

/-! ## §7. A bind while the lab is running. -/

theorem run1_given : "run-1" ≠ "" := by decide

theorem run2_given : "run-2" ≠ "" := by decide

/-- The run that a user's start opens. -/
def startedRun : LabRunRecord where
  runId := ⟨"run-1", run1_given⟩
  startedAt := 1000000
  startedBy := "user"

/-- A user starts a lab, and the controller binds a session to it. -/
def startedAndBound : List RunCommand :=
  [.complete 1000000 ⟨"run-1", run1_given⟩ (some "start") none,
    .bind 2000000 ⟨"run-2", run2_given⟩
      { sessionId := "session-1", labRecordId := "lab-record-1" } (some none)]

/-- The first of its two runs stays open before the second. -/
theorem bind_opens_second_run :
    ¬ ∀ (fromIsoFormat : String → Option IsoDateTime) (lab : LabRecord), lab.Created →
      ∀ commands : List RunCommand, ∀ before, before <+: commands →
        (replay (RunLog.ran fromIsoFormat) (unused lab) before).Sound := by
  intro h
  have hsound := h (fun _ => none) LabRecord.foundLab LabRecord.foundLab_created startedAndBound
    startedAndBound (List.prefix_refl _)
  have hend := hsound.inOrder.openLast [] startedRun
    [LabRecord.boundRun 2000000 ⟨"run-2", run2_given⟩ "session-1"] rfl rfl
  exact List.cons_ne_nil _ _ hend

/-- A start and a stop one and a half seconds later. -/
def startedAndStopped : List RunCommand :=
  [.complete 1000000 ⟨"run-1", run1_given⟩ (some "start") none,
    .complete 2500000 ⟨"run-2", run2_given⟩ (some "stop") none]

/-- One run, which is closed. -/
theorem start_and_stop_sound :
    (replay (RunLog.ran fun _ => none) (unused LabRecord.foundLab) startedAndStopped).Sound := by
  refine (run_history_iff (fun _ => none) LabRecord.foundLab LabRecord.foundLab_created
    startedAndStopped).mpr ⟨fun _ run hrun => ?_, fun _ run hrun => ?_, trivial⟩ startedAndStopped
      (List.prefix_refl _)
  · cases hrun
  · have hopen : some run = some startedRun := hrun.symm.trans rfl
    rw [Option.some.inj hopen]
    decide

end CmlCloudManager.ControlPlane
