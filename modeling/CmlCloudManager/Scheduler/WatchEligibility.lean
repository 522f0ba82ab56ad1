/-
  CmlCloudManager.Scheduler.WatchEligibility
  ──────────────────────────────────────────
  **WHAT WATCHING PLACES AND POLLING WOULD NOT.**

  A session is ELIGIBLE if it is PENDING and its timeslot has not to be waited for:
  exactly the eligible sessions of the control plane are listed by polling
  (`mem_listResources_iff`).  On the watch path a command is issued for every session
  that is fetched and whose definition is found (`issued_reconcileWatched`).

  Hence a run of the watch path issues commands for eligible sessions only iff each
  id it processes meets `ProcessedWell` (`watch_refines_polling_iff`).
-/
import CmlCloudManager.Scheduler.SchedulerService

namespace CmlCloudManager.Scheduler

open CmlCloudManager.Foundation
open CmlCloudManager.ControlPlane
open CmlCloudManager.Pipeline

variable {ρ : Type} (runtime : SchedulerRuntime ρ) (settings : SchedulerSettings)

/-! ## §1. Eligible sessions. -/

/-- Status PENDING, and no timeslot or one that starts within the lead time. -/
def Eligible (now : Int) (session : SessionView) : Prop :=
  session.status = LabletSessionStatus.pending.value ∧
    ∀ start, parseTimeslot runtime session.timeslotStart = some start →
      start ≤ now + settings.leadTime

theorem withinWindow_iff (now : Int) (session : SessionView) :
    withinWindow runtime settings now session = true
      ↔ ∀ start, parseTimeslot runtime session.timeslotStart = some start →
          start ≤ now + settings.leadTime := by
  unfold withinWindow
  cases parseTimeslot runtime session.timeslotStart with
  | none => simp
  | some start => simp

theorem mem_eligibleSessions (now : Int) (sessions : List SessionView) (session : SessionView) :
    session ∈ eligibleSessions runtime settings now sessions
      ↔ session ∈ sessions ∧ withinWindow runtime settings now session = true := by
  unfold eligibleSessions
  rw [List.mem_mergeSort, List.mem_filter]

/-- **Polling lists the eligible sessions of the control plane.** -/
theorem mem_listResources_iff (respond : Surroundings) (sessions : List SessionView)
    (workers : List WorkerDict)
    (hsessions : respond .getPendingSessions
      = .ok (sessions.filter fun s => s.status = LabletSessionStatus.pending.value))
    (hworkers : respond .getRunningWorkers = .ok workers) (session : SessionView) :
    session ∈ ((listResources runtime settings).runWith respond).2
      ↔ session ∈ sessions ∧ Eligible runtime settings (respond .now) session := by
  have hlisted : ((listResources runtime settings).runWith respond).2
      = eligibleSessions runtime settings (respond .now)
          (sessions.filter fun s => s.status = LabletSessionStatus.pending.value) := by
    unfold listResources
    simp only [Resumption.runWith_bind, Resumption.call, Resumption.runWith, hsessions, hworkers]
  rw [hlisted, mem_eligibleSessions, List.mem_filter, withinWindow_iff, decide_eq_true_iff,
    and_assoc]
  exact Iff.rfl

/-! ## §2. The commands of a program. -/

/-- A command that changes something at the control plane. -/
inductive Command where
  | assign (request : ScheduleLabletSessionCommand)
  | scaleUp (template reason : String)

/-- The command that an access is, if it is one. -/
def commandOf : SchedulerRequest → Option Command
  | .scheduleSession request => some (.assign request)
  | .requestScaleUp template reason => some (.scaleUp template reason)
  | _ => none

/-- The commands among the accesses of a trace. -/
def issued (trace : List (Resumption.Event SchedulerRequest SchedulerRequest.Reply)) :
    List Command :=
  trace.filterMap fun access => commandOf access.1

/-- The commands a program issues. -/
def commandsOf {α : Type} (respond : Surroundings) (program : SchedulerCall α) : List Command :=
  issued (program.runWith respond).1

section Commands

variable {α β : Type} (respond : Surroundings)

theorem commandsOf_bind (p : SchedulerCall α) (f : α → SchedulerCall β) :
    commandsOf respond (p.bind f)
      = commandsOf respond p ++ commandsOf respond (f (p.runWith respond).2) := by
  unfold commandsOf issued
  rw [Resumption.runWith_bind, List.filterMap_append]

@[simp] theorem commandsOf_done (a : α) :
    commandsOf respond (.done a : SchedulerCall α) = [] := rfl

theorem commandsOf_call (e : SchedulerRequest) :
    commandsOf respond (Resumption.call e : SchedulerCall e.Reply) = (commandOf e).toList := by
  unfold commandsOf issued
  show List.filterMap _ [(⟨e, respond e⟩ : Resumption.Event _ _)] = _
  cases hcommand : commandOf e with
  | none => simp [hcommand]
  | some command => simp [hcommand]

@[simp] theorem result_call (e : SchedulerRequest) :
    ((Resumption.call e : SchedulerCall e.Reply).runWith respond).2 = respond e := rfl

theorem commandsOf_refresh : commandsOf respond refreshEtcdCapacities = [] := by
  unfold refreshEtcdCapacities
  rw [commandsOf_bind, commandsOf_bind, commandsOf_call, commandsOf_call]
  simp only [commandOf, Option.toList_none, List.nil_append]
  split
  next => rfl
  next =>
    rw [commandsOf_bind, commandsOf_call, result_call]
    cases respond .getCapacities with
    | error raised => rfl
    | ok capacities => rfl

/-! ## §3. The fetch and the definition. -/

/-- What the fetch of an id makes of the answers. -/
def fetched (sessionId : String) : Option SessionView :=
  match respond (.getLabletSession sessionId), respond .getRunningWorkers with
  | .ok (some session), .ok _ => some session
  | _, _ => none

theorem fetchResourceById_result (sessionId : String) :
    ((fetchResourceById sessionId).runWith respond).2 = fetched respond sessionId := by
  unfold fetchResourceById fetched
  rw [Resumption.runWith_bind, result_call]
  cases respond (.getLabletSession sessionId) with
  | error raised => rfl
  | ok data =>
      cases data with
      | none => rfl
      | some session =>
          dsimp only
          rw [Resumption.runWith_bind, result_call]
          cases respond .getRunningWorkers with
          | error raised => rfl
          | ok workers =>
              dsimp only
              rw [Resumption.runWith_bind, Resumption.runWith_bind]
              rfl

theorem commandsOf_fetchResourceById (sessionId : String) :
    commandsOf respond (fetchResourceById sessionId) = [] := by
  unfold fetchResourceById
  rw [commandsOf_bind, commandsOf_call, result_call]
  cases respond (.getLabletSession sessionId) with
  | error raised => rfl
  | ok data =>
      cases data with
      | none => rfl
      | some session =>
          dsimp only
          rw [commandsOf_bind, commandsOf_call, result_call]
          cases respond .getRunningWorkers with
          | error raised => rfl
          | ok workers =>
              dsimp only
              rw [commandsOf_bind, commandsOf_call, commandsOf_bind, commandsOf_refresh]
              rfl

/-- The definition that is found: cached, or else sent by the control plane. -/
def definitionFor (definitionId : String) : Option DefinitionDict :=
  match respond (.cachedDefinition definitionId) with
  | some definition => definition
  | none =>
      match respond (.getLabletDefinition definitionId) with
      | .ok definition => definition
      | .error _ => none

theorem getDefinition_result (definitionId : String) :
    ((getDefinition definitionId).runWith respond).2 = definitionFor respond definitionId := by
  unfold getDefinition definitionFor
  rw [Resumption.runWith_bind, result_call]
  cases respond (.cachedDefinition definitionId) with
  | some definition => rfl
  | none =>
      dsimp only
      rw [Resumption.runWith_bind, result_call]
      cases respond (.getLabletDefinition definitionId) with
      | error raised => rfl
      | ok definition => rfl

theorem commandsOf_getDefinition (definitionId : String) :
    commandsOf respond (getDefinition definitionId) = [] := by
  unfold getDefinition
  rw [commandsOf_bind, commandsOf_call, result_call]
  cases respond (.cachedDefinition definitionId) with
  | some definition => rfl
  | none =>
      dsimp only
      rw [commandsOf_bind, commandsOf_call, result_call]
      cases respond (.getLabletDefinition definitionId) with
      | error raised => rfl
      | ok definition => rfl

/-! ## §4. The command for a session. -/

theorem commandsOf_trackRetries (sessionId : String) (result : ReconciliationResult) :
    commandsOf respond (trackRetries sessionId result) = [] := by
  cases result with
  | success message => rfl
  | requeue message afterSeconds => rfl
  | skip message => rfl
  | failed message =>
      unfold trackRetries
      rw [commandsOf_bind, commandsOf_call, result_call, commandsOf_bind, commandsOf_call]
      split
      next => rfl
      next => rfl

/-- The command that the placement of a session comes to. -/
def placementCommand (session : SessionView) (definition : DefinitionDict) : Command :=
  let decision := PlacementEngine.schedule runtime.floats definition (respond .cachedWorkers)
    (respond .cachedCapacities)
  match decision.action with
  | .assign => .assign (assignment session.id (decision.workerId.getD "") definition)
  | _ => .scaleUp (decision.workerTemplate.getD "") decision.reason

theorem selectTemplate_ne_empty (definition : DefinitionDict) : selectTemplate definition ≠ "" := by
  unfold selectTemplate
  split
  next => split <;> decide
  next => decide

/-- **The decision of the engine is carried out: one command.** -/
theorem commandsOf_executeDecision (session : SessionView) (definition : DefinitionDict) :
    commandsOf respond
        (executeDecision session.id
          (PlacementEngine.schedule runtime.floats definition (respond .cachedWorkers)
            (respond .cachedCapacities)) definition)
      = [placementCommand runtime respond session definition] := by
  have hcases := PlacementEngine.schedule_cases runtime.floats definition
    (respond .cachedWorkers) (respond .cachedCapacities)
  unfold executeDecision placementCommand
  generalize PlacementEngine.schedule runtime.floats definition (respond .cachedWorkers)
    (respond .cachedCapacities) = decision at hcases ⊢
  dsimp only
  rcases hcases with ⟨worker, -, -, haction, hworker⟩ | ⟨-, haction, htemplate⟩
  · rw [haction]
    unfold handleAssign
    rw [hworker, givenText_some worker.id_given]
    dsimp only
    rw [commandsOf_bind, commandsOf_call, result_call]
    cases respond (.scheduleSession (assignment session.id worker.id definition)) <;> rfl
  · rw [haction]
    unfold handleScaleUp
    rw [htemplate, givenText_some (selectTemplate_ne_empty definition)]
    dsimp only
    rw [commandsOf_bind, commandsOf_call, result_call]
    cases respond (.requestScaleUp (selectTemplate definition) decision.reason) <;> rfl

theorem commandsOf_reconcile (session : SessionView) :
    commandsOf respond (reconcile runtime session)
      = (definitionFor respond session.definitionId).toList.map
          (placementCommand runtime respond session) := by
  unfold reconcile
  rw [commandsOf_bind, commandsOf_getDefinition, getDefinition_result, List.nil_append]
  cases definitionFor respond session.definitionId with
  | none => rfl
  | some definition =>
      dsimp only
      rw [commandsOf_bind, commandsOf_call, result_call, commandsOf_bind, commandsOf_call,
        result_call, commandsOf_bind, commandsOf_executeDecision, commandsOf_trackRetries]
      rfl

/-- **Watching issues one command for every session that is fetched and whose definition is
found**, whatever the status and the timeslot of the session. -/
theorem issued_reconcileWatched (sessionId : String) :
    commandsOf respond (reconcileWatched runtime sessionId)
      = (fetched respond sessionId).toList.flatMap fun session =>
          (definitionFor respond session.definitionId).toList.map
            (placementCommand runtime respond session) := by
  unfold reconcileWatched
  rw [commandsOf_bind, commandsOf_fetchResourceById, fetchResourceById_result, List.nil_append]
  cases fetched respond sessionId with
  | none => rfl
  | some session =>
      dsimp only
      rw [commandsOf_bind, commandsOf_reconcile, commandsOf_done]
      simp

end Commands

/-! ## §5. Runs of the watch path. -/

/-- An id that was processed: what the accesses were answered, and the time. -/
structure Processed where
  sessionId : String
  respond : Surroundings
  now : Int

/-- The ids that wait, the ids of the batch under way, and what was processed. -/
structure WatchState where
  pending : List String := []
  batch : List String := []
  processed : List Processed := []

/-- What happens on the watch path. -/
inductive WatchInput where
  | event (e : EtcdEvent)
  /-- The pending ids become the batch, in the order in which the set lists them. -/
  | drain (order : List String)
  /-- The next id of the batch is fetched and reconciled. -/
  | process (respond : Surroundings) (now : Int)
  /-- The service stops or is no longer the leader: the rest of the batch is dropped. -/
  | abandon

/-- One step of the watch path. -/
def watchStep (s : WatchState) : WatchInput → WatchState
  | .event e =>
      match onWatchEvent settings e with
      | .ok (some sessionId) =>
          if sessionId = "" ∨ sessionId ∈ s.pending then s
          else { s with pending := s.pending ++ [sessionId] }
      | _ => s
  | .drain order =>
      if s.batch = [] ∧ order.Perm s.pending then { s with pending := [], batch := order } else s
  | .process respond now =>
      match s.batch with
      | [] => s
      | sessionId :: rest =>
          { s with
            batch := rest
            processed := s.processed ++ [⟨sessionId, respond, now⟩] }
  | .abandon => { s with batch := [] }

/-- What a step adds to the processed ids. -/
def newlyProcessed (s : WatchState) : WatchInput → List Processed
  | .process respond now => s.batch.head?.toList.map fun sessionId => ⟨sessionId, respond, now⟩
  | _ => []

theorem watchStep_processed (s : WatchState) (i : WatchInput) :
    (watchStep settings s i).processed = s.processed ++ newlyProcessed s i := by
  cases i with
  | event e =>
      unfold watchStep newlyProcessed
      rw [List.append_nil]
      dsimp only
      split
      next => split <;> rfl
      next => rfl
  | drain order =>
      unfold watchStep newlyProcessed
      rw [List.append_nil]
      dsimp only
      split <;> rfl
  | process respond now =>
      unfold watchStep newlyProcessed
      cases hbatch : s.batch with
      | nil => simp
      | cons sessionId rest => simp
  | abandon => exact (List.append_nil _).symm

/-- An event among the inputs has named the id. -/
def Named (inputs : List WatchInput) (sessionId : String) : Prop :=
  ∃ e, .event e ∈ inputs ∧ onWatchEvent settings e = .ok (some sessionId)

theorem Named.snoc {past : List WatchInput} {k : String} (h : Named settings past k)
    (i : WatchInput) : Named settings (past ++ [i]) k := by
  obtain ⟨e, he, hnames⟩ := h
  exact ⟨e, List.mem_append_left _ he, hnames⟩

/-- Everything that waits, is in the batch or was processed has been named. -/
def AllNamed (past : List WatchInput) (s : WatchState) : Prop :=
  ∀ k ∈ s.pending ++ s.batch ++ s.processed.map Processed.sessionId, Named settings past k

/-- **One input**: an event names what it adds, and the others add nothing. -/
theorem AllNamed.step {past : List WatchInput} {s : WatchState} (hs : AllNamed settings past s)
    (i : WatchInput) : AllNamed settings (past ++ [i]) (watchStep settings s i) := by
  intro k hk
  unfold AllNamed at hs
  cases i with
  | event e =>
      cases hnames : onWatchEvent settings e with
      | error raised =>
          simp only [watchStep, hnames] at hk
          exact (hs k hk).snoc settings _
      | ok named =>
          cases named with
          | none =>
              simp only [watchStep, hnames] at hk
              exact (hs k hk).snoc settings _
          | some sessionId =>
              simp only [watchStep, hnames] at hk
              split at hk
              next => exact (hs k hk).snoc settings _
              next =>
                simp only [List.mem_append, List.mem_singleton] at hk hs
                rcases hk with ((hold | rfl) | hold) | hold
                · exact (hs k (.inl (.inl hold))).snoc settings _
                · exact ⟨e, by simp, hnames⟩
                · exact (hs k (.inl (.inr hold))).snoc settings _
                · exact (hs k (.inr hold)).snoc settings _
  | drain order =>
      simp only [watchStep] at hk
      split at hk
      next horder =>
        -- the batch is what was waiting, in some order
        simp only [List.nil_append, List.mem_append] at hk hs
        rcases hk with hold | hold
        · exact (hs k (.inl (.inl (horder.2.mem_iff.mp hold)))).snoc settings _
        · exact (hs k (.inr hold)).snoc settings _
      next => exact (hs k hk).snoc settings _
  | process respond now =>
      cases hbatch : s.batch with
      | nil =>
          simp only [watchStep, hbatch] at hk
          rw [hbatch] at hs
          exact (hs k hk).snoc settings _
      | cons sessionId others =>
          simp only [watchStep, hbatch, List.map_append, List.map_cons, List.map_nil,
            List.mem_append, List.mem_singleton] at hk
          simp only [hbatch, List.mem_append, List.mem_cons] at hs
          rcases hk with (hold | hold) | hold | rfl
          · exact (hs k (.inl (.inl hold))).snoc settings _
          · exact (hs k (.inl (.inr (.inr hold)))).snoc settings _
          · exact (hs k (.inr hold)).snoc settings _
          · exact (hs _ (.inl (.inr (.inl rfl)))).snoc settings _
  | abandon =>
      simp only [watchStep, List.append_nil, List.mem_append] at hk
      simp only [List.mem_append] at hs
      rcases hk with hold | hold
      · exact (hs k (.inl (.inl hold))).snoc settings _
      · exact (hs k (.inr hold)).snoc settings _

theorem allNamed_run (inputs : List WatchInput) :
    ∀ {past : List WatchInput} {s : WatchState}, AllNamed settings past s →
      AllNamed settings (past ++ inputs) (replay (watchStep settings) s inputs) := by
  induction inputs with
  | nil =>
      intro past s hs
      rw [List.append_nil]
      exact hs
  | cons i rest ih =>
      intro past s hs
      have hrest := ih (hs.step settings i)
      rwa [List.append_assoc] at hrest

/-- **Only ids that an event has named are processed.** -/
theorem processed_named (inputs : List WatchInput) :
    ∀ p ∈ (replay (watchStep settings) {} inputs).processed,
      Named settings inputs p.sessionId := by
  intro p hp
  have hnamed := @allNamed_run settings inputs [] {} fun k hk => absurd hk (by simp)
  exact hnamed p.sessionId (List.mem_append_right _ (List.mem_map_of_mem hp))

/-! ## §6. When watching refines polling. -/

/-- What is issued for a processed id is issued for a session that polling would list. -/
def RefinesPolling (p : Processed) : Prop :=
  commandsOf p.respond (reconcileWatched runtime p.sessionId) ≠ [] →
    ∃ session, fetched p.respond p.sessionId = some session ∧
      Eligible runtime settings p.now session

/-- Nothing is fetched for the id, or the definition is not found, or the session as it is
fetched is eligible. -/
def Harmless (p : Processed) : Prop :=
  ∀ session, fetched p.respond p.sessionId = some session →
    definitionFor p.respond session.definitionId = none ∨
      Eligible runtime settings p.now session

/-- The id that is processed next, if any, is harmless. -/
def ProcessedWell (s : WatchState) (i : WatchInput) : Prop :=
  ∀ p ∈ newlyProcessed s i, Harmless runtime settings p

theorem refinesPolling_iff (p : Processed) :
    RefinesPolling runtime settings p ↔ Harmless runtime settings p := by
  unfold RefinesPolling Harmless
  rw [issued_reconcileWatched]
  cases fetched p.respond p.sessionId with
  | none => simp
  | some session =>
      cases hdefinition : definitionFor p.respond session.definitionId with
      | none => simp [hdefinition]
      | some definition => simp [hdefinition]

/-- **In every run, watching issues commands for eligible sessions only iff every id that is
processed is harmless when it is processed.** -/
theorem watch_refines_polling_iff (inputs : List WatchInput) :
    (∀ p ∈ (replay (watchStep settings) {} inputs).processed, RefinesPolling runtime settings p)
      ↔ Meets (watchStep settings) (ProcessedWell runtime settings) {} inputs := by
  rw [log_iff_meets (watchStep_processed settings) fun s i =>
    forall₂_congr fun p _ => (refinesPolling_iff runtime settings p).symm]
  exact and_iff_right fun p hp => absurd hp List.not_mem_nil

/-- Surroundings in which there is one session, PENDING and with a timeslot that starts a month
after the epoch, its definition, and no worker. -/
def monthAhead : Surroundings
  | .getLabletSession _ =>
      .ok (some
        { id := "s1"
          definitionId := "d1"
          status := "pending"
          timeslotStart := some "1970-02-01T00:00:00+00:00" })
  | .getPendingSessions => .ok []
  | .getRunningWorkers => .ok []
  | .getWorkerTemplates => .ok ()
  | .getLabletDefinition _ => .ok (some { name := "lab" })
  | .scheduleSession _ => .ok ()
  | .requestScaleUp _ _ => .ok ()
  | .getCapacities => .ok Dict.empty
  | .now => 0
  | .monotonic => 0
  | .cachedDefinition _ => none
  | .cachedWorkers => []
  | .cachedCapacities => Dict.empty
  | .capacitiesFetchedAt => 0
  | .retryCount _ => (0 : Nat)
  | .cacheDefinition _ _ => ()
  | .clearDefinitions => ()
  | .cacheWorkers _ => ()
  | .cacheCapacities _ _ => ()
  | .setRetryCount _ _ => ()
  | .forgetRetries _ => ()

/-- Python, as far as the session above needs it. -/
def epochRuntime : SchedulerRuntime Rat where
  fromisoformat text := if text = "1970-02-01T00:00:00+00:00" then some 2678400000000 else none
  floats := exactFloats

/-- **The event of a new session requests a worker for it a month ahead of its timeslot.** -/
theorem session_placed_a_month_ahead :
    ¬ ∀ p ∈ (replay (watchStep {}) {}
        [.event ⟨.put, "/lcm/sessions/s1/state", some "PENDING"⟩, .drain ["s1"],
          .process monthAhead 0]).processed,
      RefinesPolling epochRuntime {} p := by
  intro h
  have hprocessed : (replay (watchStep {}) {}
      [.event ⟨.put, "/lcm/sessions/s1/state", some "PENDING"⟩, .drain ["s1"],
        .process monthAhead 0]).processed = [⟨"s1", monthAhead, 0⟩] := by
    have hevent : onWatchEvent {} ⟨.put, "/lcm/sessions/s1/state", some "PENDING"⟩
        = .ok (some "s1") := by decide +kernel
    simp [watchStep, hevent]
  rw [hprocessed] at h
  obtain ⟨session, hfetched, -, hwindow⟩ := h ⟨"s1", monthAhead, 0⟩ List.mem_cons_self
    (List.cons_ne_nil _ _)
  cases hfetched
  exact absurd (hwindow 2678400000000 rfl) (by decide)

end CmlCloudManager.Scheduler
