/-
  CmlCloudManager.Controller.SuspendedStepWatchdog
  ────────────────────────────────────────────────
  **THE WATCHDOG OF SUSPENDED STEPS.**

  A step that waits for the scenario engine is suspended.  The watchdog lists the
  active sessions from time to time and fails every step that has been suspended
  for longer than the timeout.  Two things stand between a step and its scan:

    • the keys `session:pipeline:step` the service has handled in this leader
      term, which it skips whatever the step has become since,
    • a call that raises, which leaves the loops and the steps after it.

  `watchdog_scan` says that nothing else does: in every history of a term a scan
  fails each due step that it reaches and has not handled, and no other.
-/
import Mathlib.Data.List.Induction
import CmlCloudManager.Foundation.Replay
import CmlCloudManager.Pipeline.Executor

namespace CmlCloudManager.Controller.SuspendedStepWatchdog

open CmlCloudManager.Foundation
open CmlCloudManager.Pipeline

/-! ## §1. The steps of a scan. -/

/-- `_ACTIVE_STATUS_VALUES`. -/
def activeStatusValues : List String :=
  ["SCHEDULED", "INSTANTIATING", "READY", "RUNNING", "COLLECTING", "GRADING", "STOPPING"]

/-- What the scan reads of a session; the id is empty where there is none. -/
structure SessionInfo where
  id : String
  pipelineProgress : Value := .none

/-- A step whose status is `suspended`, with its data. -/
structure SuspendedStep where
  sessionId : String
  pipelineName : String
  stepName : String
  step : List (String × Value)

/-- `step.get(key)`. -/
def SuspendedStep.get (s : SuspendedStep) (key : String) : Value :=
  (Dict.lookup key s.step).getD .none

/-- The key of the step. -/
def SuspendedStep.key (s : SuspendedStep) : String :=
  s.sessionId ++ ":" ++ s.pipelineName ++ ":" ++ s.stepName

/-- The call of `fail_pipeline_step`. -/
structure FailCall where
  sessionId : String
  pipelineName : String
  stepCorrelationId : Value
  error : String
  details : Payload

/-- How a call ends: the step is failed, the control plane knows it no more (404), or an
exception is raised. -/
inductive CallAnswer where
  | ok
  | notFound
  | raised
  deriving DecidableEq

/-- What one scan finds: the answer to the listing of each status, the time in microseconds, and
how its calls end. -/
structure Scan where
  pages : String → Option (List SessionInfo)
  now : Int
  answer : FailCall → CallAnswer

/-- The sessions that have an id and were not seen before. -/
def unseen : List String → List SessionInfo → List SessionInfo
  | _, [] => []
  | seenIds, session :: rest =>
      if session.id = "" ∨ session.id ∈ seenIds then unseen seenIds rest
      else session :: unseen (session.id :: seenIds) rest

/-- `_list_active_sessions`; a status whose listing fails is left out. -/
def Scan.sessions (scan : Scan) : List SessionInfo :=
  unseen [] (activeStatusValues.flatMap fun status => (scan.pages status).getD [])

/-- The step, if its data is a dict and it is suspended. -/
def suspendedStep (sessionId pipelineName : String) (entry : String × Value) :
    Option SuspendedStep :=
  match entry.2 with
  | .dict step =>
      if ((Dict.lookup "status" step).getD .none).isStr "suspended" then
        some ⟨sessionId, pipelineName, entry.1, step⟩
      else none
  | _ => none

/-- The suspended steps of a session, in the order of the loops. -/
def SessionInfo.suspendedSteps (session : SessionInfo) : List SuspendedStep :=
  match session.pipelineProgress.orElse (.dict []) with
  | .dict pipelines =>
      pipelines.flatMap fun pipeline =>
        match pipeline.2 with
        | .dict steps => steps.filterMap (suspendedStep session.id pipeline.1)
        | _ => []
  | _ => []

/-- The suspended steps a scan finds. -/
def Scan.listed (scan : Scan) : List SuspendedStep :=
  scan.sessions.flatMap SessionInfo.suspendedSteps

/-! ## §2. The age of a step. -/

/-- A `datetime`: its clock value, and its offset from UTC where it has one (microseconds). -/
structure IsoDatetime where
  micros : Int
  utcoffset : Option Int := none

/-- The service's setting and its library: `datetime.fromisoformat` raises on what is no date. -/
structure Service where
  timeoutSeconds : Int
  fromisoformat : String → Option IsoDatetime

/-- The text without trailing white space, a final `Z` spelled as an offset. -/
def normaliseZone (raw : String) : String :=
  let value := (raw.toList.reverse.dropWhile isPyWhitespace).reverse
  if value.getLast? = some 'Z' then String.ofList value.dropLast ++ "+00:00"
  else String.ofList value

variable (service : Service)

/-- `_compute_age_seconds`, in microseconds; a date without a zone is one in UTC. -/
def computeAge (suspendedAt : Value) (now : Int) : Option Int :=
  match suspendedAt with
  | .str raw =>
      (service.fromisoformat (normaliseZone raw)).map fun at' =>
        now - (at'.micros - at'.utcoffset.getD 0)
  | _ => none

/-- `timeout_seconds` in microseconds. -/
def Service.timeout : Int := service.timeoutSeconds * 1000000

/-- The age of the step at the scan. -/
def Scan.age (scan : Scan) (s : SuspendedStep) : Option Int :=
  computeAge service (s.get "suspended_at") scan.now

/-- The call that fails the step. -/
def failCall (s : SuspendedStep) (age : Int) : FailCall where
  sessionId := s.sessionId
  pipelineName := s.pipelineName
  stepCorrelationId := s.get "step_correlation_id"
  error := "timeout: no scenario-engine callback within " ++ toString service.timeoutSeconds
    ++ "s (actual age=" ++ toString (age.tdiv 1000000) ++ "s)"
  details := Dict.ofList
    [("timeout_seconds", .int service.timeoutSeconds),
     ("age_seconds", .int (age.tdiv 1000000)),
     ("external_job_id", s.get "external_job_id"),
     ("pipeline_name", .str s.pipelineName),
     ("step_name", .str s.stepName),
     ("watchdog", .bool true)]

/-! ## §3. The scan. -/

/-- The scan under way: the keys handled in this leader term, the calls it has issued, and
whether one of them raised. -/
structure ScanState where
  failedStepKeys : List String
  calls : List FailCall := []
  raised : Bool := false

/-- `self._failed_step_keys.add(key)`. -/
def ScanState.remember (st : ScanState) (key : String) : ScanState :=
  { st with failedStepKeys := key :: st.failedStepKeys }

/-- `_fail_step`, with the bookkeeping after it. -/
def failStep (scan : Scan) (st : ScanState) (s : SuspendedStep) (age : Int) : ScanState :=
  -- without a correlation id there is nothing to call; the key is remembered all the same
  if ¬ (s.get "step_correlation_id").truthy then st.remember s.key
  else
    let call := failCall service s age
    let st := { st with calls := st.calls ++ [call] }
    match scan.answer call with
    -- the signal to the in-process handler is best effort
    | .ok => st.remember s.key
    | .notFound => st.remember s.key
    | .raised => { st with raised := true }

/-- One suspended step; once a call has raised the loops are left. -/
def visit (scan : Scan) (st : ScanState) (s : SuspendedStep) : ScanState :=
  if st.raised then st
  else if s.key ∈ st.failedStepKeys then st
  else
    match scan.age service s with
    -- a date that cannot be read is not tried again in this term
    | none => st.remember s.key
    | some age => if age < service.timeout then st else failStep service scan st s age

/-- The state after some of the steps. -/
def visits (scan : Scan) (keys : List String) (steps : List SuspendedStep) : ScanState :=
  replay (visit service scan) { failedStepKeys := keys } steps

/-- `scan_once`. -/
def scanOnce (keys : List String) (scan : Scan) : ScanState := visits service scan keys scan.listed

/-- The keys handled after a history of scans; a leader term starts with none. -/
def memory (history : List Scan) : List String :=
  replay (fun keys scan => (scanOnce service keys scan).failedStepKeys) [] history

/-! ## §4. Which steps are due. -/

variable {service}

/-- Not known to be within its budget: the step is old enough, or its age is unknown. -/
def OutOfBudget (service : Service) (scan : Scan) (s : SuspendedStep) : Prop :=
  ∀ age, scan.age service s = some age → service.timeout ≤ age

/-- **The step is due**, at this age: it is old enough and has a correlation id. -/
def Due (service : Service) (scan : Scan) (s : SuspendedStep) (age : Int) : Prop :=
  scan.age service s = some age ∧ service.timeout ≤ age
    ∧ (s.get "step_correlation_id").truthy = true

/-- A visit that remembers the step: it is out of its budget, and where that means a call the
call does not raise. -/
def GivesUp (service : Service) (scan : Scan) (s : SuspendedStep) : Prop :=
  OutOfBudget service scan s
    ∧ ∀ age, Due service scan s age → scan.answer (failCall service s age) ≠ .raised

theorem Due.givesUp {scan : Scan} {s : SuspendedStep} {age : Int} (h : Due service scan s age)
    (answered : scan.answer (failCall service s age) ≠ .raised) : GivesUp service scan s := by
  obtain ⟨hage, hold, -⟩ := h
  have hunique : ∀ age', scan.age service s = some age' → age = age' := by
    intro age' h'
    exact Option.some.inj (hage.symm.trans h')
  refine ⟨?_, ?_⟩
  · intro age' h'
    rwa [← hunique age' h']
  · rintro age' ⟨h', -⟩
    rwa [← hunique age' h']

/-- No call issued for these steps raised, so that the loops go on after them. -/
def Reached (service : Service) (scan : Scan) (keys : List String) (before : List SuspendedStep) :
    Prop :=
  ∀ call ∈ (visits service scan keys before).calls, scan.answer call ≠ .raised

/-- The scan gave up on a step with this key, among the given ones. -/
def HandledAmong (service : Service) (scan : Scan) (keys : List String)
    (steps : List SuspendedStep) (key : String) : Prop :=
  ∃ before s after, steps = before ++ s :: after ∧ Reached service scan keys before
    ∧ GivesUp service scan s ∧ s.key = key

/-- What one visit does. -/
inductive Visited (service : Service) (scan : Scan) (st : ScanState) (s : SuspendedStep) :
    ScanState → Prop where
  | halted (halted : st.raised = true) : Visited service scan st s st
  | known (known : s.key ∈ st.failedStepKeys) : Visited service scan st s st
  | early (early : ¬ OutOfBudget service scan s) : Visited service scan st s st
  | dropped (running : st.raised = false) (unknown : s.key ∉ st.failedStepKeys)
      (out : OutOfBudget service scan s) (notDue : ∀ age, ¬ Due service scan s age) :
      Visited service scan st s (st.remember s.key)
  | failed (age : Int) (running : st.raised = false) (unknown : s.key ∉ st.failedStepKeys)
      (due : Due service scan s age)
      (answered : scan.answer (failCall service s age) ≠ .raised) :
      Visited service scan st s
        { st with
          failedStepKeys := s.key :: st.failedStepKeys
          calls := st.calls ++ [failCall service s age] }
  | raised (age : Int) (running : st.raised = false) (unknown : s.key ∉ st.failedStepKeys)
      (due : Due service scan s age)
      (answered : scan.answer (failCall service s age) = .raised) :
      Visited service scan st s
        { st with calls := st.calls ++ [failCall service s age], raised := true }

theorem visit_spec (service : Service) (scan : Scan) (st : ScanState) (s : SuspendedStep) :
    Visited service scan st s (visit service scan st s) := by
  unfold visit
  split
  next h => exact .halted h
  next hrunning =>
    have hrunning : st.raised = false := Bool.not_eq_true _ ▸ hrunning
    split
    next h => exact .known h
    next hunknown =>
      cases hage : scan.age service s with
      | none =>
          refine .dropped hrunning hunknown ?_ ?_
          · intro age h
            rw [hage] at h
            cases h
          · rintro age ⟨h, -⟩
            rw [hage] at h
            cases h
      | some age =>
          dsimp only
          split
          next hearly =>
            refine .early fun hout => ?_
            have := hout age hage
            omega
          next hold =>
            have hold : service.timeout ≤ age := by omega
            -- a step without a correlation is out of budget all the same
            have hout : OutOfBudget service scan s := by
              intro age' h
              rw [hage] at h
              injection h with h
              omega
            unfold failStep
            split
            next hcorrelation =>
              exact .dropped hrunning hunknown hout fun age' h => hcorrelation h.2.2
            next hcorrelation =>
              have hdue : Due service scan s age := ⟨hage, hold, not_not.mp hcorrelation⟩
              dsimp only
              cases hanswer : scan.answer (failCall service s age) with
              | ok => exact .failed age hrunning hunknown hdue (by rw [hanswer]; nofun)
              | notFound => exact .failed age hrunning hunknown hdue (by rw [hanswer]; nofun)
              | raised => exact .raised age hrunning hunknown hdue hanswer

/-! ## §5. What a scan does. -/

variable {scan : Scan} {keys : List String}

theorem visits_snoc (before : List SuspendedStep) (s : SuspendedStep) :
    visits service scan keys (before ++ [s])
      = visit service scan (visits service scan keys before) s := replay_snoc ..

/-- The loops go on exactly while no call has raised. -/
theorem raised_eq_false_iff (steps : List SuspendedStep) :
    (visits service scan keys steps).raised = false ↔ Reached service scan keys steps := by
  unfold Reached
  induction steps using List.reverseRecOn with
  | nil => exact iff_of_true rfl nofun
  | append_singleton before s ih =>
      rw [visits_snoc]
      have effect := visit_spec service scan (visits service scan keys before) s
      generalize visit service scan (visits service scan keys before) s = st' at effect
      cases effect with
      | halted | known | early | dropped => exact ih
      | failed age running unknown due answered =>
          rw [List.forall_mem_append, ← ih]
          simpa using fun _ => answered
      -- the call that raised is in the log
      | raised age running unknown due answered =>
          refine iff_of_false nofun fun h => ?_
          exact h _ (List.mem_append_right _ (List.mem_singleton_self _)) answered

/-- A call that is issued stays in the log. -/
theorem calls_mono (before after : List SuspendedStep) {call : FailCall}
    (h : call ∈ (visits service scan keys before).calls) :
    call ∈ (visits service scan keys (before ++ after)).calls := by
  unfold visits at h ⊢
  rw [replay_append]
  refine @replay_invariant _ _ _ (fun st : ScanState => call ∈ st.calls) ?_ after _ h
  intro st s hst
  have effect := visit_spec service scan st s
  generalize visit service scan st s = st' at effect ⊢
  cases effect with
  | halted | known | early | dropped => exact hst
  | failed | raised => exact List.mem_append_left _ hst

theorem handledAmong_snoc (before : List SuspendedStep) (s : SuspendedStep) (key : String) :
    HandledAmong service scan keys (before ++ [s]) key
      ↔ HandledAmong service scan keys before key
        ∨ Reached service scan keys before ∧ GivesUp service scan s ∧ s.key = key := by
  constructor
  · rintro ⟨b, t, a, hsplit, hreached, hgives, hkey⟩
    -- the step in question is the last one, or an earlier one
    rcases List.eq_nil_or_concat a with rfl | ⟨a, last, rfl⟩
    · obtain ⟨rfl, hlast⟩ := List.append_inj' hsplit rfl
      obtain rfl : s = t := (List.singleton_inj.mp hlast)
      exact .inr ⟨hreached, hgives, hkey⟩
    · rw [List.concat_eq_append, ← List.cons_append, ← List.append_assoc] at hsplit
      obtain ⟨rfl, -⟩ := List.append_inj' hsplit rfl
      exact .inl ⟨b, t, a, rfl, hreached, hgives, hkey⟩
  · rintro (⟨b, t, a, rfl, hrest⟩ | hrest)
    · exact ⟨b, t, a ++ [s], by simp, hrest⟩
    · exact ⟨before, s, [], rfl, hrest⟩

/-- **The keys that are handled** after a scan: those from before, and those it gave up on. -/
theorem mem_failedStepKeys_iff (steps : List SuspendedStep) (key : String) :
    key ∈ (visits service scan keys steps).failedStepKeys
      ↔ key ∈ keys ∨ HandledAmong service scan keys steps key := by
  induction steps using List.reverseRecOn with
  | nil =>
      refine ⟨.inl, ?_⟩
      rintro (h | ⟨b, t, a, hsplit, -⟩)
      · exact h
      · simp at hsplit
  | append_singleton before s ih =>
      -- in each case the key is added exactly where the visit gives up on the step
      rw [handledAmong_snoc, ← or_assoc, ← ih, ← raised_eq_false_iff, visits_snoc]
      have effect := visit_spec service scan (visits service scan keys before) s
      generalize visit service scan (visits service scan keys before) s = st' at effect
      cases effect with
      | halted halted =>
          refine ⟨.inl, ?_⟩
          rintro (h | ⟨hrunning, -⟩)
          · exact h
          · exact absurd halted (by simp [hrunning])
      | known known =>
          refine ⟨.inl, ?_⟩
          rintro (h | ⟨-, -, rfl⟩)
          · exact h
          · exact known
      | early early =>
          refine ⟨.inl, ?_⟩
          rintro (h | ⟨-, hgives, -⟩)
          · exact h
          · exact absurd hgives.1 early
      | dropped running unknown out notDue =>
          have hgives : GivesUp service scan s := ⟨out, fun age h => absurd h (notDue age)⟩
          show key ∈ s.key :: _ ↔ _
          rw [List.mem_cons, or_comm]
          exact or_congr_right ⟨fun h => ⟨running, hgives, h.symm⟩, fun h => h.2.2.symm⟩
      | failed age running unknown due answered =>
          have hgives : GivesUp service scan s := due.givesUp answered
          show key ∈ s.key :: _ ↔ _
          rw [List.mem_cons, or_comm]
          exact or_congr_right ⟨fun h => ⟨running, hgives, h.symm⟩, fun h => h.2.2.symm⟩
      | raised age running unknown due answered =>
          refine ⟨.inl, ?_⟩
          rintro (h | ⟨-, hgives, -⟩)
          · exact h
          · exact absurd answered (hgives.2 age due)

/-- Every call is about a step that is due and was not handled before. -/
theorem calls_due (steps : List SuspendedStep) :
    ∀ call ∈ (visits service scan keys steps).calls,
      ∃ s ∈ steps, ∃ age, Due service scan s age ∧ s.key ∉ keys
        ∧ call = failCall service s age := by
  induction steps using List.reverseRecOn with
  | nil => nofun
  | append_singleton before s ih =>
      have hold : ∀ call ∈ (visits service scan keys before).calls,
          ∃ t ∈ before ++ [s], ∃ age, Due service scan t age ∧ t.key ∉ keys
            ∧ call = failCall service t age := by
        intro call hcall
        obtain ⟨t, ht, hrest⟩ := ih call hcall
        exact ⟨t, List.mem_append_left _ ht, hrest⟩
      rw [visits_snoc]
      have effect := visit_spec service scan (visits service scan keys before) s
      generalize visit service scan (visits service scan keys before) s = st' at effect
      cases effect with
      | halted | known | early | dropped => exact hold
      | failed age running unknown due answered | raised age running unknown due answered =>
          refine List.forall_mem_append.mpr ⟨hold, ?_⟩
          rintro call hcall
          rw [List.mem_singleton.mp hcall]
          refine ⟨s, List.mem_append_right _ (List.mem_singleton_self _), age, due, ?_, rfl⟩
          exact fun h => unknown ((mem_failedStepKeys_iff before s.key).mpr (.inl h))

/-- A due step that the loops reach and whose key is not handled is failed. -/
theorem due_called {before after : List SuspendedStep} {s : SuspendedStep} {age : Int}
    (hlisted : scan.listed = before ++ s :: after) (hdue : Due service scan s age)
    (hreached : Reached service scan keys before)
    (hunknown : s.key ∉ keys ∧ ¬ HandledAmong service scan keys before s.key) :
    failCall service s age ∈ (scanOnce service keys scan).calls := by
  have hrunning := (raised_eq_false_iff before).mpr hreached
  have hkey : s.key ∉ (visits service scan keys before).failedStepKeys := by
    rw [mem_failedStepKeys_iff]
    exact fun h => h.elim hunknown.1 hunknown.2
  -- it is called at its visit, and the call stays in the log
  have hsplit : scan.listed = (before ++ [s]) ++ after := by rw [hlisted]; simp
  unfold scanOnce
  rw [hsplit]
  refine calls_mono _ _ ?_
  rw [visits_snoc]
  have effect := visit_spec service scan (visits service scan keys before) s
  generalize visit service scan (visits service scan keys before) s = st' at effect
  cases effect with
  | halted halted => exact absurd halted (by simp [hrunning])
  | known known => exact absurd known hkey
  | early early =>
      refine absurd (fun age' h => ?_) early
      rw [← Option.some.inj (hdue.1.symm.trans h)]
      exact hdue.2.1
  | dropped running unknown out notDue => exact absurd hdue (notDue age)
  | failed age' running unknown due answered | raised age' running unknown due answered =>
      rw [Option.some.inj (hdue.1.symm.trans due.1)]
      exact List.mem_append_right _ (List.mem_singleton_self _)

/-! ## §6. Histories. -/

/-- The key was handled in an earlier scan of the history. -/
def HandledEarlier (service : Service) (history : List Scan) (key : String) : Prop :=
  ∃ past earlier rest, history = past ++ earlier :: rest
    ∧ HandledAmong service earlier (memory service past) earlier.listed key

/-- **What the service remembers** after a history: the keys its scans gave up on. -/
theorem mem_memory_iff (history : List Scan) (key : String) :
    key ∈ memory service history ↔ HandledEarlier service history key := by
  induction history using List.reverseRecOn with
  | nil =>
      refine iff_of_false List.not_mem_nil ?_
      rintro ⟨past, earlier, rest, hsplit, -⟩
      simp at hsplit
  | append_singleton past last ih =>
      have hmemory : memory service (past ++ [last])
          = (scanOnce service (memory service past) last).failedStepKeys := replay_snoc ..
      rw [hmemory]
      unfold scanOnce
      rw [mem_failedStepKeys_iff, ih]
      constructor
      · rintro (⟨p, e, r, rfl, h⟩ | h)
        · exact ⟨p, e, r ++ [last], by simp, h⟩
        · exact ⟨past, last, [], rfl, h⟩
      · rintro ⟨p, e, r, hsplit, h⟩
        rcases List.eq_nil_or_concat r with rfl | ⟨r, last', rfl⟩
        · obtain ⟨rfl, hlast⟩ := List.append_inj' hsplit rfl
          obtain rfl : last = e := List.singleton_inj.mp hlast
          exact .inr h
        · rw [List.concat_eq_append, ← List.cons_append, ← List.append_assoc] at hsplit
          obtain ⟨rfl, -⟩ := List.append_inj' hsplit rfl
          exact .inl ⟨p, e, r, rfl, h⟩

/-- The scan fails every due step, and no other. -/
def FailsExactlyDue (service : Service) (history : List Scan) (scan : Scan) : Prop :=
  (∀ s ∈ scan.listed, ∀ age, Due service scan s age →
      failCall service s age ∈ (scanOnce service (memory service history) scan).calls)
    ∧ ∀ call ∈ (scanOnce service (memory service history) scan).calls,
        ∃ s ∈ scan.listed, ∃ age, Due service scan s age ∧ call = failCall service s age

/-- **The watchdog's scan**, after any history of its leader term: every due step is failed
unless its key was handled before in the term, or a call for a step listed before it raised;
and every call fails a step that is due and was not handled by an earlier scan. -/
theorem watchdog_scan (service : Service) (history : List Scan) (scan : Scan) :
    (∀ before s after age, scan.listed = before ++ s :: after → Due service scan s age →
        ¬ HandledEarlier service history s.key →
        ¬ HandledAmong service scan (memory service history) before s.key →
        Reached service scan (memory service history) before →
        failCall service s age ∈ (scanOnce service (memory service history) scan).calls)
      ∧ ∀ call ∈ (scanOnce service (memory service history) scan).calls,
          ∃ s ∈ scan.listed, ∃ age, Due service scan s age
            ∧ ¬ HandledEarlier service history s.key ∧ call = failCall service s age := by
  constructor
  · intro before s after age hlisted hdue hearlier hamong hreached
    rw [← mem_memory_iff] at hearlier
    exact due_called hlisted hdue hreached ⟨hearlier, hamong⟩
  · intro call hcall
    obtain ⟨s, hs, age, hdue, hunknown, rfl⟩ := calls_due scan.listed call hcall
    rw [mem_memory_iff] at hunknown
    exact ⟨s, hs, age, hdue, hunknown, rfl⟩

/-- Half an hour, and a library that knows the dates of the examples. -/
def halfHour : Service where
  timeoutSeconds := 1800
  fromisoformat raw :=
    if raw = "2025-01-01T00:00:00+00:00" then some ⟨1735689600000000, some 0⟩
    else if raw = "2025-01-01T03:00:00+00:00" then some ⟨1735700400000000, some 0⟩
    else none

/-- A session whose step `lab_start` is suspended. -/
def suspendedSession (id suspendedAt correlationId : String) : SessionInfo where
  id := id
  pipelineProgress := .dict [("instantiate", .dict [("lab_start", .dict
    [("status", .str "suspended"), ("suspended_at", .str suspendedAt),
     ("step_correlation_id", .str correlationId)])])]

/-- A scan that finds these sessions INSTANTIATING. -/
def scanOf (sessions : List SessionInfo) (now : Int) (answer : FailCall → CallAnswer) : Scan where
  pages status := some (if status = "INSTANTIATING" then sessions else [])
  now := now
  answer := answer

/-- The step of such a session. -/
def labStart (id suspendedAt correlationId : String) : SuspendedStep where
  sessionId := id
  pipelineName := "instantiate"
  stepName := "lab_start"
  step :=
    [("status", .str "suspended"), ("suspended_at", .str suspendedAt),
     ("step_correlation_id", .str correlationId)]

/-- The first suspension is failed after an hour; three hours later the step is suspended anew,
under another correlation id, and is left alone.  A call that raises keeps the scan from the
session that is listed next. -/
theorem resuspended_not_failed :
    ¬ FailsExactlyDue halfHour
        [scanOf [suspendedSession "s1" "2025-01-01T00:00:00Z" "c1"] 1735693200000000 fun _ => .ok]
        (scanOf [suspendedSession "s1" "2025-01-01T03:00:00Z" "c2"] 1735704000000000
          fun _ => .ok)
      ∧ ¬ FailsExactlyDue halfHour []
          (scanOf
            [suspendedSession "s1" "2025-01-01T00:00:00Z" "c1",
             suspendedSession "s2" "2025-01-01T00:00:00Z" "c2"] 1735693200000000
            fun call => if call.sessionId = "s1" then .raised else .ok) := by
  constructor
  · rintro ⟨hcomplete, -⟩
    have hcall := hcomplete (labStart "s1" "2025-01-01T03:00:00Z" "c2") (List.mem_singleton_self _)
      3600000000 ⟨by decide +kernel, by decide +kernel, rfl⟩
    have hnone : (scanOnce halfHour (memory halfHour
        [scanOf [suspendedSession "s1" "2025-01-01T00:00:00Z" "c1"] 1735693200000000 fun _ => .ok])
        (scanOf [suspendedSession "s1" "2025-01-01T03:00:00Z" "c2"] 1735704000000000
          fun _ => .ok)).calls = [] := List.isEmpty_iff.mp (by decide +kernel)
    rw [hnone] at hcall
    cases hcall
  · rintro ⟨hcomplete, -⟩
    have hcall := hcomplete (labStart "s2" "2025-01-01T00:00:00Z" "c2")
      (List.mem_cons_of_mem _ (List.mem_singleton_self _))
      3600000000 ⟨by decide +kernel, by decide +kernel, rfl⟩
    have hone := List.mem_map_of_mem (f := FailCall.sessionId) hcall
    revert hone
    decide +kernel

end CmlCloudManager.Controller.SuspendedStepWatchdog
