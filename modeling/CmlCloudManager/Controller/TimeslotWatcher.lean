/-
  CmlCloudManager.Controller.TimeslotWatcher
  ──────────────────────────────────────────
  **THE TRIGGERS OF THE TIMESLOT WATCHER.**

  A scan asks which sessions are about to start and which are past their end, and writes
  an etcd key for each session that it does not remember having triggered.  It forgets a
  session when a response comes without it.  `_trigger_reconcile` swallows every failure
  of the write, so that the scan remembers a session whether its key was written or not:

    • `mem_triggered_scanDeadlines` — what an answered scan remembers is what was listed,
    • `run_attempts`                — a session gets one attempt, when it is newly listed,
    • `triggers_kept_iff`           — no trigger is lost, and none is written again, iff
                                      every session whose attempt failed is gone from the
                                      next response.
-/
import Mathlib.Data.Finset.Dedup
import Mathlib.Data.Finset.Lattice.Lemmas
import Mathlib.Data.Finset.SDiff

namespace CmlCloudManager.Controller.TimeslotWatcher

/-! ## §1. One write. -/

/-- The `reason` of a trigger, one for each list of the response. -/
inductive TriggerReason where
  | timeslotApproaching
  | timeslotExpired
  deriving DecidableEq

/-- What etcd makes of the two calls for one session. -/
structure EtcdCalls where
  /-- `self._client` is set. -/
  connected : Bool := true
  leaseGrantRaises : Bool := false
  putRaises : Bool := false

/-- `EtcdClient.grant_lease` returns a lease; it raises `EtcdClientError` otherwise. -/
def EtcdCalls.grantLease (calls : EtcdCalls) : Bool := !calls.connected || !calls.leaseGrantRaises

/-- `EtcdClient.put`: without a connection nothing is written and the answer is `True`. -/
def EtcdCalls.put (calls : EtcdCalls) : Bool := !calls.connected || !calls.putRaises

/-- `_trigger_reconcile` has written the key.  It returns nothing, so that its caller
does not know. -/
def EtcdCalls.triggerReconcile (calls : EtcdCalls) : Bool := calls.grantLease && calls.put

/-! ## §2. One scan. -/

/-- What `get_sessions_with_imminent_deadlines` returns: a list that is not there is
empty, and an entry is its `id`, if it has one. -/
structure ImminentDeadlines where
  approachingStart : List (Option String) := []
  pastEnd : List (Option String) := []

/-- The query of a scan, unless it raises, and the calls for each session, which are made
once at most for each reason. -/
structure Scan where
  result : Option ImminentDeadlines
  etcd : TriggerReason → String → EtcdCalls := fun _ _ => {}

/-- A scan that was answered with an `id` for every entry. -/
structure Answer where
  listed : TriggerReason → List String
  etcd : TriggerReason → String → EtcdCalls

/-- A query that raises, and an entry without an `id`, end the scan before it has changed
anything but its number. -/
def Scan.answer (scan : Scan) : Option Answer := do
  let result ← scan.result
  let approaching ← result.approachingStart.mapM id
  let pastEnd ← result.pastEnd.mapM id
  some
    { listed := fun
        | .timeslotApproaching => approaching
        | .timeslotExpired => pastEnd
      etcd := scan.etcd }

/-- A loop over one of the lists: the set it adds to, and its writes so far, each with
whether it succeeded. -/
structure TriggerLoop where
  triggered : Finset String
  writes : List (String × Bool) := []

/-- The body of either loop. -/
def TriggerLoop.visit (written : String → Bool) (loop : TriggerLoop) (sessionId : String) :
    TriggerLoop :=
  if sessionId ∉ loop.triggered then
    { triggered := insert sessionId loop.triggered
      writes := loop.writes ++ [(sessionId, written sessionId)] }
  else loop

/-- The pruning of one of the sets, and the loop over its list. -/
def Answer.triggerNew (answer : Answer) (reason : TriggerReason) (triggered : Finset String) :
    TriggerLoop :=
  let current := (answer.listed reason).toFinset
  (answer.listed reason).foldl
    (TriggerLoop.visit fun sessionId => (answer.etcd reason sessionId).triggerReconcile)
    { triggered := triggered \ (triggered \ current) }

/-- The attributes that `_scan_deadlines` reads or writes, without its times and logs. -/
structure TimeslotWatcherService where
  scanCount : Nat := 0
  triggersApproaching : Nat := 0
  triggersPastEnd : Nat := 0
  triggeredApproaching : Finset String := ∅
  triggeredPastEnd : Finset String := ∅

/-- What was listed by a scan, and what it wrote. -/
structure ScanRecord where
  answer : Answer
  writes : TriggerReason → List (String × Bool)

namespace TimeslotWatcherService

/-- The set that belongs to a reason. -/
def triggered (service : TimeslotWatcherService) : TriggerReason → Finset String
  | .timeslotApproaching => service.triggeredApproaching
  | .timeslotExpired => service.triggeredPastEnd

/-- `_scan_deadlines`, with what it did if it was answered. -/
def scanDeadlines (service : TimeslotWatcherService) (scan : Scan) :
    TimeslotWatcherService × Option ScanRecord :=
  match scan.answer with
  | none => ({ service with scanCount := service.scanCount + 1 }, none)
  | some answer =>
      let approaching := answer.triggerNew .timeslotApproaching service.triggeredApproaching
      let pastEnd := answer.triggerNew .timeslotExpired service.triggeredPastEnd
      ({ scanCount := service.scanCount + 1
         triggersApproaching := service.triggersApproaching + approaching.writes.length
         triggersPastEnd := service.triggersPastEnd + pastEnd.writes.length
         triggeredApproaching := approaching.triggered
         triggeredPastEnd := pastEnd.triggered },
       some
        { answer
          writes := fun
            | .timeslotApproaching => approaching.writes
            | .timeslotExpired => pastEnd.writes })

/-- What the answered scans did, one after the other. -/
def run : TimeslotWatcherService → List Scan → List ScanRecord
  | _, [] => []
  | service, scan :: scans =>
      (service.scanDeadlines scan).2.toList ++ (service.scanDeadlines scan).1.run scans

end TimeslotWatcherService

/-- The outcomes of a scan's writes for one session, in their order. -/
def ScanRecord.attempts (record : ScanRecord) (reason : TriggerReason) (sessionId : String) :
    List Bool :=
  ((record.writes reason).filter fun write => write.1 = sessionId).map Prod.snd

/-! ## §3. What no trigger being lost means. -/

/-- The last response, if there was one, did not list the session. -/
def NewlyListed (reason : TriggerReason) (sessionId : String) (before : List Answer) : Prop :=
  ∀ previous ∈ before.getLast?, sessionId ∉ previous.listed reason

/-- **No trigger is lost, and none is written again.**  A stay is a part of the run in
which every response lists the session. -/
structure TriggersKept (records : List ScanRecord) : Prop where
  /-- In a stay from its first scan on, a write succeeded or every scan attempted one. -/
  notLost : ∀ reason sessionId before stay after, records = before ++ stay ++ after →
    NewlyListed reason sessionId (before.map (·.answer)) →
    (∀ record ∈ stay, sessionId ∈ record.answer.listed reason) →
    true ∈ stay.flatMap (·.attempts reason sessionId)
      ∨ ∀ record ∈ stay, record.attempts reason sessionId ≠ []
  /-- In a stay nothing is written after a successful write. -/
  notRepeated : ∀ reason sessionId before stay after, records = before ++ stay ++ after →
    (∀ record ∈ stay, sessionId ∈ record.answer.listed reason) →
    ∀ earlier later, stay.flatMap (·.attempts reason sessionId) = earlier ++ true :: later →
      later = []

/-- A session that is newly listed when etcd fails its write is gone from the next
response, if there is a next one. -/
def FailuresLeave (answers : List Answer) : Prop :=
  ∀ reason sessionId before answer next after, answers = before ++ answer :: next :: after →
    NewlyListed reason sessionId before → sessionId ∈ answer.listed reason →
    (answer.etcd reason sessionId).triggerReconcile = false → sessionId ∉ next.listed reason

/-! ## §4. What one scan remembers and writes. -/

namespace TriggerLoop

variable {written : String → Bool}

/-- The outcomes of the loop's writes for one session. -/
def attempts (loop : TriggerLoop) (sessionId : String) : List Bool :=
  (loop.writes.filter fun write => write.1 = sessionId).map Prod.snd

theorem visit_of_mem {loop : TriggerLoop} {sessionId : String} (h : sessionId ∈ loop.triggered) :
    loop.visit written sessionId = loop := by
  unfold visit
  rw [if_neg (not_not.mpr h)]

@[simp] theorem triggered_visit (loop : TriggerLoop) (sessionId : String) :
    (loop.visit written sessionId).triggered = insert sessionId loop.triggered := by
  by_cases h : sessionId ∈ loop.triggered
  · rw [visit_of_mem h, Finset.insert_eq_of_mem h]
  · unfold visit
    rw [if_pos h]

/-- One turn attempts its own session, unless that is remembered. -/
theorem attempts_visit (loop : TriggerLoop) (sessionId other : String) :
    (loop.visit written sessionId).attempts other
      = loop.attempts other
        ++ if sessionId = other ∧ other ∉ loop.triggered then [written other] else [] := by
  by_cases h : sessionId ∈ loop.triggered
  · rw [visit_of_mem h, if_neg, List.append_nil]
    rintro ⟨rfl, hnew⟩
    exact hnew h
  · have hvisit : (loop.visit written sessionId).writes
        = loop.writes ++ [(sessionId, written sessionId)] := by
      unfold visit
      rw [if_pos h]
    unfold attempts
    rw [hvisit, List.filter_append, List.map_append]
    by_cases heq : sessionId = other
    · subst heq
      simp [h]
    · simp [heq]

theorem triggered_foldl_visit (sessionIds : List String) (loop : TriggerLoop) :
    (sessionIds.foldl (visit written) loop).triggered = loop.triggered ∪ sessionIds.toFinset := by
  induction sessionIds generalizing loop with
  | nil => simp
  | cons sessionId rest ih =>
      rw [List.foldl_cons, ih, triggered_visit, List.toFinset_cons, Finset.insert_union,
        Finset.union_insert]

/-- The loop attempts each session once that it does not remember at its start. -/
theorem attempts_foldl_visit (sessionIds : List String) (loop : TriggerLoop) (other : String) :
    (sessionIds.foldl (visit written) loop).attempts other
      = loop.attempts other
        ++ if other ∈ sessionIds ∧ other ∉ loop.triggered then [written other] else [] := by
  induction sessionIds generalizing loop with
  | nil => simp
  | cons sessionId rest ih =>
      rw [List.foldl_cons, ih, attempts_visit, triggered_visit, List.append_assoc]
      congr 1
      -- the first turn makes the attempt, or one of the others does
      by_cases heq : sessionId = other
      · subst heq
        simp
      · have hne : other ≠ sessionId := fun h => heq h.symm
        simp [heq, hne]

end TriggerLoop

namespace Answer

variable (answer : Answer) (reason : TriggerReason) (triggered : Finset String)

@[simp] theorem triggered_triggerNew :
    (answer.triggerNew reason triggered).triggered = (answer.listed reason).toFinset := by
  unfold triggerNew
  rw [TriggerLoop.triggered_foldl_visit]
  -- the pruning keeps listed sessions only
  show triggered \ (triggered \ (answer.listed reason).toFinset) ∪ _ = _
  rw [sdiff_sdiff_right_self]
  exact Finset.union_eq_right.mpr Finset.inter_subset_right

/-- A session is attempted if it is listed and was not remembered before. -/
theorem attempts_triggerNew (sessionId : String) :
    (answer.triggerNew reason triggered).attempts sessionId
      = if sessionId ∈ answer.listed reason ∧ sessionId ∉ triggered then
          [(answer.etcd reason sessionId).triggerReconcile]
        else [] := by
  unfold triggerNew
  rw [TriggerLoop.attempts_foldl_visit]
  by_cases hlisted : sessionId ∈ answer.listed reason
  · simp [TriggerLoop.attempts, hlisted]
  · simp [TriggerLoop.attempts, hlisted]

end Answer

/-! ## §5. What a run writes. -/

namespace TimeslotWatcherService

variable {scan : Scan}

theorem scanDeadlines_of_none (service : TimeslotWatcherService) (h : scan.answer = none) :
    (service.scanDeadlines scan).2 = none
      ∧ ∀ reason, (service.scanDeadlines scan).1.triggered reason = service.triggered reason := by
  unfold scanDeadlines
  rw [h]
  refine ⟨rfl, fun reason => ?_⟩
  cases reason <;> rfl

/-- **An answered scan**: each of its loops goes over its own list with its own set, and
what the scan remembers afterwards is what was listed. -/
theorem scanDeadlines_of_some (service : TimeslotWatcherService) {answer : Answer}
    (h : scan.answer = some answer) :
    ∃ record, (service.scanDeadlines scan).2 = some record ∧ record.answer = answer
      ∧ (∀ reason, record.writes reason
          = (answer.triggerNew reason (service.triggered reason)).writes)
      ∧ ∀ reason, (service.scanDeadlines scan).1.triggered reason
          = (answer.listed reason).toFinset := by
  unfold scanDeadlines
  rw [h]
  refine ⟨_, rfl, rfl, fun reason => ?_, fun reason => ?_⟩
  · cases reason <;> rfl
  · cases reason
    · exact answer.triggered_triggerNew _ _
    · exact answer.triggered_triggerNew _ _

/-- The answers of a run are those of its scans. -/
theorem answers_run (scans : List Scan) (service : TimeslotWatcherService) :
    (service.run scans).map (·.answer) = scans.filterMap Scan.answer := by
  induction scans generalizing service with
  | nil => rfl
  | cons scan scans ih =>
      rw [run, List.map_append, ih]
      cases hanswer : scan.answer with
      | none =>
          rw [(scanDeadlines_of_none service hanswer).1, List.filterMap_cons_none hanswer]
          rfl
      | some answer =>
          obtain ⟨record, hrecord, rfl, -, -⟩ := scanDeadlines_of_some service hanswer
          rw [hrecord, List.filterMap_cons_some hanswer]
          rfl

/-- What is remembered after the records: what the last of them listed. -/
def rememberedAfter (service : TimeslotWatcherService) (reason : TriggerReason)
    (records : List ScanRecord) : Finset String :=
  records.foldl (fun _ record => (record.answer.listed reason).toFinset) (service.triggered reason)

/-- **A session gets one attempt**, in the scan that lists it when it is not remembered. -/
theorem run_attempts (reason : TriggerReason) (sessionId : String) (scans : List Scan)
    (service : TimeslotWatcherService) {before after : List ScanRecord} {record : ScanRecord}
    (h : service.run scans = before ++ record :: after) :
    record.attempts reason sessionId
      = if sessionId ∈ record.answer.listed reason
            ∧ sessionId ∉ service.rememberedAfter reason before then
          [(record.answer.etcd reason sessionId).triggerReconcile]
        else [] := by
  induction scans generalizing service before with
  | nil =>
      rw [run] at h
      exact absurd h (by simp)
  | cons scan scans ih =>
      rw [run] at h
      cases hanswer : scan.answer with
      | none =>
          obtain ⟨hrecord, hsame⟩ := scanDeadlines_of_none service hanswer
          rw [hrecord] at h
          have hrest := ih _ h
          unfold rememberedAfter at hrest ⊢
          rwa [hsame] at hrest
      | some answer =>
          obtain ⟨first, hfirst, rfl, hwrites, htriggered⟩ :=
            scanDeadlines_of_some service hanswer
          rw [hfirst] at h
          -- the record is this scan's, or one of those after it
          cases before with
          | nil =>
              obtain ⟨rfl, -⟩ := List.cons.inj h
              unfold ScanRecord.attempts
              rw [hwrites]
              exact first.answer.attempts_triggerNew _ _ _
          | cons other before =>
              obtain ⟨rfl, hrun⟩ := List.cons.inj h
              have hrest := ih _ hrun
              unfold rememberedAfter at hrest
              rwa [htriggered] at hrest

/-- A watcher that starts afresh remembers what was listed last, and nothing before that. -/
theorem not_mem_rememberedAfter_iff {reason : TriggerReason} {sessionId : String}
    {records : List ScanRecord} :
    sessionId ∉ ({} : TimeslotWatcherService).rememberedAfter reason records
      ↔ NewlyListed reason sessionId (records.map (·.answer)) := by
  unfold rememberedAfter NewlyListed
  rcases List.eq_nil_or_concat records with rfl | ⟨before, last, rfl⟩
  · cases reason <;> simp [triggered]
  · simp

end TimeslotWatcherService

/-! ## §6. When no trigger is lost. -/

/-- What the answered scans of a fresh watcher do. -/
def records (scans : List Scan) : List ScanRecord := ({} : TimeslotWatcherService).run scans

theorem newlyListed_concat {reason : TriggerReason} {sessionId : String} {before : List Answer}
    {answer : Answer} :
    NewlyListed reason sessionId (before ++ [answer]) ↔ sessionId ∉ answer.listed reason := by
  simp [NewlyListed]

section Stay

variable {scans : List Scan} {before stay after : List ScanRecord} {record first : ScanRecord}
  {reason : TriggerReason} {sessionId : String}

theorem attempts_of_new (h : records scans = before ++ record :: after)
    (hnew : NewlyListed reason sessionId (before.map (·.answer)))
    (hlisted : sessionId ∈ record.answer.listed reason) :
    record.attempts reason sessionId
      = [(record.answer.etcd reason sessionId).triggerReconcile] := by
  rw [TimeslotWatcherService.run_attempts reason sessionId scans _ h, if_pos]
  exact ⟨hlisted, TimeslotWatcherService.not_mem_rememberedAfter_iff.mpr hnew⟩

theorem attempts_of_not_new (h : records scans = before ++ record :: after)
    (hnew : ¬ NewlyListed reason sessionId (before.map (·.answer))) :
    record.attempts reason sessionId = [] := by
  rw [TimeslotWatcherService.run_attempts reason sessionId scans _ h, if_neg]
  rintro ⟨-, hforgotten⟩
  exact hnew (TimeslotWatcherService.not_mem_rememberedAfter_iff.mp hforgotten)

/-- After its first scan a stay has no attempts. -/
theorem attempts_of_mem_tail (h : records scans = before ++ (first :: stay) ++ after)
    (hlisted : ∀ r ∈ first :: stay, sessionId ∈ r.answer.listed reason) (hmem : record ∈ stay) :
    record.attempts reason sessionId = [] := by
  obtain ⟨earlier, later, rfl⟩ := List.append_of_mem hmem
  have hsplit : records scans = (before ++ first :: earlier) ++ record :: (later ++ after) := by
    rw [h]
    simp
  refine attempts_of_not_new hsplit ?_
  -- the scan just before is one of the stay
  obtain ⟨others, last, hlast⟩ : ∃ others last, first :: earlier = others ++ [last] :=
    ⟨_, _, (List.dropLast_append_getLast (List.cons_ne_nil first earlier)).symm⟩
  have hmem_last : last ∈ first :: (earlier ++ record :: later) := by
    rw [← List.cons_append, hlast]
    simp
  rw [hlast, ← List.append_assoc, List.map_append, List.map_singleton, newlyListed_concat]
  exact not_not.mpr (hlisted last hmem_last)

theorem flatMap_attempts_tail (h : records scans = before ++ (first :: stay) ++ after)
    (hlisted : ∀ r ∈ first :: stay, sessionId ∈ r.answer.listed reason) :
    stay.flatMap (·.attempts reason sessionId) = [] :=
  List.flatMap_eq_nil_iff.mpr fun _ hmem => attempts_of_mem_tail h hlisted hmem

end Stay

/-- A stay has one attempt at most, so that nothing is written again. -/
theorem not_repeated {scans : List Scan} {before stay after : List ScanRecord}
    {reason : TriggerReason} {sessionId : String}
    (h : records scans = before ++ stay ++ after)
    (hlisted : ∀ r ∈ stay, sessionId ∈ r.answer.listed reason) {earlier later : List Bool}
    (hwrites : stay.flatMap (·.attempts reason sessionId) = earlier ++ true :: later) :
    later = [] := by
  cases stay with
  | nil => exact absurd hwrites (by simp)
  | cons first stay =>
      have hfirst : records scans = before ++ first :: (stay ++ after) := by
        rw [h]
        simp
      rw [List.flatMap_cons, flatMap_attempts_tail h hlisted, List.append_nil] at hwrites
      have hlen : (earlier ++ true :: later).length ≤ 1 := by
        rw [← hwrites, TimeslotWatcherService.run_attempts reason sessionId scans _ hfirst]
        split
        next => exact le_refl 1
        next => exact Nat.zero_le 1
      cases later with
      | nil => rfl
      | cons outcome later =>
          rw [List.length_append] at hlen
          simp only [List.length_cons] at hlen
          omega

/-- **Triggers are kept in exactly the runs** in which no session stays listed after the
scan that failed to write its trigger. -/
theorem triggers_kept_iff (scans : List Scan) :
    TriggersKept (records scans) ↔ FailuresLeave (scans.filterMap Scan.answer) := by
  have hanswers : (records scans).map (·.answer) = scans.filterMap Scan.answer :=
    TimeslotWatcherService.answers_run scans _
  rw [← hanswers]
  constructor
  · intro hkept reason sessionId before answer next after hsplit hnew hlisted hfailed hstays
    obtain ⟨before, tail, hrun, rfl, htail⟩ := List.map_eq_append_iff.mp hsplit
    obtain ⟨record, rest, rfl, rfl, hrest⟩ := List.map_eq_cons_iff.mp htail
    obtain ⟨following, after, rfl, rfl, rfl⟩ := List.map_eq_cons_iff.mp hrest
    have hstay : records scans = before ++ [record, following] ++ after := by
      rw [hrun]
      simp
    have hall : ∀ r ∈ [record, following], sessionId ∈ r.answer.listed reason := by
      simp [hlisted, hstays]
    have hfirst := attempts_of_new hrun hnew hlisted
    have hsecond : following.attempts reason sessionId = [] :=
      attempts_of_mem_tail hstay hall (by simp)
    -- the one attempt of the two scans failed, and the second scan made none
    rcases hkept.notLost reason sessionId before _ after hstay hnew hall with htrue | hevery
    · rw [List.flatMap_cons, flatMap_attempts_tail hstay hall, hfirst, hfailed] at htrue
      exact absurd htrue (by simp)
    · exact hevery following (by simp) hsecond
  · intro hleave
    refine ⟨?_, fun _ _ _ _ _ h hlisted _ _ hwrites => not_repeated h hlisted hwrites⟩
    intro reason sessionId before stay after h hnew hlisted
    cases stay with
    | nil => exact Or.inr (by simp)
    | cons first stay =>
        have hfirst : records scans = before ++ first :: (stay ++ after) := by
          rw [h]
          simp
        have hattempt := attempts_of_new hfirst hnew (hlisted first List.mem_cons_self)
        cases hwritten : (first.answer.etcd reason sessionId).triggerReconcile with
        | true =>
            left
            rw [List.flatMap_cons, hattempt, hwritten]
            exact List.mem_cons_self
        | false =>
            right
            cases stay with
            | nil => simp [hattempt]
            | cons following stay =>
                have hgone := hleave reason sessionId (before.map (·.answer)) first.answer
                  following.answer ((stay ++ after).map (·.answer)) (by rw [h]; simp) hnew
                  (hlisted first List.mem_cons_self) hwritten
                exact absurd (hlisted following (by simp)) hgone

/-- A query that says that one session is past its end, and etcd as it is then. -/
def expired (etcd : EtcdCalls) : Scan :=
  { result := some { pastEnd := [some "sess-A"] }
    etcd := fun _ _ => etcd }

/-- The lease of the first scan is refused.  The second scan, with etcd back, does not try
again. -/
theorem refused_trigger_lost :
    ¬ TriggersKept (records [expired { leaseGrantRaises := true }, expired {}]) := by
  intro hkept
  rcases hkept.notLost .timeslotExpired "sess-A" []
    (records [expired { leaseGrantRaises := true }, expired {}]) [] (by simp)
    (by simp [NewlyListed]) (by decide) with htrue | hevery
  · revert htrue
    decide
  · revert hevery
    decide

end CmlCloudManager.Controller.TimeslotWatcher
