/-
  CmlCloudManager.Core.WatchDelivery
  ──────────────────────────────────
  **NO WATCH EVENT IS LOST.**

  An id that `on_watch_event` returned is in the pending set until a drain takes it,
  and then in the batch of the debounce task until its turn comes.  The debounce task
  ends only where the pending set is empty, with no await in between, so that the next
  event finds it done and starts a new one; while the service leads, nothing else ends
  it (`Awaits` is the invariant).

  A drain that takes the id comes in the end, since every time the debounce task goes
  on there is less in front of it (`rank`), however many ids arrive meanwhile.  And a
  drain empties the pending set, which only an arrival fills, so that an id is drained
  no more often than it arrived (`Accounted`).
-/
import CmlCloudManager.Core.WatchTriggered
import CmlCloudManager.Foundation.Execution
import Mathlib.Data.Prod.Lex
import Mathlib.Order.WellFounded

namespace CmlCloudManager.Core.WatchTriggered

open CmlCloudManager.Foundation

/-! ## §1. What a step does to the queue. -/

/-- Does the debounce task go on? -/
def Action.resumesDebounce : Action → Bool
  | .debounceWakes _ | .fetchFinds _ | .fetchMisses _ | .watchReconcileReturns _ _ _ => true
  | _ => false

/-- The service leads, and neither `stop_async` nor `_step_down` has begun to end that. -/
structure World.Leading (w : World) : Prop where
  isLeader : w.isLeader = true
  running : w.stopping = false
  staying : w.steppingDown = 0

instance (w : World) : Decidable w.Leading :=
  decidable_of_iff (w.isLeader = true ∧ w.stopping = false ∧ w.steppingDown = 0)
    ⟨fun ⟨isLeader, running, staying⟩ => ⟨isLeader, running, staying⟩,
      fun h => ⟨h.isLeader, h.running, h.staying⟩⟩

theorem World.Leading.not_halted {w : World} (h : w.Leading) : w.halted = false := by
  unfold World.halted
  rw [h.isLeader, h.running]
  rfl

/-- What becomes of the queue of `w`, and whether the debounce task has gone on for it. -/
inductive QueueStep (w : World) : Bool → WatchQueue → Prop
  | stays : QueueStep w false w.queue
  | arrives (resourceId : Option String) : QueueStep w false (w.queue.onWatchEvent resourceId)
  | cancelled (leaving : 0 < w.steppingDown) : QueueStep w false w.queue.finish
  | finds {id rest} (fetching : w.queue.debounce = .fetching id rest) :
      QueueStep w true (w.queue.reconcile id rest)
  | proceeds {q} (active : w.queue.debounce ≠ .done)
      (goesOn : w.queue.Proceeds w.halted w.queue.debounce.rest q) : QueueStep w true q

theorem World.cancelDebounce_queue (w : World) : w.cancelDebounce.queue = w.queue.finish := by
  unfold World.cancelDebounce
  split
  next => exact (World.leave_frame ..).1
  next => rfl

theorem QueueStep.of_proceed {w w' : World} {order : List String}
    (h : w.proceed order = some w') (active : w.queue.debounce ≠ .done) :
    QueueStep w true w'.queue := by
  obtain ⟨q, hq, rfl⟩ := World.proceed_eq_some h
  exact .proceeds active (WatchQueue.proceeds hq)

/-- **The step lemma.** -/
theorem queueStep {config : Config} {w w' : World} {a : Action} (h : step config w a = some w') :
    QueueStep w a.resumesDebounce w'.queue := by
  cases a with
  | becomeLeader =>
      obtain ⟨-, ⟨⟩⟩ := Option.ite_none_left_eq_some.mp h
      exact .stays
  | stepDown | leadershipEnds | cycleStarts _ | cycleLists _ _ | cycleFails _ | taskRuns _ _
  | waitCancelled _ =>
      obtain ⟨-, ⟨⟩⟩ := Option.ite_none_right_eq_some.mp h
      exact .stays
  | stop =>
      obtain rfl := Option.some.inj h
      exact .stays
  | taskReturns _ _ _ | reconcileCancelled _ =>
      obtain ⟨-, ⟨⟩⟩ := Option.ite_none_right_eq_some.mp h
      rw [(World.leave_frame ..).1]
      exact .stays
  | watchEvent resourceId =>
      obtain rfl := Option.some.inj h
      exact .arrives resourceId
  | debounceWakes order =>
      unfold step at h
      dsimp only at h
      split at h
      next hsleeping => exact .of_proceed h (by rw [hsleeping]; exact nofun)
      next => cases h
  | fetchFinds now =>
      unfold step at h
      dsimp only at h
      split at h
      next id rest hfetching =>
        obtain rfl := Option.some.inj h
        exact .finds hfetching
      next => cases h
  | fetchMisses order =>
      unfold step at h
      dsimp only at h
      split at h
      next hfetching => exact .of_proceed h (by rw [hfetching]; exact nofun)
      next => cases h
  | watchReconcileReturns now outcome order =>
      unfold step at h
      dsimp only at h
      split at h
      next id rest hreconciling =>
        -- the flag that falls is none of the queue's
        obtain ⟨q, hq, rfl⟩ := World.proceed_eq_some h
        obtain ⟨hqueue, -, hhalted⟩ :=
          w.leave_frame id fun state => state.settle config now outcome
        rw [hqueue, hhalted] at hq
        exact .proceeds (by rw [hreconciling]; exact nofun) (WatchQueue.proceeds hq)
      next => cases h
  | debounceCancelled =>
      obtain ⟨hleaving, ⟨⟩⟩ := Option.ite_none_right_eq_some.mp h
      rw [World.cancelDebounce_queue]
      exact .cancelled hleaving

/-! ## §2. An id on its way. -/

/-- What the debounce task still does before it goes on with its batch. -/
def Debounce.work : Debounce → Nat
  | .fetching _ _ => 1
  | _ => 0

namespace WatchQueue

/-- The id was passed to `fetch_resource_by_id`, in a drain after the first `k`. -/
def FetchedAfter (q : WatchQueue) (k : Nat) (id : String) : Prop :=
  ∃ n, k < n ∧ (n, id) ∈ q.fetches

/-- The id is left of a batch that was drained after the first `k`. -/
def InBatch (q : WatchQueue) (k : Nat) (id : String) : Prop :=
  k < q.drains.length ∧ id ∈ q.debounce.rest

instance (q : WatchQueue) (k : Nat) (id : String) : Decidable (q.InBatch k id) :=
  inferInstanceAs (Decidable (_ ∧ _))

/-- The debounce task runs, and the id is pending or in its batch. -/
structure Awaits (q : WatchQueue) (k : Nat) (id : String) : Prop where
  active : q.debounce ≠ .done
  later : k ≤ q.drains.length
  queued : id ∈ q.pendingReconciles ∨ q.InBatch k id

/-- What is in front of the id: in a batch its place, else the whole batch and the next drain. -/
def rank (q : WatchQueue) (k : Nat) (id : String) : Nat ×ₗ Nat :=
  if q.InBatch k id then toLex (0, 2 * q.debounce.rest.idxOf id + q.debounce.work)
  else toLex (1, 2 * q.debounce.rest.length + q.debounce.work)

variable {q q' : WatchQueue} {k : Nat} {id : String}

theorem onWatchEvent_frame (hactive : q.debounce ≠ .done) (resourceId : Option String) :
    (q.onWatchEvent resourceId).debounce = q.debounce
      ∧ (q.onWatchEvent resourceId).drains = q.drains
      ∧ q.pendingReconciles ⊆ (q.onWatchEvent resourceId).pendingReconciles := by
  unfold onWatchEvent
  cases resourceId with
  | none => exact ⟨rfl, rfl, Finset.Subset.refl _⟩
  | some id =>
      dsimp only
      rw [if_neg hactive]
      split
      next => exact ⟨rfl, rfl, Finset.Subset.refl _⟩
      next => exact ⟨rfl, rfl, Finset.subset_insert _ _⟩


/-- Where the debounce task and the drains stay as they are, an id that was on its way still is. -/
theorem Awaits.stays (h : q.Awaits k id) (hdebounce : q'.debounce = q.debounce)
    (hdrains : q'.drains = q.drains) (hpending : q.pendingReconciles ⊆ q'.pendingReconciles) :
    q'.Awaits k id ∧ q'.rank k id = q.rank k id := by
  have hbatch : q'.InBatch k id ↔ q.InBatch k id := by
    unfold InBatch
    rw [hdebounce, hdrains]
  refine ⟨⟨?_, ?_, ?_⟩, ?_⟩
  · rw [hdebounce]
    exact h.active
  · rw [hdrains]
    exact h.later
  · exact h.queued.imp (fun hmem => hpending hmem) hbatch.mpr
  · unfold rank
    simp only [hbatch, hdebounce]

/-- The debounce task enters `_reconcile_single`: the batch is the same. -/
theorem Awaits.finds (h : q.Awaits k id) {current : String} {rest : List String}
    (hfetching : q.debounce = .fetching current rest) :
    (q.reconcile current rest).Awaits k id
      ∧ (q.reconcile current rest).rank k id < q.rank k id := by
  have hbatch : (q.reconcile current rest).InBatch k id ↔ q.InBatch k id := by
    unfold InBatch
    rw [hfetching]
    exact Iff.rfl
  refine ⟨⟨nofun, h.later, h.queued.imp_right hbatch.mpr⟩, ?_⟩
  unfold rank
  rw [hfetching]
  by_cases hin : q.InBatch k id
  · rw [if_pos hin, if_pos (hbatch.mpr hin)]
    exact Prod.Lex.toLex_lt_toLex.mpr (.inr ⟨rfl, Nat.lt_succ_self _⟩)
  · rw [if_neg hin, if_neg fun h => hin (hbatch.mp h)]
    exact Prod.Lex.toLex_lt_toLex.mpr (.inr ⟨rfl, Nat.lt_succ_self _⟩)

/-- It goes on to the next id of its batch. -/
theorem Awaits.fetches (h : q.Awaits k id) {next : String} {rest : List String}
    (hrest : q.debounce.rest = next :: rest) :
    (q.fetch next rest).FetchedAfter k id
      ∨ (q.fetch next rest).Awaits k id ∧ (q.fetch next rest).rank k id < q.rank k id := by
  by_cases hin : q.InBatch k id
  · -- the id is the next one, or one place nearer to it
    obtain ⟨hlater, hmem⟩ := hin
    rw [hrest] at hmem
    by_cases hnext : next = id
    · subst hnext
      exact .inl ⟨_, hlater, by simp [fetch]⟩
    · have hmem' : id ∈ rest := (List.mem_cons.mp hmem).resolve_left fun h => hnext h.symm
      have hin' : (q.fetch next rest).InBatch k id := ⟨hlater, hmem'⟩
      refine .inr ⟨⟨nofun, h.later, .inr hin'⟩, ?_⟩
      unfold rank
      rw [if_pos hin', if_pos ⟨hlater, by rw [hrest]; exact hmem⟩, hrest,
        List.idxOf_cons_ne _ hnext]
      refine Prod.Lex.toLex_lt_toLex.mpr (.inr ⟨rfl, ?_⟩)
      show 2 * rest.idxOf id + 1 < 2 * (rest.idxOf id + 1) + _
      omega
  · -- the id is pending, and the batch is shorter by one
    have hpending := h.queued.resolve_right hin
    have hin' : ¬ (q.fetch next rest).InBatch k id := by
      rintro ⟨hlater, hmem⟩
      exact hin ⟨hlater, by rw [hrest]; exact List.mem_cons_of_mem _ hmem⟩
    refine .inr ⟨⟨nofun, h.later, .inl hpending⟩, ?_⟩
    unfold rank
    rw [if_neg hin', if_neg hin, hrest]
    refine Prod.Lex.toLex_lt_toLex.mpr (.inr ⟨rfl, ?_⟩)
    show 2 * rest.length + 1 < 2 * (rest.length + 1) + _
    omega

/-- It drains the pending set. -/
theorem Awaits.drains (h : q.Awaits k id) (hrest : q.debounce.rest = []) {next : String}
    {rest : List String} (hall : (next :: rest).toFinset = q.pendingReconciles) :
    ((q.takeBatch (next :: rest)).fetch next rest).FetchedAfter k id
      ∨ ((q.takeBatch (next :: rest)).fetch next rest).Awaits k id
        ∧ ((q.takeBatch (next :: rest)).fetch next rest).rank k id < q.rank k id := by
  have hin : ¬ q.InBatch k id := fun hin => by
    have hmem := hin.2
    rw [hrest] at hmem
    cases hmem
  have hmem : id ∈ next :: rest := by
    rw [← List.mem_toFinset, hall]
    exact h.queued.resolve_right hin
  have hlater : k < (q.drains ++ [next :: rest]).length := by
    rw [List.length_append]
    exact Nat.lt_succ_of_le h.later
  by_cases hnext : next = id
  · subst hnext
    exact .inl ⟨_, hlater, by simp [fetch, takeBatch]⟩
  · have hmem' : id ∈ rest := (List.mem_cons.mp hmem).resolve_left fun h => hnext h.symm
    have hin' : ((q.takeBatch (next :: rest)).fetch next rest).InBatch k id := ⟨hlater, hmem'⟩
    refine .inr ⟨⟨nofun, hlater.le, .inr hin'⟩, ?_⟩
    unfold rank
    rw [if_pos hin', if_neg hin]
    exact Prod.Lex.toLex_lt_toLex.mpr (.inl Nat.zero_lt_one)

end WatchQueue

/-- **The step lemma** for an id on its way, while the service leads: it is fetched, or still on
its way and no further off, and nearer if the debounce task has gone on. -/
theorem QueueStep.awaits {w : World} {resumed : Bool} {q : WatchQueue} {k : Nat} {id : String}
    (hstep : QueueStep w resumed q) (hleads : w.Leading) (h : w.queue.Awaits k id) :
    q.FetchedAfter k id
      ∨ (q.Awaits k id ∧ q.rank k id ≤ w.queue.rank k id
        ∧ (resumed = true → q.rank k id < w.queue.rank k id)) := by
  cases hstep with
  | stays => exact .inr ⟨h, le_rfl, fun h => absurd h Bool.false_ne_true⟩
  | arrives resourceId =>
      obtain ⟨hdebounce, hdrains, hpending⟩ := WatchQueue.onWatchEvent_frame h.active resourceId
      obtain ⟨hawaits, hrank⟩ := h.stays hdebounce hdrains hpending
      exact .inr ⟨hawaits, hrank.le, fun h => absurd h Bool.false_ne_true⟩
  | cancelled leaving => exact absurd hleads.staying leaving.ne'
  | finds fetching =>
      obtain ⟨hawaits, hlt⟩ := h.finds fetching
      exact .inr ⟨hawaits, hlt.le, fun _ => hlt⟩
  | proceeds active goesOn =>
      have hnext : q.FetchedAfter k id ∨ q.Awaits k id ∧ q.rank k id < w.queue.rank k id := by
        rw [hleads.not_halted] at goesOn
        generalize hrest : w.queue.debounce.rest = batch at goesOn
        cases goesOn with
        | halts halt => cases halt
        | fetches => exact h.fetches hrest
        | drains _ _ all => exact h.drains hrest all
        | ends nothing =>
            -- an id on its way is pending or in the batch
            rcases h.queued with hmem | hin
            · rw [nothing] at hmem
              exact absurd hmem (Finset.notMem_empty _)
            · have hmem := hin.2
              rw [hrest] at hmem
              cases hmem
      exact hnext.imp_right fun ⟨hawaits, hlt⟩ => ⟨hawaits, hlt.le, fun _ => hlt⟩

/-- What is fetched has been fetched ever after. -/
theorem QueueStep.fetched {w : World} {resumed : Bool} {q : WatchQueue} {k : Nat} {id : String}
    (hstep : QueueStep w resumed q) (h : w.queue.FetchedAfter k id) : q.FetchedAfter k id := by
  obtain ⟨n, hn, hmem⟩ := h
  refine ⟨n, hn, ?_⟩
  cases hstep with
  | stays | cancelled _ | finds _ => exact hmem
  | arrives resourceId =>
      unfold WatchQueue.onWatchEvent
      cases resourceId with
      | none => exact hmem
      | some resourceId =>
          dsimp only
          split <;> exact hmem
  | proceeds active goesOn =>
      generalize w.queue.debounce.rest = batch at goesOn
      cases goesOn with
      | halts | ends => exact hmem
      | fetches | drains => exact List.mem_append_left _ hmem

/-- The id that has just arrived is on its way. -/
theorem awaits_of_arrival {config : Config} {w w' : World} {id : String} (hid : id ≠ "")
    (harrives : step config w (.watchEvent (some id)) = some w') :
    w'.queue.Awaits w.queue.drains.length id := by
  obtain rfl := Option.some.inj harrives
  show (w.queue.onWatchEvent (some id)).Awaits _ _
  unfold WatchQueue.onWatchEvent
  dsimp only
  rw [if_neg hid]
  refine ⟨?_, Nat.le_refl _, .inl (Finset.mem_insert_self _ _)⟩
  dsimp only
  split
  next => exact nofun
  next hactive => exact hactive

/-! ## §3. Drains and arrivals. -/

/-- Every id has arrived once for every drain of it, and once more while it is pending. -/
def WatchQueue.Accounted (q : WatchQueue) : Prop :=
  ∀ id, q.drains.flatten.count id + (if id ∈ q.pendingReconciles then 1 else 0)
    ≤ q.arrivals.count id

theorem WatchQueue.Accounted.onWatchEvent {q : WatchQueue} (h : q.Accounted)
    (resourceId : Option String) : (q.onWatchEvent resourceId).Accounted := by
  unfold WatchQueue.onWatchEvent
  cases resourceId with
  | none => exact h
  | some arrived =>
      dsimp only
      split
      next => exact h
      next =>
        intro id
        have hid := h id
        dsimp only
        rw [List.count_append, List.count_singleton]
        by_cases harrived : id = arrived
        · subst harrived
          rw [if_pos (Finset.mem_insert_self _ _), beq_self_eq_true, if_pos rfl]
          omega
        · simp only [Finset.mem_insert, harrived, false_or]
          exact hid.trans (Nat.le_add_right _ _)

/-- A drain takes one of every pending id. -/
theorem WatchQueue.Accounted.takeBatch {q : WatchQueue} (h : q.Accounted) {batch : List String}
    (hnodup : batch.Nodup) (hall : batch.toFinset = q.pendingReconciles) :
    (q.takeBatch batch).Accounted := by
  intro id
  have hid := h id
  unfold WatchQueue.takeBatch
  dsimp only
  rw [if_neg (Finset.notMem_empty _), List.flatten_append, List.count_append,
    List.flatten_singleton, hnodup.count, Nat.add_zero]
  simp only [← hall, List.mem_toFinset] at hid
  exact hid

theorem QueueStep.accounted {w : World} {resumed : Bool} {q : WatchQueue}
    (hstep : QueueStep w resumed q) (h : w.queue.Accounted) : q.Accounted := by
  cases hstep with
  | stays | cancelled _ | finds _ => exact h
  | arrives resourceId => exact h.onWatchEvent resourceId
  | proceeds active goesOn =>
      generalize w.queue.debounce.rest = batch at goesOn
      cases goesOn with
      | halts | ends | fetches => exact h
      | drains _ nodup all => exact h.takeBatch nodup all

/-! ## §4. Any interleaving. -/

/-- The debounce task is not held up for ever: its sleep ends, and so does what it awaits. -/
def DebounceGoesOn {config : Config} {w : World} (e : Execution (step config) w) : Prop :=
  ∀ n, (e.state n).queue.debounce ≠ .done → ∃ m, n ≤ m ∧ (e.action m).resumesDebounce = true

/-- **No lost watch event.**  An id is drained no more often than it arrived.  And an id that
arrives while the service leads, and goes on leading, is on its way to a drain that starts later
until it is fetched in one; and it is fetched in one in the end. -/
theorem watch_event_not_lost (config : Config) {acts : List Action} {w : World}
    (hreach : Run (step config) anyAction (init config) acts w) :
    (∀ id, w.queue.drains.flatten.count id ≤ w.queue.arrivals.count id)
      ∧ ∀ id w', id ≠ "" → step config w (.watchEvent (some id)) = some w' → w'.Leading →
        (∀ more u, Run (step config) (fun t _ => t.Leading) w' more u →
          u.queue.FetchedAfter w.queue.drains.length id
            ∨ u.queue.Awaits w.queue.drains.length id)
        ∧ ∀ e : Execution (step config) w', (∀ n, (e.state n).Leading) → DebounceGoesOn e →
          ∃ n, (e.state n).queue.FetchedAfter w.queue.drains.length id := by
  refine ⟨fun id => ?_, fun id w' hid harrives hleads => ⟨fun more u hmore => ?_, ?_⟩⟩
  · have haccounted : w.queue.Accounted := by
      refine @Run.invariant World Action (step config) anyAction (fun w => w.queue.Accounted)
        (fun t a u ht _ h => (queueStep h).accounted ht) _ _ _ hreach fun id => ?_
      exact Nat.le_refl 0
    exact (Nat.le_add_right _ _).trans (haccounted id)
  · refine @Run.invariant World Action (step config) (fun t _ => t.Leading)
      (fun u => u.queue.FetchedAfter w.queue.drains.length id
        ∨ u.queue.Awaits w.queue.drains.length id) ?_ _ _ _ hmore
      (.inr (awaits_of_arrival hid harrives))
    intro t a u ht hleads h
    rcases ht with hfetched | hawaits
    · exact .inl ((queueStep h).fetched hfetched)
    · exact ((queueStep h).awaits hleads hawaits).imp_right fun h => h.1
  · intro e hleading hgoes
    have hstart : (e.state 0).queue.Awaits w.queue.drains.length id := by
      rw [e.starts]
      exact awaits_of_arrival hid harrives
    obtain ⟨n, -, hfetched⟩ := @Execution.eventually_of_rank _ _ _ _ e _ _ _
      (fun t => t.queue.Awaits w.queue.drains.length id)
      (fun t => t.queue.FetchedAfter w.queue.drains.length id)
      (fun a => a.resumesDebounce = true)
      (fun t => t.queue.rank w.queue.drains.length id)
      (fun n h => ((queueStep (e.steps n)).awaits (hleading n) h).imp_right
        fun h => ⟨h.1, h.2.1⟩)
      (fun n h hresumes => ((queueStep (e.steps n)).awaits (hleading n) h).imp_right
        fun h => ⟨h.1, h.2.2 hresumes⟩)
      (fun n h => hgoes n h.active) 0 hstart
    exact ⟨n, hfetched⟩

/-- The service leads. -/
def leadingService : World := { init {} with isLeader := true }

/-- A session has changed. -/
def sessionChanged : World := play {} leadingService (.watchEvent (some "session-1"))

/-- It is being fetched. -/
def sessionDrained : World := play {} sessionChanged (.debounceWakes ["session-1"])

/-- It was gone. -/
def sessionMissed : World := play {} sessionDrained (.fetchMisses [])

/-- One event, and nothing happens after it. -/
def oneEvent : Execution (step {}) sessionChanged where
  state
    | 0 => sessionChanged
    | 1 => sessionDrained
    | _ + 2 => sessionMissed
  action
    | 0 => .debounceWakes ["session-1"]
    | 1 => .fetchMisses []
    | _ + 2 => .watchEvent none
  starts := rfl
  steps
    | 0 => by decide +kernel
    | 1 => by decide +kernel
    | _ + 2 => rfl

/-- The session is fetched. -/
theorem one_event_fetched : ∃ n, (oneEvent.state n).queue.FetchedAfter 0 "session-1" := by
  have hreach : Run (step {}) anyAction (init {}) ([] ++ [.becomeLeader]) leadingService :=
    Run.nil.snoc trivial rfl
  have hleading : ∀ n, (oneEvent.state n).Leading
    | 0 => (by decide +kernel : sessionChanged.Leading)
    | 1 => (by decide +kernel : sessionDrained.Leading)
    | _ + 2 => (by decide +kernel : sessionMissed.Leading)
  have hdone : sessionMissed.queue.debounce = .done := by decide +kernel
  have hgoes : DebounceGoesOn oneEvent
    | 0, _ | 1, _ => ⟨1, by decide, rfl⟩
    | _ + 2, hactive => absurd hdone hactive
  exact ((watch_event_not_lost {} hreach).2 "session-1" sessionChanged (by decide) rfl
    (hleading 0)).2 oneEvent hleading hgoes

end CmlCloudManager.Core.WatchTriggered
