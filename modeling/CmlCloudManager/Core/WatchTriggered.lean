/-
  CmlCloudManager.Core.WatchTriggered
  ───────────────────────────────────
  **RECONCILIATION, POLLED AND WATCH-TRIGGERED.**

  One `WatchTriggeredHostedService` from `start_async` on.  Its coroutines share an
  event loop, so that only what they do between two awaits is one action:

    • a cycle (`_reconcile_all`), of the polling loop, of the startup sweep or of
      `reconcile_now`, awaits `list_resources` and then creates a task for every
      resource that is not in progress and not in backoff,
    • a task awaits a permit of the semaphore and then runs `_reconcile_single`,
      which sets the `in_progress` flag and awaits `reconcile`,
    • `_watch_stream` adds what `on_watch_event` returns to the pending set and starts
      the debounce task, unless one is there that is not done,
    • `_debounced_reconcile` sleeps, drains the pending set, and awaits
      `fetch_resource_by_id` and `_reconcile_single` for each id of the batch.

  Everything that is awaited may take any time and end in any way; `_step_down`
  cancels the debounce task before it clears the leader flag.
-/
import CmlCloudManager.Foundation.Dict
import Mathlib.Algebra.Order.Ring.Unbundled.Rat
import Mathlib.Data.Finset.Insert
import Mathlib.Data.List.Dedup

namespace CmlCloudManager.Core.WatchTriggered

open CmlCloudManager.Foundation

/-! ## §1. Resources and their states. -/

/-- `ReconciliationConfig` and the switch of `WatchConfig` for the sweep. -/
structure Config where
  intervalSeconds : ℚ := 30
  pollingEnabled : Bool := true
  maxConcurrentReconciles : Nat := 10
  backoffInitialSeconds : ℚ := 1
  backoffMaxSeconds : ℚ := 60
  backoffMultiplier : ℚ := 2
  startupReconcileEnabled : Bool := true

/-- `ResourceState`, under its resource id. -/
structure ResourceState where
  inProgress : Bool := false
  lastAttempt : ℚ := 0
  failureCount : Nat := 0
  nextRetry : ℚ := 0
  deriving DecidableEq

/-- What `reconcile` comes back with. -/
inductive Outcome where
  | success
  | requeue (requeueAfterSeconds : Option ℚ)
  | failed
  | skip
  /-- An exception. -/
  | raised
  deriving DecidableEq

/-- `_calculate_backoff`. -/
def Config.calculateBackoff (config : Config) (failureCount : Nat) : ℚ :=
  min (config.backoffInitialSeconds * config.backoffMultiplier ^ (failureCount - 1))
    config.backoffMaxSeconds

/-- `result.requeue_after_seconds or self._config.interval_seconds`. -/
def Config.requeueDelay (config : Config) : Option ℚ → ℚ
  | some seconds => if seconds = 0 then config.intervalSeconds else seconds
  | none => config.intervalSeconds

/-- One more failure. -/
def ResourceState.fail (config : Config) (now : ℚ) (state : ResourceState) : ResourceState :=
  { state with
    failureCount := state.failureCount + 1
    nextRetry := now + config.calculateBackoff (state.failureCount + 1) }

/-- What `_reconcile_single` makes of the outcome. -/
def ResourceState.settle (config : Config) (now : ℚ) (state : ResourceState) :
    Outcome → ResourceState
  | .success => { state with failureCount := 0, nextRetry := 0 }
  | .requeue after => { state with nextRetry := now + config.requeueDelay after }
  | .failed | .raised => state.fail config now
  | .skip => state

/-! ## §2. The watch events and the debounce task. -/

/-- Where the debounce task is; `rest` is what is left of its batch. -/
inductive Debounce where
  /-- There is none, or `done()`. -/
  | done
  | sleeping
  /-- In `fetch_resource_by_id`. -/
  | fetching (id : String) (rest : List String)
  /-- In `_reconcile_single`. -/
  | reconciling (id : String) (rest : List String)
  deriving DecidableEq

/-- What is left of the batch. -/
def Debounce.rest : Debounce → List String
  | .fetching _ rest | .reconciling _ rest => rest
  | .done | .sleeping => []

/-- The pending ids and the debounce task, with what has happened to them so far. -/
structure WatchQueue where
  pendingReconciles : Finset String := ∅
  debounce : Debounce := .done
  /-- The ids that `on_watch_event` returned. -/
  arrivals : List String := []
  /-- The batches, in their order. -/
  drains : List (List String) := []
  /-- The calls of `fetch_resource_by_id`, each with the number of its drain. -/
  fetches : List (Nat × String) := []
  deriving DecidableEq

namespace WatchQueue

/-- The end of `_watch_stream`'s loop body and `_schedule_debounced_reconcile`. -/
def onWatchEvent (q : WatchQueue) (resourceId : Option String) : WatchQueue :=
  match resourceId with
  | none => q
  | some id =>
      if id = "" then q
      else
        { q with
          pendingReconciles := insert id q.pendingReconciles
          arrivals := q.arrivals ++ [id]
          -- a task that drains already takes the id with its next batch
          debounce := if q.debounce = .done then .sleeping else q.debounce }

/-- `fetch_resource_by_id` is called. -/
def fetch (q : WatchQueue) (id : String) (rest : List String) : WatchQueue :=
  { q with debounce := .fetching id rest, fetches := q.fetches ++ [(q.drains.length, id)] }

/-- The debounce task is over. -/
def finish (q : WatchQueue) : WatchQueue := { q with debounce := .done }

/-- The pending set becomes a batch. -/
def takeBatch (q : WatchQueue) (batch : List String) : WatchQueue :=
  { q with pendingReconciles := ∅, drains := q.drains ++ [batch] }

/-- The head of the drain loop; the ids of a set come in any order. -/
def drain (q : WatchQueue) (halted : Bool) (order : List String) : Option WatchQueue :=
  if q.pendingReconciles = ∅ ∨ halted = true then some q.finish
  else
    match order with
    | [] => none
    | id :: rest =>
        if (id :: rest).Nodup ∧ (id :: rest).toFinset = q.pendingReconciles then
          some ((q.takeBatch (id :: rest)).fetch id rest)
        else none

/-- The loop over the batch goes on: to the next id, to the next batch, or it ends.  A break
between two ids ends the outer loop too. -/
def proceed (q : WatchQueue) (halted : Bool) (rest order : List String) : Option WatchQueue :=
  match rest with
  | [] => q.drain halted order
  | id :: rest => if halted = true then some q.finish else some (q.fetch id rest)

/-- The fetched resource is there, `_reconcile_single` is called. -/
def reconcile (q : WatchQueue) (id : String) (rest : List String) : WatchQueue :=
  { q with debounce := .reconciling id rest }

end WatchQueue

/-! ## §3. The service. -/

/-- Who runs a cycle. -/
inductive Entry where
  | polling
  | startupSweep
  | reconcileNow
  deriving DecidableEq

/-- The service: its flags, its cycles and their tasks, its resource states and the watch queue. -/
structure World where
  isLeader : Bool := false
  stopping : Bool := false
  /-- The step-downs that have not cleared the leader flag yet. -/
  steppingDown : Nat := 0
  /-- The cycles in `list_resources`. -/
  listing : List Entry := []
  /-- The tasks that await a permit. -/
  waiting : List String := []
  /-- The tasks in `_reconcile_single`. -/
  running : List String := []
  permits : Nat
  resourceStates : Dict String ResourceState := Dict.empty
  queue : WatchQueue := {}
  deriving DecidableEq

/-- After `start_async`. -/
def init (config : Config) : World := { permits := config.maxConcurrentReconciles }

/-- One coroutine goes on, with what it was waiting for. -/
inductive Action where
  /-- `_become_leader` sets the flag. -/
  | becomeLeader
  /-- `_step_down` begins. -/
  | stepDown
  /-- `_step_down` clears the flag. -/
  | leadershipEnds
  /-- `stop_async` begins. -/
  | stop
  /-- A cycle calls `list_resources`. -/
  | cycleStarts (entry : Entry)
  /-- It answers; every id comes with the time its backoff is compared with. -/
  | cycleLists (entry : Entry) (resources : List (String × ℚ))
  /-- It raises, or the cycle is cancelled. -/
  | cycleFails (entry : Entry)
  /-- A task gets a permit. -/
  | taskRuns (id : String) (now : ℚ)
  /-- Its `reconcile` comes back. -/
  | taskReturns (id : String) (now : ℚ) (outcome : Outcome)
  /-- It is cancelled before it has a permit. -/
  | waitCancelled (id : String)
  /-- It is cancelled in `reconcile`. -/
  | reconcileCancelled (id : String)
  /-- `on_watch_event` returns. -/
  | watchEvent (resourceId : Option String)
  /-- The debounce task wakes up. -/
  | debounceWakes (order : List String)
  /-- `fetch_resource_by_id` returns the resource. -/
  | fetchFinds (now : ℚ)
  /-- It returns `None` or raises. -/
  | fetchMisses (order : List String)
  /-- The `reconcile` of the debounce task comes back. -/
  | watchReconcileReturns (now : ℚ) (outcome : Outcome) (order : List String)
  /-- `_step_down` cancels the debounce task. -/
  | debounceCancelled
  deriving DecidableEq

namespace World

/-- `self._stopping or not self._is_leader`. -/
def halted (w : World) : Bool := w.stopping || !w.isLeader

/-- May the cycle begin? -/
def mayCycle (config : Config) (w : World) : Entry → Bool
  | .polling => config.pollingEnabled && !w.halted
  | .startupSweep => config.startupReconcileEnabled && !w.halted
  | .reconcileNow => true

/-- `state and state.in_progress`. -/
def inProgress (w : World) (id : String) : Bool :=
  match w.resourceStates.get? id with
  | some state => state.inProgress
  | none => false

/-- `state and state.next_retry > time.time()`. -/
def inBackoff (w : World) (id : String) (now : ℚ) : Bool :=
  match w.resourceStates.get? id with
  | some state => now < state.nextRetry
  | none => false

/-- The tasks that `_reconcile_all` creates. -/
def reconcileAll (w : World) (resources : List (String × ℚ)) : World :=
  { w with
    waiting := w.waiting
      ++ (resources.filter fun r => !w.inProgress r.1 && !w.inBackoff r.1 r.2).map Prod.fst }

/-- `_reconcile_single`, to the call of `reconcile`. -/
def enter (w : World) (id : String) (now : ℚ) : World :=
  let state := (w.resourceStates.get? id).getD {}
  { w with
    resourceStates :=
      w.resourceStates.set id { state with inProgress := true, lastAttempt := now } }

/-- `_reconcile_single` from there on; the flag falls in the `finally`. -/
def leave (w : World) (id : String) (settled : ResourceState → ResourceState) : World :=
  match w.resourceStates.get? id with
  | none => w
  | some state =>
      { w with
        resourceStates := w.resourceStates.set id { settled state with inProgress := false } }

/-- The debounce task goes on with what is left of its batch. -/
def proceed (w : World) (order : List String) : Option World :=
  (w.queue.proceed w.halted w.queue.debounce.rest order).map fun q => { w with queue := q }

/-- The debounce task is cancelled; in `_reconcile_single` the flag falls. -/
def cancelDebounce (w : World) : World :=
  match w.queue.debounce with
  -- what is left of the batch is gone
  | .reconciling id _ => { w with queue := w.queue.finish }.leave id fun state => state
  | _ => { w with queue := w.queue.finish }

end World

/-- One action, if it is possible. -/
def step (config : Config) (w : World) : Action → Option World
  | .becomeLeader => if w.isLeader then none else some { w with isLeader := true }
  | .stepDown =>
      if w.isLeader then some { w with steppingDown := w.steppingDown + 1 } else none
  | .leadershipEnds =>
      if 0 < w.steppingDown then
        some { w with isLeader := false, steppingDown := w.steppingDown - 1 }
      else none
  | .stop => some { w with stopping := true }
  | .cycleStarts entry =>
      if w.mayCycle config entry then some { w with listing := entry :: w.listing } else none
  | .cycleLists entry resources =>
      if entry ∈ w.listing then
        some ({ w with listing := w.listing.erase entry }.reconcileAll resources)
      else none
  | .cycleFails entry =>
      if entry ∈ w.listing then some { w with listing := w.listing.erase entry } else none
  -- neither the flag nor the backoff is looked at again
  | .taskRuns id now =>
      if id ∈ w.waiting ∧ 0 < w.permits then
        some ({ w with
          waiting := w.waiting.erase id
          running := id :: w.running
          permits := w.permits - 1 }.enter id now)
      else none
  | .taskReturns id now outcome =>
      if id ∈ w.running then
        some ({ w with running := w.running.erase id, permits := w.permits + 1 }.leave id
          fun state => state.settle config now outcome)
      else none
  | .waitCancelled id =>
      if id ∈ w.waiting then some { w with waiting := w.waiting.erase id } else none
  | .reconcileCancelled id =>
      if id ∈ w.running then
        some ({ w with running := w.running.erase id, permits := w.permits + 1 }.leave id
          fun state => state)
      else none
  | .watchEvent resourceId => some { w with queue := w.queue.onWatchEvent resourceId }
  | .debounceWakes order =>
      match w.queue.debounce with
      | .sleeping => w.proceed order
      | _ => none
  -- no permit, no flag, no backoff
  | .fetchFinds now =>
      match w.queue.debounce with
      | .fetching id rest => some ({ w with queue := w.queue.reconcile id rest }.enter id now)
      | _ => none
  | .fetchMisses order =>
      match w.queue.debounce with
      | .fetching _ _ => w.proceed order
      | _ => none
  | .watchReconcileReturns now outcome order =>
      match w.queue.debounce with
      | .reconciling id _ =>
          (w.leave id fun state => state.settle config now outcome).proceed order
      | _ => none
  | .debounceCancelled => if 0 < w.steppingDown then some w.cancelDebounce else none

/-- One action; one that is not possible does not happen. -/
def play (config : Config) (w : World) (a : Action) : World := (step config w a).getD w

/-! ## §4. What the parts of a step do. -/

/-- What the debounce task does when it goes on with its batch. -/
inductive WatchQueue.Proceeds (q : WatchQueue) (halted : Bool) : List String → WatchQueue → Prop
  | halts {rest} (halt : halted = true) : Proceeds q halted rest q.finish
  | ends (nothing : q.pendingReconciles = ∅) : Proceeds q halted [] q.finish
  | fetches {id rest} (goesOn : halted = false) : Proceeds q halted (id :: rest) (q.fetch id rest)
  | drains {id rest} (goesOn : halted = false) (nodup : (id :: rest).Nodup)
      (all : (id :: rest).toFinset = q.pendingReconciles) :
      Proceeds q halted [] ((q.takeBatch (id :: rest)).fetch id rest)

theorem WatchQueue.proceeds {q q' : WatchQueue} {halted : Bool} {rest order : List String}
    (h : q.proceed halted rest order = some q') : q.Proceeds halted rest q' := by
  cases rest with
  | nil =>
      unfold proceed drain at h
      dsimp only at h
      -- the batch is done: the loop ends, or drains the next one
      split at h
      next hend =>
        obtain rfl := Option.some.inj h
        exact hend.elim .ends .halts
      next hgoes =>
        obtain ⟨-, hgoes⟩ := not_or.mp hgoes
        cases order with
        | nil => cases h
        | cons id rest =>
            dsimp only at h
            split at h
            next horder =>
              obtain rfl := Option.some.inj h
              exact .drains (Bool.eq_false_iff.mpr hgoes) horder.1 horder.2
            next => cases h
  | cons id rest =>
      unfold proceed at h
      dsimp only at h
      split at h
      next hhalted =>
        obtain rfl := Option.some.inj h
        exact .halts hhalted
      next hgoes =>
        obtain rfl := Option.some.inj h
        exact .fetches (Bool.eq_false_iff.mpr hgoes)

namespace World

@[simp] theorem enter_queue (w : World) (id : String) (now : ℚ) :
    (w.enter id now).queue = w.queue := rfl

@[simp] theorem enter_running (w : World) (id : String) (now : ℚ) :
    (w.enter id now).running = w.running := rfl

theorem leave_frame (w : World) (id : String) (settled : ResourceState → ResourceState) :
    (w.leave id settled).queue = w.queue ∧ (w.leave id settled).running = w.running
      ∧ (w.leave id settled).halted = w.halted := by
  unfold leave
  split <;> exact ⟨rfl, rfl, rfl⟩

/-- Entering a reconcile raises its flag. -/
theorem inProgress_enter (w : World) (id : String) (now : ℚ) (other : String) :
    (w.enter id now).inProgress other = if other = id then true else w.inProgress other := by
  unfold inProgress enter
  dsimp only
  rw [Dict.get?_set]
  by_cases h : other = id
  · rw [if_pos h, if_pos h]
  · rw [if_neg h, if_neg h]

/-- Leaving it lowers the flag. -/
theorem inProgress_leave (w : World) (id : String) (settled : ResourceState → ResourceState)
    (other : String) :
    (w.leave id settled).inProgress other = if other = id then false else w.inProgress other := by
  unfold leave
  split
  next hnone =>
    by_cases h : other = id
    · rw [if_pos h, h, inProgress, hnone]
    · rw [if_neg h]
  next state hstate =>
    unfold inProgress
    dsimp only
    rw [Dict.get?_set]
    by_cases h : other = id
    · rw [if_pos h, if_pos h]
    · rw [if_neg h, if_neg h]

/-- Going on with the batch is a matter of the queue. -/
theorem proceed_eq_some {w w' : World} {order : List String} (h : w.proceed order = some w') :
    ∃ q, w.queue.proceed w.halted w.queue.debounce.rest order = some q
      ∧ w' = { w with queue := q } := by
  obtain ⟨q, hq, rfl⟩ := Option.map_eq_some_iff.mp h
  exact ⟨q, hq, rfl⟩

end World

end CmlCloudManager.Core.WatchTriggered
