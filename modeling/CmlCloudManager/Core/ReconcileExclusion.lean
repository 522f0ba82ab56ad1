/-
  CmlCloudManager.Core.ReconcileExclusion
  ───────────────────────────────────────
  **ONE RECONCILE OF A RESOURCE AT A TIME.**

  `_reconcile_all` skips a resource that is in progress, but it looks at the flag when
  it creates the task, while `_reconcile_single` raises it when the task has its
  permit; and `_debounced_reconcile` goes to `_reconcile_single` without looking at
  all.  A reconcile that begins while another one of the resource is in flight also
  takes the flag down when the first of the two ends.

  As long as no reconcile begins under a raised flag, the flag is up exactly while
  one is in flight (`flagged`), and then at most one is: the runs with no two
  reconciles of one resource at a time are those in which every reconcile that
  begins finds the flag down.
-/
import CmlCloudManager.Core.WatchTriggered
import CmlCloudManager.Foundation.Replay

namespace CmlCloudManager.Core.WatchTriggered

open CmlCloudManager.Foundation

/-! ## §1. Reconciles in flight. -/

/-- The debounce task is in `_reconcile_single` of the id. -/
def Debounce.reconciles : Debounce → String → Bool
  | .reconciling id _, other => id = other
  | _, _ => false

namespace World

/-- The calls of `reconcile` for the id that have not come back. -/
def inFlight (w : World) (id : String) : Nat :=
  w.running.count id + (w.queue.debounce.reconciles id).toNat

/-- At most one call of `reconcile` is in flight for each id. -/
def Exclusive (w : World) : Prop := ∀ id, w.inFlight id ≤ 1

/-- The resource whose reconcile the action begins. -/
def begins (w : World) : Action → Option String
  | .taskRuns id _ => if id ∈ w.waiting ∧ 0 < w.permits then some id else none
  | .fetchFinds _ =>
      match w.queue.debounce with
      | .fetching id _ => some id
      | _ => none
  | _ => none

/-- **When an action is safe**: the reconcile that it begins, if any, finds the flag down. -/
def FlagDown (w : World) (a : Action) : Prop :=
  ∀ id, w.begins a = some id → w.inProgress id = false

instance (w : World) (a : Action) : Decidable (w.FlagDown a) :=
  match h : w.begins a with
  | none => .isTrue fun id hid => by rw [h] at hid; cases hid
  | some id =>
      decidable_of_iff (w.inProgress id = false)
        ⟨fun hdown other hother => by
            rw [h] at hother
            obtain rfl := Option.some.inj hother
            exact hdown,
          fun hsafe => hsafe id h⟩

/-- The flag is up exactly while a reconcile is in flight. -/
def Flagged (w : World) : Prop := ∀ id, w.inProgress id = true ↔ 0 < w.inFlight id

/-! ## §2. What one action does. -/

/-- Nothing changes for the other resources. -/
def SameBut (w w' : World) (id : String) : Prop :=
  ∀ other, other ≠ id → w'.inFlight other = w.inFlight other
    ∧ w'.inProgress other = w.inProgress other

/-- An action begins a reconcile, ends one, or does neither. -/
inductive Effect (w w' : World) : Option String → Prop
  | keeps (same : ∀ id, w'.inFlight id = w.inFlight id ∧ w'.inProgress id = w.inProgress id) :
      Effect w w' none
  | begins {id} (more : w'.inFlight id = w.inFlight id + 1) (up : w'.inProgress id = true)
      (others : w.SameBut w' id) : Effect w w' (some id)
  | ends {id} (fewer : w.inFlight id = w'.inFlight id + 1) (down : w'.inProgress id = false)
      (others : w.SameBut w' id) : Effect w w' none

theorem Effect.refl (w : World) : Effect w w none := .keeps fun _ => ⟨rfl, rfl⟩

variable {w w' : World}

/-- What touches neither tasks in `_reconcile_single` nor flags nor the debounce task. -/
theorem Effect.of_eq (hrunning : w'.running = w.running) (hqueue : w'.queue = w.queue)
    (hstates : w'.resourceStates = w.resourceStates) : Effect w w' none := by
  refine .keeps fun id => ?_
  unfold inFlight inProgress
  rw [hrunning, hqueue, hstates]
  exact ⟨rfl, rfl⟩

/-- What only moves the debounce task, from and to where it reconciles nothing. -/
theorem Effect.of_queue {q : WatchQueue} (hbefore : ∀ id, w.queue.debounce.reconciles id = false)
    (hafter : ∀ id, q.debounce.reconciles id = false) : Effect w { w with queue := q } none := by
  refine .keeps fun id => ⟨?_, rfl⟩
  unfold inFlight
  dsimp only
  rw [hbefore, hafter]

/-- The debounce task is never in `_reconcile_single` when it goes on with its batch. -/
theorem proceed_reconciles {q q' : WatchQueue} {halted : Bool} {rest order : List String}
    (h : q.proceed halted rest order = some q') (id : String) :
    q'.debounce.reconciles id = false := by
  cases WatchQueue.proceeds h <;> rfl

theorem Effect.proceed {order : List String} (h : w.proceed order = some w')
    (hbefore : ∀ id, w.queue.debounce.reconciles id = false) : Effect w w' none := by
  obtain ⟨q, hq, rfl⟩ := proceed_eq_some h
  exact .of_queue hbefore (proceed_reconciles hq)

/-- A task of a cycle enters `_reconcile_single`. -/
theorem Effect.task_enters (id : String) (now : ℚ) (waiting : List String) (permits : Nat) :
    Effect w ({ w with waiting := waiting, running := id :: w.running, permits := permits }.enter
      id now) (some id) := by
  refine .begins ?_ ?_ fun other hother => ⟨?_, ?_⟩
  · unfold inFlight
    rw [enter_running, enter_queue, List.count_cons_self]
    exact Nat.add_right_comm _ 1 _
  · rw [inProgress_enter, if_pos rfl]
  · unfold inFlight
    rw [enter_running, enter_queue, List.count_cons_of_ne hother.symm]
  · rw [inProgress_enter, if_neg hother]
    rfl

/-- A task of a cycle leaves it. -/
theorem Effect.task_leaves {id : String} (hmem : id ∈ w.running) (permits : Nat)
    (settled : ResourceState → ResourceState) :
    Effect w ({ w with running := w.running.erase id, permits := permits }.leave id settled)
      none := by
  obtain ⟨hqueue, hrunning, -⟩ :=
    { w with running := w.running.erase id, permits := permits }.leave_frame id settled
  refine @Effect.ends _ _ id ?_ ?_ fun other hother => ⟨?_, ?_⟩
  · unfold inFlight
    rw [hqueue, hrunning]
    dsimp only
    have hpos : 0 < w.running.count id := List.count_pos_iff.mpr hmem
    rw [List.count_erase_self]
    omega
  · rw [inProgress_leave, if_pos rfl]
  · unfold inFlight
    rw [hqueue, hrunning]
    dsimp only
    rw [List.count_erase_of_ne hother]
  · rw [inProgress_leave, if_neg hother]
    rfl

/-- The debounce task enters `_reconcile_single`. -/
theorem Effect.debounce_enters {id : String} {rest : List String}
    (hfetching : w.queue.debounce = .fetching id rest) (now : ℚ) :
    Effect w ({ w with queue := w.queue.reconcile id rest }.enter id now) (some id) := by
  refine .begins ?_ ?_ fun other hother => ⟨?_, ?_⟩
  · unfold inFlight
    rw [enter_running, enter_queue, hfetching]
    simp [WatchQueue.reconcile, Debounce.reconciles]
  · rw [inProgress_enter, if_pos rfl]
  · unfold inFlight
    rw [enter_running, enter_queue, hfetching]
    simp [WatchQueue.reconcile, Debounce.reconciles, hother.symm]
  · rw [inProgress_enter, if_neg hother]
    rfl

/-- The debounce task leaves it, to where it reconciles nothing. -/
theorem Effect.debounce_leaves {id : String} {rest : List String}
    (hreconciling : w.queue.debounce = .reconciling id rest)
    (settled : ResourceState → ResourceState) {w₁ : World}
    (hleft : w₁ = { w.leave id settled with queue := w₁.queue })
    (hafter : ∀ other, w₁.queue.debounce.reconciles other = false) : Effect w w₁ none := by
  have hrunning : w₁.running = w.running := by
    rw [hleft]
    exact (w.leave_frame id settled).2.1
  have hflag : ∀ other, w₁.inProgress other = (w.leave id settled).inProgress other := by
    intro other
    rw [hleft]
    rfl
  refine @Effect.ends _ _ id ?_ ?_ fun other hother => ⟨?_, ?_⟩
  · unfold inFlight
    rw [hrunning, hafter, hreconciling]
    simp [Debounce.reconciles]
  · rw [hflag, inProgress_leave, if_pos rfl]
  · unfold inFlight
    rw [hrunning, hafter, hreconciling]
    simp [Debounce.reconciles, hother.symm]
  · rw [hflag, inProgress_leave, if_neg hother]

theorem Effect.watchEvent (resourceId : Option String) :
    Effect w { w with queue := w.queue.onWatchEvent resourceId } none := by
  refine .keeps fun id => ⟨?_, rfl⟩
  unfold inFlight WatchQueue.onWatchEvent
  cases resourceId with
  | none => rfl
  | some resourceId =>
      dsimp only
      split
      next => rfl
      next =>
        dsimp only
        split
        next hdone =>
          -- a task that has just been created is asleep
          rw [hdone]
          rfl
        next => rfl

theorem Effect.cancelDebounce (w : World) : Effect w w.cancelDebounce none := by
  unfold World.cancelDebounce
  split
  next id rest hreconciling =>
    have hqueue := ({ w with queue := w.queue.finish }.leave_frame id fun state => state).1
    refine Effect.debounce_leaves hreconciling (fun state => state) ?_ fun other => ?_
    · unfold leave
      dsimp only
      split <;> rfl
    · rw [hqueue]
      rfl
  next hother =>
    refine .of_queue (fun id => ?_) fun id => rfl
    cases hdebounce : w.queue.debounce with
    | reconciling id rest => exact absurd hdebounce (hother id rest)
    | done | sleeping | fetching _ _ => rfl

variable {config : Config} {a : Action}

/-- **The step lemma.** -/
theorem step_effect (h : step config w a = some w') : Effect w w' (w.begins a) := by
  cases a with
  | becomeLeader =>
      obtain ⟨-, ⟨⟩⟩ := Option.ite_none_left_eq_some.mp h
      exact .of_eq rfl rfl rfl
  | stepDown | leadershipEnds | cycleStarts _ | cycleLists _ _ | cycleFails _ | waitCancelled _ =>
      obtain ⟨-, ⟨⟩⟩ := Option.ite_none_right_eq_some.mp h
      exact .of_eq rfl rfl rfl
  | stop =>
      obtain rfl := Option.some.inj h
      exact .of_eq rfl rfl rfl
  | taskRuns id now =>
      obtain ⟨hruns, ⟨⟩⟩ := Option.ite_none_right_eq_some.mp h
      -- the two places where a reconcile begins are a task and a debounced fetch
      have hbegins : w.begins (.taskRuns id now) = some id := if_pos hruns
      rw [hbegins]
      exact .task_enters id now _ _
  | taskReturns id _ _ | reconcileCancelled id =>
      obtain ⟨hmem, ⟨⟩⟩ := Option.ite_none_right_eq_some.mp h
      exact .task_leaves hmem _ _
  | watchEvent resourceId =>
      obtain rfl := Option.some.inj h
      exact .watchEvent resourceId
  | debounceWakes order =>
      unfold step at h
      dsimp only at h
      split at h
      next hsleeping => exact .proceed h fun id => by rw [hsleeping]; rfl
      next => cases h
  | fetchFinds now =>
      unfold step at h
      dsimp only at h
      split at h
      next id rest hfetching =>
        obtain rfl := Option.some.inj h
        have hbegins : w.begins (.fetchFinds now) = some id := by
          unfold begins
          rw [hfetching]
        rw [hbegins]
        exact .debounce_enters hfetching now
      next => cases h
  | fetchMisses order =>
      unfold step at h
      dsimp only at h
      split at h
      next hfetching => exact .proceed h fun id => by rw [hfetching]; rfl
      next => cases h
  | watchReconcileReturns now outcome order =>
      unfold step at h
      dsimp only at h
      split at h
      next id rest hreconciling =>
        obtain ⟨q, hq, rfl⟩ := proceed_eq_some h
        exact .debounce_leaves hreconciling _ rfl (proceed_reconciles hq)
      next => cases h
  | debounceCancelled =>
      obtain ⟨-, ⟨⟩⟩ := Option.ite_none_right_eq_some.mp h
      exact .cancelDebounce w

/-- What is not possible begins nothing. -/
theorem begins_of_impossible (h : step config w a = none) : w.begins a = none := by
  cases a with
  | taskRuns id now =>
      refine if_neg fun hruns => ?_
      have hpossible := (if_pos hruns).symm.trans h
      cases hpossible
  | fetchFinds now =>
      unfold begins
      dsimp only
      split
      next id rest hfetching =>
        unfold step at h
        rw [hfetching] at h
        cases h
      next => rfl
  | _ => rfl

theorem play_effect (config : Config) (w : World) (a : Action) :
    Effect w (play config w a) (w.begins a) := by
  unfold play
  cases h : step config w a with
  | none =>
      rw [begins_of_impossible h]
      exact .refl w
  | some w' => exact step_effect h

/-! ## §3. Any interleaving. -/

/-- An action that is safe keeps the reconciles apart and the flags true. -/
theorem Effect.keeps_apart {begun : Option String} (heffect : Effect w w' begun)
    (hexclusive : w.Exclusive) (hflagged : w.Flagged)
    (hdown : ∀ id, begun = some id → w.inProgress id = false) : w'.Exclusive ∧ w'.Flagged := by
  cases heffect with
  | keeps same =>
      refine ⟨fun id => ?_, fun id => ?_⟩
      · rw [(same id).1]
        exact hexclusive id
      · rw [(same id).1, (same id).2]
        exact hflagged id
  | begins more up others =>
      next id =>
      -- no reconcile of the resource is in flight, since the flag is down
      have hnone : w.inFlight id = 0 := by
        refine Nat.eq_zero_of_not_pos fun hpos => ?_
        have hflag := (hflagged id).mpr hpos
        rw [hdown id rfl] at hflag
        cases hflag
      refine ⟨fun other => ?_, fun other => ?_⟩
      all_goals by_cases hother : other = id
      · rw [hother, more, hnone]
      · rw [(others other hother).1]
        exact hexclusive other
      · rw [hother, more, up]
        exact iff_of_true rfl (Nat.succ_pos _)
      · rw [(others other hother).1, (others other hother).2]
        exact hflagged other
  | ends fewer down others =>
      next id =>
      -- the one that ends was the only one, so the flag that falls was its own
      have hnone : w'.inFlight id = 0 := by
        have hone := hexclusive id
        omega
      refine ⟨fun other => ?_, fun other => ?_⟩
      all_goals by_cases hother : other = id
      · rw [hother, hnone]
        exact Nat.zero_le 1
      · rw [(others other hother).1]
        exact hexclusive other
      · rw [hother, hnone, down]
        exact iff_of_false Bool.false_ne_true (Nat.lt_irrefl 0)
      · rw [(others other hother).1, (others other hother).2]
        exact hflagged other

/-- An action that is not safe begins a second reconcile. -/
theorem Effect.breaks {begun : Option String} (heffect : Effect w w' begun)
    (hflagged : w.Flagged) (hup : ¬ ∀ id, begun = some id → w.inProgress id = false) :
    ¬ w'.Exclusive := by
  cases heffect with
  | keeps same => exact absurd (fun id h => by cases h) hup
  | ends fewer down others => exact absurd (fun id h => by cases h) hup
  | begins more up others =>
      next id =>
      intro hexclusive
      refine hup fun other hother => ?_
      obtain rfl := Option.some.inj hother
      have hfirst : ¬ 0 < w.inFlight id := by
        have htwo := hexclusive id
        omega
      exact Bool.eq_false_iff.mpr fun hflag => hfirst ((hflagged id).mp hflag)

/-- **No two reconciles of one resource**, in whatever order the coroutines go on, iff every
reconcile that begins finds the flag of its resource down. -/
theorem reconcile_exclusive_iff (config : Config) (acts : List Action) :
    (∀ before, before <+: acts → (replay (play config) (init config) before).Exclusive)
      ↔ Meets (play config) FlagDown (init config) acts := by
  refine @always_iff_meets_of_breaks World Action (play config) FlagDown
    (fun w => w.Exclusive ∧ w.Flagged) Exclusive (fun w h => h.1) ?_ ?_ acts (init config) ?_
  · exact fun w a h hdown => (play_effect config w a).keeps_apart h.1 h.2 hdown
  · exact fun w a h hup => (play_effect config w a).breaks h.2 hup
  · exact ⟨fun id => Nat.zero_le 1, fun id => iff_of_false Bool.false_ne_true (Nat.lt_irrefl 0)⟩

/-- Two cycles list the session before the task of the first one has run. -/
example :
    (replay (play {}) (init {})
      [.becomeLeader, .cycleStarts .polling, .cycleStarts .reconcileNow,
        .cycleLists .polling [("session-1", 100)], .cycleLists .reconcileNow [("session-1", 100)],
        .taskRuns "session-1" 100, .taskRuns "session-1" 100]).inFlight "session-1" = 2 := by
  decide +kernel

/-- A watch event arrives while a cycle reconciles the session. -/
theorem watch_event_reconciles_again :
    ¬ ∀ (config : Config) (acts : List Action),
        (replay (play config) (init config) acts).Exclusive := by
  intro h
  have hone := h {}
    [.becomeLeader, .cycleStarts .polling, .cycleLists .polling [("session-1", 100)],
      .taskRuns "session-1" 100, .watchEvent (some "session-1"), .debounceWakes ["session-1"],
      .fetchFinds 101] "session-1"
  revert hone
  decide +kernel

end World

end CmlCloudManager.Core.WatchTriggered
