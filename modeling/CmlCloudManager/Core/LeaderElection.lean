/-
  CmlCloudManager.Core.LeaderElection
  ───────────────────────────────────
  **LEADER ELECTION OVER ETCD.**

  Any number of instances of a `LeaderElectedHostedService` compete for one
  election key.  Each instance runs, in its own event loop,

    • the election loop (`_leader_election_loop` → `_try_become_leader`), whose
      `_become_leader` is extended by subclasses: the base part sets the flag and
      starts the renewal loop, then the extension runs and may raise,
    • every renewal loop it has started (`_lease_renewal_loop`),
    • step-downs, from a renewal loop or from `resign_leadership`; here the
      extension of the subclass runs BEFORE the base part and may raise.

  `EtcdClient` never suspends between a request and its answer, so nothing else of
  the same instance runs while an election attempt goes from `grant_lease` to the
  flag; leases expire and other instances move at any point.

    • `step`                — one action of one party,
    • `settled`             — what holds of every instance at every point,
    • `leadership_safe_iff` — when an instance that finishes a renewal or an
      election step with the flag set has the key.
-/
import CmlCloudManager.Foundation.LeasedKey
import CmlCloudManager.Foundation.Replay
import Mathlib.Logic.Function.Basic

namespace CmlCloudManager.Core

open CmlCloudManager.Foundation

variable {ι : Type}

/-! ## §1. Instances. -/

/-- Where the election loop of an instance is. -/
inductive ElectionPoint where
  /-- Asleep, or about to look at the flag. -/
  | waiting
  /-- The lease is granted. -/
  | granted
  /-- `put_if_not_exists` returned true. -/
  | acquired
  /-- `put_if_not_exists` returned false. -/
  | refused
  /-- The base `_become_leader` has set the flag; its extension runs. -/
  | extending
  deriving DecidableEq

/-- Where a `_step_down` is. -/
inductive StepDownPoint where
  /-- The extension of the subclass runs. -/
  | extending
  /-- The base part has cleared the flag and awaits the cancelled reconcile task. -/
  | cancelling
  deriving DecidableEq

/-- The other coroutines of an instance. -/
inductive Coroutine where
  /-- A renewal loop that is created and has not run yet. -/
  | scheduled
  /-- A renewal loop asleep for `renewal_interval_seconds`. -/
  | sleeping
  /-- A step-down, of a renewal loop or of `resign_leadership`. -/
  | steppingDown (renewal : Bool) (point : StepDownPoint)
  deriving DecidableEq

/-- The leader state of one `LeaderElectedHostedService`; `_lease` is the lease's number. -/
structure Instance (ι : Type) where
  isLeader : Bool := false
  currentLeaderId : Option ι := none
  lease : Option Nat := none
  election : ElectionPoint := .waiting
  coroutines : List Coroutine := []

namespace Instance

/-- The event loop is not inside an election attempt, other coroutines can run. -/
def idle (s : Instance ι) : Bool := s.election = .waiting || s.election = .extending

/-- Coroutine `k` goes on as `c`, or is over. -/
def resume (s : Instance ι) (k : Nat) : Option Coroutine → Instance ι
  | some c => { s with coroutines := s.coroutines.set k c }
  | none => { s with coroutines := s.coroutines.eraseIdx k }

/-- Is coroutine `k` the step-down of a renewal loop? -/
def renewalStepsDown (s : Instance ι) (k : Nat) : Bool :=
  match s.coroutines[k]? with
  | some (.steppingDown renewal _) => renewal
  | _ => false

@[simp] theorem resume_isLeader (s : Instance ι) (k : Nat) (c : Option Coroutine) :
    (s.resume k c).isLeader = s.isLeader := by cases c <;> rfl

@[simp] theorem resume_lease (s : Instance ι) (k : Nat) (c : Option Coroutine) :
    (s.resume k c).lease = s.lease := by cases c <;> rfl

@[simp] theorem resume_election (s : Instance ι) (k : Nat) (c : Option Coroutine) :
    (s.resume k c).election = s.election := by cases c <;> rfl

end Instance

/-- The election key in etcd, and the instances. -/
structure World (ι : Type) where
  etcd : LeasedKey ι
  inst : ι → Instance ι

/-- Nobody has started an attempt. -/
def World.init (ι : Type) : World ι := { etcd := .empty, inst := fun _ => {} }

/-! ## §2. The actions. -/

/-- How `put_if_not_exists` comes back: it returns false on every exception, also on
one raised after the transaction was committed. -/
inductive PutReply where
  | answered
  | answerLost
  | notSent
  deriving DecidableEq

inductive Action (ι : Type) where
  /-- A lease runs out at etcd. -/
  | leaseExpires (l : Nat)
  /-- The loop finds the flag unset and asks for a lease; `grant_lease` may raise. -/
  | tryBecomeLeader (i : ι) (granted revoked : Bool)
  | putIfNotExists (i : ι) (reply : PutReply)
  /-- `get` of the election key; none on errors. -/
  | getLeader (i : ι) (answered : Bool)
  /-- The base `_become_leader`. -/
  | becomeLeader (i : ι)
  | extensionReturns (i : ι)
  | extensionRaises (i : ι) (revoked : Bool)
  /-- A renewal loop is scheduled for the first time. -/
  | enterRenewalLoop (i : ι) (k : Nat)
  /-- The renewal loop wakes, and `refresh_lease` returns. -/
  | refreshLease (i : ι) (k : Nat)
  /-- The renewal loop wakes, and `refresh_lease` raises. -/
  | refreshRaises (i : ι) (k : Nat)
  | resignLeadership (i : ι)
  /-- The extension of `_step_down` is over; the base part clears the flag. -/
  | stepDown (i : ι) (k : Nat) (raised : Bool)
  /-- The base part revokes the lease. -/
  | releaseLease (i : ι) (k : Nat) (revoked : Bool)

/-- `revoke_lease`: errors are logged, the lease then stays. -/
def revokeLease (etcd : LeasedKey ι) (lease : Option Nat) (revoked : Bool) : LeasedKey ι :=
  match lease with
  | some l => if revoked then etcd.drop l else etcd
  | none => etcd

/-- The base `_become_leader`: the flag, and a renewal loop if there is a lease. -/
def becomeLeader (i : ι) (s : Instance ι) : Instance ι :=
  { s with
    isLeader := true
    currentLeaderId := some i
    election := .extending
    coroutines := if s.lease.isSome then s.coroutines ++ [.scheduled] else s.coroutines }

/-- The first part of the base `_step_down`: without the flag there is nothing more to do. -/
def clearLeader (s : Instance ι) (k : Nat) (renewal : Bool) : Instance ι :=
  { s.resume k (if s.isLeader then some (.steppingDown renewal .cancelling) else none) with
    isLeader := false }

/-- The instance that finishes an election attempt or an iteration of its renewal loop. -/
def finishes (w : World ι) : Action ι → Option ι
  | .tryBecomeLeader i false _ => some i
  | .getLeader i _ => some i
  | .extensionReturns i => some i
  | .extensionRaises i _ => some i
  | .refreshLease i _ => some i
  | .stepDown i k raised =>
      let s := w.inst i
      if s.renewalStepsDown k ∧ (raised ∨ s.isLeader = false) then some i else none
  | .releaseLease i k _ => if (w.inst i).renewalStepsDown k then some i else none
  | _ => none

/-! ## §3. What holds of every instance at every point. -/

/-- The election key is bound to the lease the instance holds, and the lease is alive. -/
def HoldsElectionKey (w : World ι) (i : ι) : Prop :=
  ∃ l, (w.inst i).lease = some l ∧ w.etcd.key = some (i, l) ∧ l ∈ w.etcd.live

/-- The lease the instance holds is alive. -/
def LeaseAlive (w : World ι) (i : ι) : Prop :=
  ∃ l, (w.inst i).lease = some l ∧ l ∈ w.etcd.live

/-- The instance has asked for the key in this attempt and has not decided on the flag. -/
def Campaigning (s : Instance ι) : Prop :=
  s.election = .granted ∨ s.election = .acquired ∨ s.election = .refused

/-- An instance and the key: during an attempt the flag is unset and there is a lease,
and a leader's lease, IF it is alive, has the key. -/
structure Settled (etcd : LeasedKey ι) (i : ι) (s : Instance ι) : Prop where
  granted : ∀ l, s.lease = some l → l < etcd.next
  campaign : Campaigning s → s.isLeader = false ∧ s.lease.isSome
  held : s.isLeader = true ∨ s.election = .acquired →
    ∀ l, s.lease = some l → etcd.Held i l

/-- Every instance is settled. -/
def AllSettled (w : World ι) : Prop := ∀ i, Settled w.etcd i (w.inst i)

theorem allSettled_init : AllSettled (World.init ι) := by
  intro i
  constructor
  · intro l hl
    cases hl
  · intro hc
    rcases hc with h | h | h <;> cases h
  · intro _ l hl
    cases hl

/-- What happens at etcd unsettles no instance. -/
theorem Settled.evolves {etcd etcd' : LeasedKey ι} {i : ι} {s : Instance ι}
    (h : Settled etcd i s) (he : etcd.Evolves etcd') : Settled etcd' i s where
  granted := fun l hl => Nat.lt_of_lt_of_le (h.granted l hl) he.next_le
  campaign := h.campaign
  held := fun hlead l hl => he.held i l (h.granted l hl) (h.held hlead l hl)

theorem evolves_revokeLease (etcd : LeasedKey ι) (lease : Option Nat) (revoked : Bool) :
    etcd.Evolves (revokeLease etcd lease revoked) := by
  unfold revokeLease
  split
  · split
    · exact etcd.evolves_drop _
    · exact .refl _
  · exact .refl _

/-- Losing the lease settles an instance that is not in an attempt. -/
theorem settled_without_lease {etcd : LeasedKey ι} {i : ι} {s : Instance ι}
    (hl : s.lease = none) (hc : ¬ Campaigning s) : Settled etcd i s where
  granted := by
    intro l h
    rw [hl] at h
    cases h
  campaign := fun h => absurd h hc
  held := by
    intro _ l h
    rw [hl] at h
    cases h

/-- An instance whose event loop is idle is not in an attempt. -/
theorem not_campaigning_of_idle {s : Instance ι} (h : s.idle = true) : ¬ Campaigning s := by
  unfold Instance.idle at h
  rintro (hp | hp | hp) <;> rw [hp] at h <;> cases h

/-- An idle instance stays settled when it keeps its lease and does not set the flag. -/
theorem Settled.keep {etcd : LeasedKey ι} {i : ι} {s s' : Instance ι} (h : Settled etcd i s)
    (hidle : s'.idle = true) (hlease : s'.lease = s.lease)
    (hlead : s'.isLeader = true → s.isLeader = true) : Settled etcd i s' where
  granted := fun l hl => h.granted l (hlease ▸ hl)
  campaign := fun hc => absurd hc (not_campaigning_of_idle hidle)
  held := by
    intro hor l hl
    rcases hor with hlead' | hacq
    · exact h.held (.inl (hlead hlead')) l (hlease ▸ hl)
    · exact absurd (.inr (.inl hacq)) (not_campaigning_of_idle hidle)

/-- A settled leader has the key exactly as long as its lease is alive. -/
theorem AllSettled.holds_iff {w : World ι} (h : AllSettled w) {i : ι}
    (hlead : (w.inst i).isLeader = true) : HoldsElectionKey w i ↔ LeaseAlive w i := by
  constructor
  · rintro ⟨l, hl, -, halive⟩
    exact ⟨l, hl, halive⟩
  · rintro ⟨l, hl, halive⟩
    exact ⟨l, hl, (h i).held (.inl hlead) l hl halive, halive⟩

/-- The lease of an instance that loses it is not alive. -/
theorem not_leaseAlive {w : World ι} {i : ι} (h : (w.inst i).lease = none) :
    ¬ LeaseAlive w i := by
  rintro ⟨l, hl, -⟩
  rw [h] at hl
  cases hl

/-! ## §4. One action of one party. -/

variable [DecidableEq ι]

/-- One instance moves, and with it etcd. -/
def World.move (w : World ι) (i : ι) (etcd : LeasedKey ι) (s : Instance ι) : World ι :=
  { etcd := etcd, inst := Function.update w.inst i s }

@[simp] theorem World.move_etcd (w : World ι) (i : ι) (etcd : LeasedKey ι) (s : Instance ι) :
    (w.move i etcd s).etcd = etcd := rfl

@[simp] theorem World.move_self (w : World ι) (i : ι) (etcd : LeasedKey ι) (s : Instance ι) :
    (w.move i etcd s).inst i = s := Function.update_self ..

theorem World.move_ne (w : World ι) {i j : ι} (etcd : LeasedKey ι) (s : Instance ι) (h : j ≠ i) :
    (w.move i etcd s).inst j = w.inst j := Function.update_of_ne h ..

/-- The `except` branch of `_try_become_leader`: the lease is given back, and nothing else. -/
def failAttempt (w : World ι) (i : ι) (revoked : Bool) : World ι :=
  let s := w.inst i
  w.move i (revokeLease w.etcd s.lease revoked) { s with lease := none, election := .waiting }

/-- `put_if_not_exists(election_key, instance_id, lease)`. -/
def putElectionKey (w : World ι) (i : ι) (l : Nat) (reply : PutReply) : World ι :=
  let s := w.inst i
  match reply with
  | .notSent => w.move i w.etcd { s with election := .refused }
  | .answerLost => w.move i (w.etcd.putIfNotExists i l) { s with election := .refused }
  | .answered =>
      w.move i (w.etcd.putIfNotExists i l)
        { s with election := if w.etcd.Creatable l then .acquired else .refused }

/-- One action, where it is possible. -/
def step (w : World ι) : Action ι → Option (World ι)
  | .leaseExpires l =>
      if l ∈ w.etcd.live then some { w with etcd := w.etcd.drop l } else none
  | .tryBecomeLeader i granted revoked =>
      let s := w.inst i
      if s.election = .waiting ∧ s.isLeader = false then
        if granted then
          some (w.move i w.etcd.grant { s with lease := some w.etcd.next, election := .granted })
        else some (failAttempt w i revoked)
      else none
  | .putIfNotExists i reply =>
      match (w.inst i).election, (w.inst i).lease with
      | .granted, some l => some (putElectionKey w i l reply)
      | _, _ => none
  | .getLeader i answered =>
      let s := w.inst i
      if s.election = .refused then
        let leader := if answered then w.etcd.key.map Prod.fst else none
        some (w.move i w.etcd { s with currentLeaderId := leader, election := .waiting })
      else none
  | .becomeLeader i =>
      let s := w.inst i
      if s.election = .acquired then some (w.move i w.etcd (becomeLeader i s)) else none
  | .extensionReturns i =>
      let s := w.inst i
      if s.election = .extending then some (w.move i w.etcd { s with election := .waiting })
      else none
  | .extensionRaises i revoked =>
      if (w.inst i).election = .extending then some (failAttempt w i revoked) else none
  | .enterRenewalLoop i k =>
      let s := w.inst i
      if s.idle ∧ s.coroutines[k]? = some .scheduled then
        some (w.move i w.etcd (s.resume k (if s.isLeader then some .sleeping else none)))
      else none
  | .refreshLease i k =>
      let s := w.inst i
      if s.idle ∧ s.coroutines[k]? = some .sleeping then
        -- the time to live in the answer (zero for an expired lease) is not looked at
        some (w.move i w.etcd (s.resume k (if s.isLeader then some .sleeping else none)))
      else none
  | .refreshRaises i k =>
      let s := w.inst i
      if s.idle ∧ s.coroutines[k]? = some .sleeping ∧ s.lease.isSome then
        some (w.move i w.etcd (s.resume k (some (.steppingDown true .extending))))
      else none
  | .resignLeadership i =>
      let s := w.inst i
      if s.idle ∧ s.isLeader then
        some (w.move i w.etcd
          { s with coroutines := s.coroutines ++ [.steppingDown false .extending] })
      else none
  | .stepDown i k raised =>
      let s := w.inst i
      if s.idle then
        match s.coroutines[k]? with
        | some (.steppingDown renewal .extending) =>
            some (w.move i w.etcd
              (if raised then s.resume k none else clearLeader s k renewal))
        | _ => none
      else none
  | .releaseLease i k revoked =>
      let s := w.inst i
      if s.idle then
        match s.coroutines[k]? with
        | some (.steppingDown _ .cancelling) =>
            some (w.move i (revokeLease w.etcd s.lease revoked)
              { s.resume k none with lease := none })
        | _ => none
      else none

/-- The actions of a run one after another; one that is impossible where it stands does nothing. -/
def play (w : World ι) (a : Action ι) : World ι := (step w a).getD w

/-- An action that is possible where its condition holds. -/
theorem step_of_guard {α : Type} {w u : α} {c : Prop} [Decidable c]
    (h : (if c then some w else none) = some u) : c ∧ u = w := by
  rw [Option.ite_none_right_eq_some] at h
  exact ⟨h.1, (Option.some.inj h.2).symm⟩

/-- What the first part of a step-down does. -/
theorem step_stepDown {w u : World ι} {i : ι} {k : Nat} {raised : Bool}
    (hs : step w (.stepDown i k raised) = some u) :
    ∃ renewal, (w.inst i).idle = true ∧
      (w.inst i).coroutines[k]? = some (.steppingDown renewal .extending) ∧
      u = w.move i w.etcd
        (if raised then (w.inst i).resume k none else clearLeader (w.inst i) k renewal) := by
  simp only [step, Option.ite_none_right_eq_some] at hs
  obtain ⟨hidle, hs⟩ := hs
  split at hs
  next renewal hk => exact ⟨renewal, hidle, hk, (Option.some.inj hs).symm⟩
  next => cases hs

/-- What its last part does. -/
theorem step_releaseLease {w u : World ι} {i : ι} {k : Nat} {revoked : Bool}
    (hs : step w (.releaseLease i k revoked) = some u) :
    (w.inst i).idle = true ∧
      u = w.move i (revokeLease w.etcd (w.inst i).lease revoked)
        { (w.inst i).resume k none with lease := none } := by
  simp only [step, Option.ite_none_right_eq_some] at hs
  obtain ⟨hidle, hs⟩ := hs
  split at hs
  next => exact ⟨hidle, (Option.some.inj hs).symm⟩
  next => cases hs

/-! ## §5. Every action keeps the instances settled. -/

/-- **The frame rule**: to settle all instances it is enough to settle the one that moves. -/
theorem AllSettled.move {w : World ι} (h : AllSettled w) {i : ι} {etcd : LeasedKey ι}
    {s : Instance ι} (he : w.etcd.Evolves etcd) (hs : Settled etcd i s) :
    AllSettled (w.move i etcd s) := by
  intro j
  by_cases hj : j = i
  · subst hj
    rw [World.move_self]
    exact hs
  · rw [World.move_ne w etcd s hj]
    exact (h j).evolves he

theorem AllSettled.failAttempt {w : World ι} (h : AllSettled w) (i : ι) (revoked : Bool) :
    AllSettled (failAttempt w i revoked) := by
  refine h.move (evolves_revokeLease ..) (settled_without_lease rfl ?_)
  exact not_campaigning_of_idle rfl

theorem AllSettled.putElectionKey {w : World ι} (h : AllSettled w) {i : ι} {l : Nat}
    (hpoint : (w.inst i).election = .granted) (hl : (w.inst i).lease = some l)
    (reply : PutReply) : AllSettled (putElectionKey w i l reply) := by
  have hi := h i
  have hput := w.etcd.evolves_putIfNotExists i l
  have hflag := hi.campaign (.inl hpoint)
  -- refused: the flag stays unset, so there is nothing to hold
  have hrefused : ∀ etcd, w.etcd.Evolves etcd →
      Settled etcd i { w.inst i with election := .refused } := by
    intro etcd he
    refine ⟨(hi.evolves he).granted, fun _ => hflag, ?_⟩
    rintro (hlead | hacq)
    · rw [hflag.1] at hlead
      cases hlead
    · cases hacq
  cases reply with
  | notSent => exact h.move (.refl _) (hrefused _ (.refl _))
  | answerLost => exact h.move hput (hrefused _ hput)
  | answered =>
      refine h.move hput ?_
      split
      next hfree =>
        refine ⟨(hi.evolves hput).granted, fun _ => hflag, ?_⟩
        -- the transaction created the key under this lease
        intro _ l' hl'
        rw [hl] at hl'
        obtain rfl := Option.some.inj hl'
        exact LeasedKey.putIfNotExists_held hfree
      next => exact hrefused _ hput

theorem AllSettled.becomeLeader {w : World ι} (h : AllSettled w) {i : ι}
    (hpoint : (w.inst i).election = .acquired) :
    AllSettled (w.move i w.etcd (becomeLeader i (w.inst i))) := by
  refine h.move (.refl _) ⟨(h i).granted, ?_, ?_⟩
  · intro hc
    exact absurd hc (not_campaigning_of_idle rfl)
  · intro _ l hl
    exact (h i).held (.inr hpoint) l hl

/-- **One action** keeps all instances settled. -/
theorem step_settled {w u : World ι} {a : Action ι} (h : AllSettled w) (hs : step w a = some u) :
    AllSettled u := by
  cases a with
  | leaseExpires l =>
      obtain ⟨-, rfl⟩ := step_of_guard hs
      exact fun i => (h i).evolves (w.etcd.evolves_drop l)
  | tryBecomeLeader i granted revoked =>
      simp only [step, Option.ite_none_right_eq_some] at hs
      obtain ⟨⟨-, hflag⟩, hs⟩ := hs
      cases granted with
      | false =>
          obtain rfl := Option.some.inj hs
          exact h.failAttempt i revoked
      | true =>
          obtain rfl := Option.some.inj hs
          -- the granted lease is the newest one
          refine h.move (w.etcd.evolves_grant) ⟨?_, ?_, ?_⟩
          · intro l hl
            obtain rfl := Option.some.inj hl
            exact Nat.lt_succ_self _
          · exact fun _ => ⟨hflag, rfl⟩
          · rintro (hlead | hacq)
            · exact absurd hlead (by simp [hflag])
            · cases hacq
  | putIfNotExists i reply =>
      simp only [step] at hs
      split at hs
      next l hpoint hl =>
        obtain rfl := Option.some.inj hs
        exact h.putElectionKey hpoint hl reply
      next => cases hs
  | getLeader i answered =>
      obtain ⟨hpoint, rfl⟩ := step_of_guard hs
      exact h.move (.refl _) ((h i).keep rfl rfl id)
  | becomeLeader i =>
      obtain ⟨hpoint, rfl⟩ := step_of_guard hs
      exact h.becomeLeader hpoint
  | extensionReturns i =>
      obtain ⟨-, rfl⟩ := step_of_guard hs
      exact h.move (.refl _) ((h i).keep rfl rfl id)
  | extensionRaises i revoked =>
      obtain ⟨-, rfl⟩ := step_of_guard hs
      exact h.failAttempt i revoked
  | enterRenewalLoop i k | refreshLease i k | refreshRaises i k =>
      obtain ⟨⟨hidle, -⟩, rfl⟩ := step_of_guard hs
      refine h.move (.refl _) ((h i).keep ?_ (by simp) (by simp))
      simpa [Instance.idle] using hidle
  | resignLeadership i =>
      obtain ⟨⟨hidle, -⟩, rfl⟩ := step_of_guard hs
      exact h.move (.refl _) ((h i).keep hidle rfl id)
  | stepDown i k raised =>
      obtain ⟨renewal, hidle, -, rfl⟩ := step_stepDown hs
      refine h.move (.refl _) ?_
      -- an extension that raises leaves the flag, the lease and the key as they are
      split
      · refine (h i).keep ?_ (by simp) (by simp)
        simpa [Instance.idle] using hidle
      · refine (h i).keep ?_ (by simp [clearLeader]) (by simp [clearLeader])
        simpa [Instance.idle, clearLeader] using hidle
  | releaseLease i k revoked =>
      obtain ⟨hidle, rfl⟩ := step_releaseLease hs
      refine h.move (evolves_revokeLease ..) (settled_without_lease rfl ?_)
      exact not_campaigning_of_idle (by simpa [Instance.idle] using hidle)

theorem play_settled (w : World ι) (a : Action ι) (h : AllSettled w) : AllSettled (play w a) := by
  unfold play
  cases hs : step w a with
  | none => exact h
  | some u => exact step_settled h hs

/-- **Every instance is settled after every run.** -/
theorem settled (acts : List (Action ι)) : AllSettled (replay play (World.init ι) acts) :=
  replay_invariant play_settled acts allSettled_init

/-- **At most one instance** has the flag and a live lease. -/
theorem leader_unique (acts : List (Action ι)) {i j : ι} :
    let w := replay play (World.init ι) acts
    (w.inst i).isLeader = true → LeaseAlive w i → (w.inst j).isLeader = true → LeaseAlive w j →
      i = j := by
  intro w hi hai hj haj
  obtain ⟨l, -, hkey, -⟩ := ((settled acts).holds_iff hi).mpr hai
  obtain ⟨l', -, hkey', -⟩ := ((settled acts).holds_iff hj).mpr haj
  rw [hkey] at hkey'
  exact (Prod.mk.inj (Option.some.inj hkey')).1

/-! ## §6. Finishing with the flag set. -/

/-- The instance that finishes a step by this action with the flag set holds the election key. -/
def LeaderHoldsKey (w : World ι) (a : Action ι) : Prop :=
  ∀ u, step w a = some u → ∀ i, finishes w a = some i →
    (u.inst i).isLeader = true → HoldsElectionKey u i

/-- The flag says what etcd says: a renewal finds the lease alive, an extension of
`_become_leader` returns while it is alive and does not raise, an extension of `_step_down`
raises at most while it is alive, and no step-down of a renewal loop ends in the middle of a
new leadership.  Only where the flag is set. -/
def FlagBacked (w : World ι) : Action ι → Prop
  | .extensionReturns i => (w.inst i).isLeader = true → LeaseAlive w i
  | .extensionRaises i _ => (w.inst i).isLeader = false
  | .refreshLease i _ => (w.inst i).isLeader = true → LeaseAlive w i
  | .stepDown i k raised =>
      (w.inst i).renewalStepsDown k = true → raised = true →
        (w.inst i).isLeader = true → LeaseAlive w i
  | .releaseLease i k _ =>
      (w.inst i).renewalStepsDown k = true → (w.inst i).isLeader = false
  | _ => True

/-- The condition, on the actions that are possible where they stand. -/
def FlagBackedIfPossible (w : World ι) (a : Action ι) : Prop :=
  (step w a).isSome = true → FlagBacked w a

/-- An impossible action promises nothing. -/
theorem flagBacked_of_impossible {w : World ι} {a : Action ι} (h : step w a = none) :
    LeaderHoldsKey w a ↔ FlagBackedIfPossible w a := by
  unfold LeaderHoldsKey FlagBackedIfPossible
  simp [h]

/-- A possible action that finishes nothing promises nothing. -/
theorem leaderHoldsKey_of_unfinished {w : World ι} {a : Action ι} (h : finishes w a = none) :
    LeaderHoldsKey w a := by
  intro u _ i hi
  rw [h] at hi
  cases hi

/-- What a possible action that finishes a step of `i` promises, and what that takes. -/
theorem leaderHoldsKey_iff {w u : World ι} {a : Action ι} {i : ι} (hw : AllSettled w)
    (hs : step w a = some u) (hf : finishes w a = some i) :
    LeaderHoldsKey w a ↔ ((u.inst i).isLeader = true → LeaseAlive u i) := by
  have hu := step_settled hw hs
  constructor
  · intro h hlead
    exact (hu.holds_iff hlead).mp (h u hs i hf hlead)
  · intro h u' hs' j hj hlead
    obtain rfl := Option.some.inj (hs.symm.trans hs')
    obtain rfl := Option.some.inj (hf.symm.trans hj)
    exact (hu.holds_iff hlead).mpr (h hlead)

/-- **One action**: an instance that finishes a step with the flag set holds the election key
exactly if the flag is backed. -/
theorem leaderHoldsKey_iff_flagBacked (w : World ι) (a : Action ι) (hw : AllSettled w) :
    LeaderHoldsKey w a ↔ FlagBackedIfPossible w a := by
  cases hs : step w a with
  | none => exact flagBacked_of_impossible hs
  | some u =>
    have hposs : FlagBackedIfPossible w a ↔ FlagBacked w a := by
      simp [FlagBackedIfPossible, hs]
    rw [hposs]
    cases a with
    | leaseExpires | putIfNotExists | becomeLeader | enterRenewalLoop | refreshRaises
    | resignLeadership =>
        exact iff_of_true (leaderHoldsKey_of_unfinished rfl) trivial
    | tryBecomeLeader i granted revoked =>
        refine iff_of_true ?_ trivial
        cases granted with
        | true => exact leaderHoldsKey_of_unfinished rfl
        | false =>
            -- an attempt starts without the flag
            obtain ⟨⟨-, hflag⟩, rfl⟩ := step_of_guard hs
            intro u' hs' j hj hlead
            obtain ⟨-, rfl⟩ := step_of_guard hs'
            obtain rfl := Option.some.inj hj
            simp [failAttempt, hflag] at hlead
    | getLeader i answered =>
        refine iff_of_true ?_ trivial
        rw [leaderHoldsKey_iff hw hs rfl]
        obtain ⟨hpoint, rfl⟩ := step_of_guard hs
        have hflag := ((hw i).campaign (.inr (.inr hpoint))).1
        simp [hflag]
    | extensionReturns i =>
        rw [leaderHoldsKey_iff hw hs rfl]
        obtain ⟨-, rfl⟩ := step_of_guard hs
        simp [LeaseAlive, FlagBacked]
    | extensionRaises i revoked =>
        rw [leaderHoldsKey_iff hw hs rfl]
        obtain ⟨-, rfl⟩ := step_of_guard hs
        -- the lease is given back, the flag stays
        have hdead : ¬ LeaseAlive (failAttempt w i revoked) i :=
          not_leaseAlive (by simp [failAttempt])
        have hflag : ((failAttempt w i revoked).inst i).isLeader = (w.inst i).isLeader := by
          simp [failAttempt]
        rw [hflag]
        simp [hdead, FlagBacked]
    | refreshLease i k =>
        rw [leaderHoldsKey_iff hw hs rfl]
        obtain ⟨-, rfl⟩ := step_of_guard hs
        simp [LeaseAlive, FlagBacked]
    | stepDown i k raised =>
        obtain ⟨renewal, -, hk, rfl⟩ := step_stepDown hs
        have hrenewal : (w.inst i).renewalStepsDown k = renewal := by
          simp [Instance.renewalStepsDown, hk]
        cases renewal with
        | false =>
            -- resigning is neither a renewal nor an election step
            refine iff_of_true (leaderHoldsKey_of_unfinished ?_) ?_
            · simp [finishes, hrenewal]
            · simp [FlagBacked, hrenewal]
        | true =>
            cases raised with
            | true =>
                have hfin : finishes w (.stepDown i k true) = some i := by
                  simp [finishes, hrenewal]
                rw [leaderHoldsKey_iff hw hs hfin]
                simp [LeaseAlive, FlagBacked, hrenewal]
            | false =>
                -- the base part has run: the flag is unset
                refine iff_of_true ?_ (by simp [FlagBacked])
                intro u' hs' j hj hlead
                obtain rfl := Option.some.inj (hs.symm.trans hs')
                simp only [finishes, hrenewal, Option.ite_none_right_eq_some] at hj
                obtain rfl := Option.some.inj hj.2
                simp [clearLeader] at hlead
    | releaseLease i k revoked =>
        obtain ⟨-, rfl⟩ := step_releaseLease hs
        cases hrenewal : (w.inst i).renewalStepsDown k with
        | false =>
            refine iff_of_true (leaderHoldsKey_of_unfinished ?_) ?_
            · simp [finishes, hrenewal]
            · simp [FlagBacked, hrenewal]
        | true =>
            have hfin : finishes w (.releaseLease i k revoked) = some i := by
              simp [finishes, hrenewal]
            rw [leaderHoldsKey_iff hw hs hfin, imp_iff_not (not_leaseAlive (by simp))]
            simp [FlagBacked, hrenewal]

/-- **Leadership is safe exactly in the runs whose flags are backed**: in a run of any number of
instances, every instance that finishes a renewal or an election step with `is_leader` set holds
the election key under its own live lease, if and only if every action of the run meets
`FlagBacked` where it is taken. -/
theorem leadership_safe_iff (acts : List (Action ι)) :
    Meets play LeaderHoldsKey (World.init ι) acts
      ↔ Meets play FlagBackedIfPossible (World.init ι) acts :=
  meets_congr play_settled leaderHoldsKey_iff_flagBacked acts allSettled_init

/-! ## §7. A lease that expired unnoticed. -/

/-- Instance `0` is elected and sleeps past its lease, instance `1` is elected, and then the
renewal of instance `0` is answered with a time to live of zero. -/
def staleLeader : List (Action Nat) :=
  [.tryBecomeLeader 0 true true, .putIfNotExists 0 .answered, .becomeLeader 0,
    .extensionReturns 0, .enterRenewalLoop 0 0, .leaseExpires 0,
    .tryBecomeLeader 1 true true, .putIfNotExists 1 .answered, .becomeLeader 1,
    .extensionReturns 1, .enterRenewalLoop 1 0]

/-- Both instances have the flag, the key is that of instance `1`. -/
theorem expired_leader_unnoticed :
    ¬ Meets play LeaderHoldsKey (World.init Nat) (staleLeader ++ [.refreshLease 0 0]) := by
  intro h
  have hlast := ((meets_append staleLeader _ _).mp h).2.1
  obtain ⟨l, -, hkey, -⟩ := hlast _ rfl 0 rfl (by decide)
  -- the keep-alive of a lease that is gone changes nothing
  have hheld : (replay play (World.init Nat) staleLeader).etcd.key = some (1, 1) := by decide
  cases hheld.symm.trans hkey

end CmlCloudManager.Core
