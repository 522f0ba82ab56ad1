/-
  CmlCloudManager.ControlPlane.PortConcurrency
  ────────────────────────────────────────────
  **PORT CALLS WHOSE ACCESSES INTERLEAVE.**

  An allocation or a release reads the document of the worker, changes its copy and
  puts the copy back with a plain `put`: what was stored in between is overwritten.
  A put is `Undisturbed` when the stored document is still the one that the call
  read last.  In a run where all puts are, the calls have the effect of SOME
  sequence of proper grants and withdrawals (`Serialized`), and everything a
  sequence of those keeps is kept; two calls that read the same document are
  enough to lose an allocation otherwise (`allocation_lost`).
-/
import CmlCloudManager.Foundation.Transition
import CmlCloudManager.ControlPlane.PortAllocation

namespace CmlCloudManager.ControlPlane

open CmlCloudManager.Foundation

/-! ## §1. What a call has read and what it writes. -/

/-- An access to etcd with its answer. -/
abbrev EtcdEvent : Type := Resumption.Event EtcdRequest EtcdRequest.Reply

/-- What the last `get` of a trace found. -/
def lastRead (trace : List EtcdEvent) : Option (Option Allocations) :=
  trace.foldl
    (fun read event =>
      match event with
      | ⟨.get _, .ok found⟩ => some found
      | _ => read)
    none

/-- A change of a document. -/
abbrev PortChange : Type := Holdings.Change String String Int

/-- The change is one the request asks for. -/
def PortRequest.Asks : PortRequest → String → PortChange → Prop
  | .allocate workerId sessionId portTemplate _, w, .grant sid ports =>
      w = workerId ∧ sid = sessionId ∧ ports.keys = portTemplate.portNames
  | .release workerId sessionId, w, .withdraw sid => w = workerId ∧ sid = sessionId
  | _, _, _ => False

/-- The answer reports a change. -/
def PortReply.Reports : PortReply → PortChange → Prop
  | .allocated result, .grant _ ports => result.success = true ∧ result.allocatedPorts = some ports
  | .released result, .withdraw _ => ∃ ports, result = .ok (some ports)
  | _, _ => False

/-- The answer reports that something has changed. -/
def TookEffect : PortRequest → PortReply → Prop
  | .allocate _ _ portTemplate _, .allocated result =>
      portTemplate.portCount ≠ 0 ∧ result.success = true
  | .release _ _, .released result => ∃ ports, result = .ok (some ports)
  | _, _ => False

/-- No document has been written yet. -/
def NothingWritten (past : List EtcdEvent) : Prop :=
  ∀ w a answer, (⟨.put w a, answer⟩ : EtcdEvent) ∉ past

/-- After `past`, a document is written that makes a proper change of the one read last. -/
structure Writes (request : PortRequest) (past : List EtcdEvent) (workerId : String)
    (allocations : Allocations) (change : PortChange) : Prop where
  asked : request.Asks workerId change
  read : ∃ found, lastRead past = some found ∧ Holdings.Proper (found.getD Dict.empty) change
    ∧ allocations = Holdings.changed (found.getD Dict.empty) change

/-- What a call guarantees of the accesses it makes: after a write there is none. -/
def AccessOk (request : PortRequest) (past : List EtcdEvent) (e : EtcdRequest) : Prop :=
  NothingWritten past
    ∧ ∀ workerId allocations, e = .put workerId allocations →
        ∃ change, Writes request past workerId allocations change

/-- What a call guarantees of its answer: a change that it reports is the one it wrote, and
a release that wrote reports it. -/
structure AnswerOk (request : PortRequest) (past : List EtcdEvent) (reply : PortReply) :
    Prop where
  reported : TookEffect request reply → ∃ before workerId allocations change,
    past = before ++ [⟨.put workerId allocations, .ok ()⟩]
      ∧ Writes request before workerId allocations change ∧ reply.Reports change
  released : ∀ workerId sessionId, request = .release workerId sessionId →
    (∃ w a, (⟨.put w a, .ok ()⟩ : EtcdEvent) ∈ past) → TookEffect request reply

theorem NothingWritten.get {past : List EtcdEvent} (h : NothingWritten past) (workerId : String)
    (answer : Except String (Option Allocations)) :
    NothingWritten (past ++ [⟨.get workerId, answer⟩]) := by
  intro w a answer' hmem
  rcases List.mem_append.mp hmem with hmem | hmem
  · exact h w a answer' hmem
  · cases List.mem_singleton.mp hmem

theorem nothingWritten_nil : NothingWritten [] := fun _ _ _ => List.not_mem_nil

theorem AccessOk.get {request : PortRequest} {past : List EtcdEvent} (h : NothingWritten past)
    (workerId : String) : AccessOk request past (.get workerId) := ⟨h, fun _ _ => nofun⟩

theorem AccessOk.put {request : PortRequest} {past : List EtcdEvent} {workerId : String}
    {allocations : Allocations} {change : PortChange} (h : NothingWritten past)
    (hwrites : Writes request past workerId allocations change) :
    AccessOk request past (.put workerId allocations) := by
  refine ⟨h, fun w a he => ?_⟩
  cases he
  exact ⟨change, hwrites⟩

/-- An allocation that is refused, or needs no port, reports nothing. -/
theorem AnswerOk.refused {workerId sessionId : String} {portTemplate : PortTemplate} {now : Int}
    {past : List EtcdEvent} {result : PortAllocationResult}
    (h : result.success = false ∨ portTemplate.portCount = 0) :
    AnswerOk (.allocate workerId sessionId portTemplate now) past (.allocated result) := by
  refine ⟨fun ⟨hcount, hsuccess⟩ => ?_, nofun⟩
  rcases h with hfail | hnone
  · rw [hfail] at hsuccess
    cases hsuccess
  · exact absurd hnone hcount

theorem lastRead_get (past : List EtcdEvent) (workerId : String) (found : Option Allocations) :
    lastRead (past ++ [⟨.get workerId, .ok found⟩]) = some found := by
  rw [lastRead, List.foldl_append]
  rfl

namespace EtcdStateStore

variable {request : PortRequest} {past : List EtcdEvent} {workerId sessionId : String}

theorem getAllocatedPorts_guarantees (h : NothingWritten past) :
    Resumption.Guarantees (AccessOk request) (fun past _ => NothingWritten past) past
      (getAllocatedPortsForWorker workerId) := by
  refine Resumption.guarantees_andThen.mpr ⟨.get h workerId, fun answer => ?_⟩
  have hread := h.get workerId answer
  match answer with
  | .error raised => exact hread
  | .ok none => exact hread
  | .ok (some allocations) => exact hread

theorem allocateSessionPorts_guarantees {ports : Ports} (h : NothingWritten past)
    (hasked : request.Asks workerId (.grant sessionId ports)) (hone : OneName ports) :
    Resumption.Guarantees (AccessOk request)
      (fun past out => out = .ok true → ∃ before allocations,
        past = before ++ [⟨.put workerId allocations, .ok ()⟩]
          ∧ Writes request before workerId allocations (.grant sessionId ports))
      past (allocateSessionPorts workerId sessionId ports) := by
  refine Resumption.guarantees_andThen.mpr ⟨.get h workerId, fun answer => ?_⟩
  cases answer with
  | error raised => exact nofun
  | ok found =>
      refine Resumption.guarantees_done.mpr ?_
      dsimp only
      split
      next => exact nofun
      next hfree =>
        have hwrites : Writes request (past ++ [⟨.get workerId, .ok found⟩]) workerId
            ((found.getD Dict.empty).set sessionId ports) (.grant sessionId ports) := by
          refine ⟨hasked, found, lastRead_get .., ⟨hone, ?_⟩, rfl⟩
          intro name port hport hused
          refine hfree (List.any_eq_true.mpr ⟨port, ?_, List.contains_iff_mem.mpr hused⟩)
          exact Holdings.mem_values_iff.mpr ⟨name, hport⟩
        refine Resumption.guarantees_andThen.mpr ⟨.put (h.get _ _) hwrites, fun answer => ?_⟩
        match answer with
        | .error raised => exact nofun
        | .ok () => exact fun _ => ⟨_, _, rfl, hwrites⟩

/-- An answer that reports its change exactly when there has been a write. -/
structure Reported (request : PortRequest) (past : List EtcdEvent) (workerId : String)
    (change : PortChange) (took : Prop) : Prop where
  sound : took → ∃ before allocations,
    past = before ++ [⟨.put workerId allocations, .ok ()⟩]
      ∧ Writes request before workerId allocations change
  complete : (∃ w a, (⟨.put w a, .ok ()⟩ : EtcdEvent) ∈ past) → took

theorem Reported.nothing {change : PortChange} {took : Prop} (h : NothingWritten past)
    (hnot : ¬took) : Reported request past workerId change took :=
  ⟨fun htook => absurd htook hnot, fun ⟨w, a, hmem⟩ => absurd hmem (h w a _)⟩

theorem releaseSessionPorts_guarantees (h : NothingWritten past)
    (hasked : request.Asks workerId (.withdraw sessionId)) :
    Resumption.Guarantees (AccessOk request)
      (fun past out =>
        Reported request past workerId (.withdraw sessionId) (∃ ports, out = .ok (some ports)))
      past (releaseSessionPorts workerId sessionId) := by
  refine Resumption.guarantees_andThen.mpr ⟨.get h workerId, fun answer => ?_⟩
  have hread := h.get workerId answer
  match answer with
  | .error raised => exact .nothing hread nofun
  | .ok none => exact .nothing hread nofun
  | .ok (some allocations) =>
      refine Resumption.guarantees_done.mpr ?_
      dsimp only
      split
      next => exact .nothing hread nofun
      next released hentry =>
        have hwrites : Writes request (past ++ [⟨.get workerId, .ok (some allocations)⟩]) workerId
            (allocations.erase sessionId) (.withdraw sessionId) :=
          ⟨hasked, some allocations, lastRead_get ..,
            Option.isSome_iff_exists.mpr ⟨released, hentry⟩, rfl⟩
        refine Resumption.guarantees_andThen.mpr ⟨.put hread hwrites, fun answer => ?_⟩
        match answer with
        | .error raised =>
            refine ⟨nofun, fun ⟨w, a, hmem⟩ => ?_⟩
            rcases List.mem_append.mp hmem with hmem | hmem
            · exact absurd hmem (hread w a _)
            · cases List.mem_singleton.mp hmem
        | .ok () => exact ⟨fun _ => ⟨_, _, rfl, hwrites⟩, fun _ => ⟨released, rfl⟩⟩

end EtcdStateStore

/-- **What a call does**: it writes at most once, the document it read last with the change
that was asked for, and it reports no change that it has not written. -/
theorem call_guarantees (service : PortAllocationService) (request : PortRequest) :
    Resumption.Guarantees (AccessOk request) (AnswerOk request) [] (service.call request) := by
  cases request with
  | allocate workerId sessionId portTemplate now =>
      refine Resumption.guarantees_bind.mpr ?_
      unfold PortAllocationService.allocatePorts
      split
      next => exact .refused (.inl rfl)
      split
      next => exact .refused (.inl rfl)
      split
      next hnone => exact .refused (.inr hnone)
      split
      next => exact .refused (.inl rfl)
      refine Resumption.guarantees_bind.mpr (Resumption.guarantees_andThen.mpr ?_)
      refine (EtcdStateStore.getAllocatedPorts_guarantees nothingWritten_nil).mono
        fun past out hnothing => ?_
      cases out with
      | error raised => exact .refused (.inl rfl)
      | ok used =>
          dsimp only
          split
          next => exact .refused (.inl rfl)
          next henough =>
            have hgranted := PortAllocationService.granted_zip henough
            have hasked : (PortRequest.allocate workerId sessionId portTemplate now).Asks workerId
                (.grant sessionId _) := ⟨rfl, rfl, hgranted.names⟩
            refine Resumption.guarantees_andThen.mpr ?_
            refine (EtcdStateStore.allocateSessionPorts_guarantees hnothing hasked
              hgranted.oneName).mono fun past out hwrote => ?_
            match out with
            | .error raised => exact .refused (.inl rfl)
            | .ok false => exact .refused (.inl rfl)
            | .ok true =>
                obtain ⟨before, allocations, rfl, hwrites⟩ := hwrote rfl
                dsimp only
                rw [if_neg (by simp)]
                split
                next => exact .refused (.inl rfl)
                next => exact ⟨fun _ => ⟨_, _, _, _, rfl, hwrites, rfl, rfl⟩, nofun⟩
  | release workerId sessionId =>
      refine Resumption.guarantees_bind.mpr ?_
      unfold PortAllocationService.releasePorts
      split
      next => exact ⟨nofun, fun _ _ _ ⟨w, a, hmem⟩ => absurd hmem List.not_mem_nil⟩
      next =>
        have hasked : (PortRequest.release workerId sessionId).Asks workerId
            (.withdraw sessionId) := ⟨rfl, rfl⟩
        refine (EtcdStateStore.releaseSessionPorts_guarantees nothingWritten_nil
          hasked).mono fun past out hreported => ?_
        refine ⟨fun hfreed => ?_, fun _ _ _ hwrote => hreported.complete hwrote⟩
        obtain ⟨before, allocations, rfl, hwrites⟩ := hreported.sound hfreed
        exact ⟨_, _, _, _, rfl, hwrites, hfreed⟩


/-! ## §2. Interleaved calls. -/

/-- The worker a call is about. -/
def PortRequest.workerId : PortRequest → String
  | .allocate workerId _ _ _ => workerId
  | .release workerId _ => workerId

/-- The session an allocation is for. -/
def PortRequest.allocates : PortRequest → Option String
  | .allocate _ sessionId _ _ => some sessionId
  | .release _ _ => none

/-- A call under way. -/
abbrev PortThread : Type := Thread EtcdRequest EtcdRequest.Reply PortReply PortRequest

/-- Calls around the documents. -/
abbrev PortWorld : Type := Shared EtcdRequest EtcdRequest.Reply PortReply PortRequest PortStore

/-- A put that takes effect replaces just the document its call read last. -/
def Undisturbed (w : PortWorld) (turn : Nat × Option String) : Prop :=
  ∀ t workerId allocations, w.threads[turn.1]? = some t →
    t.next = some (.put workerId allocations) → turn.2 = none →
      lastRead t.trace = some (w.state.get? workerId)

/-- The call has answered that the session has these ports. -/
def PortThread.Allocated (t : PortThread) (sessionId : String) (ports : Ports) : Prop :=
  ∃ workerId portTemplate now result,
    t.request = .allocate workerId sessionId portTemplate now ∧ portTemplate.portCount ≠ 0
      ∧ t.result = some (.allocated result) ∧ result.success = true
      ∧ result.allocatedPorts = some ports

/-- The call has answered that it released these ports of the session. -/
def PortThread.Released (t : PortThread) (sessionId : String) (ports : Ports) : Prop :=
  ∃ workerId, t.request = .release workerId sessionId
    ∧ t.result = some (.released (.ok (some ports)))

/-- The document of the worker: no port is held twice, what a call allocated is stored
unless a call has released it, and what a call released is gone, where a session that is
allocated here had nothing before. -/
structure DocumentSafe (initial : PortStore) (workerId : String) (w : PortWorld) : Prop where
  exclusive : Holdings.Exclusive (w.state.current workerId)
  allocated : ∀ t ∈ w.threads, ∀ sessionId ports, PortThread.Allocated t sessionId ports →
    (∀ t' ∈ w.threads, ∀ ports', ¬PortThread.Released t' sessionId ports') →
      w.state.entry workerId sessionId = some ports
  released : ∀ t ∈ w.threads, ∀ sessionId ports, PortThread.Released t sessionId ports →
    ((∃ t' ∈ w.threads, t'.request.allocates = some sessionId) →
      initial.entry workerId sessionId = none) →
      w.state.entry workerId sessionId = none

/-- The document is what a log of proper changes has made of it, and the calls and the log
agree about who has changed what. -/
structure Serialized (service : PortAllocationService) (initial : Allocations)
    (workerId : String) (w : PortWorld) (log : List PortChange) : Prop where
  tracked : w.Tracked service.call
  proper : Meets Holdings.changed Holdings.Proper initial log
  stored : w.state.current workerId = replay Holdings.changed initial log
  once : (log.filterMap Holdings.Change.grantee).Nodup
  granted : ∀ sessionId ∈ log.filterMap Holdings.Change.grantee, ∃ (i : Nat) (t : PortThread),
    w.threads[i]? = some t ∧ t.request.allocates = some sessionId ∧ ¬NothingWritten t.trace
  reported : ∀ t ∈ w.threads, ∀ reply, t.result = some reply → TookEffect t.request reply →
    ∃ change ∈ log, t.request.Asks workerId change ∧ reply.Reports change
  withdrawn : ∀ sessionId, .withdraw sessionId ∈ log → ∃ t ∈ w.threads, ∃ reply,
    t.request = .release workerId sessionId ∧ t.result = some reply
      ∧ TookEffect t.request reply

/-- **A serialized document is safe.** -/
theorem Serialized.safe {service : PortAllocationService} {initial : PortStore}
    {workerId : String} {w : PortWorld} {log : List PortChange}
    (h : Serialized service (initial.current workerId) workerId w log)
    (hinitial : Holdings.Exclusive (initial.current workerId)) :
    DocumentSafe initial workerId w := by
  constructor
  · rw [h.stored]
    exact Holdings.exclusive_of_log hinitial h.proper
  · rintro t ht sid ports ⟨w₀, portTemplate, now, result, hrequest, hcount, hresult, hok, hports⟩
      hnot
    obtain ⟨change, hlog, hasked, hreports⟩ :=
      h.reported t ht _ hresult (by rw [hrequest]; exact ⟨hcount, hok⟩)
    rw [hrequest] at hasked
    cases change with
    | withdraw sid' => exact hasked.elim
    | grant sid' ports' =>
        obtain ⟨-, rfl, -⟩ := hasked
        obtain rfl : ports' = ports := Option.some.inj (hreports.2.symm.trans hports)
        rw [PortStore.entry, h.stored]
        refine Holdings.granted_of_log hlog h.once fun hwithdraw => ?_
        obtain ⟨t', ht', reply, hrequest', hresult', htook⟩ := h.withdrawn _ hwithdraw
        rw [hrequest'] at htook
        cases reply with
        | allocated => exact htook.elim
        | released result' =>
            obtain ⟨ports'', rfl⟩ := htook
            exact hnot t' ht' ports'' ⟨workerId, hrequest', hresult'⟩
  · rintro t ht sid ports ⟨w₀, hrequest, hresult⟩ hfirst
    obtain ⟨change, hlog, hasked, -⟩ :=
      h.reported t ht _ hresult (by rw [hrequest]; exact ⟨ports, rfl⟩)
    rw [hrequest] at hasked
    cases change with
    | grant sid' ports' => exact hasked.elim
    | withdraw sid' =>
        obtain ⟨-, rfl⟩ := hasked
        rw [PortStore.entry, h.stored]
        refine Holdings.withdrawn_of_log h.proper hlog h.once fun hgranted => hfirst ?_
        obtain ⟨i, t', ht', hallocates, -⟩ := h.granted _ hgranted
        exact ⟨t', List.mem_of_getElem? ht', hallocates⟩

/-! ## §3. One access. -/

/-- No two allocations are for one session. -/
def OnePerSession (requests : List PortRequest) : Prop :=
  (requests.filterMap PortRequest.allocates).Nodup

theorem index_unique {α β : Type} {f : α → Option β} {c : β} :
    ∀ {l : List α}, (l.filterMap f).Nodup → ∀ {i j : Nat} {a b : α}, l[i]? = some a →
      l[j]? = some b → f a = some c → f b = some c → i = j
  | [], _, i, _, _, _, ha, _, _, _ => by simp at ha
  | x :: l, hnodup, i, j, a, b, ha, hb, hac, hbc => by
      have hmem : ∀ {k : Nat} {y : α}, l[k]? = some y → f y = some c → c ∈ l.filterMap f :=
        fun hk hy => List.mem_filterMap.mpr ⟨_, List.mem_of_getElem? hk, hy⟩
      have htail : (l.filterMap f).Nodup := by
        rw [List.filterMap_cons] at hnodup
        split at hnodup
        next => exact hnodup
        next => exact (List.nodup_cons.mp hnodup).2
      have hhead : f x = some c → c ∉ l.filterMap f := by
        intro hx
        rw [List.filterMap_cons, hx] at hnodup
        exact (List.nodup_cons.mp hnodup).1
      cases i with
      | zero =>
          obtain rfl : x = a := Option.some.inj ha
          cases j with
          | zero => rfl
          | succ j => exact absurd (hmem hb hbc) (hhead hac)
      | succ i =>
          cases j with
          | zero =>
              obtain rfl : x = b := Option.some.inj hb
              exact absurd (hmem ha hac) (hhead hbc)
          | succ j => exact congrArg Nat.succ (index_unique htail ha hb hac hbc)

section Access

variable {service : PortAllocationService} {initial : Allocations} {workerId : String}
  {w : PortWorld} {log : List PortChange} {i : Nat} {request : PortRequest} {e : EtcdRequest}
  {k : e.Reply → EtcdCall PortReply} {trace : List EtcdEvent} {answer : e.Reply}

/-- What is known of a call that awaits an access, and of what it does with the answer. -/
theorem Serialized.awaiting (h : Serialized service initial workerId w log)
    (hthread : w.threads[i]? = some ⟨request, .await e k, trace⟩) :
    AccessOk request trace e
      ∧ ∀ answer, Resumption.Guarantees (AccessOk request) (AnswerOk request)
          (trace ++ [⟨e, answer⟩]) (k answer) :=
  (call_guarantees service request).reaches (h.tracked _ (List.mem_of_getElem? hthread))

/-- A call that awaits an access is not one of those that the log knows. -/
theorem Serialized.elsewhere (h : Serialized service initial workerId w log)
    (hthread : w.threads[i]? = some ⟨request, .await e k, trace⟩) (t' : PortThread) :
    (∀ sessionId ∈ log.filterMap Holdings.Change.grantee, ∃ (j : Nat) (t : PortThread),
        (w.threads.set i t')[j]? = some t ∧ j ≠ i ∧ t.request.allocates = some sessionId
          ∧ ¬NothingWritten t.trace)
      ∧ ∀ sessionId, .withdraw sessionId ∈ log → ∃ t ∈ w.threads.set i t', ∃ reply,
        t.request = .release workerId sessionId ∧ t.result = some reply
          ∧ TookEffect t.request reply := by
  constructor
  · intro sid hsid
    obtain ⟨j, t, ht, hallocates, hwritten⟩ := h.granted sid hsid
    have hne : i ≠ j := by
      rintro rfl
      obtain rfl : _ = t := Option.some.inj (hthread.symm.trans ht)
      exact hwritten (h.awaiting hthread).1.1
    refine ⟨j, t, ?_, hne.symm, hallocates, hwritten⟩
    rw [List.getElem?_set_ne hne]
    exact ht
  · intro sid hsid
    obtain ⟨t, ht, reply, hrequest, hresult, htook⟩ := h.withdrawn sid hsid
    obtain ⟨j, hj⟩ := List.getElem?_of_mem ht
    have hne : i ≠ j := by
      rintro rfl
      obtain rfl : _ = t := Option.some.inj (hthread.symm.trans hj)
      cases hresult
    refine ⟨t, List.mem_of_getElem? (i := j) ?_, reply, hrequest, hresult, htook⟩
    rw [List.getElem?_set_ne hne]
    exact hj

/-- **An access that stores nothing** leaves the log as it is. -/
theorem Serialized.quiet (h : Serialized service initial workerId w log) {w' : PortWorld}
    (hthread : w.threads[i]? = some ⟨request, .await e k, trace⟩)
    (hw' : w' = ⟨w.state, w.threads.set i ⟨request, k answer, trace ++ [⟨e, answer⟩]⟩⟩)
    (htracked : w'.Tracked service.call)
    (hquiet : ∀ w a, (⟨e, answer⟩ : EtcdEvent) ≠ ⟨.put w a, .ok ()⟩) :
    Serialized service initial workerId w' log := by
  subst hw'
  have hnext := (h.awaiting hthread).2 answer
  obtain ⟨hgranted, hwithdrawn⟩ :=
    h.elsewhere hthread ⟨request, k answer, trace ++ [⟨e, answer⟩]⟩
  refine ⟨htracked, h.proper, h.stored, h.once, ?_, ?_, hwithdrawn⟩
  · intro sid hsid
    obtain ⟨j, t, ht, -, hrest⟩ := hgranted sid hsid
    exact ⟨j, t, ht, hrest⟩
  · intro t ht reply hresult htook
    rcases List.mem_or_eq_of_mem_set ht with ht | rfl
    · exact h.reported t ht reply hresult htook
    · -- a call reports a change only right after writing it
      cases hk : k answer with
      | await e' k' =>
          rw [Thread.result, hk] at hresult
          cases hresult
      | done reply' =>
          rw [Thread.result, hk] at hresult
          obtain rfl : reply' = reply := Option.some.inj hresult
          rw [hk] at hnext
          obtain ⟨before, w₀, a₀, change, hpast, -⟩ := hnext.reported htook
          exact absurd (List.append_inj_right' hpast rfl) (by simpa using hquiet w₀ a₀)

theorem PortRequest.Asks.workerId_eq {change : PortChange} (h : request.Asks workerId change) :
    workerId = request.workerId := by
  cases request with
  | allocate =>
      cases change with
      | grant => exact h.1
      | withdraw => exact h.elim
  | release =>
      cases change with
      | grant => exact h.elim
      | withdraw => exact h.1

/-- A grant is for the session of the allocation that asks for it. -/
theorem PortRequest.Asks.allocates {change : PortChange} (h : request.Asks workerId change)
    {sessionId : String} (hgrants : sessionId ∈ [change].filterMap Holdings.Change.grantee) :
    request.allocates = some sessionId := by
  cases change with
  | withdraw => cases hgrants
  | grant granted ports =>
      obtain rfl : sessionId = granted := List.mem_singleton.mp hgrants
      cases request with
      | allocate => exact congrArg some h.2.1.symm
      | release => exact h.elim

/-- A withdrawal is what a release asks for. -/
theorem PortRequest.Asks.releases {sessionId : String}
    (h : request.Asks workerId (.withdraw sessionId)) :
    request = .release workerId sessionId := by
  cases request with
  | allocate => exact h.elim
  | release =>
      obtain ⟨rfl, rfl⟩ := h
      rfl

/-- The session of a call that has written nothing has been granted nothing. -/
theorem Serialized.ungranted (h : Serialized service initial workerId w log)
    (hdistinct : OnePerSession (w.threads.map Thread.request))
    (hthread : w.threads[i]? = some ⟨request, .await e k, trace⟩)
    (hnothing : NothingWritten trace) {sessionId : String}
    (hallocates : request.allocates = some sessionId) :
    sessionId ∉ log.filterMap Holdings.Change.grantee := by
  intro hgranted
  obtain ⟨j, t, ht, hallocates', hwrote⟩ := h.granted sessionId hgranted
  -- it is the only call for its session
  have hij : i = j := by
    refine index_unique hdistinct (a := request) (b := t.request) ?_ ?_ hallocates hallocates'
    · rw [List.getElem?_map, hthread]
      rfl
    · rw [List.getElem?_map, ht]
      rfl
  subst hij
  obtain rfl : _ = t := Option.some.inj (hthread.symm.trans ht)
  exact hwrote hnothing

/-- The change a put makes is the one its call reports, if it reports one. -/
theorem Serialized.writing {w₀ : String} {a : Allocations}
    {k : Except String Unit → EtcdCall PortReply}
    (h : Serialized service initial workerId w log)
    (hthread : w.threads[i]? = some ⟨request, .await (.put w₀ a) k, trace⟩) :
    ∃ change, Writes request trace w₀ a change
      ∧ ∀ reply, k (.ok ()) = .done reply → TookEffect request reply → reply.Reports change := by
  obtain ⟨⟨-, hput⟩, hnext⟩ := h.awaiting hthread
  have hnext := hnext (.ok ())
  cases hk : k (.ok ()) with
  | await e' k' =>
      obtain ⟨change, hwrites⟩ := hput w₀ a rfl
      exact ⟨change, hwrites, nofun⟩
  | done reply =>
      rw [hk] at hnext
      by_cases htook : TookEffect request reply
      · obtain ⟨before, w₁, a₁, change, hpast, hwrites, hreports⟩ := hnext.reported htook
        obtain ⟨rfl, hevent⟩ := List.append_inj' hpast rfl
        obtain ⟨he, -⟩ := Sigma.mk.inj (List.singleton_inj.mp hevent)
        cases he
        refine ⟨change, hwrites, fun reply' hreply' _ => ?_⟩
        obtain rfl : reply = reply' := Resumption.done.inj hreply'
        exact hreports
      · obtain ⟨change, hwrites⟩ := hput w₀ a rfl
        refine ⟨change, hwrites, fun reply' hreply' htook' => ?_⟩
        obtain rfl : reply = reply' := Resumption.done.inj hreply'
        exact absurd htook' htook

/-- **An undisturbed put** is one more proper change. -/
theorem Serialized.write {w₀ : String} {a : Allocations}
    {k : Except String Unit → EtcdCall PortReply}
    (h : Serialized service initial workerId w log)
    (hdistinct : OnePerSession (w.threads.map Thread.request))
    (hworker : request.workerId = workerId)
    (hthread : w.threads[i]? = some ⟨request, .await (.put w₀ a) k, trace⟩)
    (hread : lastRead trace = some (w.state.get? w₀)) {w' : PortWorld}
    (hw' : w' = ⟨w.state.set w₀ a,
      w.threads.set i ⟨request, k (.ok ()), trace ++ [⟨.put w₀ a, .ok ()⟩]⟩⟩)
    (htracked : w'.Tracked service.call) :
    ∃ change, Serialized service initial workerId w' (log ++ [change]) := by
  subst hw'
  obtain ⟨⟨hnothing, -⟩, hnext⟩ := h.awaiting hthread
  have hnext := hnext (.ok ())
  obtain ⟨change, ⟨hasked, found, hfound, hproper, ha⟩, hreports⟩ := h.writing hthread
  obtain rfl : w₀ = workerId := hasked.workerId_eq.trans hworker
  obtain rfl : found = w.state.get? w₀ := Option.some.inj (hfound.symm.trans hread)
  have hcurrent : (w.state.get? w₀).getD Dict.empty = replay Holdings.changed initial log :=
    h.stored
  rw [hcurrent] at hproper ha
  obtain ⟨hgranted, hwithdrawn⟩ :=
    h.elsewhere hthread ⟨request, k (.ok ()), trace ++ [⟨.put w₀ a, .ok ()⟩]⟩
  have hlt : i < w.threads.length := (List.getElem?_eq_some_iff.mp hthread).1
  have hself : (w.threads.set i
      ⟨request, k (.ok ()), trace ++ [⟨.put w₀ a, .ok ()⟩]⟩)[i]?
        = some ⟨request, k (.ok ()), trace ++ [⟨.put w₀ a, .ok ()⟩]⟩ :=
    List.getElem?_set_self hlt
  have hwritten : ¬NothingWritten (trace ++ [⟨.put w₀ a, .ok ()⟩]) :=
    fun hnot => hnot w₀ a (.ok ()) (List.mem_append_right _ (List.mem_singleton_self _))
  refine ⟨change, ?_⟩
  constructor
  case tracked => exact htracked
  case proper => exact (meets_append log [change] initial).mpr ⟨h.proper, hproper, trivial⟩
  case stored => rw [PortStore.current_set, if_pos rfl, replay_snoc, ha]
  case once =>
    rw [List.filterMap_append, List.nodup_append]
    refine ⟨h.once, Holdings.Change.nodup_grantee change, ?_⟩
    rintro sid hsid sid' hsid' rfl
    exact h.ungranted hdistinct hthread hnothing (hasked.allocates hsid') hsid
  case granted =>
    intro sid hsid
    rw [List.filterMap_append] at hsid
    rcases List.mem_append.mp hsid with hsid | hsid
    · obtain ⟨j, t, ht, -, hrest⟩ := hgranted sid hsid
      exact ⟨j, t, ht, hrest⟩
    · exact ⟨i, _, hself, hasked.allocates hsid, hwritten⟩
  case reported =>
    intro t ht reply hresult htook
    rcases List.mem_or_eq_of_mem_set ht with ht | rfl
    · obtain ⟨c, hc, hrest⟩ := h.reported t ht reply hresult htook
      exact ⟨c, List.mem_append_left _ hc, hrest⟩
    · refine ⟨change, List.mem_append_right _ (List.mem_singleton_self _), hasked, ?_⟩
      refine hreports reply ?_ htook
      cases hk : k (.ok ()) with
      | await => rw [Thread.result, hk] at hresult; cases hresult
      | done reply' =>
          rw [Thread.result, hk] at hresult
          rw [Option.some.inj hresult]
  case withdrawn =>
    intro sid hsid
    rcases List.mem_append.mp hsid with hsid | hsid
    · exact hwithdrawn sid hsid
    · obtain rfl := List.mem_singleton.mp hsid
      have hrequest := hasked.releases
      -- nothing is accessed after the put: the release has answered
      obtain ⟨reply, hk⟩ : ∃ reply, k (.ok ()) = .done reply := by
        cases hk : k (.ok ()) with
        | done reply => exact ⟨reply, rfl⟩
        | await =>
            rw [hk] at hnext
            exact absurd hnext.1.1 hwritten
      rw [hk] at hnext
      refine ⟨_, List.mem_of_getElem? hself, reply, hrequest, ?_, ?_⟩
      · rw [Thread.result, hk]
      · exact hnext.released w₀ sid hrequest
          ⟨w₀, a, List.mem_append_right _ (List.mem_singleton_self _)⟩

end Access

/-! ## §4. Runs. -/

section Runs

variable {service : PortAllocationService} {initial : Allocations} {workerId : String}
  {requests : List PortRequest} {w w' : PortWorld} {turn : Nat × Option String}

/-- **One access keeps the calls serialized**, if it is undisturbed. -/
theorem serialized_step (hsession : OnePerSession requests)
    (hworker : ∀ request ∈ requests, request.workerId = workerId)
    (hrequests : w.threads.map Thread.request = requests)
    (h : ∃ log, Serialized service initial workerId w log) (hok : Undisturbed w turn)
    (hstep : advance etcd w turn = some w') :
    ∃ log, Serialized service initial workerId w' log := by
  obtain ⟨log, h⟩ := h
  have htracked := advance_reaches h.tracked hstep
  obtain ⟨request, e, k, trace, hthread, hw'⟩ := advance_cases hstep
  obtain ⟨i, outage⟩ := turn
  cases outage with
  | some message =>
      cases e with
      | get w₀ => exact ⟨log, h.quiet hthread hw' htracked fun _ _ => nofun⟩
      | put w₀ a => exact ⟨log, h.quiet hthread hw' htracked fun _ _ => nofun⟩
  | none =>
      cases e with
      | get w₀ => exact ⟨log, h.quiet hthread hw' htracked fun _ _ => nofun⟩
      | put w₀ a =>
          have hread := hok _ w₀ a hthread rfl rfl
          have hmem : request ∈ requests := by
            rw [← hrequests]
            exact List.mem_map.mpr ⟨_, List.mem_of_getElem? hthread, rfl⟩
          obtain ⟨change, hnext⟩ :=
            h.write (hrequests ▸ hsession) (hworker request hmem) hthread hread hw' htracked
          exact ⟨log ++ [change], hnext⟩

/-- Before the first access nothing has changed. -/
theorem serialized_start (service : PortAllocationService) (workerId : String)
    (initial : PortStore) (requests : List PortRequest) :
    Serialized service (initial.current workerId) workerId
      (Shared.start service.call initial requests) [] where
  tracked := tracked_start service.call initial requests
  proper := trivial
  stored := rfl
  once := List.nodup_nil
  granted := fun _ h => nomatch h
  reported := by
    intro t ht reply hresult htook
    -- an answer without any access reports nothing
    have htrace : t.trace = [] := by
      obtain ⟨request, -, rfl⟩ := List.mem_map.mp ht
      rfl
    have hanswer := (call_guarantees service t.request).reaches
      (tracked_start service.call initial requests t ht)
    unfold Thread.result at hresult
    split at hresult
    next reply' hdone =>
      rw [hdone, htrace] at hanswer
      obtain rfl : reply' = reply := Option.some.inj hresult
      obtain ⟨before, w₀, a, change, hpast, -⟩ := hanswer.reported htook
      exact absurd (congrArg List.length hpast) (by simp)
    next => cases hresult
  withdrawn := fun _ h => nomatch h

/-- **A run of undisturbed accesses is serialized.** -/
theorem serialized_run {initial : PortStore} {turns : List (Nat × Option String)}
    (hsession : OnePerSession requests)
    (hworker : ∀ request ∈ requests, request.workerId = workerId)
    (hrun : Run (advance etcd) Undisturbed (Shared.start service.call initial requests) turns w) :
    ∃ log, Serialized service (initial.current workerId) workerId w log := by
  have hstep : ∀ t turn u,
      (t.threads.map Thread.request = requests
        ∧ ∃ log, Serialized service (initial.current workerId) workerId t log) →
      Undisturbed t turn → advance etcd t turn = some u →
      (u.threads.map Thread.request = requests
        ∧ ∃ log, Serialized service (initial.current workerId) workerId u log) := by
    rintro t turn u ⟨hrequests, hlog⟩ hok hadvance
    exact ⟨(advance_requests hadvance).trans hrequests,
      serialized_step hsession hworker hrequests hlog hok hadvance⟩
  refine (hrun.invariant hstep ⟨?_, [], serialized_start service workerId initial requests⟩).2
  simp [Shared.start, Function.comp_def]

end Runs

/-- **Calls on one worker whose puts are undisturbed keep its document safe**, in every
state that they reach. -/
theorem undisturbed_calls_safe {service : PortAllocationService} {workerId : String}
    {initial : PortStore} {requests : List PortRequest} {turns : List (Nat × Option String)}
    {w : PortWorld} (hinitial : Holdings.Exclusive (initial.current workerId))
    (hworker : ∀ request ∈ requests, request.workerId = workerId)
    (hsession : OnePerSession requests)
    (hrun : Run (advance etcd) Undisturbed (Shared.start service.call initial requests) turns w) :
    DocumentSafe initial workerId w := by
  obtain ⟨log, hlog⟩ := serialized_run hsession hworker hrun
  exact hlog.safe hinitial

/-- Two sessions that want one port each. -/
def twoAllocations : List PortRequest :=
  [.allocate "worker" "session-1" oneSerialPort 0, .allocate "worker" "session-2" oneSerialPort 0]

/-- `Undisturbed`, computed. -/
def undisturbedCheck (w : PortWorld) (turn : Nat × Option String) : Bool :=
  match w.threads[turn.1]? with
  | none => true
  | some t =>
      match t.next with
      | some (.put workerId _) =>
          turn.2.isSome || decide (lastRead t.trace = some (w.state.get? workerId))
      | _ => true

theorem undisturbed_of_check (w : PortWorld) (turn : Nat × Option String)
    (h : undisturbedCheck w turn = true) : Undisturbed w turn := by
  intro t workerId allocations hthread hnext houtage
  rw [undisturbedCheck, hthread] at h
  dsimp only at h
  rw [hnext, houtage] at h
  exact of_decide_eq_true h

/-- Both sessions look for a free port, the first one is served, and the second one meets the
conflict at its second look. -/
theorem undisturbed_calls_safe_conflict :
    ∃ w, exec (advance etcd) undisturbedCheck
        [(0, none), (1, none), (0, none), (0, none), (1, none)]
        (Shared.start (PortAllocationService.call {}) Dict.empty twoAllocations) = some w
      ∧ DocumentSafe Dict.empty "worker" w := by
  obtain ⟨w, hw⟩ : ∃ w, exec (advance etcd) undisturbedCheck
      [(0, none), (1, none), (0, none), (0, none), (1, none)]
      (Shared.start (PortAllocationService.call {}) Dict.empty twoAllocations) = some w := ⟨_, rfl⟩
  have hrun := exec_run undisturbed_of_check _ .nil hw
  refine ⟨w, hw, undisturbed_calls_safe ?_ ?_ ?_ hrun⟩
  · exact Holdings.exclusive_empty
  · decide
  · unfold OnePerSession
    decide

/-- Both sessions look for a free port twice before either is stored. -/
def bothLookFirst : PortWorld :=
  (exec (advance etcd) (fun _ _ => true)
    [(0, none), (1, none), (0, none), (1, none), (0, none), (1, none)]
    (Shared.start (PortAllocationService.call {}) Dict.empty twoAllocations)).getD
      ⟨Dict.empty, []⟩

/-- Both sessions are told that they have port 2000, and only the second one has it. -/
theorem allocation_lost :
    ¬∀ (turns : List (Nat × Option String)) (w : PortWorld),
      Run (advance etcd) anyAction
          (Shared.start (PortAllocationService.call {}) Dict.empty twoAllocations) turns w →
        (∀ t ∈ w.threads, t.result.isSome) → DocumentSafe Dict.empty "worker" w := by
  intro h
  have hexec : exec (advance etcd) (fun _ _ => true)
      [(0, none), (1, none), (0, none), (1, none), (0, none), (1, none)]
      (Shared.start (PortAllocationService.call {}) Dict.empty twoAllocations)
        = some bothLookFirst := rfl
  have hsafe := h _ bothLookFirst (exec_run (fun _ _ _ => trivial) _ .nil hexec) (by decide)
  have hfirst : PortThread.Allocated (bothLookFirst.threads.get ⟨0, by decide⟩) "session-1"
      (Dict.ofList [("serial", 2000)]) := ⟨_, _, _, _, rfl, by decide, rfl, rfl, rfl⟩
  have hstored := hsafe.allocated _ (List.get_mem _ _) _ _ hfirst ?_
  · have hnone : bothLookFirst.state.entry "worker" "session-1" = none := by decide
    rw [hnone] at hstored
    cases hstored
  · -- nothing is released: both calls are allocations
    rintro t ht ports ⟨w₀, hrequest, -⟩
    have hallocates : ∀ t ∈ bothLookFirst.threads, t.request.allocates.isSome := by decide
    have hsome := hallocates t ht
    rw [hrequest] at hsome
    cases hsome

end CmlCloudManager.ControlPlane
