/-
  CmlCloudManager.ControlPlane.CompletionSignal
  ─────────────────────────────────────────────
  **WHEN A PIPELINE IS SAID TO BE COMPLETE.**

  The handler calls a pipeline complete when every step it has STORED is
  completed or skipped.  Steps are stored as they are reported, so the test says
  nothing about the steps of the definition that were not reported yet.

  Seen from the updates of one run, with distinct steps:

    • the test succeeds after a prefix iff the prefix reports only completed or
      skipped steps and covers what was stored unfinished (`allDone_applyAll`),
    • the signal is right iff no such prefix leaves out a step of the definition,
      and unique iff none is followed by another completed or skipped step.

  `completion_signal_iff` is this condition, for every run and every store.
-/
import CmlCloudManager.ControlPlane.ExecutionRecords

namespace CmlCloudManager.ControlPlane

open CmlCloudManager.Foundation
open CmlCloudManager.Pipeline

/-! ## §1. The signal. -/

/-- `status in ("completed", "skipped")`. -/
def Done (status : StepStatus) : Prop := status = .completed ∨ status = .skipped

instance (status : StepStatus) : Decidable (Done status) :=
  inferInstanceAs (Decidable (_ ∨ _))

/-- The step is stored completed or skipped. -/
def Finished (progress : Progress) (name : String) : Prop :=
  ∃ status, progress.status? name = some status ∧ Done status

/-- The response says `pipeline_complete`. -/
def Completes (d : Delivery) (store : ProgressStore) : Prop :=
  ∃ response, (handleUpdateAsync d.env store d.request).1 = .ok response
    ∧ response.pipelineComplete = true

/-- The call publishes a `PipelineCompleted` CloudEvent. -/
def Announces (d : Delivery) (store : ProgressStore) : Prop :=
  ∃ events, (deliver store d).published = store.published ++ events
    ∧ ∃ e ∈ events, e.isPipelineCompleted = true

/-- The completion signal, in either form. -/
def Signals (d : Delivery) (store : ProgressStore) : Prop :=
  Completes d store ∨ Announces d store

/-- **The completion signal of a sequence of commands** comes only when every step of the
definition is done, and at most once. -/
structure CompletionSignal (pipeline : PipelineDef) (sid pl : String) (store : ProgressStore)
    (ds : List Delivery) : Prop where
  sound : ∀ before d after, ds = before ++ d :: after → Signals d (deliverAll store before) →
    ∀ s ∈ pipeline.steps,
      Finished (progressOf (deliverAll store (before ++ [d])).sessions sid pl) s.name
  once : ∀ before d mid d' after, ds = before ++ d :: (mid ++ d' :: after) →
    Signals d (deliverAll store before) → ¬ Signals d' (deliverAll store (before ++ d :: mid))

/-! ## §2. The stored progress after a prefix. -/

/-- The progress after a list of updates. -/
def applyAll (progress : Progress) (us : List ProgressUpdate) : Progress :=
  us.foldl applyUpdate progress

/-- A step that no update names keeps its record. -/
theorem applyAll_get?_other {name : String} :
    ∀ (us : List ProgressUpdate) (progress : Progress),
      name ∉ us.map ProgressUpdate.stepName →
      (applyAll progress us).get? name = progress.get? name
  | [], _, _ => rfl
  | u :: us, progress, h => by
      rw [List.map_cons, List.mem_cons, not_or] at h
      show (applyAll (applyUpdate progress u) us).get? name = _
      rw [applyAll_get?_other us _ h.2, applyUpdate_get?_ne progress u h.1]

/-- A step named by one of the updates has the status that was sent. -/
theorem applyAll_status? {u : ProgressUpdate} :
    ∀ (us : List ProgressUpdate) (progress : Progress),
      (us.map ProgressUpdate.stepName).Nodup → u ∈ us → u.stepStatus ∈ sentStatusList →
      (applyAll progress us).status? u.stepName = some u.stepStatus
  | [], _, _, hu, _ => by cases hu
  | v :: us, progress, hnd, hu, hstatus => by
      rw [List.map_cons, List.nodup_cons] at hnd
      show (applyAll (applyUpdate progress v) us).status? u.stepName = _
      rcases List.mem_cons.mp hu with rfl | hu
      · -- its own update, and no later one touches the step
        rw [Progress.status?, applyAll_get?_other us _ hnd.1, applyUpdate_get?_self]
        exact applyStepDelta_status _ _ hstatus
      · exact applyAll_status? us _ hnd.2 hu hstatus

theorem done_of_allDone {progress : Progress} (h : allDone progress = true) {name : String}
    {info : StepInfo} (hget : progress.get? name = some info) : Finished progress name := by
  have hmem := (Dict.get?_eq_some_iff _ _ _).mp hget
  have hdone := List.all_eq_true.mp h info (List.mem_map.mpr ⟨_, hmem, rfl⟩)
  rw [Bool.or_eq_true, beq_iff_eq, beq_iff_eq] at hdone
  unfold Finished Progress.status?
  rw [hget]
  rcases hdone with hdone | hdone
  · exact ⟨.completed, hdone, .inl rfl⟩
  · exact ⟨.skipped, hdone, .inr rfl⟩

theorem allDone_of_finished {progress : Progress}
    (h : ∀ name info, progress.get? name = some info → Finished progress name) :
    allDone progress = true := by
  refine List.all_eq_true.mpr fun info hinfo => ?_
  obtain ⟨⟨name, info'⟩, hmem, rfl⟩ := List.mem_map.mp hinfo
  have hget : progress.get? name = some info' := (Dict.get?_eq_some_iff _ _ _).mpr hmem
  obtain ⟨status, hstatus, hdone⟩ := h name info' hget
  rw [Progress.status?, hget] at hstatus
  have hst : info'.status = some status := hstatus
  rw [Bool.or_eq_true, beq_iff_eq, beq_iff_eq, hst]
  rcases hdone with rfl | rfl
  · exact .inl rfl
  · exact .inr rfl

/-- The updates report only done steps, and cover every step stored unfinished. -/
structure CoversStored (progress : Progress) (us : List ProgressUpdate) : Prop where
  done : ∀ u ∈ us, Done u.stepStatus
  covered : ∀ name ∈ progress.keys, ¬ Finished progress name →
    name ∈ us.map ProgressUpdate.stepName

section Prefix

variable {us : List ProgressUpdate} (progress : Progress)

/-- A step is finished after the updates iff one reports it done, or it was before. -/
theorem finished_applyAll (hnd : (us.map ProgressUpdate.stepName).Nodup)
    (hsent : ∀ u ∈ us, u.stepStatus ∈ sentStatusList) (name : String) :
    Finished (applyAll progress us) name
      ↔ (∃ u ∈ us, u.stepName = name ∧ Done u.stepStatus)
        ∨ (name ∉ us.map ProgressUpdate.stepName ∧ Finished progress name) := by
  by_cases hname : name ∈ us.map ProgressUpdate.stepName
  · -- the status is the one that was sent, last and only
    obtain ⟨u, hu, rfl⟩ := List.mem_map.mp hname
    have hst := applyAll_status? us progress hnd hu (hsent u hu)
    constructor
    · rintro ⟨status, hstatus, hdone⟩
      rw [hst, Option.some.injEq] at hstatus
      exact .inl ⟨u, hu, rfl, hstatus ▸ hdone⟩
    · rintro (⟨v, hv, hvname, hdone⟩ | ⟨hnot, -⟩)
      · have hst' := applyAll_status? us progress hnd hv (hsent v hv)
        rw [hvname] at hst'
        exact ⟨_, hst', hdone⟩
      · exact absurd hname hnot
  · have hsame : (applyAll progress us).status? name = progress.status? name := by
      rw [Progress.status?, applyAll_get?_other us progress hname]
      rfl
    constructor
    · rintro ⟨status, hstatus, hdone⟩
      exact .inr ⟨hname, status, hsame ▸ hstatus, hdone⟩
    · rintro (⟨u, hu, huname, -⟩ | ⟨-, status, hstatus, hdone⟩)
      · exact absurd (List.mem_map.mpr ⟨u, hu, huname⟩) hname
      · exact ⟨status, hsame.trans hstatus, hdone⟩

/-- **The handler's test**, seen from the updates. -/
theorem allDone_applyAll (hnd : (us.map ProgressUpdate.stepName).Nodup)
    (hsent : ∀ u ∈ us, u.stepStatus ∈ sentStatusList) :
    allDone (applyAll progress us) = true ↔ CoversStored progress us := by
  constructor
  · intro hall
    refine ⟨fun u hu => ?_, fun name hkey hopen => ?_⟩
    · have hst := applyAll_status? us progress hnd hu (hsent u hu)
      obtain ⟨info, hinfo, hstatus⟩ := Option.bind_eq_some_iff.mp hst
      obtain ⟨status, hstatus', hdone⟩ := done_of_allDone hall hinfo
      rw [hst, Option.some.injEq] at hstatus'
      exact hstatus' ▸ hdone
    · -- a stored step that no update names is as it was
      by_contra hname
      obtain ⟨info, hinfo⟩ := (Dict.mem_keys_iff _ _).mp hkey
      have hafter : (applyAll progress us).get? name = some info :=
        (applyAll_get?_other us progress hname).trans hinfo
      rcases (finished_applyAll progress hnd hsent name).mp (done_of_allDone hall hafter) with
        ⟨u, hu, huname, -⟩ | ⟨-, hfin⟩
      · exact hname (List.mem_map.mpr ⟨u, hu, huname⟩)
      · exact hopen hfin
  · intro hcov
    refine allDone_of_finished fun name info hinfo => ?_
    rw [finished_applyAll progress hnd hsent]
    by_cases hname : name ∈ us.map ProgressUpdate.stepName
    · obtain ⟨u, hu, huname⟩ := List.mem_map.mp hname
      exact .inl ⟨u, hu, huname, hcov.done u hu⟩
    · rw [applyAll_get?_other us progress hname] at hinfo
      refine .inr ⟨hname, ?_⟩
      by_contra hopen
      exact hname (hcov.covered name ((Dict.mem_keys_iff _ _).mpr ⟨info, hinfo⟩) hopen)

end Prefix

/-! ## §3. The signal, seen from the updates. -/

section Signal

variable {sid pl : String}

/-- The store accepts updates of this pipeline of this session. -/
def Accepts (sid pl : String) (store : ProgressStore) : Prop :=
  pl ∈ validPipelineNames ∧ (store.sessions.get? sid).isSome

instance (sid pl : String) (store : ProgressStore) : Decidable (Accepts sid pl store) :=
  inferInstanceAs (Decidable (_ ∧ _))

/-- The command is an outcome sent for this pipeline of this session. -/
def SentFor (sid pl : String) (u : ProgressUpdate) : Prop :=
  u.sessionId = sid ∧ u.pipelineName = pl ∧ u.stepStatus ∈ sentStatusList

theorem deliver_sessions (store : ProgressStore) (d : Delivery) :
    (deliver store d).sessions = (handleUpdate store.sessions d.request).2 :=
  handleUpdateAsync_sessions d.env store d.request

theorem deliver_accepts {store : ProgressStore} (d : Delivery) :
    Accepts sid pl store → Accepts sid pl (deliver store d) := by
  rintro ⟨hpl, hs⟩
  refine ⟨hpl, ?_⟩
  rw [deliver_sessions]
  exact handleUpdate_get?_isSome _ _ _ hs

/-- The stored progress after handled commands is the fold of their deltas. -/
theorem deliverAll_progressOf :
    ∀ (ds : List Delivery) (store : ProgressStore), Accepts sid pl store →
      (∀ d ∈ ds, SentFor sid pl d.request) →
      progressOf (deliverAll store ds).sessions sid pl
        = applyAll (progressOf store.sessions sid pl) (ds.map Delivery.request)
  | [], _, _, _ => rfl
  | d :: ds, store, hacc, hsent => by
      obtain ⟨hsid, hpl, hstatus⟩ := hsent d List.mem_cons_self
      show progressOf (deliverAll (deliver store d) ds).sessions sid pl = _
      rw [deliverAll_progressOf ds _ (deliver_accepts d hacc)
        (fun d' hd' => hsent d' (List.mem_cons_of_mem _ hd')), deliver_sessions,
        handleUpdate_progressOf _ _ (hpl ▸ hacc.1) (sentStatusList_valid hstatus) (hsid ▸ hacc.2),
        if_pos ⟨hsid.symm, hpl.symm⟩]
      rfl

theorem acceptable_iff {store : ProgressStore} {u : ProgressUpdate} (hsent : SentFor sid pl u) :
    Acceptable store.sessions u ↔ Accepts sid pl store := by
  obtain ⟨rfl, rfl, hstatus⟩ := hsent
  exact ⟨fun h => ⟨h.1, h.2.2⟩, fun h => ⟨h.1, sentStatusList_valid hstatus, h.2⟩⟩

/-- An update that is not accepted leaves the stores as they are, and gives no signal. -/
theorem deliver_rejected {store : ProgressStore} {d : Delivery} (hsent : SentFor sid pl d.request)
    (hacc : ¬ Accepts sid pl store) : deliver store d = store ∧ ¬ Signals d store := by
  rcases handleUpdate_cases d.request store.sessions with ⟨hok, -⟩ | ⟨-, -, hno⟩
  · exact absurd ((acceptable_iff hsent).mp hok) hacc
  · have hnone : deliver store d = store
        ∧ ∀ response, (handleUpdateAsync d.env store d.request).1 ≠ .ok response := by
      unfold deliver handleUpdateAsync
      split
      next response sessions heq => exact absurd (congrArg Prod.fst heq) (hno response)
      next result sessions hnot heq => exact ⟨rfl, fun response h => hnot response h⟩
    refine ⟨hnone.1, ?_⟩
    rintro (⟨response, hok, -⟩ | ⟨events, hevents, e, he, -⟩)
    · exact hnone.2 response hok
    · rw [hnone.1] at hevents
      rw [List.self_eq_append_right.mp hevents] at he
      cases he

/-- No CloudEvent of an update announces completion unless all stored steps are done. -/
theorem not_announced {env : HandlerEnv} {u : ProgressUpdate} {progress : Progress}
    {e : CloudEvent} (he : e ∈ emitStepCloudEvent env u false progress) :
    e.isPipelineCompleted = false := by
  have hin := (List.takeWhile_prefix _).subset he
  -- only the event of the step itself is left, by its status
  unfold stepCloudEvents at hin
  simp only [Bool.false_eq_true, if_false, List.append_nil] at hin
  split at hin
  all_goals simp only [List.mem_singleton, List.not_mem_nil] at hin
  all_goals subst hin; rfl

/-- **An accepted update signals** exactly when all stored steps are done after it. -/
theorem signals_iff {store : ProgressStore} {d : Delivery} (hsent : SentFor sid pl d.request)
    (hacc : Accepts sid pl store) :
    Signals d store ↔ allDone (progressOf (deliver store d).sessions sid pl) = true := by
  have hok := (acceptable_iff hsent).mpr hacc
  rcases handleUpdate_cases d.request store.sessions with
    ⟨-, session, hget, progress, -, heq⟩ | ⟨hno, -⟩
  · obtain ⟨rfl, rfl, -⟩ := hsent
    -- the progress read back is the one that was tested and saved
    have hprog : progressOf (deliver store d).sessions d.request.sessionId
        d.request.pipelineName = progress := by
      rw [deliver_sessions, heq, progressOf_saveProgress _ _ _ _ _ hget, if_pos ⟨rfl, rfl⟩]
    have hfst : ∃ response, (handleUpdateAsync d.env store d.request).1 = .ok response
        ∧ response.pipelineComplete = allDone progress := by
      unfold handleUpdateAsync
      rw [heq]
      exact ⟨_, rfl, rfl⟩
    have hpub : (deliver store d).published = store.published
        ++ emitStepCloudEvent d.env d.request (allDone progress) progress := by
      rw [← hprog, deliver_sessions]
      unfold deliver handleUpdateAsync
      rw [heq]
    rw [hprog]
    obtain ⟨response, hresp, hcomplete⟩ := hfst
    constructor
    · rintro (⟨response', hok', hc⟩ | ⟨events, hevents, e, he, hpc⟩)
      · rw [hresp] at hok'
        injection hok' with hok'
        rw [← hcomplete, hok']
        exact hc
      · rw [hevents, List.append_cancel_left_eq] at hpub
        by_contra hnot
        rw [Bool.not_eq_true] at hnot
        rw [hpub, hnot] at he
        rw [not_announced he] at hpc
        cases hpc
    · intro hdone
      exact .inl ⟨response, hresp, hcomplete.trans hdone⟩
  · exact absurd hok hno

theorem deliverAll_snoc (store : ProgressStore) (ds : List Delivery) (d : Delivery) :
    deliverAll store (ds ++ [d]) = deliver (deliverAll store ds) d := by
  rw [deliverAll, List.foldl_append]
  rfl

theorem deliverAll_accepts :
    ∀ (ds : List Delivery) {store : ProgressStore}, Accepts sid pl store →
      Accepts sid pl (deliverAll store ds)
  | [], _, hacc => hacc
  | d :: ds, _, hacc => deliverAll_accepts ds (deliver_accepts d hacc)

theorem deliverAll_rejected :
    ∀ (ds : List Delivery) {store : ProgressStore}, ¬ Accepts sid pl store →
      (∀ d ∈ ds, SentFor sid pl d.request) → deliverAll store ds = store
  | [], _, _, _ => rfl
  | d :: ds, store, hacc, hsent => by
      show deliverAll (deliver store d) ds = store
      rw [(deliver_rejected (hsent d List.mem_cons_self) hacc).1]
      exact deliverAll_rejected ds hacc fun d' hd' => hsent d' (List.mem_cons_of_mem _ hd')

/-- **The signal after a prefix** of commands about distinct steps. -/
theorem signals_prefix {store : ProgressStore} {before : List Delivery} {d : Delivery}
    (hsent : ∀ d' ∈ before ++ [d], SentFor sid pl d'.request)
    (hnd : ((before ++ [d]).map fun d' => d'.request.stepName).Nodup) :
    Signals d (deliverAll store before)
      ↔ Accepts sid pl store
        ∧ CoversStored (progressOf store.sessions sid pl)
          ((before ++ [d]).map Delivery.request) := by
  have hd : SentFor sid pl d.request := hsent d (by simp)
  have hbefore : ∀ d' ∈ before, SentFor sid pl d'.request :=
    fun d' hd' => hsent d' (List.mem_append_left _ hd')
  by_cases hacc : Accepts sid pl store
  · rw [signals_iff hd (deliverAll_accepts before hacc), ← deliverAll_snoc,
      deliverAll_progressOf _ store hacc hsent, allDone_applyAll]
    · exact ⟨fun h => ⟨hacc, h⟩, fun h => h.2⟩
    · rw [List.map_map]
      exact hnd
    · intro u hu
      obtain ⟨d', hd', rfl⟩ := List.mem_map.mp hu
      exact (hsent d' hd').2.2
  · rw [deliverAll_rejected before hacc hbefore]
    exact ⟨fun h => absurd h (deliver_rejected hd hacc).2, fun h => absurd h.1 hacc⟩

end Signal

/-! ## §4. Runs report each step once. -/

theorem count_sentUpdates (n : String) :
    ∀ tr : Trace, ((sentUpdates tr).map ProgressUpdate.stepName).count n = (updatesOf n tr).length
  | [] => rfl
  | e :: tr => by
      have ih := count_sentUpdates n tr
      cases hu : persistedUpdate e with
      | none =>
          have hcons : sentUpdates (e :: tr) = sentUpdates tr := by
            unfold sentUpdates
            rw [List.filterMap_cons_none]
            rw [hu]
            rfl
          rw [hcons, updatesOf_cons_none hu]
          exact ih
      | some su =>
          obtain ⟨site, u⟩ := su
          have hcons : sentUpdates (e :: tr) = u :: sentUpdates tr := by
            unfold sentUpdates
            rw [List.filterMap_cons_some]
            rw [hu]
            rfl
          rw [hcons, updatesOf_cons_some hu, List.map_cons, List.count_cons, ih]
          by_cases hn : u.stepName = n
          · simp [hn]
          · simp [hn]

/-- A report has at most one update. -/
theorem updates_le_one {rt : Runtime} {prev : Option StepInfo} {step : StepDef} {events : Trace}
    (h : Report rt prev step events) : (events.filterMap persistedUpdate).length ≤ 1 := by
  cases h with
  | nothing => simp
  | aborted => simp [persistedUpdate_persistEvent]
  | whenSkipped hnew => simp [persistedUpdate_persistEvent]
  | @ran attempts st site status rd err hnew isAttempt finish =>
      have hnone : attempts.filterMap persistedUpdate = [] :=
        List.filterMap_eq_nil_iff.mpr fun e he => (isAttempt e he).persistedUpdate_eq
      rw [List.filterMap_append, hnone]
      simp [persistedUpdate_persistEvent]

/-- **A run reports each step at most once.** -/
theorem IsDeliveredRun.distinct {sid pl : String} {r : DeliveredRun}
    (run : IsDeliveredRun sid pl r) :
    ((sentUpdates r.tr).map ProgressUpdate.stepName).Nodup := by
  obtain ⟨tr', out, hrun⟩ := run.reaches.extend
  obtain ⟨hreport, -⟩ := execute_report run.sound hrun
  rw [List.nodup_iff_count_le_one]
  intro n
  by_cases hn : n ∈ (sentUpdates r.tr).map ProgressUpdate.stepName
  · obtain ⟨u, hu, rfl⟩ := List.mem_map.mp hn
    obtain ⟨-, -, -, s, hs, hname⟩ := run.sent hu
    have hone := updates_le_one (hreport s hs)
    -- of the whole run, and so of the part that was made
    have hall : (updatesOf s.name (r.tr ++ tr')).length ≤ 1 := hone
    rw [updatesOf_append, List.length_append] at hall
    rw [count_sentUpdates, hname]
    omega
  · rw [List.count_eq_zero.mpr hn]
    omega

/-! ## §5. When the signal is right. -/

/-- Some prefix of the updates reports only completed or skipped steps and covers the steps
stored unfinished, although a step of the definition is still missing, or the run goes on
with another completed or skipped step. -/
def CompletesEarly (pipeline : PipelineDef) (sid pl : String) (store : ProgressStore)
    (us : List ProgressUpdate) : Prop :=
  Accepts sid pl store ∧ ∃ before u after, us = before ++ u :: after
    ∧ CoversStored (progressOf store.sessions sid pl) (before ++ [u])
    ∧ ((∃ s ∈ pipeline.steps, s.name ∉ (before ++ [u]).map ProgressUpdate.stepName
          ∧ ¬ Finished (progressOf store.sessions sid pl) s.name)
      ∨ ∃ v rest, after = v :: rest ∧ Done v.stepStatus)

section Run

variable {sid pl : String} {store : ProgressStore} {r : DeliveredRun}
  (run : IsDeliveredRun sid pl r)

include run

theorem IsDeliveredRun.sentFor {d : Delivery} (hd : d ∈ r.deliveries) :
    SentFor sid pl d.request := by
  obtain ⟨hsid, hpl, hstatus, -⟩ := run.sent (run.request hd)
  exact ⟨hsid, hpl, hstatus⟩

theorem IsDeliveredRun.deliveries_distinct :
    (r.deliveries.map fun d => d.request.stepName).Nodup := by
  have hdistinct := run.distinct
  rw [← run.delivered, List.map_map] at hdistinct
  exact hdistinct

variable {before after : List Delivery} {d : Delivery}

/-- The signal of a command of the run, in terms of the updates up to it. -/
theorem IsDeliveredRun.signals_split (hsplit : r.deliveries = before ++ d :: after) :
    Signals d (deliverAll store before)
      ↔ Accepts sid pl store
        ∧ CoversStored (progressOf store.sessions sid pl)
          ((before ++ [d]).map Delivery.request) := by
  have hsub : (before ++ [d]) <+: r.deliveries := ⟨after, by simp [hsplit]⟩
  exact signals_prefix (fun d' hd' => run.sentFor (hsub.subset hd'))
    ((hsub.sublist.map _).nodup run.deliveries_distinct)

/-- What is finished after a command of the run. -/
theorem IsDeliveredRun.finished_split (hsplit : r.deliveries = before ++ d :: after)
    (hacc : Accepts sid pl store) (name : String) :
    Finished (progressOf (deliverAll store (before ++ [d])).sessions sid pl) name
      ↔ (∃ u ∈ (before ++ [d]).map Delivery.request, u.stepName = name ∧ Done u.stepStatus)
        ∨ (name ∉ ((before ++ [d]).map Delivery.request).map ProgressUpdate.stepName
          ∧ Finished (progressOf store.sessions sid pl) name) := by
  have hsub : (before ++ [d]) <+: r.deliveries := ⟨after, by simp [hsplit]⟩
  rw [deliverAll_progressOf _ store hacc fun d' hd' => run.sentFor (hsub.subset hd')]
  refine finished_applyAll _ ?_ ?_ name
  · rw [List.map_map]
    exact (hsub.sublist.map _).nodup run.deliveries_distinct
  · intro u hu
    obtain ⟨d', hd', rfl⟩ := List.mem_map.mp hu
    exact (run.sentFor (hsub.subset hd')).2.2

/-- A run that completes early gives a wrong signal, or a second one. -/
theorem IsDeliveredRun.not_completionSignal
    (hearly : CompletesEarly r.pipeline sid pl store (sentUpdates r.tr)) :
    ¬ CompletionSignal r.pipeline sid pl store r.deliveries := by
  obtain ⟨hacc, before, u, after, hsplit, hcov, hwhy⟩ := hearly
  intro hright
  rw [← run.delivered] at hsplit
  obtain ⟨dbefore, drest, hds, rfl, hrest⟩ := List.map_eq_append_iff.mp hsplit
  obtain ⟨d, dafter, rfl, rfl, rfl⟩ := List.map_eq_cons_iff.mp hrest
  have hcov' : CoversStored (progressOf store.sessions sid pl)
      ((dbefore ++ [d]).map Delivery.request) := by
    rw [List.map_append]
    exact hcov
  have hsig := (run.signals_split hds).mpr ⟨hacc, hcov'⟩
  rcases hwhy with ⟨s, hs, hmissing, hopen⟩ | ⟨v, rest, hafter, hdone⟩
  · -- the missing step is not finished, whatever the signal says
    have hfin := (run.finished_split hds hacc s.name).mp
      (hright.sound dbefore d dafter hds hsig s hs)
    rw [List.map_append] at hfin
    rcases hfin with ⟨w, hw, hname, -⟩ | ⟨-, hfin⟩
    · exact hmissing (List.mem_map.mpr ⟨w, hw, hname⟩)
    · exact hopen hfin
  · -- the next update completes the pipeline once more
    obtain ⟨d', drest', rfl, rfl, -⟩ := List.map_eq_cons_iff.mp hafter
    have hds' : r.deliveries = (dbefore ++ [d]) ++ d' :: drest' := by
      rw [hds]
      simp
    refine hright.once dbefore d [] d' drest' hds hsig
      ((run.signals_split hds').mpr ⟨hacc, ?_, ?_⟩)
    · intro w hw
      rw [List.map_append] at hw
      rcases List.mem_append.mp hw with hw | hw
      · exact hcov'.done w hw
      · rw [List.map_singleton, List.mem_singleton] at hw
        exact hw ▸ hdone
    · intro name hkey hopen
      rw [List.map_append, List.map_append]
      exact List.mem_append_left _ (hcov'.covered name hkey hopen)

/-- In a run that does not complete early, a signal finds every step finished. -/
theorem IsDeliveredRun.sound_of_not_early
    (hnot : ¬ CompletesEarly r.pipeline sid pl store (sentUpdates r.tr))
    (hsplit : r.deliveries = before ++ d :: after) (hsig : Signals d (deliverAll store before))
    {s : StepDef} (hs : s ∈ r.pipeline.steps) :
    Finished (progressOf (deliverAll store (before ++ [d])).sessions sid pl) s.name := by
  obtain ⟨hacc, hcov⟩ := (run.signals_split hsplit).mp hsig
  rw [run.finished_split hsplit hacc]
  by_contra hopen
  rw [not_or] at hopen
  -- the step is not named: all named ones are done, as the signal covers them
  have hmissing : s.name ∉ ((before ++ [d]).map Delivery.request).map
      ProgressUpdate.stepName := by
    intro hin
    obtain ⟨u, hu, hname⟩ := List.mem_map.mp hin
    exact hopen.1 ⟨u, hu, hname, hcov.done u hu⟩
  refine hnot ⟨hacc, before.map Delivery.request, d.request, after.map Delivery.request,
    ?_, ?_, .inl ⟨s, hs, ?_, fun hfin => hopen.2 ⟨hmissing, hfin⟩⟩⟩
  · rw [← run.delivered, hsplit, List.map_append, List.map_cons]
  · rw [List.map_append] at hcov
    exact hcov
  · rw [List.map_append] at hmissing
    exact hmissing

/-- In a run that does not complete early, no second signal follows. -/
theorem IsDeliveredRun.once_of_not_early
    (hnot : ¬ CompletesEarly r.pipeline sid pl store (sentUpdates r.tr))
    {mid : List Delivery} {d' : Delivery}
    (hsplit : r.deliveries = before ++ d :: (mid ++ d' :: after))
    (hsig : Signals d (deliverAll store before)) :
    ¬ Signals d' (deliverAll store (before ++ d :: mid)) := by
  intro hsig'
  obtain ⟨hacc, hcov⟩ := (run.signals_split hsplit).mp hsig
  have hsplit' : r.deliveries = (before ++ d :: mid) ++ d' :: after := by
    rw [hsplit]
    simp
  obtain ⟨-, hcov'⟩ := (run.signals_split hsplit').mp hsig'
  -- the update after the first signal is done, since the second signal covers it
  obtain ⟨v, rest, hnext, hv⟩ : ∃ v rest, mid ++ d' :: after = v :: rest
      ∧ v ∈ before ++ d :: mid ++ [d'] := by
    cases mid with
    | nil => exact ⟨d', after, rfl, by simp⟩
    | cons v mid => exact ⟨v, mid ++ d' :: after, rfl, by simp⟩
  refine hnot ⟨hacc, before.map Delivery.request, d.request, (v :: rest).map Delivery.request,
    ?_, ?_, .inr ⟨v.request, rest.map Delivery.request, rfl, ?_⟩⟩
  · rw [← run.delivered, hsplit, hnext, List.map_append, List.map_cons]
  · rw [List.map_append] at hcov
    exact hcov
  · exact hcov'.done _ (List.mem_map_of_mem hv)

/-- From a store without progress the run completes early exactly when its first update is
done and the definition has another step. -/
theorem IsDeliveredRun.completesEarly_fresh_iff
    (hfresh : progressOf store.sessions sid pl = Dict.empty) :
    CompletesEarly r.pipeline sid pl store (sentUpdates r.tr)
      ↔ Accepts sid pl store ∧ ∃ u rest, sentUpdates r.tr = u :: rest ∧ Done u.stepStatus
        ∧ ∃ s ∈ r.pipeline.steps, s.name ≠ u.stepName := by
  -- nothing is stored, so nothing is finished and nothing is to be covered
  have hopen : ∀ name, ¬ Finished (progressOf store.sessions sid pl) name := by
    rintro name ⟨status, hstatus, -⟩
    rw [hfresh] at hstatus
    cases hstatus
  constructor
  · rintro ⟨hacc, before, u, after, hsplit, hcov, hwhy⟩
    refine ⟨hacc, ?_⟩
    obtain ⟨w, tail, hw⟩ : ∃ w tail, before ++ [u] = w :: tail := by
      cases before with
      | nil => exact ⟨u, [], rfl⟩
      | cons w before => exact ⟨w, before ++ [u], rfl⟩
    have hus : sentUpdates r.tr = w :: (tail ++ after) := by
      rw [hsplit, ← List.cons_append, ← hw]
      simp
    refine ⟨w, tail ++ after, hus, hcov.done w (by rw [hw]; simp), ?_⟩
    rcases hwhy with ⟨s, hs, hmissing, -⟩ | ⟨v, rest, rfl, -⟩
    · refine ⟨s, hs, ?_⟩
      rintro heq
      rw [hw, heq] at hmissing
      exact hmissing (by simp)
    · -- the next update is about another step, as every step is reported once
      obtain ⟨-, -, -, s, hs, hname⟩ := run.sent (u := v) (by rw [hus]; simp)
      refine ⟨s, hs, ?_⟩
      rw [← hname]
      have hnd := run.distinct
      rw [hus, List.map_cons, List.nodup_cons] at hnd
      intro heq
      exact hnd.1 (heq ▸ List.mem_map_of_mem (by simp))
  · rintro ⟨hacc, u, rest, hus, hdone, s, hs, hname⟩
    refine ⟨hacc, [], u, rest, hus, ⟨?_, ?_⟩, .inl ⟨s, hs, by simpa using hname, hopen _⟩⟩
    · intro v hv
      rw [List.nil_append, List.mem_singleton] at hv
      exact hv ▸ hdone
    · intro name hkey
      rw [hfresh] at hkey
      cases hkey

end Run

/-- **The completion signal of a run is right** iff the run does not complete early. -/
theorem completion_signal_iff (sid pl : String) (store : ProgressStore) (r : DeliveredRun)
    (run : IsDeliveredRun sid pl r) :
    CompletionSignal r.pipeline sid pl store r.deliveries
      ↔ ¬ CompletesEarly r.pipeline sid pl store (sentUpdates r.tr) := by
  constructor
  · intro hright hearly
    exact run.not_completionSignal hearly hright
  · intro hnot
    refine ⟨?_, ?_⟩
    · intro before d after hsplit hsig s hs
      exact run.sound_of_not_early hnot hsplit hsig hs
    · intro before d mid d' after hsplit hsig
      exact run.once_of_not_early hnot hsplit hsig

/-- Import a lab, then boot it. -/
def importThenBoot : PipelineDef :=
  { steps := [{ name := "import_lab" }, { name := "boot_lab", needs := ["import_lab"] }] }

/-- **Complete after one step of two**: the first update already says so. -/
theorem first_step_completes_pipeline :
    (soloRun importThenBoot (.returned Dict.empty)).deliveries.map
        (fun d => (d.request.stepName, d.request.stepStatus))
          = [("import_lab", .completed), ("boot_lab", .completed)]
      ∧ ¬ CompletionSignal importThenBoot "s1" "instantiate" { sessions := newSession }
        (soloRun importThenBoot (.returned Dict.empty)).deliveries := by
  refine ⟨by decide, ?_⟩
  have run := soloRun_isDeliveredRun importThenBoot (.returned Dict.empty)
  refine run.not_completionSignal ((run.completesEarly_fresh_iff rfl).mpr
    ⟨by decide, _, _, rfl, by decide, { name := "boot_lab", needs := ["import_lab"] }, ?_, ?_⟩)
  · show _ ∈ importThenBoot.steps
    simp [importThenBoot]
  · decide

theorem completion_signal_iff_solo :
    CompletionSignal oneStep "s1" "instantiate" { sessions := newSession }
        (soloRun oneStep (.returned Dict.empty)).deliveries
      ↔ ¬ CompletesEarly oneStep "s1" "instantiate" { sessions := newSession }
        (sentUpdates (soloRun oneStep (.returned Dict.empty)).tr) :=
  completion_signal_iff "s1" "instantiate" { sessions := newSession }
    (soloRun oneStep (.returned Dict.empty)) (soloRun_isDeliveredRun oneStep _)

end CmlCloudManager.ControlPlane
