/-
  CmlCloudManager.ControlPlane.ResumeEquivalence
  ──────────────────────────────────────────────
  **RESUMING AGAINST NOT BEING INTERRUPTED.**

  A `Workload` is what does not change from run to run: the pipeline, its context,
  and a dispatcher that answers by handler name and params.  `Interrupted` are the
  histories of such a workload, cut at any call and resumed any number of times; a
  step that suspends is completed by `ResumePipelineStep`.

  Each run has an order of its own, so that a `skip_when` can come to another
  decision than in the uninterrupted run.  Where it does not (`Decided`), what comes
  of a step is fixed, and it is enough to know what a stored record says about that.
  `Kept` is the invariant: all records say it, or one does that is LOSSY,

    • completed with an empty `result_data` (resuming does not restore it),
    • completed by a callback with data that read as another status,
    • skipped by its handler (the data are not persisted with the skip),

  and the run from the stored progress equals the uninterrupted one exactly when
  there is none (`resume_equivalence`).
-/
import CmlCloudManager.ControlPlane.PersistedRuns
import CmlCloudManager.Pipeline.Verdicts

namespace CmlCloudManager.ControlPlane

open CmlCloudManager.Foundation
open CmlCloudManager.Pipeline

/-! ## §1. Deterministic dispatchers. -/

/-- A dispatcher that looks at the handler name and the params only. -/
def byHandler (dispatcher : String → Option Payload → DispatchOutcome) :
    DispatchRequest → DispatchOutcome :=
  fun request => dispatcher request.handlerName request.params

/-- The same, except that a step that would suspend returns the data it is resumed with. -/
def directly (dispatcher : String → Option Payload → DispatchOutcome) (resumed : String → Payload) :
    DispatchRequest → DispatchOutcome :=
  fun request =>
    match dispatcher request.handlerName request.params with
    | .returned result =>
        .returned (if handlerStatus result = .suspended then resumed request.stepName else result)
    | other => other

/-- The result dict of a step. -/
def answer (dispatcher : String → Option Payload → DispatchOutcome) (step : StepDef) :
    Option Payload :=
  if step.maxAttempts.toNat = 0 then none
  else (dispatcher step.handlerName step.params).result?

/-- The result dict of a step that does not wait for its resumption. -/
def directAnswer (dispatcher : String → Option Payload → DispatchOutcome)
    (resumed : String → Payload) (step : StepDef) : Option Payload :=
  (answer dispatcher step).map fun result =>
    if handlerStatus result = .suspended then resumed step.name else result

section Answers

variable (dispatcher : String → Option Payload → DispatchOutcome) (resumed : String → Payload)

theorem byHandler_replies : Replies (byHandler dispatcher) (answer dispatcher) :=
  fun _ _ _ => rfl

/-- A value that is not a dict is wrapped, and does not suspend. -/
theorem handlerStatus_single (v : Value) :
    handlerStatus (Payload.single "result" v) = .completed := by
  have hnone : (Payload.single "result" v).get "status" = .none := rfl
  rw [handlerStatus, hnone]
  rfl

theorem directly_replies :
    Replies (directly dispatcher resumed) (directAnswer dispatcher resumed) := by
  intro step st attempt
  unfold directAnswer answer
  split
  next => rfl
  next =>
    show _ = (match dispatcher step.handlerName step.params with
      | .returned result =>
          .returned (if handlerStatus result = .suspended then resumed step.name else result)
      | other => other : DispatchOutcome).result?
    cases dispatcher step.handlerName step.params with
    | returned result => rfl
    | returnedOther v =>
        show some (if handlerStatus (Payload.single "result" v) = .suspended then _ else _) = _
        rw [handlerStatus_single]
        rfl
    | raised message => rfl
    | timedOut => rfl

/-- The two verdicts on a step agree unless it suspends. -/
theorem judge_direct (rt : Runtime) (step : StepDef) (data : Dict String Payload) :
    judge rt (directAnswer dispatcher resumed) step data
      = match judge rt (answer dispatcher) step data with
        | .returned result =>
            .returned (if handlerStatus result = .suspended then resumed step.name else result)
        | v => v := by
  unfold judge directAnswer
  cases shouldSkip rt step data with
  | error e => rfl
  | ok skip =>
      cases skip with
      | true => rfl
      | false => cases answer dispatcher step <;> rfl

theorem judge_direct_eq {rt : Runtime} {step : StepDef} {data : Dict String Payload}
    (h : (judge rt (answer dispatcher) step data).status ≠ some .suspended) :
    judge rt (directAnswer dispatcher resumed) step data
      = judge rt (answer dispatcher) step data := by
  rw [judge_direct]
  split
  next result hj =>
    rw [hj] at h
    have hne : handlerStatus result ≠ .suspended := by
      intro hsus
      exact h (by simp [Verdict.status, hsus])
    rw [if_neg hne, hj]
  next => rfl

end Answers

/-! ## §2. Interrupted histories. -/

/-- What stays the same from run to run, and the sorter of the uninterrupted run.  The context
starts without steps data, and no required step fails. -/
structure Workload where
  pipeline : PipelineDef
  pipelineName : String
  rt : Runtime
  sorter : Sorter
  dispatcher : String → Option Payload → DispatchOutcome
  /-- The `result_data` of a suspended step once it is resumed. -/
  resumed : String → Payload
  sound : sorter.Sound
  complete : sorter.Complete
  dag : IsDag pipeline.steps
  named : rt.pipelineName = some pipelineName
  valid : pipelineName ∈ validPipelineNames
  fresh : rt.context.stepsData = Dict.empty
  required : ∀ s ∈ pipeline.steps, s.optional = false →
    ∃ result, answer dispatcher s = some result ∧ handlerStatus result ≠ .failed

namespace Workload

variable (W : Workload)

def sessionId : String := W.rt.context.sessionId

/-- The context of a run that starts at `now`. -/
def runtime (now : String) : Runtime := { W.rt with now := now }

/-- The progress the control plane has. -/
def stored (repo : SessionRepository) : Progress := progressOf repo W.sessionId W.pipelineName

/-- `execute` from the stored progress. -/
def run (sorter : Sorter) (now : String) (repo : SessionRepository) :
    Trace × Except ExecuteError PipelineResult :=
  (execute (W.runtime now) sorter W.pipeline
    (existingProgress repo W.sessionId W.pipelineName)).runWith (answering (byHandler W.dispatcher))

/-- The acting part of that run: its calls and its final state. -/
def loop (sorter : Sorter) (now : String) (repo : SessionRepository) :
    Trace × Except ExecuteError ExecState :=
  (runPipeline (W.runtime now) sorter W.pipeline.steps
    (existingProgress repo W.sessionId W.pipelineName)).runWith (answering (byHandler W.dispatcher))

/-- `execute` without existing progress, no step waiting for its resumption. -/
def uninterrupted : Trace × Except ExecuteError PipelineResult :=
  (execute W.rt W.sorter W.pipeline none).runWith (answering (directly W.dispatcher W.resumed))

/-- The acting part of the uninterrupted run. -/
def ideal : Trace × Except ExecuteError ExecState :=
  (runPipeline W.rt W.sorter W.pipeline.steps none).runWith
    (answering (directly W.dispatcher W.resumed))

end Workload

/-- **The histories of a workload**: the store, and the calls of the runs so far, each of them
with a sorter that meets `Cond`. -/
inductive Interrupted (W : Workload) (Cond : Sorter → Prop) : SessionRepository → Trace → Prop where
  | start {repo} (session : (repo.get? W.sessionId).isSome)
      (empty : W.stored repo = Dict.empty) : Interrupted W Cond repo []
  /-- A run from the stored progress is cut after `n` calls (or ends before that). -/
  | cut {repo past} (before : Interrupted W Cond repo past) (sorter : Sorter)
      (sound : sorter.Sound) (hcond : Cond sorter) (now : String) (n : Nat) :
      Interrupted W Cond (persistTrace repo ((W.run sorter now repo).1.take n))
        (past ++ (W.run sorter now repo).1.take n)
  /-- `ResumePipelineStep` completes the suspended step it finds with that step's data. -/
  | resume {repo past} (before : Interrupted W Cond repo past) (now : String)
      (request : ResumePipelineStepCommand)
      (hdata : request.sessionId = W.sessionId → request.pipelineName = W.pipelineName →
        ∀ n info, findByCorrelation (W.stored repo) request.stepCorrelationId = some (n, info) →
          info.status = some .suspended →
          (info.resultData.getD Dict.empty).update request.outputData = W.resumed n) :
      Interrupted W Cond (handleResume now repo request).2 past

/-- The run from the stored progress ends with the statuses, the steps data and the outputs
of the uninterrupted one. -/
def SameOutcome (W : Workload) (sorter : Sorter) (now : String) (repo : SessionRepository) :
    Prop :=
  ∃ final ideal, (W.loop sorter now repo).2 = .ok final ∧ W.ideal.2 = .ok ideal
    ∧ (∀ n, final.stepStatuses.get? n = ideal.stepStatuses.get? n)
    ∧ (∀ n, final.stepsData.get? n = ideal.stepsData.get? n)
    ∧ (W.run sorter now repo).2.map PipelineResult.outputs
      = W.uninterrupted.2.map PipelineResult.outputs

/-! ## §3. What is lost. -/

/-- The stored `result_data` of a step. -/
def storedData (p : Progress) (n : String) : Payload :=
  ((p.get? n).bind StepInfo.resultData).getD Dict.empty

/-- A run persisted the step as skipped because its handler said so. -/
def SkippedByHandler (past : Trace) (n : String) : Prop :=
  ∃ sent ∈ updatesOf n past, sent.1 = PersistSite.handlerSkipped

instance (past : Trace) (n : String) : Decidable (SkippedByHandler past n) :=
  inferInstanceAs (Decidable (∃ sent ∈ updatesOf n past, sent.1 = PersistSite.handlerSkipped))

/-- A step whose record does not give back what the step did. -/
def Lossy (p : Progress) (past : Trace) (n : String) : Prop :=
  (p.status? n = some .completed
      ∧ ((storedData p n).isEmpty = true ∨ handlerStatus (storedData p n) ≠ .completed))
    ∨ SkippedByHandler past n

instance (p : Progress) (past : Trace) (n : String) : Decidable (Lossy p past n) :=
  inferInstanceAs (Decidable (_ ∨ _))

/-! ## §4. What the orders agree on. -/

namespace Workload

/-- The result dicts the runs get. -/
def answers (W : Workload) : StepDef → Option Payload := answer W.dispatcher

/-- The result dicts the uninterrupted run gets. -/
def direct (W : Workload) : StepDef → Option Payload := directAnswer W.dispatcher W.resumed

/-- Along this order, `skips` is the decision each `skip_when` comes to on the results of the
steps before it. -/
def DecidedAlong (W : Workload) (skips : StepDef → Bool) (ordered : List StepDef) : Prop :=
  ∀ done s rest b, ordered = done ++ s :: rest → booksAfter W.rt W.direct done = some b →
    shouldSkip W.rt s b.data = .ok (skips s)

/-- The same, along the order that the sorter gives a run. -/
def Decided (W : Workload) (skips : StepDef → Bool) (sorter : Sorter) : Prop :=
  ∀ ordered, resolveDag sorter W.pipeline.steps = .ok ordered → W.DecidedAlong skips ordered

/-- What comes of a step when its `skip_when` is decided. -/
def verdict (W : Workload) (skips : StepDef → Bool) (s : StepDef) : Verdict :=
  if skips s then .passed
  else
    match W.direct s with
    | none => .failed
    | some result => .returned result

variable {W : Workload} {skips : StepDef → Bool} {ordered : List StepDef}

theorem verdict_eq {s : StepDef} {data : Dict String Payload}
    (h : shouldSkip W.rt s data = .ok (skips s)) :
    judge W.rt W.direct s data = W.verdict skips s := by
  unfold judge verdict
  rw [h]
  cases skips s <;> rfl

theorem DecidedAlong.fixed (h : W.DecidedAlong skips ordered) :
    FixedVerdicts W.rt W.direct (W.verdict skips) ordered :=
  fun done s rest b hsplit hb => verdict_eq (h done s rest b hsplit hb)

/-- Without a `skip_when` there is nothing to decide. -/
theorem decided_of_no_skipWhen (h : ∀ s ∈ W.pipeline.steps, s.skipWhen = none) {sorter : Sorter}
    (sound : sorter.Sound) : W.Decided (fun _ => false) sorter := by
  rintro ordered hord done s rest b rfl -
  have hmem : s ∈ W.pipeline.steps := (validOrder_of_resolveDag sound hord).mem_steps (by simp)
  unfold shouldSkip
  rw [h s hmem]

/-- A definition that is accepted is ordered by every sorter. -/
theorem exists_order (W : Workload) {sorter : Sorter} (sound : sorter.Sound)
    (complete : sorter.Complete) : ∃ ordered, resolveDag sorter W.pipeline.steps = .ok ordered :=
  (resolveDag_accepts_iff sound complete _).mpr W.dag

end Workload

/-! ## §5. The invariant of the store. -/

/-- What the record of a step says of the uninterrupted verdict on it. -/
structure RecordOf (W : Workload) (p : Progress) (past : Trace) (s : StepDef) (v : Verdict) :
    Prop where
  completed : p.status? s.name = some .completed → v = .returned (storedData p s.name)
  skipped : p.status? s.name = some .skipped → ¬ SkippedByHandler past s.name → v = .passed
  handled : SkippedByHandler past s.name →
    ∃ result, v = .returned result ∧ handlerStatus result = .skipped
  suspended : p.status? s.name = some .suspended → v = .returned (W.resumed s.name)

/-- A step that is stored with this status is not run again. -/
def Settling (status : Option StepStatus) : Prop :=
  status = some .completed ∨ status = some .skipped ∨ status = some .suspended

/-- Every record says what comes of its step, and none is lossy. -/
structure Clean (W : Workload) (skips : StepDef → Bool) (p : Progress) (past : Trace) : Prop where
  records : ∀ s ∈ W.pipeline.steps, RecordOf W p past s (W.verdict skips s)
  lossless : ∀ s ∈ W.pipeline.steps, ¬ Lossy p past s.name

/-- **The store agrees with the uninterrupted run**, up to a step that is lossy. -/
structure Kept (W : Workload) (skips : StepDef → Bool) (p : Progress) (past : Trace) : Prop where
  state : Clean W skips p past ∨ ∃ s ∈ W.pipeline.steps, Lossy p past s.name
    ∧ RecordOf W p past s (W.verdict skips s)
  /-- A record that is not resumed carries no data. -/
  plain : ∀ n info, p.get? n = some info → ¬ Settling (p.status? n) → info.resultData = none
  skipped : ∀ n, SkippedByHandler past n → p.status? n = some .skipped

/-- As long as every record says what comes of its step, a lossy one does. -/
theorem clean_or_lossy {W : Workload} {skips : StepDef → Bool} {p : Progress} {past : Trace}
    (records : ∀ s ∈ W.pipeline.steps, RecordOf W p past s (W.verdict skips s)) :
    Clean W skips p past ∨ ∃ s ∈ W.pipeline.steps, Lossy p past s.name
      ∧ RecordOf W p past s (W.verdict skips s) := by
  by_cases h : ∃ s ∈ W.pipeline.steps, Lossy p past s.name
  · obtain ⟨s, hs, hlossy⟩ := h
    exact .inr ⟨s, hs, hlossy, records s hs⟩
  · exact .inl ⟨records, fun s hs hlossy => h ⟨s, hs, hlossy⟩⟩

section Simulation

variable {W : Workload} {skips : StepDef → Bool} {sorter : Sorter} {ordered : List StepDef}
  {repo : SessionRepository} {past : Trace} {now : String} {s : StepDef} {st st' : ExecState}
  {own : Trace} {exit : StepExit}

/-- The existing progress of a run. -/
def Workload.index (W : Workload) (repo : SessionRepository) : Dict String StepInfo :=
  resumeStatuses (existingProgress repo W.sessionId W.pipelineName)

theorem index_get? {n : String} {info : StepInfo} (h : (W.index repo).get? n = some info) :
    (W.stored repo).get? n = some info ∧ info.status = (W.stored repo).status? n
      ∧ info.resumeStatus = (W.stored repo).status? n := by
  have hget := h
  rw [Workload.index, existingProgress_get?, Option.filter_eq_some_iff] at hget
  have hstatus : (W.stored repo).status? n = info.status := by
    rw [Progress.status?, Workload.stored, hget.1]
    rfl
  refine ⟨hget.1, hstatus.symm, ?_⟩
  have hres := resumeStatus_existing repo W.sessionId W.pipelineName n
  rw [Workload.index] at h
  rw [h] at hres
  exact hres

theorem storedData_eq {p : Progress} {n : String} {info : StepInfo} (h : p.get? n = some info) :
    storedData p n = info.resultData.getD Dict.empty := by
  rw [storedData, h]
  rfl

/-- What resuming a step enters in the books. -/
theorem resumeStep_books {info : StepInfo} (h : resumeStep s st info = some (.next st')) :
    (info.resumeStatus = some .completed
        ∧ st'.books = ⟨st.stepStatuses.set s.name .completed,
            if (info.resultData.getD Dict.empty).isEmpty then st.stepsData
            else st.stepsData.set s.name (info.resultData.getD Dict.empty)⟩)
      ∨ (info.resumeStatus = some .skipped
        ∧ st'.books = ⟨st.stepStatuses.set s.name .skipped, st.stepsData⟩) := by
  unfold resumeStep at h
  split at h
  next hst =>
    injection h with h
    injection h with h
    refine .inl ⟨hst, ?_⟩
    rw [← h]
    split <;> rfl
  next hst =>
    injection h with h
    injection h with h
    refine .inr ⟨hst, ?_⟩
    rw [← h]
    rfl
  next => simp at h
  next => cases h

/-- **One iteration of a resumed run** goes where an uninterrupted run goes, if nothing is
lost. -/
theorem books_next (clean : Clean W skips (W.stored repo) past)
    (decided : W.DecidedAlong skips ordered)
    (hv : ValidOrder W.pipeline.steps ordered) {done rest : List StepDef}
    (hsplit : ordered = done ++ s :: rest) (hh : Healthy done st)
    (run : StepRun (W.runtime now) W.pipeline.steps ordered (W.index repo) s st own (.next st'))
    (hans : Answered (byHandler W.dispatcher) own)
    (hbooks : booksAfter W.rt W.direct done = some st.books) :
    booksAfter W.rt W.direct (done ++ [s]) = some st'.books := by
  rw [booksAfter_snoc hbooks]
  have hmem : s ∈ W.pipeline.steps := hv.mem_steps (by rw [hsplit]; simp)
  have hs := clean.lossless s hmem
  have record := clean.records s hmem
  rw [← decided.fixed done s rest _ hsplit hbooks] at record
  cases hnew : ((W.index repo).get? s.name).bind (resumeStep s st) with
  | none =>
      obtain ⟨⟨hgo, hst'⟩, -⟩ :=
        run.judged hv hsplit hh hnew (byHandler_replies W.dispatcher) hans
      -- the loop goes on, so the step did not suspend
      have hsame : judge W.rt W.direct s st.books.data = judge (W.runtime now)
          (answer W.dispatcher) s st.stepsData := by
        refine @judge_direct_eq W.dispatcher W.resumed W.rt s st.stepsData ?_
        intro hsus
        rw [Verdict.goesOn, show (judge (W.runtime now) (answer W.dispatcher) s
          st.stepsData).status = some .suspended from hsus] at hgo
        cases hgo
      rw [advance_of_goesOn (by rw [hsame]; exact hgo), hsame, ← hst']
  | some exit =>
      obtain ⟨-, rfl⟩ := run.of_resumed hnew
      obtain ⟨info, hinfo, hres⟩ := Option.bind_eq_some_iff.mp hnew
      obtain ⟨hget, -, hstatus⟩ := index_get? hinfo
      rcases resumeStep_books hres with ⟨hc, hst'⟩ | ⟨hc, hst'⟩
      · -- completed, with data that read as completed
        rw [hstatus] at hc
        have hdata := storedData_eq hget
        have hfull : ¬ (storedData (W.stored repo) s.name).isEmpty = true :=
          fun he => hs (.inl ⟨hc, .inl he⟩)
        have hcompleted : handlerStatus (storedData (W.stored repo) s.name) = .completed := by
          by_contra hne
          exact hs (.inl ⟨hc, .inr hne⟩)
        have hj := record.completed hc
        rw [advance_of_goesOn (by rw [hj]; simp [Verdict.goesOn, Verdict.status, hcompleted]), hj,
          hst', ← hdata, if_neg hfull]
        simp [Verdict.book, Verdict.status, Verdict.result?, hcompleted]
        exact ⟨rfl, rfl⟩
      · rw [hstatus] at hc
        have hj := record.skipped hc (fun hskip => hs (.inr hskip))
        rw [advance_of_goesOn (by rw [hj]; rfl), hj, hst']
        rfl

theorem initialState_books : (initialState (W.runtime now).context ordered).books = {} := by
  show Books.mk Dict.empty W.rt.context.stepsData = {}
  rw [W.fresh]

/-- **A resumed run follows an uninterrupted one** of its order, if nothing is lost. -/
theorem books_passes (clean : Clean W skips (W.stored repo) past)
    (decided : W.DecidedAlong skips ordered)
    (hv : ValidOrder W.pipeline.steps ordered) {done : List StepDef} {tr : Trace}
    (h : Passes (W.runtime now) W.pipeline.steps ordered (W.index repo)
      (initialState (W.runtime now).context ordered) done tr st)
    (hans : Answered (byHandler W.dispatcher) tr) :
    ∀ rest, ordered = done ++ rest → booksAfter W.rt W.direct done = some st.books := by
  induction h with
  | nil =>
      intro rest _
      rw [initialState_books]
      rfl
  | @snoc done tr st step own st' before run ih =>
      intro rest hsplit
      rw [List.append_assoc] at hsplit
      have hh := before.healthy hv (healthy_initial _ ordered) _ hsplit
      exact books_next clean decided hv hsplit hh run hans.right (ih hans.left _ hsplit)

/-- The uninterrupted run is the fold. -/
theorem books_uninterrupted (hv : ValidOrder W.pipeline.steps ordered) {done : List StepDef}
    {tr : Trace}
    (h : Passes W.rt W.pipeline.steps ordered Dict.empty (initialState W.rt.context ordered) done
      tr st)
    (hans : Answered (directly W.dispatcher W.resumed) tr) :
    ∀ rest, ordered = done ++ rest → booksAfter W.rt W.direct done = some st.books := by
  induction h with
  | nil =>
      intro rest _
      rw [show (initialState W.rt.context ordered).books = {} from
        @initialState_books W ordered W.rt.now]
      rfl
  | @snoc done tr st step own st' before run ih =>
      intro rest hsplit
      rw [List.append_assoc] at hsplit
      have hh := before.healthy hv (healthy_initial _ ordered) _ hsplit
      obtain ⟨⟨hgo, hst'⟩, -⟩ :=
        run.judged hv hsplit hh rfl (directly_replies W.dispatcher W.resumed) hans.right
      rw [booksAfter_snoc (ih hans.left _ hsplit), hst']
      exact advance_of_goesOn hgo

/-! ## §6. What a cut run tells the control plane. -/

/-- No required step of a workload fails. -/
theorem Workload.not_failed {tr : Trace} {site : PersistSite} {cause : Value} {info : StepInfo}
    (fail : Failure s st tr site cause info st') (hans : Answered (byHandler W.dispatcher) tr)
    (hs : s ∈ W.pipeline.steps) (hopt : s.optional = false) : False := by
  obtain ⟨result, hanswer, hok⟩ := W.required s hs hopt
  cases fail with
  | handler run hstatus =>
      have hsame := run.answered (byHandler_replies W.dispatcher) hans
      rw [hanswer] at hsame
      rw [Option.some.inj hsame] at hok
      exact hok hstatus
  | exception run =>
      have hsame := run.answered (byHandler_replies W.dispatcher) hans
      rw [hanswer] at hsame
      cases hsame

/-- So nothing is ever aborted: an iteration speaks of its own step only. -/
theorem Workload.concerns_own
    (run : StepRun (W.runtime now) W.pipeline.steps ordered (W.index repo) s st own exit)
    (hans : Answered (byHandler W.dispatcher) own) (hs : s ∈ W.pipeline.steps) :
    ∀ e ∈ own, concerns e = s.name := by
  cases run with
  | resumed h => simp
  | blocked hnew h => simp
  | crashed hnew h => simp
  | skipWhen hnew h => simp
  | handlerSkipped hnew hup hskip run hstatus => exact attempts_concern run.attempts (by simp)
  | suspended hnew hup hskip run hstatus => exact attempts_concern run.attempts (by simp)
  | completed hnew hup hskip run hstatus => exact attempts_concern run.attempts (by simp)
  | failedOptional hnew hup hskip fail hopt =>
      obtain ⟨⟨out, run⟩, -⟩ := fail.attemptRun
      exact attempts_concern run.attempts (by simp)
  | failedRequired hnew hup hskip fail hopt =>
      exact absurd (W.not_failed fail hans.left hs hopt) id

/-- The loop of a run, when the definition is accepted. -/
theorem Workload.loopRun (hord : resolveDag sorter W.pipeline.steps = .ok ordered)
    (now : String) (repo : SessionRepository) :
    LoopRun (W.runtime now) W.pipeline.steps ordered (W.index repo) ordered
      (initialState (W.runtime now).context ordered) (W.loop sorter now repo).1
      (W.loop sorter now repo).2 := by
  have hruns := Resumption.runWith_runs (answering (byHandler W.dispatcher))
    (runPipeline (W.runtime now) sorter W.pipeline.steps
      (existingProgress repo W.sessionId W.pipelineName))
  rcases runs_runPipeline hruns with ⟨e, he, -⟩ | ⟨ordered', hord', hloop⟩
  · rw [hord] at he
    cases he
  · rw [hord] at hord'
    obtain rfl := Except.ok.inj hord'
    exact hloop

/-- `execute` makes the calls of its acting part. -/
theorem Workload.run_trace (sound : sorter.Sound)
    (hord : resolveDag sorter W.pipeline.steps = .ok ordered)
    (now : String) (repo : SessionRepository) :
    (W.run sorter now repo).1 = (W.loop sorter now repo).1 := by
  unfold Workload.run execute
  split
  next hempty =>
    have hperm := (validOrder_of_resolveDag sound hord).perm
    rw [List.isEmpty_iff.mp hempty] at hperm
    have hloop := W.loopRun hord now repo
    rw [List.Perm.eq_nil hperm] at hloop
    generalize (W.loop sorter now repo).1 = tr at hloop
    generalize (W.loop sorter now repo).2 = out at hloop
    cases hloop
    rfl
  next =>
    rw [Resumption.runWith_bind]
    exact List.append_nil _

/-- Where the definition is refused, nothing is called. -/
theorem Workload.run_refused {e : ExecuteError}
    (hord : resolveDag sorter W.pipeline.steps = .error e) : (W.run sorter now repo).1 = [] := by
  unfold Workload.run execute
  split
  next => rfl
  next =>
    unfold runPipeline
    rw [hord]
    rfl

/-- **What a run tells of a step**: nothing, or one update; then the step was not resumable,
and the update is the verdict's. -/
theorem Workload.told (sound : sorter.Sound)
    (hord : resolveDag sorter W.pipeline.steps = .ok ordered)
    (decided : W.DecidedAlong skips ordered) (now : String)
    {done rest : List StepDef} {t : StepDef} (hsplit : ordered = done ++ t :: rest) :
    updatesOf t.name (W.loop sorter now repo).1 = []
      ∨ ∃ site u, updatesOf t.name (W.loop sorter now repo).1 = [(site, u)]
        ∧ ¬ Resumable ((W.index repo).get? t.name)
        ∧ ∃ b : Books, (judge W.rt W.answers t b.data).Sends (W.runtime now) t site u
          ∧ (Clean W skips (W.stored repo) past →
            judge W.rt W.direct t b.data = W.verdict skips t) := by
  have hv := validOrder_of_resolveDag sound hord
  have hans : Answered (byHandler W.dispatcher) (W.loop sorter now repo).1 := answered_runWith _ _
  have hloop := W.loopRun hord now repo
  generalize (W.loop sorter now repo).1 = tr at hans hloop ⊢
  generalize (W.loop sorter now repo).2 = out at hloop
  rcases hloop.reaches [] [] .nil done t rest hsplit with hit | ⟨d, s, r, rfl, halts⟩
  · obtain ⟨st, before, own, after, exit, passes, run, tail, htr⟩ := hit
    rw [List.nil_append] at htr passes
    subst htr
    have hh := passes.healthy hv (healthy_initial _ ordered) _ hsplit
    have hafter : ∀ e ∈ after, concerns e ≠ t.name := by
      cases exit with
      | next st' =>
          intro e he
          exact LoopRun.concerns_ahead hv tail (done ++ [t]) (by rw [hsplit]; simp)
            (hh.next (hv.fresh hsplit) run) e he t (by simp)
      | stop st' =>
          obtain ⟨rfl, -⟩ := tail
          simp
      | raised e =>
          obtain ⟨rfl, -⟩ := tail
          simp
    have hown : updatesOf t.name (before ++ own ++ after) = updatesOf t.name own := by
      unfold updatesOf
      rw [eventsOf_visited (hv.fresh hsplit) passes.concerns_mem hafter]
    rw [hown]
    cases hnew : ((W.index repo).get? t.name).bind (resumeStep t st) with
    | none =>
        rcases (run.judged hv hsplit hh hnew (byHandler_replies W.dispatcher)
          hans.left.right).2 with hnil | ⟨site, u, hone, hsends⟩
        · exact .inl hnil
        · refine .inr ⟨site, u, hone, not_resumable hnew, st.books, hsends, fun clean => ?_⟩
          exact decided.fixed done t rest _ hsplit
            (books_passes clean decided hv passes hans.left.left _ hsplit)
    | some exit' =>
        left
        rw [(run.of_resumed hnew).1]
        rfl
  · obtain ⟨st, before, own, exit, passes, run, leaves, tail, htr⟩ := halts
    rw [List.nil_append] at htr passes
    subst htr
    left
    -- the loop was left before the step
    have hmem : s ∈ W.pipeline.steps := hv.mem_steps (by rw [hsplit]; simp)
    have hfresh := hv.fresh hsplit
    unfold updatesOf
    rw [eventsOf_eq_nil]
    · rfl
    · intro e he heq
      rw [List.map_append, List.map_cons, List.mem_append, List.mem_cons] at hfresh
      rcases List.mem_append.mp he with he | he
      · exact hfresh (.inl (heq ▸ passes.concerns_mem e he))
      · exact hfresh (.inr (.inl (heq ▸ W.concerns_own run hans.right hmem e he)))

/-! ## §7. The invariant is kept. -/

/-- The record after the update of a verdict. -/
theorem applyStepDelta_sends {rt : Runtime} {v : Verdict} {site : PersistSite}
    {u : ProgressUpdate} (h : v.Sends rt s site u) {record : StepInfo}
    (hrecord : record.resultData = none) :
    (applyStepDelta record u).status = v.status
      ∧ (∀ result, v = .returned result → handlerStatus result = .completed →
        (applyStepDelta record u).resultData.getD Dict.empty = result)
      ∧ (¬ Settling v.status → (applyStepDelta record u).resultData = none)
      ∧ (site = .handlerSkipped ↔
        ∃ result, v = .returned result ∧ handlerStatus result = .skipped) := by
  cases v with
  | passed =>
      obtain ⟨rfl, rfl⟩ := h
      exact ⟨rfl, by simp, fun hno => absurd (.inr (.inl rfl)) hno, by simp⟩
  | failed =>
      obtain ⟨rfl, cause, rfl⟩ := h
      exact ⟨rfl, by simp, fun _ => hrecord, by simp⟩
  | raised e => cases h
  | returned result =>
      unfold Verdict.Sends at h
      cases hst : handlerStatus result with
      | completed =>
          have hv : (Verdict.returned result).status = some .completed := by
            simp [Verdict.status, hst]
          simp only [hst] at h
          obtain ⟨rfl, rfl⟩ := h
          rw [hv]
          refine ⟨rfl, ?_, fun hno => absurd (.inl rfl) hno, by simp [hst]⟩
          intro result' heq _
          injection heq with heq
          subst heq
          show ((givenPayload (some result)).or record.resultData).getD Dict.empty = result
          -- an empty result is sent as none, and read back as empty
          rw [hrecord, givenPayload]
          split
          next hempty => exact (Dict.eq_empty_of_isEmpty hempty).symm
          next => rfl
      | skipped =>
          have hv : (Verdict.returned result).status = some .skipped := by
            simp [Verdict.status, hst]
          simp only [hst] at h
          obtain ⟨rfl, rfl⟩ := h
          rw [hv]
          exact ⟨rfl, by simp [hst], fun hno => absurd (.inr (.inl rfl)) hno, by simp [hst]⟩
      | suspended =>
          have hv : (Verdict.returned result).status = some .suspended := by
            simp [Verdict.status, hst]
          simp only [hst] at h
          obtain ⟨rfl, rfl⟩ := h
          rw [hv]
          exact ⟨applyStepDelta_status _ (progressUpdate _ _ .suspended _ _)
            (by simp [progressUpdate]), by simp [hst], fun hno => absurd (.inr (.inr rfl)) hno,
            by simp [hst]⟩
      | failed =>
          have hv : (Verdict.returned result).status = some .failed := by
            simp [Verdict.status, hst]
          simp only [hst] at h
          obtain ⟨rfl, cause, rfl⟩ := h
          rw [hv]
          exact ⟨rfl, by simp [hst], fun _ => hrecord, by simp [hst]⟩

theorem skippedByHandler_append {past tr : Trace} {n : String} :
    SkippedByHandler (past ++ tr) n ↔ SkippedByHandler past n ∨ SkippedByHandler tr n := by
  unfold SkippedByHandler
  rw [updatesOf_append]
  constructor
  · rintro ⟨sent, hmem, hsite⟩
    rcases List.mem_append.mp hmem with hmem | hmem
    · exact .inl ⟨sent, hmem, hsite⟩
    · exact .inr ⟨sent, hmem, hsite⟩
  · rintro (⟨sent, hmem, hsite⟩ | ⟨sent, hmem, hsite⟩)
    · exact ⟨sent, List.mem_append_left _ hmem, hsite⟩
    · exact ⟨sent, List.mem_append_right _ hmem, hsite⟩

/-- A step that nothing new is said about. -/
theorem lossy_congr {p p' : Progress} {past past' : Trace} {n : String}
    (hget : p'.get? n = p.get? n)
    (hskip : SkippedByHandler past' n ↔ SkippedByHandler past n) :
    Lossy p' past' n ↔ Lossy p past n := by
  unfold Lossy storedData Progress.status?
  rw [hget, hskip]

theorem RecordOf.congr {p p' : Progress} {past past' : Trace} {v : Verdict}
    (record : RecordOf W p past s v) (hget : p'.get? s.name = p.get? s.name)
    (hskip : SkippedByHandler past' s.name ↔ SkippedByHandler past s.name) :
    RecordOf W p' past' s v := by
  obtain ⟨completed, skipped, handled, suspended⟩ := record
  refine ⟨?_, ?_, ?_, ?_⟩ <;>
    simp only [Progress.status?, storedData, hget, hskip] <;> assumption

/-- **What a cut run leaves of a step**: its record as it was, or the record of the verdict
on it. -/
inductive News (W : Workload) (skips : StepDef → Bool) (p : Progress) (past : Trace)
    (p' : Progress) (tr : Trace) (n : String) : Prop where
  | quiet (hget : p'.get? n = p.get? n) (hnone : ¬ SkippedByHandler tr n)
  | judged {t info} {b : Books} (hmem : t ∈ W.pipeline.steps) (hname : t.name = n)
      (hopen : ¬ Settling (p.status? n)) (hget : p'.get? n = some info)
      (hstatus : info.status = (judge W.rt W.answers t b.data).status)
      (hdata : ∀ result, judge W.rt W.answers t b.data = .returned result →
        handlerStatus result = .completed → info.resultData.getD Dict.empty = result)
      (hplain : ¬ Settling (judge W.rt W.answers t b.data).status → info.resultData = none)
      (hskipped : SkippedByHandler tr n ↔ ∃ result,
        judge W.rt W.answers t b.data = .returned result ∧ handlerStatus result = .skipped)
      (hverdict : Clean W skips p past → judge W.rt W.direct t b.data = W.verdict skips t)

theorem Workload.sentTo (W : Workload) (sound : sorter.Sound) (now : String)
    (repo : SessionRepository) : SentTo W.sessionId W.pipelineName (W.run sorter now repo).1 := by
  obtain ⟨hreport, hmem⟩ := execute_report sound
    (Resumption.runWith_runs (answering (byHandler W.dispatcher))
      (execute (W.runtime now) sorter W.pipeline
        (existingProgress repo W.sessionId W.pipelineName)))
  exact @sentTo_of_report (W.runtime now) _ _ _ _ _ rfl W.named (ne_empty_of_valid W.valid)
    hreport hmem

/-- The store after a cut run. -/
theorem Workload.stored_cut (W : Workload) (sound : sorter.Sound) (now : String) (k : Nat)
    (hs : (repo.get? W.sessionId).isSome) :
    W.stored (persistTrace repo ((W.run sorter now repo).1.take k))
        = applyTrace (W.stored repo) ((W.run sorter now repo).1.take k)
      ∧ ((persistTrace repo ((W.run sorter now repo).1.take k)).get? W.sessionId).isSome := by
  refine progressOf_persistTrace W.valid _ repo ?_ hs
  exact fun e he => W.sentTo sound now repo e (List.mem_of_mem_take he)

theorem settling_iff {n : String} :
    Resumable ((W.index repo).get? n) ↔ Settling ((W.stored repo).status? n) :=
  resumable_existing repo W.sessionId W.pipelineName n

theorem Workload.news (sound : sorter.Sound)
    (hord : resolveDag sorter W.pipeline.steps = .ok ordered)
    (decided : W.DecidedAlong skips ordered)
    (hplain : ∀ n info, (W.stored repo).get? n = some info →
      ¬ Settling ((W.stored repo).status? n) → info.resultData = none)
    (now : String) (k : Nat) (n : String) :
    News W skips (W.stored repo) past
      (applyTrace (W.stored repo) ((W.loop sorter now repo).1.take k))
      ((W.loop sorter now repo).1.take k) n := by
  have quiet : updatesOf n ((W.loop sorter now repo).1.take k) = [] →
      News W skips (W.stored repo) past
        (applyTrace (W.stored repo) ((W.loop sorter now repo).1.take k))
        ((W.loop sorter now repo).1.take k) n := by
    intro hnil
    refine .quiet (applyTrace_get?_nil _ _ hnil) ?_
    rintro ⟨sent, hmem, -⟩
    rw [hnil] at hmem
    cases hmem
  have hcut : updatesOf n (W.loop sorter now repo).1
      = updatesOf n ((W.loop sorter now repo).1.take k)
        ++ updatesOf n ((W.loop sorter now repo).1.drop k) := by
    rw [← updatesOf_append, List.take_append_drop]
  by_cases hn : n ∈ ordered.map StepDef.name
  · obtain ⟨t, ht, rfl⟩ := List.mem_map.mp hn
    obtain ⟨done, rest, hsplit⟩ := List.append_of_mem ht
    rcases W.told sound hord decided now hsplit with
      hnil | ⟨site, u, hone, hopen, b, hsends, hverdict⟩
    · rw [hnil] at hcut
      exact quiet (List.append_eq_nil_iff.mp hcut.symm).1
    · rw [hone] at hcut
      rcases List.append_eq_singleton_iff.mp hcut.symm with ⟨hnil, -⟩ | ⟨hsingle, -⟩
      · exact quiet hnil
      · -- the update was persisted before the cut
        have hsettle : ¬ Settling ((W.stored repo).status? t.name) :=
          fun h => hopen (settling_iff.mpr h)
        obtain ⟨q, hq, hget⟩ := applyTrace_get?_single _ (W.stored repo) hsingle
        have hrecord : (stepOrInit q t.name).resultData = none := by
          unfold stepOrInit
          rw [hq]
          cases hp : (W.stored repo).get? t.name with
          | none => rfl
          | some info => exact hplain _ info hp hsettle
        obtain ⟨hstatus, hdata, hbare, hsite⟩ := applyStepDelta_sends hsends hrecord
        refine .judged ((validOrder_of_resolveDag sound hord).mem_steps ht) rfl hsettle hget
          hstatus hdata hbare ?_ hverdict
        rw [← hsite, SkippedByHandler, hsingle]
        simp
  · refine quiet ?_
    have hall := (W.loopRun hord now repo).concerns_mem (fun s hs => hs)
    have hnil : updatesOf n (W.loop sorter now repo).1 = [] := by
      have hother : ∀ e ∈ (W.loop sorter now repo).1, concerns e ≠ n := by
        intro e he heq
        exact hn (heq ▸ hall e he)
      unfold updatesOf
      rw [eventsOf_eq_nil hother]
      rfl
    rw [hnil] at hcut
    exact (List.append_eq_nil_iff.mp hcut.symm).1

/-- Of a lossy step there is no news. -/
theorem News.quiet_of_lossy {p p' : Progress} {tr : Trace} {n : String}
    (news : News W skips p past p' tr n)
    (hskipped : SkippedByHandler past n → p.status? n = some .skipped) (h : Lossy p past n) :
    p'.get? n = p.get? n ∧ (SkippedByHandler (past ++ tr) n ↔ SkippedByHandler past n) := by
  cases news with
  | quiet hget hnone => exact ⟨hget, by rw [skippedByHandler_append, or_iff_left hnone]⟩
  | judged hmem hname hopen hget hstatus hdata hplain hskip hverdict =>
      exfalso
      rcases h with ⟨hc, -⟩ | hskip
      · exact hopen (.inl hc)
      · exact hopen (.inr (.inl (hskipped hskip)))

/-- The uninterrupted run differs on a step that suspends, and there it has the data the
step is resumed with. -/
theorem judge_direct_status {step : StepDef} {data : Dict String Payload} :
    ((judge W.rt W.answers step data).status ≠ some .suspended
        ∧ judge W.rt W.direct step data = judge W.rt W.answers step data)
      ∨ ((judge W.rt W.answers step data).status = some .suspended
        ∧ judge W.rt W.direct step data = .returned (W.resumed step.name)) := by
  by_cases hsus : (judge W.rt W.answers step data).status = some .suspended
  · refine .inr ⟨hsus, ?_⟩
    obtain ⟨result, hj, hst⟩ := Verdict.status_suspended hsus
    have hd := judge_direct W.dispatcher W.resumed W.rt step data
    rw [show judge W.rt (answer W.dispatcher) step data = _ from hj] at hd
    simp only [hst, if_true] at hd
    exact hd
  · exact .inl ⟨hsus, judge_direct_eq W.dispatcher W.resumed hsus⟩

/-- **A cut run of a store without loss** leaves records that say what comes of their steps. -/
theorem Clean.cut {p p' : Progress} {tr : Trace}
    (hnodup : (W.pipeline.steps.map StepDef.name).Nodup) (clean : Clean W skips p past)
    (hskipped : ∀ n, SkippedByHandler past n → p.status? n = some .skipped)
    (news : ∀ n, News W skips p past p' tr n) :
    ∀ s ∈ W.pipeline.steps, RecordOf W p' (past ++ tr) s (W.verdict skips s) := by
  intro s hs
  cases news s.name with
  | quiet hget hnone =>
      refine (clean.records s hs).congr hget ?_
      rw [skippedByHandler_append, or_iff_left hnone]
  | @judged t info b hmem hname hopen hget hstatus hdata hplain hskip hverdict =>
      obtain rfl : t = s := List.inj_on_of_nodup_map hnodup hmem hs hname
      have hp' : p'.status? t.name = (judge W.rt W.answers t b.data).status := by
        rw [Progress.status?, hget]
        exact hstatus
      have hskip' : SkippedByHandler (past ++ tr) t.name ↔ ∃ result,
          judge W.rt W.answers t b.data = .returned result
            ∧ handlerStatus result = .skipped := by
        rw [skippedByHandler_append, or_iff_right, hskip]
        intro hold
        exact hopen (.inr (.inl (hskipped _ hold)))
      rw [← hverdict clean]
      rcases @judge_direct_status W t b.data with ⟨hsus, hj⟩ | ⟨hsus, hj⟩
      · -- the run and the uninterrupted one agree on the step
        rw [hj]
        refine ⟨?_, ?_, hskip'.mp, ?_⟩
        · intro hc
          obtain ⟨result, hv, hres⟩ := Verdict.status_completed (hp' ▸ hc)
          rw [storedData_eq hget, hdata result hv hres, hv]
        · intro hc hno
          rcases Verdict.status_skipped (hp' ▸ hc) with hv | hv
          · exact hv
          · exact absurd (hskip'.mpr hv) hno
        · intro hc
          exact absurd (hp' ▸ hc) hsus
      · -- the step waits, and will be resumed with its data
        rw [hj]
        refine ⟨?_, ?_, ?_, fun _ => rfl⟩
        · intro hc
          rw [hp', hsus] at hc
          cases hc
        · intro hc
          rw [hp', hsus] at hc
          cases hc
        · intro hhandled
          obtain ⟨result, hv, hres⟩ := hskip'.mp hhandled
          rw [hv] at hsus
          simp [Verdict.status, hres] at hsus

/-- **A cut run keeps the invariant.** -/
theorem Kept.cut {p p' : Progress} {tr : Trace} (hnodup : (W.pipeline.steps.map StepDef.name).Nodup)
    (kept : Kept W skips p past) (news : ∀ n, News W skips p past p' tr n) :
    Kept W skips p' (past ++ tr) where
  state := by
    rcases kept.state with clean | ⟨s, hs, hlossy, record⟩
    · exact clean_or_lossy (clean.cut hnodup kept.skipped news)
    · -- what is lost stays lost
      obtain ⟨hget, hskip⟩ := (news s.name).quiet_of_lossy (kept.skipped s.name) hlossy
      exact .inr ⟨s, hs, (lossy_congr hget hskip).mpr hlossy, record.congr hget hskip⟩
  plain := by
    intro n info hinfo hnot
    cases news n with
    | quiet hget hnone =>
        rw [hget] at hinfo
        refine kept.plain n info hinfo ?_
        rw [Progress.status?, hget] at hnot
        exact hnot
    | judged hmem hname hopen hget hstatus hdata hplain hskip hverdict =>
        rw [hget] at hinfo
        obtain rfl := Option.some.inj hinfo
        rw [Progress.status?, hget, Option.bind_some, hstatus] at hnot
        exact hplain hnot
  skipped := by
    intro n hskipped
    cases news n with
    | quiet hget hnone =>
        rw [skippedByHandler_append, or_iff_left hnone] at hskipped
        rw [Progress.status?, hget]
        exact kept.skipped n hskipped
    | judged hmem hname hopen hget hstatus hdata hplain hskip hverdict =>
        rcases skippedByHandler_append.mp hskipped with hold | hnew
        · exact absurd (.inr (.inl (kept.skipped n hold))) hopen
        · obtain ⟨result, hj, hres⟩ := hskip.mp hnew
          rw [Progress.status?, hget]
          show StepInfo.status _ = _
          rw [hstatus, hj]
          simp [Verdict.status, hres]

/-- What a resume command leaves of a step: its record, or the suspended step is completed
with its data. -/
theorem Workload.resumed_get? {request : ResumePipelineStepCommand}
    (hdata : request.sessionId = W.sessionId → request.pipelineName = W.pipelineName →
      ∀ n info, findByCorrelation (W.stored repo) request.stepCorrelationId = some (n, info) →
        info.status = some .suspended →
        (info.resultData.getD Dict.empty).update request.outputData = W.resumed n) (n : String) :
    (W.stored (handleResume now repo request).2).get? n = (W.stored repo).get? n
      ∨ ((W.stored repo).status? n = some .suspended
        ∧ ∃ info, (W.stored (handleResume now repo request).2).get? n = some info
          ∧ info.status = some .completed ∧ info.resultData = some (W.resumed n)) := by
  have hget := handleCallback_get? now repo (.resume request) W.sessionId W.pipelineName n
  unfold Workload.stored
  rw [show progressOf (handleResume now repo request).2 W.sessionId W.pipelineName
    = progressOf (handleCallback now repo (.resume request)) W.sessionId W.pipelineName from rfl,
    hget]
  split
  next n' info hfound =>
    split
    next hhere =>
      obtain ⟨hsession, hpipeline, rfl⟩ := hhere
      have hrecord := (findByCorrelation_some hfound).1
      unfold callbackInfo
      split
      next hacts =>
        have hsus : info.status = some .suspended := by simpa [CallbackCommand.acts] using hacts
        refine .inr ⟨?_, _, rfl, rfl, ?_⟩
        · rw [Progress.status?, hrecord]
          exact hsus
        · exact congrArg some (hdata hsession hpipeline n info hfound hsus)
      next => exact .inl hrecord.symm
    next => exact .inl rfl
  next => exact .inl rfl

/-- **A resume command keeps the invariant.** -/
theorem Kept.resume {p p' : Progress} (kept : Kept W skips p past)
    (hget : ∀ n, p'.get? n = p.get? n ∨ (p.status? n = some .suspended
      ∧ ∃ info, p'.get? n = some info ∧ info.status = some .completed
        ∧ info.resultData = some (W.resumed n))) : Kept W skips p' past where
  state := by
    rcases kept.state with clean | ⟨s, hs, hlossy, record⟩
    · refine clean_or_lossy fun s hs => ?_
      have record := clean.records s hs
      rcases hget s.name with hsame | ⟨hsus, info, hinfo, hstatus, hdata⟩
      · exact record.congr hsame Iff.rfl
      · have hp' : p'.status? s.name = some .completed := by
          rw [Progress.status?, hinfo]
          exact hstatus
        refine ⟨?_, ?_, record.handled, ?_⟩
        · intro _
          rw [storedData_eq hinfo, hdata]
          exact record.suspended hsus
        · intro hc
          rw [hp'] at hc
          cases hc
        · intro hc
          rw [hp'] at hc
          cases hc
    · -- a suspended step is not lossy
      rcases hget s.name with hsame | ⟨hsus, -⟩
      · exact .inr ⟨s, hs, (lossy_congr hsame Iff.rfl).mpr hlossy, record.congr hsame Iff.rfl⟩
      · exfalso
        rcases hlossy with ⟨hc, -⟩ | hskip
        · rw [hsus] at hc
          cases hc
        · rw [kept.skipped _ hskip] at hsus
          cases hsus
  plain := by
    intro n info hinfo hnot
    rcases hget n with hsame | ⟨-, info', hinfo', hstatus, -⟩
    · rw [hsame] at hinfo
      rw [Progress.status?, hsame] at hnot
      exact kept.plain n info hinfo hnot
    · rw [Progress.status?, hinfo', Option.bind_some, hstatus] at hnot
      exact absurd (.inl rfl) hnot
  skipped := by
    intro n hskip
    rcases hget n with hsame | ⟨hsus, -⟩
    · rw [Progress.status?, hsame]
      exact kept.skipped n hskip
    · rw [kept.skipped n hskip] at hsus
      cases hsus

/-- A store without progress. -/
theorem Kept.empty {p : Progress} (h : p = Dict.empty) : Kept W skips p [] where
  state := by
    have hnone : ∀ n, ¬ SkippedByHandler [] n := by
      rintro n ⟨sent, hmem, -⟩
      cases hmem
    refine clean_or_lossy fun s _ => ?_
    rw [h]
    exact ⟨nofun, nofun, fun hskip => absurd hskip (hnone _), nofun⟩
  plain := by
    intro n info hinfo
    rw [h] at hinfo
    cases hinfo
  skipped := by
    rintro n ⟨sent, hmem, -⟩
    cases hmem

/-- **Every history keeps the invariant.** -/
theorem Interrupted.kept (h : Interrupted W (W.Decided skips) repo past) :
    (repo.get? W.sessionId).isSome ∧ Kept W skips (W.stored repo) past := by
  induction h with
  | start session empty => exact ⟨session, .empty empty⟩
  | @cut repo past before sorter sound decided now n ih =>
      obtain ⟨hstored, hsession⟩ := W.stored_cut sound now n ih.1
      refine ⟨hsession, ?_⟩
      rw [hstored]
      cases hord : resolveDag sorter W.pipeline.steps with
      | ok ordered =>
          rw [W.run_trace sound hord]
          exact ih.2.cut W.dag.1 (W.news sound hord (decided ordered hord) ih.2.plain now n)
      | error e =>
          -- a definition that gets no order makes no call
          rw [W.run_refused hord, List.take_nil, List.append_nil]
          exact ih.2
  | @resume repo past before now request hdata ih =>
      refine ⟨?_, ih.2.resume (W.resumed_get? hdata)⟩
      exact handleCallback_get?_isSome now (.resume request) ih.1

/-! ## §8. The last run against the uninterrupted one. -/

/-- The loop of the uninterrupted run. -/
theorem Workload.idealRun (hord : resolveDag W.sorter W.pipeline.steps = .ok ordered) :
    LoopRun W.rt W.pipeline.steps ordered Dict.empty ordered (initialState W.rt.context ordered)
      W.ideal.1 W.ideal.2 := by
  rcases runs_runPipeline (Resumption.runWith_runs (answering (directly W.dispatcher W.resumed))
    (runPipeline W.rt W.sorter W.pipeline.steps none)) with ⟨e, he, -⟩ | ⟨ordered', hord', hloop⟩
  · rw [hord] at he
    cases he
  · rw [hord] at hord'
    obtain rfl := Except.ok.inj hord'
    exact hloop

/-- Where the uninterrupted run leaves the loop, so does the fold. -/
theorem Workload.ideal_halts (hv : ValidOrder W.pipeline.steps ordered) {done rest : List StepDef}
    {tr : Trace} {out : Except ExecuteError ExecState}
    (halts : HaltsAt W.rt W.pipeline.steps ordered Dict.empty (initialState W.rt.context ordered)
      done s tr out) (hans : Answered (directly W.dispatcher W.resumed) tr)
    (hsplit : ordered = done ++ s :: rest) (rest' : List StepDef) :
    booksAfter W.rt W.direct (done ++ s :: rest') = none := by
  obtain ⟨st, before, own, exit, passes, run, leaves, tail, rfl⟩ := halts
  have hh := passes.healthy hv (healthy_initial _ ordered) _ hsplit
  obtain ⟨hexits, -⟩ :=
    run.judged hv hsplit hh rfl (directly_replies W.dispatcher W.resumed) hans.right
  refine booksAfter_halted (books_uninterrupted hv passes hans.left _ hsplit) ?_
  cases exit with
  | next st' => exact absurd rfl (leaves st')
  | stop st' => exact hexits.1
  | raised e =>
      have hv : judge W.rt W.direct s st.books.data = .raised e := hexits
      rw [hv]
      rfl

/-- What the uninterrupted run ends with for a step the fold comes to. -/
theorem Workload.ideal_at (hord : resolveDag W.sorter W.pipeline.steps = .ok ordered)
    {done rest : List StepDef} (hsplit : ordered = done ++ s :: rest) {b : Books}
    (hb : booksAfter W.rt W.direct done = some b) {ideal : ExecState}
    (hideal : W.ideal.2 = .ok ideal) :
    (judge W.rt W.direct s b.data).status.isSome = true
      ∧ (judge W.rt W.direct s b.data).status = ideal.stepStatuses.get? s.name
      ∧ ∀ result, (judge W.rt W.direct s b.data).result? = some result →
        ideal.stepsData.get? s.name = some result := by
  have hv := validOrder_of_resolveDag W.sound hord
  have hans : Answered (directly W.dispatcher W.resumed) W.ideal.1 := answered_runWith _ _
  have hloop := W.idealRun hord
  rw [hideal] at hloop
  rcases hloop.reaches [] [] .nil done s rest hsplit with hit | ⟨d, s', r, hdone, halts⟩
  · obtain ⟨st, before, own, after, exit, passes, run, tail, htr⟩ := hit
    rw [List.nil_append] at htr passes
    rw [htr] at hans
    have hh := passes.healthy hv (healthy_initial _ ordered) _ hsplit
    have hbooks := books_uninterrupted hv passes hans.left.left _ hsplit
    rw [hb] at hbooks
    obtain rfl := Option.some.inj hbooks
    obtain ⟨hexits, -⟩ :=
      run.judged hv hsplit hh rfl (directly_replies W.dispatcher W.resumed) hans.left.right
    change (judge W.rt W.direct s st.books.data).Exits s st exit at hexits
    generalize judge W.rt W.direct s st.books.data = v at hexits ⊢
    cases exit with
    | next st' =>
        obtain ⟨hgo, hst'⟩ := hexits
        have hstatuses : ideal.stepStatuses.get? s.name = st'.stepStatuses.get? s.name :=
          Continues.get?_final hv hsplit hh run tail (.inl rfl) rfl
        have hdata : ideal.stepsData.get? s.name = st'.stepsData.get? s.name :=
          LoopRun.stepsData_next hv hsplit tail
        rw [hstatuses, hdata, show st'.stepStatuses = _ from congrArg Books.statuses hst',
          show st'.stepsData = _ from congrArg Books.data hst']
        obtain ⟨hsome, hstatus, hresult⟩ := Verdict.booked hgo st.books
        exact ⟨hsome, hstatus.symm, hresult⟩
    | stop st' =>
        obtain ⟨hgo, hsome, hstatus, -⟩ := hexits
        have hstatuses : ideal.stepStatuses.get? s.name = st'.stepStatuses.get? s.name :=
          Continues.get?_final hv hsplit hh run tail (.inr rfl) rfl
        refine ⟨hsome, by rw [hstatuses, hstatus], ?_⟩
        intro result hresult
        rw [Verdict.goesOn_of_result hresult s] at hgo
        cases hgo
    | raised e =>
        obtain ⟨-, hout⟩ := tail
        cases hout
  · -- the fold has gone past every step before
    have hnone := W.ideal_halts hv halts (by simpa using hans)
      (show ordered = ([] ++ d) ++ s' :: (r ++ s :: rest) by rw [hsplit, hdone]; simp) r
    rw [List.nil_append, ← hdone, hb] at hnone
    cases hnone

/-- A run that returns and is not suspended has gone past every step. -/
theorem Workload.not_halted (hv : ValidOrder W.pipeline.steps ordered) {done rest : List StepDef}
    {tr : Trace} {final : ExecState}
    (halts : HaltsAt (W.runtime now) W.pipeline.steps ordered (W.index repo)
      (initialState (W.runtime now).context ordered) done s tr (.ok final))
    (hans : Answered (byHandler W.dispatcher) tr) (hsplit : ordered = done ++ s :: rest)
    (hend : final.pipelineSuspended = false) : False := by
  obtain ⟨st, before, own, exit, passes, run, leaves, tail, rfl⟩ := halts
  cases exit with
  | next st' => exact leaves st' rfl
  | raised e =>
      obtain ⟨-, hout⟩ := tail
      cases hout
  | stop st' =>
      obtain ⟨-, hout⟩ := tail
      obtain rfl := Except.ok.inj hout
      cases run with
      | resumed h =>
          obtain ⟨prev, -, hexit⟩ := Option.bind_eq_some_iff.mp h
          rw [(resumeStep_stop hexit).2] at hend
          cases hend
      | suspended hnew hup hskip run hstatus => cases hend
      | failedRequired hnew hup hskip fail hopt =>
          exact W.not_failed fail hans.right.left (hv.mem_steps (by rw [hsplit]; simp)) hopt

/-- Such a run has an iteration for every step, and goes on after it. -/
theorem Workload.iterates (sound : sorter.Sound)
    (hord : resolveDag sorter W.pipeline.steps = .ok ordered) {done rest : List StepDef}
    (hsplit : ordered = done ++ s :: rest) {final : ExecState}
    (hfinal : (W.loop sorter now repo).2 = .ok final) (hend : final.pipelineSuspended = false) :
    ∃ st st' before own after,
      Passes (W.runtime now) W.pipeline.steps ordered (W.index repo)
          (initialState (W.runtime now).context ordered) done before st
        ∧ StepRun (W.runtime now) W.pipeline.steps ordered (W.index repo) s st own (.next st')
        ∧ LoopRun (W.runtime now) W.pipeline.steps ordered (W.index repo) rest st' after
          (.ok final)
        ∧ Answered (byHandler W.dispatcher) own := by
  have hv := validOrder_of_resolveDag sound hord
  have hans : Answered (byHandler W.dispatcher) (W.loop sorter now repo).1 := answered_runWith _ _
  have hloop := W.loopRun hord now repo
  rw [hfinal] at hloop
  rcases hloop.reaches [] [] .nil done s rest hsplit with hit | ⟨d, s', r, hdone, halts⟩
  · obtain ⟨st, before, own, after, exit, passes, run, tail, htr⟩ := hit
    rw [List.nil_append] at htr passes
    by_cases hnext : ∃ st', exit = .next st'
    · obtain ⟨st', rfl⟩ := hnext
      rw [htr] at hans
      exact ⟨st, st', before, own, after, passes, run, tail, hans.left.right⟩
    · have halts := passes.haltsAt run tail fun st' heq => hnext ⟨st', heq⟩
      rw [← List.append_assoc, ← htr] at halts
      exact (W.not_halted hv halts hans hsplit hend).elim
  · -- a run that halts before the step would be suspended
    have hsplit' : ordered = ([] ++ d) ++ s' :: (r ++ s :: rest) := by
      rw [hsplit, hdone]
      simp
    exact (W.not_halted hv halts (by simpa using hans) hsplit' hend).elim

/-- A step that is stored completed or skipped is resumed. -/
theorem Workload.resumes_settled
    (run : StepRun (W.runtime now) W.pipeline.steps ordered (W.index repo) s st own (.next st'))
    (hstatus : (W.stored repo).status? s.name = some .completed
      ∨ (W.stored repo).status? s.name = some .skipped) :
    ∃ info, (W.stored repo).get? s.name = some info
      ∧ info.resumeStatus = (W.stored repo).status? s.name
      ∧ resumeStep s st info = some (.next st') := by
  have hsettle : Settling ((W.stored repo).status? s.name) :=
    hstatus.imp id (fun h => .inl h)
  cases hnew : ((W.index repo).get? s.name).bind (resumeStep s st) with
  | none => exact absurd (settling_iff.mpr hsettle) (not_resumable hnew)
  | some exit' =>
      obtain ⟨info, hinfo, hres⟩ := Option.bind_eq_some_iff.mp hnew
      obtain ⟨hget, -, hsame⟩ := index_get? hinfo
      obtain ⟨-, rfl⟩ := run.of_resumed hnew
      exact ⟨info, hget, hsame, hres⟩

/-- What such a run ends with for a step that is stored completed or skipped. -/
theorem Workload.final_settled (sound : sorter.Sound)
    (hord : resolveDag sorter W.pipeline.steps = .ok ordered) (hs : s ∈ W.pipeline.steps)
    {final : ExecState} (hfinal : (W.loop sorter now repo).2 = .ok final)
    (hend : final.pipelineSuspended = false) :
    ((W.stored repo).status? s.name = some .completed →
        final.stepStatuses.get? s.name = some .completed
          ∧ ((storedData (W.stored repo) s.name).isEmpty = true →
            final.stepsData.get? s.name = none))
      ∧ ((W.stored repo).status? s.name = some .skipped → final.stepsData.get? s.name = none) := by
  have hv := validOrder_of_resolveDag sound hord
  obtain ⟨done, rest, hsplit⟩ := List.append_of_mem (hv.perm.mem_iff.mpr hs)
  obtain ⟨st, st', before, own, after, passes, run, tail, -⟩ :=
    W.iterates sound hord hsplit hfinal hend
  have hh := passes.healthy hv (healthy_initial _ ordered) _ hsplit
  -- the loop has no data for a step that it has not come to
  have hnone : st.stepsData.get? s.name = none :=
    passes.stepsData_ahead (W.fresh) _ (hv.fresh hsplit)
  have hfin : final.stepStatuses.get? s.name = st'.stepStatuses.get? s.name :=
    Continues.get?_final hv hsplit hh run tail (.inl rfl) rfl
  have hfin' : final.stepsData.get? s.name = st'.stepsData.get? s.name :=
    LoopRun.stepsData_next hv hsplit tail
  refine ⟨?_, ?_⟩
  · intro hc
    obtain ⟨info, hget, hsame, hres⟩ := W.resumes_settled run (.inl hc)
    have hdata := storedData_eq hget
    rw [hc] at hsame
    rcases resumeStep_books hres with ⟨-, hst'⟩ | ⟨hskip, -⟩
    · rw [hfin, hfin', show st'.stepStatuses = _ from congrArg Books.statuses hst',
        show st'.stepsData = _ from congrArg Books.data hst']
      refine ⟨Dict.get?_set_self _ _ _, ?_⟩
      intro hempty
      rw [hdata] at hempty
      simp only [hempty, if_true]
      exact hnone
    · rw [hsame] at hskip
      cases hskip
  · intro hc
    obtain ⟨info, hget, hsame, hres⟩ := W.resumes_settled run (.inr hc)
    rw [hc] at hsame
    rcases resumeStep_books hres with ⟨hcomp, -⟩ | ⟨-, hst'⟩
    · rw [hsame] at hcomp
      cases hcomp
    · rw [hfin', show st'.stepsData = _ from congrArg Books.data hst']
      exact hnone

/-- It ends with every step in a status that lets the loop go on. -/
theorem Workload.final_goesOn (sound : sorter.Sound)
    (hord : resolveDag sorter W.pipeline.steps = .ok ordered) (hs : s ∈ W.pipeline.steps)
    {final : ExecState} (hfinal : (W.loop sorter now repo).2 = .ok final)
    (hend : final.pipelineSuspended = false) :
    ∀ v : Verdict, v.status.isSome = true → v.status = final.stepStatuses.get? s.name →
      v.goesOn s = true := by
  have hv := validOrder_of_resolveDag sound hord
  obtain ⟨done, rest, hsplit⟩ := List.append_of_mem (hv.perm.mem_iff.mpr hs)
  obtain ⟨st, st', before, own, after, passes, run, tail, hans⟩ :=
    W.iterates sound hord hsplit hfinal hend
  have hh := passes.healthy hv (healthy_initial _ ordered) _ hsplit
  have hfin : final.stepStatuses.get? s.name = st'.stepStatuses.get? s.name :=
    Continues.get?_final hv hsplit hh run tail (.inl rfl) rfl
  intro v hsome hstatus
  rw [hfin] at hstatus
  unfold Verdict.goesOn
  cases hnew : ((W.index repo).get? s.name).bind (resumeStep s st) with
  | none =>
      obtain ⟨⟨hgo, hst'⟩, -⟩ :=
        run.judged hv hsplit hh hnew (byHandler_replies W.dispatcher) hans
      rw [show st'.stepStatuses = _ from congrArg Books.statuses hst',
        (Verdict.booked hgo st.books).2.1] at hstatus
      rw [hstatus]
      exact hgo
  | some exit =>
      obtain ⟨-, rfl⟩ := run.of_resumed hnew
      obtain ⟨info, -, hres⟩ := Option.bind_eq_some_iff.mp hnew
      rcases resumeStep_books hres with ⟨-, hst'⟩ | ⟨-, hst'⟩
      · rw [hstatus, show st'.stepStatuses = _ from congrArg Books.statuses hst',
          Dict.get?_set_self]
      · rw [hstatus, show st'.stepStatuses = _ from congrArg Books.statuses hst',
          Dict.get?_set_self]

/-- **Without loss** the last run ends with the books of the uninterrupted one. -/
theorem Workload.same_books (clean : Clean W skips (W.stored repo) past) (sound : sorter.Sound)
    (hord : resolveDag sorter W.pipeline.steps = .ok ordered)
    (decided : W.DecidedAlong skips ordered)
    (hend : ∀ final, (W.loop sorter now repo).2 = .ok final → final.pipelineSuspended = false) :
    ∃ final, (W.loop sorter now repo).2 = .ok final
      ∧ BooksOf (W.verdict skips) ordered final.books := by
  have hv := validOrder_of_resolveDag sound hord
  have hans : Answered (byHandler W.dispatcher) (W.loop sorter now repo).1 := answered_runWith _ _
  have hloop := W.loopRun hord now repo
  rcases hloop.ends [] [] .nil with ⟨final, hout, passes⟩ | ⟨mid, s, post, hsplit, halts⟩
  · refine ⟨final, hout, decided.fixed.booksOf hv.nodup ?_⟩
    have hbooks := books_passes clean decided hv passes hans [] (by simp)
    simpa using hbooks
  · exfalso
    cases hfinal : (W.loop sorter now repo).2 with
    | ok final =>
        rw [hfinal] at halts
        exact W.not_halted hv halts hans hsplit (hend final hfinal)
    | error e =>
        rw [hfinal] at halts
        obtain ⟨st, before, own, exit, passes, run, leaves, tail, htr⟩ := halts
        rw [List.nil_append] at htr
        rw [htr] at hans
        have hh := passes.healthy hv (healthy_initial _ ordered) _ hsplit
        have hbooks := books_passes clean decided hv passes hans.left _ hsplit
        cases exit with
        | next st' => exact leaves st' rfl
        | stop st' =>
            obtain ⟨-, hout⟩ := tail
            cases hout
        | raised e' =>
            -- only `skip_when` raises, and here it decides
            have hskip := decided mid s post _ hsplit hbooks
            cases run with
            | resumed h =>
                obtain ⟨info, -, hres⟩ := Option.bind_eq_some_iff.mp h
                exact resumeStep_raised hres
            | crashed hnew hraised =>
                have hsame : shouldSkip W.rt s st.books.data = .error e' := hraised
                rw [hskip] at hsame
                cases hsame

/-- The uninterrupted run ends with the books of the fold, if that goes past every step. -/
theorem Workload.ideal_books (hord : resolveDag W.sorter W.pipeline.steps = .ok ordered)
    (decided : W.DecidedAlong skips ordered)
    (hgo : ∀ s ∈ W.pipeline.steps, (W.verdict skips s).goesOn s = true) :
    ∃ ideal, W.ideal.2 = .ok ideal ∧ BooksOf (W.verdict skips) ordered ideal.books := by
  have hv := validOrder_of_resolveDag W.sound hord
  have hans : Answered (directly W.dispatcher W.resumed) W.ideal.1 := answered_runWith _ _
  obtain ⟨b, hb⟩ := decided.fixed.goesPast fun s hs => hgo s (hv.perm.mem_iff.mp hs)
  rcases (W.idealRun hord).ends [] [] .nil with
    ⟨ideal, hout, passes⟩ | ⟨mid, s, post, hsplit, halts⟩
  · refine ⟨ideal, hout, decided.fixed.booksOf hv.nodup ?_⟩
    simpa using books_uninterrupted hv passes hans [] (by simp)
  · have hnone := W.ideal_halts hv halts hans hsplit post
    rw [show [] ++ mid ++ s :: post = ordered from hsplit.symm, hb] at hnone
    cases hnone

/-- **A lossy step shows**: in the statuses or in the steps data. -/
theorem Workload.clean_of_same (kept : Kept W skips (W.stored repo) past) (sound : sorter.Sound)
    (hord : resolveDag sorter W.pipeline.steps = .ok ordered) {first : List StepDef}
    (hfirst : resolveDag W.sorter W.pipeline.steps = .ok first)
    (decided : W.DecidedAlong skips first) {final ideal : ExecState}
    (hfinal : (W.loop sorter now repo).2 = .ok final) (hideal : W.ideal.2 = .ok ideal)
    (hend : final.pipelineSuspended = false)
    (hstatuses : ∀ n, final.stepStatuses.get? n = ideal.stepStatuses.get? n)
    (hdata : ∀ n, final.stepsData.get? n = ideal.stepsData.get? n) :
    ∀ t ∈ W.pipeline.steps, ¬ Lossy (W.stored repo) past t.name := by
  rcases kept.state with clean | ⟨s, hs, hlossy, record⟩
  · exact clean.lossless
  exfalso
  have hv := validOrder_of_resolveDag W.sound hfirst
  obtain ⟨done, rest, hsplit⟩ := List.append_of_mem (hv.perm.mem_iff.mpr hs)
  -- the last run has gone past every step, and so has the uninterrupted one
  obtain ⟨b, hb⟩ : ∃ b, booksAfter W.rt W.direct done = some b := by
    cases hb : booksAfter W.rt W.direct done with
    | some b => exact ⟨b, rfl⟩
    | none =>
        obtain ⟨d, t, r, b, rfl, hd, hstop⟩ := halts_of_booksAfter_none hb
        have hsplit' : first = d ++ t :: (r ++ s :: rest) := by
          rw [hsplit]
          simp
        obtain ⟨hsome, hstatus, -⟩ := W.ideal_at hfirst hsplit' hd hideal
        have ht : t ∈ W.pipeline.steps := hv.mem_steps (by rw [hsplit']; simp)
        have hgo := W.final_goesOn sound hord ht hfinal hend _ hsome
          (hstatus.trans (hstatuses t.name).symm)
        rw [hstop] at hgo
        cases hgo
  obtain ⟨hcompleted, hskipped⟩ := W.final_settled sound hord hs hfinal hend
  obtain ⟨-, hstatus, hresult⟩ := W.ideal_at hfirst hsplit hb hideal
  rw [decided.fixed done s rest b hsplit hb] at hstatus hresult
  rcases hlossy with ⟨hc, hempty | hother⟩ | hskip
  · -- completed without data: `steps_data` has no entry
    have hnone := (hcompleted hc).2 hempty
    have hst : handlerStatus (storedData (W.stored repo) s.name) = .completed := by
      rw [Dict.eq_empty_of_isEmpty hempty]
      rfl
    have hsome := hresult (storedData (W.stored repo) s.name) (by
      rw [record.completed hc]
      simp [Verdict.result?, hst])
    rw [← hdata, hnone] at hsome
    cases hsome
  · -- completed by a callback whose data read as another status
    have hfin := (hcompleted hc).1
    rw [hstatuses, ← hstatus, record.completed hc] at hfin
    obtain ⟨result, heq, hst⟩ := Verdict.status_completed hfin
    injection heq with heq
    rw [heq] at hother
    exact hother hst
  · -- skipped by its handler: `steps_data` has no entry
    have hnone := hskipped (kept.skipped _ hskip)
    obtain ⟨result, hj, hst⟩ := record.handled hskip
    have hsome := hresult result (by
      rw [hj]
      simp [Verdict.result?, hst])
    rw [← hdata, hnone] at hsome
    cases hsome

/-! ## §9. Outputs. -/

theorem followPath_now (now : String) :
    ∀ (parts : List String) (data : Value),
      followPath (W.runtime now) data parts = followPath W.rt data parts
  | [], _ => rfl
  | part :: rest, data => by
      unfold followPath
      have hrest := followPath_now now rest
      cases data <;> simp only [Workload.runtime] at hrest ⊢ <;> simp only [hrest]

theorem resolveOutputs_congr (defs : Dict String String) {data data' : Dict String Payload}
    (h : ∀ n, data.get? n = data'.get? n) :
    resolveOutputs (W.runtime now) defs data = resolveOutputs W.rt defs data' := by
  have hpath : ∀ expr,
      resolveDotPath (W.runtime now) expr data = resolveDotPath W.rt expr data' := by
    intro expr
    unfold resolveDotPath
    simp only [followPath_now, h]
  unfold resolveOutputs
  simp only [hpath]

/-- The outputs of a run are resolved from its final steps data. -/
theorem outputs_eq {final ideal : ExecState} (hfinal : (W.loop sorter now repo).2 = .ok final)
    (hideal : W.ideal.2 = .ok ideal)
    (hdata : ∀ n, final.stepsData.get? n = ideal.stepsData.get? n) :
    (W.run sorter now repo).2.map PipelineResult.outputs
      = W.uninterrupted.2.map PipelineResult.outputs := by
  unfold Workload.run Workload.uninterrupted execute
  split
  next => rfl
  next =>
    rw [Resumption.runWith_bind, Resumption.runWith_bind]
    show ((W.loop sorter now repo).2.map _).map _ = (W.ideal.2.map _).map _
    rw [hfinal, hideal]
    show Except.ok (resolveOutputs _ _ _) = Except.ok (resolveOutputs _ _ _)
    rw [resolveOutputs_congr _ hdata]

end Simulation

/-- **Resume equivalence**: however often and wherever the runs of a workload were cut, and
whatever order each of them had, as long as every `skip_when` comes to one decision in all of
these orders, the run from the stored progress ends like the uninterrupted one exactly when no
step is lossy. -/
theorem resume_equivalence {W : Workload} {skips : StepDef → Bool}
    (decided : W.Decided skips W.sorter) {repo : SessionRepository} {past : Trace}
    (history : Interrupted W (W.Decided skips) repo past) {sorter : Sorter}
    (sound : sorter.Sound) (complete : sorter.Complete) (orders : W.Decided skips sorter)
    {now : String}
    (hend : ∀ final, (W.loop sorter now repo).2 = .ok final → final.pipelineSuspended = false) :
    SameOutcome W sorter now repo
      ↔ ∀ s ∈ W.pipeline.steps, ¬ Lossy (W.stored repo) past s.name := by
  obtain ⟨ordered, hord⟩ := W.exists_order sound complete
  obtain ⟨first, hfirst⟩ := W.exists_order W.sound W.complete
  have kept := history.kept.2
  constructor
  · rintro ⟨final, ideal, hfinal, hideal, hstatuses, hdata, -⟩
    exact W.clean_of_same kept sound hord hfirst (decided first hfirst) hfinal hideal
      (hend final hfinal) hstatuses hdata
  · intro hclean
    have clean : Clean W skips (W.stored repo) past := by
      rcases kept.state with clean | ⟨s, hs, hlossy, -⟩
      · exact clean
      · exact absurd hlossy (hclean s hs)
    have hv := validOrder_of_resolveDag sound hord
    have hv' := validOrder_of_resolveDag W.sound hfirst
    obtain ⟨final, hfinal, hbooks⟩ := W.same_books clean sound hord (orders ordered hord) hend
    -- each step lets the one run go on as it does the other
    obtain ⟨ideal, hideal, hbooks'⟩ := W.ideal_books hfirst (decided first hfirst)
      fun s hs => hbooks.passed s (hv.perm.mem_iff.mpr hs)
    obtain ⟨hstatuses, hdata⟩ := hbooks.same (hv.perm.trans hv'.perm.symm) hbooks'
    exact ⟨final, ideal, hfinal, hideal, hstatuses, hdata, outputs_eq hfinal hideal hdata⟩

/-! ## §10. Workloads. -/

/-- The order in which the sorter comes to the steps from the last one on. -/
def lastFirst : Sorter := fun g => kahn g.preds g.length [] (g.map Prod.fst).reverse

theorem lastFirst_sound : Sorter.Sound lastFirst := by
  intro g order _ h
  obtain ⟨hperm, hready⟩ := kahn_sound g.preds g.length [] _ order h
  exact ⟨hperm.trans (List.reverse_perm _), hready⟩

theorem lastFirst_complete : Sorter.Complete lastFirst := by
  intro g order h
  have hlength : (g.map Prod.fst).reverse.length ≤ g.length := by simp
  exact kahn_complete g.preds g.length [] _ order hlength (h.1.trans (List.reverse_perm _).symm) h.2

/-- A context for session `s1` in which no expression evaluates. -/
def plainRuntime : Runtime :=
  { context := { sessionId := "s1" }
    simpleEval := fun _ _ => .caught "SyntaxError"
    pipelineName := some "instantiate" }

/-- `probe` and `boot` complete; `collect` is delegated, and its job reports a score. -/
def delegating : Workload where
  pipeline :=
    { steps := [{ name := "collect", needs := ["probe", "boot"] }, { name := "probe" },
        { name := "boot" }]
      outputs := Dict.ofList [("score", "$STEPS.collect.score")] }
  pipelineName := "instantiate"
  rt := plainRuntime
  sorter := staticOrder
  dispatcher := fun handler _ =>
    if handler = "collect" then
      .returned (Dict.ofList
        [("status", .str "suspended"), ("external_job_id", .str "j1"),
          ("step_correlation_id", .str "c1")])
    else .returned (Dict.ofList [("lab_id", .str "l1")])
  resumed := fun _ => Dict.ofList
    [("external_job_id", .str "j1"), ("step_correlation_id", .str "c1"), ("suspended_at", .str ""),
      ("reason", .str "awaiting external job j1"), ("score", .int 7)]
  sound := staticOrder_sound
  complete := staticOrder_complete
  dag := (resolveDag_accepts_iff staticOrder_sound staticOrder_complete _).mp ⟨_, rfl⟩
  named := rfl
  valid := by decide
  fresh := rfl
  required := by
    intro s hs _
    simp only [List.mem_cons, List.not_mem_nil, or_false] at hs
    rcases hs with rfl | rfl | rfl <;> exact ⟨_, rfl, by decide⟩

/-- The job's report. -/
def scoreReport : ResumePipelineStepCommand :=
  { sessionId := "s1"
    pipelineName := "instantiate"
    stepCorrelationId := "c1"
    outputData := Dict.ofList [("score", .int 7)] }

/-- The run that is cut after `probe`. -/
def probed : SessionRepository :=
  persistTrace newSession ((delegating.run staticOrder "" newSession).1.take 2)

/-- The run after it, which delegates `collect`. -/
def delegated : SessionRepository :=
  persistTrace probed ((delegating.run lastFirst "" probed).1.take 4)

/-- The calls of the two runs. -/
def delegatedCalls : Trace :=
  (delegating.run staticOrder "" newSession).1.take 2
    ++ (delegating.run lastFirst "" probed).1.take 4

/-- Three runs, two of them in another order than the uninterrupted one. -/
theorem resume_equivalence_delegated :
    Interrupted delegating (delegating.Decided fun _ => false)
        (handleResume "" delegated scoreReport).2 delegatedCalls
      ∧ SameOutcome delegating lastFirst "" (handleResume "" delegated scoreReport).2 := by
  have hfree : ∀ {sorter : Sorter}, sorter.Sound → delegating.Decided (fun _ => false) sorter :=
    Workload.decided_of_no_skipWhen (by decide)
  have first : Interrupted delegating (delegating.Decided fun _ => false) probed _ :=
    .cut (.start (by decide) rfl) staticOrder staticOrder_sound (hfree staticOrder_sound) "" 2
  have second : Interrupted delegating (delegating.Decided fun _ => false) delegated _ :=
    .cut first lastFirst lastFirst_sound (hfree lastFirst_sound) "" 4
  have history : Interrupted delegating (delegating.Decided fun _ => false)
      (handleResume "" delegated scoreReport).2 delegatedCalls := by
    refine .resume second "" scoreReport ?_
    intro _ _ n info hfound _
    have hmerged : (findByCorrelation (delegating.stored delegated) "c1").map (fun e =>
        (e.1, (e.2.resultData.getD Dict.empty).update scoreReport.outputData))
        = some ("collect", delegating.resumed "collect") := by rfl
    rw [show findByCorrelation (delegating.stored delegated) "c1" = some (n, info) from hfound]
      at hmerged
    injection hmerged with hmerged
    injection hmerged
  have hends : ((delegating.loop lastFirst ""
      (handleResume "" delegated scoreReport).2).2.toOption.map ExecState.pipelineSuspended)
        = some false := by
    decide
  refine ⟨history, (resume_equivalence (hfree staticOrder_sound) history lastFirst_sound
    lastFirst_complete (hfree lastFirst_sound) ?_).mpr (by decide)⟩
  intro final hfinal
  rw [hfinal] at hends
  exact Option.some.inj hends

/-- `probe` finds a lab and has nothing more to do: its handler returns `skipped`. -/
def probing : Workload where
  pipeline :=
    { steps := [{ name := "probe" }, { name := "boot", needs := ["probe"] }]
      outputs := Dict.ofList [("lab", "$STEPS.probe.lab_id")] }
  pipelineName := "instantiate"
  rt := plainRuntime
  sorter := staticOrder
  dispatcher := fun handler _ =>
    if handler = "probe" then
      .returned (Dict.ofList [("status", .str "skipped"), ("lab_id", .str "l1")])
    else .returned (Dict.ofList [("node", .str "n1")])
  resumed := fun _ => Dict.empty
  sound := staticOrder_sound
  complete := staticOrder_complete
  dag := (resolveDag_accepts_iff staticOrder_sound staticOrder_complete _).mp ⟨_, rfl⟩
  named := rfl
  valid := by decide
  fresh := rfl
  required := by
    intro s hs _
    simp only [List.mem_cons, List.not_mem_nil, or_false] at hs
    rcases hs with rfl | rfl <;> exact ⟨_, rfl, by decide⟩

/-- The output `lab` of a run is the lab that was found. -/
def findsLab (out : Except ExecuteError (Dict String Value)) : Bool :=
  ((out.toOption.bind fun outputs => outputs.get? "lab").getD .none).isStr "l1"

/-- Skipped data are lost: the run is cut after `probe` is persisted, and the run from there
has no `lab_id`. -/
theorem skipped_data_lost :
    ∃ repo past, Interrupted probing Sorter.Sound repo past
      ∧ findsLab (probing.uninterrupted.2.map PipelineResult.outputs) = true
      ∧ findsLab ((probing.run staticOrder "" repo).2.map PipelineResult.outputs) = false
      ∧ ¬ SameOutcome probing staticOrder "" repo := by
  have hideal : findsLab (probing.uninterrupted.2.map PipelineResult.outputs) = true := by decide
  have hrest : findsLab ((probing.run staticOrder "" (persistTrace newSession
      ((probing.run staticOrder "" newSession).1.take 2))).2.map PipelineResult.outputs)
        = false := by
    decide
  refine ⟨_, _, .cut (.start (by decide) rfl) staticOrder staticOrder_sound staticOrder_sound "" 2,
    hideal, hrest, ?_⟩
  rintro ⟨final, ideal, -, -, -, -, hout⟩
  rw [hout, hideal] at hrest
  cases hrest

/-- Where `probe` has come to its lab, `boot` is not needed. -/
def steering : Workload where
  pipeline :=
    { steps := [{ name := "collect", needs := ["probe", "boot"] }, { name := "probe" },
        { name := "boot", skipWhen := some "$STEPS.probe.lab_id" }] }
  pipelineName := "instantiate"
  rt := { plainRuntime with
    simpleEval := fun _ names =>
      match names.steps.get? "probe" with
      | some data => .value (data.get "lab_id")
      | none => .caught "KeyError" }
  sorter := staticOrder
  dispatcher := fun _ _ => .returned (Dict.ofList [("lab_id", .str "l1")])
  resumed := fun _ => Dict.empty
  sound := staticOrder_sound
  complete := staticOrder_complete
  dag := (resolveDag_accepts_iff staticOrder_sound staticOrder_complete _).mp ⟨_, rfl⟩
  named := rfl
  valid := by decide
  fresh := rfl
  required := by
    intro s hs _
    simp only [List.mem_cons, List.not_mem_nil, or_false] at hs
    rcases hs with rfl | rfl | rfl <;> exact ⟨_, rfl, by decide⟩

/-- Another order decides otherwise: the run that comes to `boot` first boots, and is cut. -/
theorem other_order_boots :
    ∃ repo past, Interrupted steering Sorter.Sound repo past
      ∧ (∀ s ∈ steering.pipeline.steps, ¬ Lossy (steering.stored repo) past s.name)
      ∧ ¬ SameOutcome steering staticOrder "" repo := by
  have hideal : (steering.ideal.2.toOption.bind fun st => st.stepStatuses.get? "boot")
      = some .skipped := by
    decide
  have hrest : ((steering.loop staticOrder "" (persistTrace newSession
      ((steering.run lastFirst "" newSession).1.take 2))).2.toOption.bind fun st =>
        st.stepStatuses.get? "boot") = some .completed := by
    decide
  have history : Interrupted steering Sorter.Sound _ _ :=
    @Interrupted.cut steering _ newSession _ (.start (by decide) rfl) lastFirst lastFirst_sound
      lastFirst_sound "" 2
  refine ⟨_, _, history, by decide, ?_⟩
  rintro ⟨final, ideal, hfinal, hideal', hstatuses, -⟩
  rw [hfinal] at hrest
  rw [hideal'] at hideal
  have hboot := hstatuses "boot"
  rw [show final.stepStatuses.get? "boot" = some .completed from hrest,
    show ideal.stepStatuses.get? "boot" = some .skipped from hideal] at hboot
  cases hboot

/-- **A resumed run can end otherwise**: for what a record does not tell, and for the order. -/
theorem resume_differs :
    (∃ repo past, Interrupted probing Sorter.Sound repo past
        ∧ findsLab (probing.uninterrupted.2.map PipelineResult.outputs) = true
        ∧ findsLab ((probing.run staticOrder "" repo).2.map PipelineResult.outputs) = false
        ∧ ¬ SameOutcome probing staticOrder "" repo)
      ∧ ∃ repo past, Interrupted steering Sorter.Sound repo past
        ∧ (∀ s ∈ steering.pipeline.steps, ¬ Lossy (steering.stored repo) past s.name)
        ∧ ¬ SameOutcome steering staticOrder "" repo :=
  ⟨skipped_data_lost, other_order_boots⟩

end CmlCloudManager.ControlPlane
