/-
  CmlCloudManager.ControlPlane.Callbacks
  ──────────────────────────────────────
  **RESUME AND FAIL COMMANDS, IN ANY ORDER AND ANY NUMBER.**

  A suspended step is resolved by the first command that names its session, its
  pipeline and its correlation id.  `handleCallback_get?` says what one command
  does to one step of one pipeline of one session, and everything else follows
  by induction over the sequence of commands:

    • a command addressed to another step leaves the whole record of this one,
    • the first command addressed to it decides its status and its result data,
    • later ones are no-ops (resume) or rewrite the error only (fail).
-/
import CmlCloudManager.ControlPlane.PipelineProgress

namespace CmlCloudManager.ControlPlane

open CmlCloudManager.Foundation
open CmlCloudManager.Pipeline

/-! ## §1. Commands and their effect on a step. -/

/-- A command the callbacks of external jobs are turned into. -/
inductive CallbackCommand where
  | resume (request : ResumePipelineStepCommand)
  | fail (request : FailPipelineStepCommand)

namespace CallbackCommand

/-- The session a command names. -/
def sessionId : CallbackCommand → String
  | .resume r => r.sessionId
  | .fail r => r.sessionId

/-- The pipeline a command names. -/
def pipelineName : CallbackCommand → String
  | .resume r => r.pipelineName
  | .fail r => r.pipelineName

/-- The correlation id a command carries. -/
def stepCorrelationId : CallbackCommand → String
  | .resume r => r.stepCorrelationId
  | .fail r => r.stepCorrelationId

/-- The command names this session and pipeline and carries this id. -/
def addressedTo (sid pl c : String) (cmd : CallbackCommand) : Bool :=
  cmd.sessionId == sid && cmd.pipelineName == pl && cmd.stepCorrelationId == c

end CallbackCommand

/-- The session repository after one command, handled at time `now`. -/
def handleCallback (now : String) (repo : SessionRepository) :
    CallbackCommand → SessionRepository
  | .resume request => (handleResume now repo request).2
  | .fail request => (handleFail now repo request).2

/-- Commands handled one at a time, each with the clock reading of its handling. -/
def runCallbacks (repo : SessionRepository) (cmds : List (String × CallbackCommand)) :
    SessionRepository :=
  cmds.foldl (fun r c => handleCallback c.1 r c.2) repo

/-- The handler of the command writes to a step with this record. -/
def CallbackCommand.acts (info : StepInfo) : CallbackCommand → Bool
  | .resume _ => info.status == some .suspended
  | .fail _ => info.status == some .suspended || info.status == some .failed

/-- The record it writes. -/
def CallbackCommand.write (now : String) (info : StepInfo) : CallbackCommand → StepInfo
  | .resume r => completeStep info r.outputData (timestampOr r.completedAt now)
  | .fail r => failStepInfo info r.error r.details (timestampOr r.failedAt now)

/-- What a command makes of the record of the step it found. -/
def callbackInfo (now : String) (info : StepInfo) (cmd : CallbackCommand) : StepInfo :=
  if cmd.acts info then cmd.write now info else info

/-! ## §2. Finding the step. -/

theorem findByCorrelation_some {p : Progress} {c n : String} {info : StepInfo}
    (h : findByCorrelation p c = some (n, info)) :
    p.get? n = some info ∧ info.stepCorrelationId = some (.str c) := by
  have hmem := List.mem_of_find?_eq_some h
  have hid := List.find?_some h
  refine ⟨(Dict.get?_eq_some_iff p n info).mpr hmem, ?_⟩
  cases hs : info.stepCorrelationId with
  | none => simp [hs] at hid
  | some v =>
      rw [hs] at hid
      exact congrArg some ((Value.isStr_iff v c).mp hid)

/-- Recorded correlation ids are pairwise distinct. -/
def DistinctCorrelations (p : Progress) : Prop :=
  ∀ n n' info info' c, p.get? n = some info → p.get? n' = some info' →
    info.stepCorrelationId = some (.str c) → info'.stepCorrelationId = some (.str c) → n = n'

/-- With distinct ids the step found is the one that carries the id. -/
theorem findByCorrelation_eq {p : Progress} (hd : DistinctCorrelations p) {c n : String}
    {info : StepInfo} (hget : p.get? n = some info)
    (hid : info.stepCorrelationId = some (.str c)) :
    findByCorrelation p c = some (n, info) := by
  cases hf : findByCorrelation p c with
  | none =>
      have hnot := List.find?_eq_none.mp hf (n, info) ((Dict.get?_eq_some_iff p n info).mp hget)
      simp [hid] at hnot
  | some e =>
      obtain ⟨n', info'⟩ := e
      obtain ⟨hget', hid'⟩ := findByCorrelation_some hf
      obtain rfl := hd n n' info info' c hget hget' hid hid'
      rw [hget] at hget'
      rw [Option.some.inj hget']

theorem loadProgress_eq_none {session : LabletSession} {pl : String}
    (h : loadProgress session pl = none) :
    (session.progressMap.get? pl).getD Dict.empty = Dict.empty := by
  unfold loadProgress at h
  cases hp : session.progressMap.get? pl with
  | none => rfl
  | some p =>
      rw [hp, Option.filter_eq_none_iff] at h
      have hempty := h p rfl
      simp only [Bool.not_eq_true, Bool.not_eq_false'] at hempty
      exact Dict.eq_empty_of_isEmpty hempty

theorem loadProgress_eq_some {session : LabletSession} {pl : String} {p : Progress}
    (h : loadProgress session pl = some p) : session.progressMap.get? pl = some p := by
  unfold loadProgress at h
  rw [Option.filter_eq_some_iff] at h
  exact h.1

/-- The search both handlers start with: the session, the step and its record. -/
def locateStep (repo : SessionRepository) (sid pl c : String) :
    Option (LabletSession × String × StepInfo) :=
  match repo.get? sid with
  | none => none
  | some session =>
      match loadProgress session pl with
      | none => none
      | some current => (findByCorrelation current c).map fun e => (session, e.1, e.2)

theorem locateStep_eq_none {repo : SessionRepository} {sid pl c : String}
    (h : locateStep repo sid pl c = none) :
    findByCorrelation (progressOf repo sid pl) c = none := by
  unfold locateStep at h
  split at h
  next hs =>
    rw [progressOf, hs]
    rfl
  next session hs =>
    split at h
    next hl =>
      rw [progressOf, hs, Option.bind_some, loadProgress_eq_none hl]
      rfl
    next current hl =>
      rw [progressOf, hs, Option.bind_some, loadProgress_eq_some hl]
      exact Option.map_eq_none_iff.mp h

theorem locateStep_eq_some {repo : SessionRepository} {sid pl c n : String}
    {session : LabletSession} {info : StepInfo}
    (h : locateStep repo sid pl c = some (session, n, info)) :
    repo.get? sid = some session
      ∧ findByCorrelation (progressOf repo sid pl) c = some (n, info) := by
  unfold locateStep at h
  split at h
  next => cases h
  next session' hs =>
    split at h
    next => cases h
    next current hl =>
      obtain ⟨⟨n', info'⟩, hf, heq⟩ := Option.map_eq_some_iff.mp h
      injection heq with heq₁ heq₂
      injection heq₂ with heq₂ heq₃
      subst heq₁ heq₂ heq₃
      refine ⟨hs, ?_⟩
      rw [progressOf, hs, Option.bind_some, loadProgress_eq_some hl]
      exact hf

/-! ## §3. One command. -/

/-- A loaded pipeline is the stored one. -/
theorem progressOf_loaded {repo : SessionRepository} {sid pl : String} {session : LabletSession}
    {current : Progress} (hs : repo.get? sid = some session)
    (hl : loadProgress session pl = some current) : progressOf repo sid pl = current := by
  rw [progressOf, hs, Option.bind_some, loadProgress_eq_some hl]
  rfl

/-- What a command does to the repository. -/
theorem handleCallback_eq (now : String) (repo : SessionRepository) (cmd : CallbackCommand) :
    handleCallback now repo cmd
      = match locateStep repo cmd.sessionId cmd.pipelineName cmd.stepCorrelationId with
        | none => repo
        | some (session, n, info) =>
            if cmd.acts info then
              saveProgress repo cmd.sessionId session cmd.pipelineName
                ((progressOf repo cmd.sessionId cmd.pipelineName).set n (cmd.write now info))
            else repo := by
  cases cmd with
  | resume request =>
      simp only [handleCallback, handleResume, locateStep, CallbackCommand.sessionId,
        CallbackCommand.pipelineName, CallbackCommand.stepCorrelationId, CallbackCommand.acts,
        CallbackCommand.write]
      cases hs : repo.get? request.sessionId with
      | none => rfl
      | some session =>
          simp only
          cases hl : loadProgress session request.pipelineName with
          | none => rfl
          | some current =>
              simp only [progressOf_loaded hs hl]
              cases findByCorrelation current request.stepCorrelationId with
              | none => rfl
              | some e => by_cases hst : e.2.status = some .suspended <;> simp [hst]
  | fail request =>
      simp only [handleCallback, handleFail, locateStep, CallbackCommand.sessionId,
        CallbackCommand.pipelineName, CallbackCommand.stepCorrelationId, CallbackCommand.acts,
        CallbackCommand.write]
      cases hs : repo.get? request.sessionId with
      | none => rfl
      | some session =>
          simp only
          cases hl : loadProgress session request.pipelineName with
          | none => rfl
          | some current =>
              simp only [progressOf_loaded hs hl]
              cases findByCorrelation current request.stepCorrelationId with
              | none => rfl
              | some e =>
                  by_cases hst : e.2.status = some .suspended
                  · simp [hst]
                  · by_cases hf : e.2.status = some .failed <;> simp [hst, hf]

/-- **One command, one step**: its record changes when the command names its session
and pipeline and finds it by its id; otherwise it stays as it is. -/
theorem handleCallback_get? (now : String) (repo : SessionRepository) (cmd : CallbackCommand)
    (sid pl n : String) :
    (progressOf (handleCallback now repo cmd) sid pl).get? n
      = match findByCorrelation (progressOf repo sid pl) cmd.stepCorrelationId with
        | some (n', info) =>
            if cmd.sessionId = sid ∧ cmd.pipelineName = pl ∧ n = n'
            then some (callbackInfo now info cmd) else (progressOf repo sid pl).get? n
        | none => (progressOf repo sid pl).get? n := by
  rw [handleCallback_eq]
  cases hloc : locateStep repo cmd.sessionId cmd.pipelineName cmd.stepCorrelationId with
  | none =>
      -- nothing found, nothing written
      have hnone := locateStep_eq_none hloc
      simp only
      split
      next n' info hf =>
        rw [if_neg]
        rintro ⟨rfl, rfl, -⟩
        rw [hnone] at hf
        cases hf
      next => rfl
  | some e =>
      obtain ⟨session, n₀, info₀⟩ := e
      obtain ⟨hs, hf⟩ := locateStep_eq_some hloc
      simp only
      by_cases hhere : sid = cmd.sessionId ∧ pl = cmd.pipelineName
      · -- the pipeline looked at is the one the command names
        obtain ⟨rfl, rfl⟩ := hhere
        simp only [hf, true_and, callbackInfo]
        cases cmd.acts info₀ with
        | true =>
            simp only [if_true, progressOf_saveProgress _ _ _ _ _ hs, and_self]
            rw [Dict.get?_set]
        | false =>
            simp only [Bool.false_eq_true, if_false]
            split
            next hn => rw [hn, (findByCorrelation_some hf).1]
            next => rfl
      · have hsame : progressOf (if cmd.acts info₀ then
              saveProgress repo cmd.sessionId session cmd.pipelineName
                ((progressOf repo cmd.sessionId cmd.pipelineName).set n₀ (cmd.write now info₀))
            else repo) sid pl = progressOf repo sid pl := by
          split
          · rw [progressOf_saveProgress _ _ _ _ _ hs, if_neg hhere]
          · rfl
        simp only [hsame]
        split
        next n' info _ =>
          rw [if_neg]
          rintro ⟨rfl, rfl, -⟩
          exact hhere ⟨rfl, rfl⟩
        next => rfl

theorem handleCallback_get?_isSome (now : String) {repo : SessionRepository}
    (cmd : CallbackCommand) {sid : String} (hs : (repo.get? sid).isSome) :
    ((handleCallback now repo cmd).get? sid).isSome := by
  rw [handleCallback_eq]
  split
  next => exact hs
  next session n info hloc =>
    split
    next => exact get?_saveProgress_isSome _ _ _ _ _ _ hs
    next => exact hs

/-- The step a command finds gets the record the command makes of it. -/
theorem handleCallback_get?_found (now : String) {repo : SessionRepository}
    {cmd : CallbackCommand} {sid pl n : String} {info : StepInfo} (hsid : cmd.sessionId = sid)
    (hpl : cmd.pipelineName = pl)
    (hf : findByCorrelation (progressOf repo sid pl) cmd.stepCorrelationId = some (n, info)) :
    (progressOf (handleCallback now repo cmd) sid pl).get? n
      = some (callbackInfo now info cmd) := by
  rw [handleCallback_get?, hf]
  exact if_pos ⟨hsid, hpl, rfl⟩

/-- A command never changes a correlation id. -/
theorem callbackInfo_correlation (now : String) (info : StepInfo) (cmd : CallbackCommand) :
    (callbackInfo now info cmd).stepCorrelationId = info.stepCorrelationId := by
  unfold callbackInfo
  split
  · cases cmd <;> rfl
  · rfl

/-- The record of a step after a command is its record before, or that with the
command applied; the id stays. -/
theorem handleCallback_get?_correlation (now : String) (repo : SessionRepository)
    (cmd : CallbackCommand) (sid pl n : String) :
    ((progressOf (handleCallback now repo cmd) sid pl).get? n).map StepInfo.stepCorrelationId
      = ((progressOf repo sid pl).get? n).map StepInfo.stepCorrelationId := by
  rw [handleCallback_get?]
  split
  next n' info hf =>
    split
    next hc =>
      obtain ⟨-, -, rfl⟩ := hc
      rw [(findByCorrelation_some hf).1, Option.map_some, Option.map_some,
        callbackInfo_correlation]
    next => rfl
  next => rfl

theorem distinctCorrelations_handleCallback (now : String) (repo : SessionRepository)
    (cmd : CallbackCommand) (sid pl : String)
    (hd : DistinctCorrelations (progressOf repo sid pl)) :
    DistinctCorrelations (progressOf (handleCallback now repo cmd) sid pl) := by
  -- an id that is there now was there before, at the same step
  have old : ∀ n info c, (progressOf (handleCallback now repo cmd) sid pl).get? n = some info →
      info.stepCorrelationId = some (.str c) →
      ∃ info', (progressOf repo sid pl).get? n = some info'
        ∧ info'.stepCorrelationId = some (.str c) := by
    intro n info c hget hid
    have hmap := handleCallback_get?_correlation now repo cmd sid pl n
    rw [hget, Option.map_some, hid] at hmap
    exact Option.map_eq_some_iff.mp hmap.symm
  intro n n' info info' c hget hget' hid hid'
  obtain ⟨i, hi, hci⟩ := old n info c hget hid
  obtain ⟨i', hi', hci'⟩ := old n' info' c hget' hid'
  exact hd n n' i i' c hi hi' hci hci'

/-- A command changes a step only if it carries the step's own id. -/
theorem handleCallback_get?_other (now : String) (repo : SessionRepository)
    (cmd : CallbackCommand) (sid pl n : String)
    (h : cmd.sessionId = sid → cmd.pipelineName = pl → ∀ info,
      (progressOf repo sid pl).get? n = some info →
      info.stepCorrelationId ≠ some (.str cmd.stepCorrelationId)) :
    (progressOf (handleCallback now repo cmd) sid pl).get? n = (progressOf repo sid pl).get? n := by
  rw [handleCallback_get?]
  split
  next n' info hf =>
    rw [if_neg]
    rintro ⟨hsid, hpl, rfl⟩
    obtain ⟨hget, hid⟩ := findByCorrelation_some hf
    exact h hsid hpl info hget hid
  next => rfl

/-- One command and the step that carries `c`. -/
theorem handleCallback_get?_self (now : String) {repo : SessionRepository}
    (cmd : CallbackCommand) {sid pl n c : String} {info : StepInfo}
    (hd : DistinctCorrelations (progressOf repo sid pl))
    (hget : (progressOf repo sid pl).get? n = some info)
    (hid : info.stepCorrelationId = some (.str c)) :
    (progressOf (handleCallback now repo cmd) sid pl).get? n
      = some (if cmd.addressedTo sid pl c then callbackInfo now info cmd else info) := by
  by_cases haddr : cmd.addressedTo sid pl c = true
  · simp only [CallbackCommand.addressedTo, Bool.and_eq_true, beq_iff_eq] at haddr
    obtain ⟨⟨rfl, rfl⟩, rfl⟩ := haddr
    rw [handleCallback_get?_found now rfl rfl (findByCorrelation_eq hd hget hid)]
    simp [CallbackCommand.addressedTo]
  · -- the command finds another step, or none
    rw [if_neg haddr, ← hget]
    refine handleCallback_get?_other now repo cmd sid pl n ?_
    rintro rfl rfl info' hget' hid'
    rw [hget] at hget'
    injection hget' with hget'
    subst hget'
    rw [hid] at hid'
    injection hid' with hid'
    injection hid' with hid'
    subst hid'
    exact haddr (by simp [CallbackCommand.addressedTo])

/-! ## §4. Sequences of commands. -/

/-- The first command that names the session and pipeline of a step and carries its id. -/
def firstCallback (sid pl c : String) (cmds : List (String × CallbackCommand)) :
    Option (String × CallbackCommand) :=
  cmds.find? fun e => e.2.addressedTo sid pl c

/-- The status the first callback gives a suspended step. -/
def statusGiven : Option (String × CallbackCommand) → StepStatus
  | none => .suspended
  | some (_, .resume _) => .completed
  | some (_, .fail _) => .failed

/-- The result data the first callback gives a suspended step. -/
def resultGiven (info : StepInfo) : Option (String × CallbackCommand) → Option Payload
  | some (_, .resume r) => some ((info.resultData.getD Dict.empty).update r.outputData)
  | some (_, .fail _) => info.resultData
  | none => info.resultData

section Sequence

variable {sid pl n c : String}

/-- A resolved step keeps its status and its result data, whatever comes. -/
theorem runCallbacks_resolved :
    ∀ (cmds : List (String × CallbackCommand)) {repo : SessionRepository} {info : StepInfo}
      {status : StepStatus}, DistinctCorrelations (progressOf repo sid pl) →
      (progressOf repo sid pl).get? n = some info → info.stepCorrelationId = some (.str c) →
      info.status = some status → status = .completed ∨ status = .failed →
      ∃ info', (progressOf (runCallbacks repo cmds) sid pl).get? n = some info'
        ∧ info'.status = some status ∧ info'.resultData = info.resultData
  | [], repo, info, status, _, hget, _, hstatus, _ => ⟨info, hget, hstatus, rfl⟩
  | (now, cmd) :: cmds, repo, info, status, hd, hget, hid, hstatus, hres => by
      have hstep := handleCallback_get?_self now cmd hd hget hid
      have hd' := distinctCorrelations_handleCallback now repo cmd sid pl hd
      -- the command is a no-op on a resolved step, or rewrites the error of a failed one
      have hkeep : (callbackInfo now info cmd).status = some status
          ∧ (callbackInfo now info cmd).resultData = info.resultData := by
        cases cmd with
        | resume r =>
            have hno : (CallbackCommand.resume r).acts info = false := by
              rcases hres with rfl | rfl <;> simp [CallbackCommand.acts, hstatus]
            rw [callbackInfo, hno]
            exact ⟨hstatus, rfl⟩
        | fail r =>
            rcases hres with rfl | rfl
            · have hno : (CallbackCommand.fail r).acts info = false := by
                simp [CallbackCommand.acts, hstatus]
              rw [callbackInfo, hno]
              exact ⟨hstatus, rfl⟩
            · have hyes : (CallbackCommand.fail r).acts info = true := by
                simp [CallbackCommand.acts, hstatus]
              rw [callbackInfo, hyes]
              exact ⟨rfl, rfl⟩
      by_cases haddr : cmd.addressedTo sid pl c = true
      · rw [if_pos haddr] at hstep
        obtain ⟨info', hget', hst', hrd'⟩ := runCallbacks_resolved cmds hd' hstep
          ((callbackInfo_correlation now info cmd).trans hid) hkeep.1 hres
        exact ⟨info', hget', hst', hrd'.trans hkeep.2⟩
      · rw [if_neg haddr] at hstep
        exact runCallbacks_resolved cmds hd' hstep hid hstatus hres

/-- **The first callback decides.** -/
theorem runCallbacks_suspended :
    ∀ (cmds : List (String × CallbackCommand)) {repo : SessionRepository} {info : StepInfo},
      DistinctCorrelations (progressOf repo sid pl) →
      (progressOf repo sid pl).get? n = some info → info.stepCorrelationId = some (.str c) →
      info.status = some .suspended →
      ∃ info', (progressOf (runCallbacks repo cmds) sid pl).get? n = some info'
        ∧ info'.status = some (statusGiven (firstCallback sid pl c cmds))
        ∧ info'.resultData = resultGiven info (firstCallback sid pl c cmds)
  | [], repo, info, _, hget, _, hsus => ⟨info, hget, hsus, rfl⟩
  | (now, cmd) :: cmds, repo, info, hd, hget, hid, hsus => by
      have hstep := handleCallback_get?_self now cmd hd hget hid
      have hd' := distinctCorrelations_handleCallback now repo cmd sid pl hd
      have hacts : cmd.acts info = true := by
        cases cmd <;> simp [CallbackCommand.acts, hsus]
      by_cases haddr : cmd.addressedTo sid pl c = true
      · -- the first one: it resolves the step, and the others do not matter
        have hfirst : firstCallback sid pl c ((now, cmd) :: cmds) = some (now, cmd) :=
          List.find?_cons_of_pos haddr
        rw [if_pos haddr] at hstep
        have hid' := (callbackInfo_correlation now info cmd).trans hid
        rw [callbackInfo, if_pos hacts] at hstep hid'
        rw [hfirst]
        cases cmd with
        | resume r => exact runCallbacks_resolved cmds hd' hstep hid' rfl (.inl rfl)
        | fail r =>
            obtain ⟨info', hget', hst', hrd'⟩ :=
              runCallbacks_resolved cmds hd' hstep hid' rfl (.inr rfl)
            exact ⟨info', hget', hst', hrd'⟩
      · have hfirst : firstCallback sid pl c ((now, cmd) :: cmds) = firstCallback sid pl c cmds :=
          List.find?_cons_of_neg haddr
        rw [if_neg haddr] at hstep
        rw [hfirst]
        exact runCallbacks_suspended cmds hd' hstep hid hsus

/-- The command names the step: its session, its pipeline, its recorded id. -/
def NamesStep (repo : SessionRepository) (sid pl n : String) (cmd : CallbackCommand) : Prop :=
  cmd.sessionId = sid ∧ cmd.pipelineName = pl ∧ ∃ info,
    (progressOf repo sid pl).get? n = some info
      ∧ info.stepCorrelationId = some (.str cmd.stepCorrelationId)

/-- A step that no command names keeps its whole record. -/
theorem runCallbacks_other (sid pl n : String) :
    ∀ (cmds : List (String × CallbackCommand)) (repo : SessionRepository),
      (∀ e ∈ cmds, ¬ NamesStep repo sid pl n e.2) →
      (progressOf (runCallbacks repo cmds) sid pl).get? n = (progressOf repo sid pl).get? n
  | [], _, _ => rfl
  | (now, cmd) :: cmds, repo, h => by
      have hstep : (progressOf (handleCallback now repo cmd) sid pl).get? n
          = (progressOf repo sid pl).get? n :=
        handleCallback_get?_other now repo cmd sid pl n fun hsid hpl info hget hid =>
          h (now, cmd) List.mem_cons_self ⟨hsid, hpl, info, hget, hid⟩
      have hrest := runCallbacks_other sid pl n cmds (handleCallback now repo cmd) ?_
      · exact hrest.trans hstep
      · rintro e he ⟨hsid, hpl, info, hget, hid⟩
        rw [hstep] at hget
        exact h e (List.mem_cons_of_mem _ he) ⟨hsid, hpl, info, hget, hid⟩

theorem distinctCorrelations_runCallbacks (sid pl : String) :
    ∀ (cmds : List (String × CallbackCommand)) (repo : SessionRepository),
      DistinctCorrelations (progressOf repo sid pl) →
      DistinctCorrelations (progressOf (runCallbacks repo cmds) sid pl)
  | [], _, hd => hd
  | (now, cmd) :: cmds, repo, hd =>
      distinctCorrelations_runCallbacks sid pl cmds _
        (distinctCorrelations_handleCallback now repo cmd sid pl hd)

theorem runCallbacks_correlation (sid pl n : String) :
    ∀ (cmds : List (String × CallbackCommand)) (repo : SessionRepository),
      ((progressOf (runCallbacks repo cmds) sid pl).get? n).map StepInfo.stepCorrelationId
        = ((progressOf repo sid pl).get? n).map StepInfo.stepCorrelationId
  | [], _ => rfl
  | (now, cmd) :: cmds, repo =>
      (runCallbacks_correlation sid pl n cmds (handleCallback now repo cmd)).trans
        (handleCallback_get?_correlation now repo cmd sid pl n)

end Sequence

/-- **First callback wins.**  A suspended step with correlation id `c` ends in the
status, and with the result data, that the first command naming its session and
pipeline and carrying `c` gives it; no other command changes its record at all; and
any other step of any session keeps its record unless a command names it. -/
theorem first_callback_wins (repo : SessionRepository) (sid pl n c : String) (info : StepInfo)
    (hget : (progressOf repo sid pl).get? n = some info)
    (hsus : info.status = some .suspended) (hid : info.stepCorrelationId = some (.str c))
    (hd : DistinctCorrelations (progressOf repo sid pl))
    (cmds : List (String × CallbackCommand)) :
    (∃ info', (progressOf (runCallbacks repo cmds) sid pl).get? n = some info'
      ∧ info'.status = some (statusGiven (firstCallback sid pl c cmds))
      ∧ info'.resultData = resultGiven info (firstCallback sid pl c cmds))
    ∧ (∀ before now cmd after, cmds = before ++ (now, cmd) :: after →
        cmd.addressedTo sid pl c = false →
        (progressOf (runCallbacks repo (before ++ [(now, cmd)])) sid pl).get? n
          = (progressOf (runCallbacks repo before) sid pl).get? n)
    ∧ ∀ sid' pl' n', (∀ e ∈ cmds, ¬ NamesStep repo sid' pl' n' e.2) →
        (progressOf (runCallbacks repo cmds) sid' pl').get? n'
          = (progressOf repo sid' pl').get? n' := by
  refine ⟨runCallbacks_suspended cmds hd hget hid hsus, ?_, fun sid' pl' n' h =>
    runCallbacks_other sid' pl' n' cmds repo h⟩
  intro before now cmd after _ hnot
  have hsplit : runCallbacks repo (before ++ [(now, cmd)])
      = handleCallback now (runCallbacks repo before) cmd := by
    rw [runCallbacks, List.foldl_append]
    rfl
  have hd' := distinctCorrelations_runCallbacks sid pl before repo hd
  have hcorr := runCallbacks_correlation sid pl n before repo
  rw [hget, Option.map_some, hid] at hcorr
  obtain ⟨info', hget', hid'⟩ := Option.map_eq_some_iff.mp hcorr
  rw [hsplit, handleCallback_get?_self now cmd hd' hget' hid', hnot, hget']
  rfl

/-- Two steps of one pipeline, both suspended. -/
def suspendedPair : SessionRepository :=
  Dict.ofList [("s1", { pipelineProgress := some (Dict.ofList [("collect_evidence", Dict.ofList
    [("capture", { status := some .suspended, stepCorrelationId := some (.str "corr-1") }),
      ("probe", { status := some .suspended, stepCorrelationId := some (.str "corr-2") })])]) })]

/-- A resume of `capture` sent to the wrong pipeline, its failure, a resume of `probe`. -/
def strayCommands : List (String × CallbackCommand) :=
  [("t1", .resume { sessionId := "s1", pipelineName := "teardown", stepCorrelationId := "corr-1" }),
   ("t2", .fail { sessionId := "s1", pipelineName := "collect_evidence",
                  stepCorrelationId := "corr-1", error := "job failed" }),
   ("t3", .resume { sessionId := "s1", pipelineName := "collect_evidence",
                    stepCorrelationId := "corr-2" })]

/-- The status of a step of `suspendedPair` after some commands. -/
def statusAfter (cmds : List (String × CallbackCommand)) (n : String) : Option StepStatus :=
  (progressOf (runCallbacks suspendedPair cmds) "s1" "collect_evidence").status? n

/-- **Carrying the id is not enough, and other steps do change**: the first command
carrying `corr-1` is a resume, yet `capture` ends failed, because that command names
another pipeline; and `probe` is completed by the command that carries its id. -/
theorem stray_callbacks :
    statusAfter [] "capture" = some .suspended ∧ statusAfter [] "probe" = some .suspended
      ∧ (strayCommands.find? fun e => e.2.stepCorrelationId == "corr-1").map
          (fun e => statusGiven (some e)) = some .completed
      ∧ statusAfter strayCommands "capture" = some .failed
      ∧ statusAfter strayCommands "probe" = some .completed := by
  decide

theorem first_callback_wins_stray :
    ∃ info', (progressOf (runCallbacks suspendedPair strayCommands) "s1" "collect_evidence").get?
        "capture" = some info'
      ∧ info'.status = some (statusGiven
          (firstCallback "s1" "collect_evidence" "corr-1" strayCommands)) := by
  have hd : DistinctCorrelations (progressOf suspendedPair "s1" "collect_evidence") := by
    intro n n' info info' c hget hget' hid hid'
    have hentries : (progressOf suspendedPair "s1" "collect_evidence").entries
        = [("capture", { status := some .suspended, stepCorrelationId := some (.str "corr-1") }),
          ("probe", { status := some .suspended, stepCorrelationId := some (.str "corr-2") })] :=
      rfl
    rw [Dict.get?_eq_some_iff, hentries] at hget hget'
    simp only [List.mem_cons, Prod.mk.injEq, List.not_mem_nil, or_false] at hget hget'
    have hids := hid.trans hid'.symm
    clear hentries hid hid'
    rcases hget with ⟨rfl, rfl⟩ | ⟨rfl, rfl⟩ <;> rcases hget' with ⟨rfl, rfl⟩ | ⟨rfl, rfl⟩ <;>
      simp_all
  obtain ⟨info', hget, hst, -⟩ := (first_callback_wins suspendedPair "s1" "collect_evidence"
    "capture" "corr-1" _ rfl rfl rfl hd strayCommands).1
  exact ⟨info', hget, hst⟩

end CmlCloudManager.ControlPlane
