/-
  CmlCloudManager.Pipeline.Progress
  ─────────────────────────────────
  **PROGRESS RECORDS.**

  One `StepInfo` is one step's progress dict, as the executor builds it in
  memory and as the control plane stores it.  A key that is absent from the
  dict is `none` in the record.  A `Progress` maps step names to step infos in
  insertion order; the control plane keeps one per pipeline of a session.

  `ExistingProgress` is what a run is resumed from: a flat progress map, or the
  legacy `{"steps": [...]}` list that `execute` still understands.
-/
import CmlCloudManager.Pipeline.Value

namespace CmlCloudManager.Pipeline

open CmlCloudManager.Foundation

/-- The status of a step. -/
inductive StepStatus where
  | pending
  | inProgress
  | completed
  | failed
  | skipped
  | suspended
  deriving DecidableEq, Repr

/-- The status as it is written in a progress dict. -/
def StepStatus.text : StepStatus → String
  | .pending => "pending"
  | .inProgress => "in_progress"
  | .completed => "completed"
  | .failed => "failed"
  | .skipped => "skipped"
  | .suspended => "suspended"

/-- One step's progress dict. -/
structure StepInfo where
  status : Option StepStatus := none
  /-- The legacy spelling `step_status`, read when `status` is absent. -/
  stepStatus : Option StepStatus := none
  order : Option Nat := none
  attempt : Option Nat := none
  resultData : Option Payload := none
  reason : Option Value := none
  skipReason : Option Value := none
  error : Option Value := none
  errorDetails : Option Payload := none
  externalJobId : Option Value := none
  stepCorrelationId : Option Value := none
  suspendedAt : Option Value := none
  completedAt : Option String := none
  failedAt : Option String := none

/-- `{step_name: step_info}` for one pipeline. -/
abbrev Progress : Type := Dict String StepInfo

/-- An entry of the legacy `steps` list. -/
structure LegacyEntry where
  step : Option String := none
  name : Option String := none
  info : StepInfo := {}

/-- What `execute` may be asked to resume from. -/
inductive ExistingProgress where
  /-- `{step_name: {status, result_data, ...}}` -/
  | flat (progress : Progress)
  /-- `{"steps": [{step, status, ...}, ...]}` -/
  | legacy (steps : List LegacyEntry)

/-- The status recorded for a step, if there is one. -/
def Progress.status? (p : Progress) (step : String) : Option StepStatus :=
  (p.get? step).bind StepInfo.status

/-- `prev.get("status", prev.get("step_status", ""))`. -/
def StepInfo.resumeStatus (info : StepInfo) : Option StepStatus :=
  info.status.or info.stepStatus

/-- `s.get("step", s.get("name", ""))`. -/
def LegacyEntry.stepName (e : LegacyEntry) : String := (e.step.or e.name).getD ""

/-- Put the entries of a flat progress map that carry a status into the index. -/
def indexFlat : List (String × StepInfo) → Dict String StepInfo → Dict String StepInfo
  | [], acc => acc
  | (name, info) :: rest, acc =>
      indexFlat rest (if info.status.isSome then acc.set name info else acc)

/-- Put the named entries of a legacy list into the index. -/
def indexLegacy : List LegacyEntry → Dict String StepInfo → Dict String StepInfo
  | [], acc => acc
  | e :: rest, acc =>
      indexLegacy rest (if e.stepName = "" then acc else acc.set e.stepName e.info)

/-- The resumability index `execute` builds from `existing_progress`. -/
def resumeStatuses : Option ExistingProgress → Dict String StepInfo
  | none => Dict.empty
  | some (.flat progress) => indexFlat progress.entries Dict.empty
  | some (.legacy steps) => indexLegacy steps Dict.empty

/-! ## The index of a flat progress map -/

theorem indexFlat_get? (k : String) :
    ∀ (l : List (String × StepInfo)) (acc : Dict String StepInfo),
      (l.map Prod.fst).Nodup →
      (indexFlat l acc).get? k
        = match Dict.lookup k l with
          | some info => if info.status.isSome then some info else acc.get? k
          | none => acc.get? k := by
  intro l
  induction l with
  | nil => intro acc _; rfl
  | cons e rest ih =>
      obtain ⟨name, info⟩ := e
      intro acc hnd
      rw [List.map_cons, List.nodup_cons] at hnd
      have hrest : name ∉ rest.map Prod.fst := hnd.1
      show (indexFlat rest _).get? k = _
      rw [ih _ hnd.2]
      by_cases hk : name = k
      · subst hk
        have hnone : Dict.lookup name rest = none := by
          cases hl : Dict.lookup name rest with
          | none => rfl
          | some v =>
              have hmem := (Dict.lookup_eq_some_iff name v rest hnd.2).mp hl
              exact absurd (List.mem_map.mpr ⟨_, hmem, rfl⟩) hrest
        simp only [hnone, Dict.lookup, if_pos]
        cases info.status.isSome <;> simp
      · simp only [Dict.lookup, if_neg hk]
        have hacc : (if info.status.isSome then acc.set name info else acc).get? k
            = acc.get? k := by
          split
          · exact Dict.get?_set_ne _ _ _ (Ne.symm hk)
          · rfl
        rw [hacc]

/-- Resuming from a flat progress map looks a step up in that map, and sees it
exactly when it carries a status. -/
theorem resumeStatuses_flat (p : Progress) (k : String) :
    (resumeStatuses (some (.flat p))).get? k
      = (p.get? k).filter (fun info => info.status.isSome) := by
  show (indexFlat p.entries Dict.empty).get? k = _
  rw [indexFlat_get? k p.entries Dict.empty p.nodup]
  show (match p.get? k with | some info => _ | none => _) = _
  cases p.get? k with
  | none => rfl
  | some info => cases h : info.status.isSome <;> simp [Option.filter, h]

end CmlCloudManager.Pipeline
