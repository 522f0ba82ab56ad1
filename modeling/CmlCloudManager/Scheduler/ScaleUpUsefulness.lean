/-
  CmlCloudManager.Scheduler.ScaleUpUsefulness
  ───────────────────────────────────────────
  **WHETHER A NEW WORKER HELPS.**

  When no worker is left the engine names a template by the license affinity alone.
  The templates it is handed are not looked at: neither whether one of that name
  exists, nor how large it is, nor which license a worker made from it reports.

    • the worker helps exactly when the template that is named happens to fit
      (`scaleUp_useful_iff`),
    • if it does not, the engine asks for the same template again, however many
      workers are made from it (`asks_again`).
-/
import CmlCloudManager.ControlPlane.ScaleUp
import CmlCloudManager.Scheduler.CapacityAgreement
import CmlCloudManager.Scheduler.PlacementCorrectness

namespace CmlCloudManager.Scheduler

open CmlCloudManager.Foundation
open CmlCloudManager.ControlPlane

/-! ## §1. Templates, and what is made of them. -/

/-- A worker template by its name, with the license that a worker made from it reports. -/
structure NamedTemplate where
  name : String
  state : WorkerTemplateState
  licenseInfo : LicenseInfo := {}

/-- `get_template_by_name_async`. -/
def templateByName (templates : List NamedTemplate) (name : String) : Option NamedTemplate :=
  templates.find? fun t => t.name = name

/-- The template is large enough for the definition. -/
def LargeEnough (definition : DefinitionDict) (t : NamedTemplate) : Prop :=
  ∀ r, definition.resourceRequirements.required r ≤ (t.state.capacity.amount r : Int)

/-- The request of the scheduler, for a template. -/
def requestFor (request : ScaleUpRequest) (name : String) : ScaleUpRequest :=
  { request with command := { request.command with templateName := name } }

/-- The worker that the request creates, once it is running. -/
def freshState (settings : ScalingSettings) (request : ScaleUpRequest) (t : NamedTemplate) :
    CMLWorkerState :=
  { (request.worker settings t.state).toCMLWorkerState with status := .running }

/-- The same, as the engine sees it. -/
def freshWorker (settings : ScalingSettings) (request : ScaleUpRequest) (t : NamedTemplate) :
    WorkerDict :=
  mapWorkerToDto { name := (request.worker settings t.state).name, licenseInfo := t.licenseInfo }
    (freshState settings request t)

/-- The template of this name leads to a worker with the license and the capacity that the
definition asks for; nothing is published of the worker yet. -/
def Useful (settings : ScalingSettings) (request : ScaleUpRequest) (definition : DefinitionDict)
    (etcdCapacities : EtcdCapacities) (templates : List NamedTemplate) (name : String) : Prop :=
  ∃ t, templateByName templates name = some t ∧ t.state.enabled = true
    ∧ checkLicenseAffinity (freshWorker settings (requestFor request name) t) definition = true
    ∧ checkResourceCapacity (freshWorker settings (requestFor request name) t) definition
        (etcdCapacities.erase request.workerId.val) = true

/-! ## §2. A fresh worker. -/

section Fresh

variable (settings : ScalingSettings) (request : ScaleUpRequest) (t : NamedTemplate)

theorem checkStatus_freshWorker : checkStatus (freshWorker settings request t) = true := by
  have hstatus : (freshWorker settings request t).status = "running" := rfl
  unfold checkStatus
  rw [hstatus]
  decide

/-- A worker is added for an enabled template that the lookup has found, and it is the one of
this request and this template. -/
def AddsItsWorker (past : List ScalingEvent) (e : ScalingRequest) : Prop :=
  ∀ worker, e = .add worker →
    ∃ template : WorkerTemplateState,
      past.head? = some ⟨.getTemplateByName request.command.templateName, some template⟩
        ∧ template.enabled = true ∧ worker = request.worker settings template

/-- **What a request adds is the worker of its template**, whatever the answers. -/
theorem handle_adds :
    Resumption.Guarantees (AddsItsWorker settings request) (fun _ _ => True) []
      (request.handle settings) := by
  refine handle_rule ?_ ?_ ?_
  · intro worker h
    cases h
  · intro past worker h
    cases h
  · intro template answer henabled _ worker h
    injection h with h
    exact ⟨template, rfl, henabled, h.symm⟩

theorem checkLicenseAffinity_iff (worker : WorkerDict) (definition : DefinitionDict) :
    checkLicenseAffinity worker definition = true
      ↔ definition.licenseAffinity = []
        ∨ ∃ required ∈ definition.licenseAffinity,
            workerLicenseSatisfies (workerLicenseType worker) required = true := by
  unfold checkLicenseAffinity
  split
  next hempty => exact iff_of_true rfl (.inl (List.isEmpty_iff.mp hempty))
  next hsome =>
    have hne : definition.licenseAffinity ≠ [] := fun h => hsome (List.isEmpty_iff.mpr h)
    rw [List.any_eq_true, or_iff_right hne]

/-- **A fresh worker has room exactly when its template is large enough.** -/
theorem checkResourceCapacity_freshWorker (definition : DefinitionDict)
    {etcdCapacities : EtcdCapacities} (hnone : etcdCapacities.get? request.workerId.val = none) :
    checkResourceCapacity (freshWorker settings request t) definition etcdCapacities = true
      ↔ LargeEnough definition t := by
  have hid : (freshWorker settings request t).id = request.workerId.val := rfl
  have hsessions : sessionCount (freshWorker settings request t) none = 0 := rfl
  unfold checkResourceCapacity
  dsimp only
  rw [hid, hnone, hsessions, if_neg (fun h => absurd h.2 (by decide)), requirementsFit_iff]
  refine forall_congr' fun r => ?_
  have hdeclared : (freshState settings request t).effectiveDeclared = some t.state.capacity :=
    rfl
  have havailable : available (freshWorker settings request t) none r
      = (t.state.capacity.amount r : Int)
        - (freshState settings request t).allocatedCapacity.amount r :=
    available_of_dict _ (freshState settings request t) r hdeclared
  have hzero : (freshState settings request t).allocatedCapacity.amount r = 0 := by
    cases r <;> rfl
  rw [havailable, hzero, Int.natCast_zero, Int.sub_zero]

end Fresh

/-! ## §3. Which template is named. -/

/-- The definition asks for a personal license and for nothing else. -/
def StrictlyPersonal (definition : DefinitionDict) : Prop :=
  ∃ only, definition.licenseAffinity = [only] ∧ pyLower only = "personal"

theorem selectTemplate_personal {definition : DefinitionDict}
    (h : StrictlyPersonal definition) : selectTemplate definition = "single-session" := by
  obtain ⟨only, honly, hpersonal⟩ := h
  unfold selectTemplate
  rw [honly]
  exact if_pos hpersonal

theorem selectTemplate_other {definition : DefinitionDict}
    (h : ¬StrictlyPersonal definition) : selectTemplate definition = "multi-sessions" := by
  unfold selectTemplate
  split
  next only honly => exact if_neg fun hpersonal => h ⟨only, honly, hpersonal⟩
  next => rfl

/-- The template that the affinity stands for has this property. -/
def OfDefault (definition : DefinitionDict) (P : String → Prop) : Prop :=
  (StrictlyPersonal definition → P "single-session")
    ∧ (¬StrictlyPersonal definition → P "multi-sessions")

theorem ofDefault_iff (definition : DefinitionDict) (P : String → Prop) :
    OfDefault definition P ↔ P (selectTemplate definition) := by
  by_cases h : StrictlyPersonal definition
  · rw [selectTemplate_personal h]
    exact ⟨fun hP => hP.1 h, fun hP => ⟨fun _ => hP, fun hno => absurd h hno⟩⟩
  · rw [selectTemplate_other h]
    exact ⟨fun hP => hP.2 h, fun hP => ⟨fun hyes => absurd hyes h, fun _ => hP⟩⟩

/-! ## §4. Usefulness. -/

/-- The template of this name is there, enabled and large enough, and what is made from it has
a license that the definition accepts. -/
def Suitable (settings : ScalingSettings) (request : ScaleUpRequest)
    (definition : DefinitionDict) (templates : List NamedTemplate) (name : String) : Prop :=
  ∃ t, templateByName templates name = some t ∧ t.state.enabled = true
    ∧ (definition.licenseAffinity = []
      ∨ ∃ required ∈ definition.licenseAffinity,
          workerLicenseSatisfies (workerLicenseType (freshWorker settings request t)) required
            = true)
    ∧ LargeEnough definition t

theorem useful_iff_suitable (settings : ScalingSettings) (request : ScaleUpRequest)
    (definition : DefinitionDict) (etcdCapacities : EtcdCapacities)
    (templates : List NamedTemplate) (name : String) :
    Useful settings request definition etcdCapacities templates name
      ↔ Suitable settings request definition templates name := by
  refine exists_congr fun t => and_congr_right fun _ => and_congr_right fun _ => ?_
  rw [checkLicenseAffinity_iff]
  exact and_congr_right fun _ =>
    checkResourceCapacity_freshWorker settings (requestFor request name) t definition
      (Dict.get?_erase_self _ _)

/-- **A scale-up is useful exactly when a listed worker can be placed on, so that there is
none, or the template that the affinity stands for is suitable.** -/
theorem scaleUp_useful_iff {ρ : Type} (ops : FloatOps ρ) (settings : ScalingSettings)
    (request : ScaleUpRequest) (definition : DefinitionDict) (workers : List WorkerDict)
    (etcdCapacities : EtcdCapacities) (templates : List NamedTemplate) :
    (∀ name,
        (PlacementEngine.schedule ops definition workers etcdCapacities).action = .scaleUp →
        (PlacementEngine.schedule ops definition workers etcdCapacities).workerTemplate
          = some name →
        Useful settings request definition etcdCapacities templates name)
      ↔ (∃ worker ∈ workers, Passes definition etcdCapacities worker)
        ∨ OfDefault definition (Suitable settings request definition templates) := by
  rw [ofDefault_iff, ← useful_iff_suitable settings request definition etcdCapacities]
  rcases PlacementEngine.schedule_cases ops definition workers etcdCapacities with
    ⟨worker, hmem, hpasses, haction, -⟩ | ⟨hall, haction, htemplate⟩
  · refine iff_of_true ?_ (.inl ⟨worker, hmem, rejection_eq_none_iff.mp hpasses⟩)
    intro name hscale
    rw [haction] at hscale
    cases hscale
  · have hnobody : ¬∃ worker ∈ workers, Passes definition etcdCapacities worker := by
      rintro ⟨worker, hmem, hpasses⟩
      exact hall worker hmem (rejection_eq_none_iff.mpr hpasses)
    rw [or_iff_right hnobody]
    constructor
    · exact fun h => h _ haction htemplate
    · intro h name _ hname
      rw [htemplate] at hname
      exact Option.some.inj hname ▸ h

/-! ## §5. What comes of it. -/

section Again

variable {ρ : Type} (ops : FloatOps ρ) {definition : DefinitionDict}
  {etcdCapacities : EtcdCapacities} {workers created : List WorkerDict}

/-- **Workers without the license or the room change nothing**: the engine asks for the same
template again. -/
theorem asks_again
    (hworkers : ∀ worker ∈ workers, ¬Passes definition etcdCapacities worker)
    (hcreated : ∀ worker ∈ created, checkLicenseAffinity worker definition = false
      ∨ checkResourceCapacity worker definition etcdCapacities = false) :
    let decision := PlacementEngine.schedule ops definition (workers ++ created) etcdCapacities
    decision.action = .scaleUp ∧ decision.workerTemplate = some (selectTemplate definition) := by
  rcases PlacementEngine.schedule_cases ops definition (workers ++ created) etcdCapacities with
    ⟨worker, hmem, hpasses, -⟩ | ⟨-, hdecision⟩
  · exfalso
    obtain ⟨-, hlicense, hcapacity⟩ := checks_of_not_rejected hpasses
    rcases List.mem_append.mp hmem with hold | hnew
    · exact hworkers worker hold (rejection_eq_none_iff.mp hpasses)
    · rcases hcreated worker hnew with h | h
      · rw [hlicense] at h
        cases h
      · rw [hcapacity] at h
        cases h
  · exact hdecision

/-- **A fresh worker with the license and the room ends it**, unless its AMI or its ports stand
in the way. -/
theorem assigns_next (settings : ScalingSettings) (request : ScaleUpRequest) (t : NamedTemplate)
    {fresh : WorkerDict} (hfresh : fresh = freshWorker settings request t)
    (hlicense : checkLicenseAffinity fresh definition = true)
    (hcapacity : checkResourceCapacity fresh definition etcdCapacities = true)
    (hami : checkAmiRequirements fresh definition = true)
    (hports : checkPortAvailability fresh definition = true) :
    (PlacementEngine.schedule ops definition (workers ++ [fresh]) etcdCapacities).action
      = .assign := by
  have hstatus : checkStatus fresh = true := hfresh ▸ checkStatus_freshWorker settings request t
  have hpasses : rejection definition etcdCapacities fresh = none := by
    unfold rejection
    rw [hstatus, hlicense, hcapacity, hami, hports]
    rfl
  rcases PlacementEngine.schedule_cases ops definition (workers ++ [fresh]) etcdCapacities with
    ⟨-, -, -, haction, -⟩ | ⟨hall, -⟩
  · exact haction
  · exact absurd hpasses (hall fresh (List.mem_append_right _ List.mem_cons_self))

end Again

/-- The template that is named by default, and a larger one. -/
def seededTemplates : List NamedTemplate :=
  [{ name := "multi-sessions"
     state := { instanceType := "m5zn.metal", capacity := ⟨48, 192, 256, some 200⟩ } },
   { name := "large"
     state := { instanceType := "m6i.metal", capacity := ⟨96, 384, 512, some 200⟩ } }]

/-- A definition that only fits on the larger one. -/
def wideDefinition : DefinitionDict where
  resourceRequirements := { cpuCores := 64, memoryGb := 128, storageGb := 100 }

/-- A request of the scheduler. -/
def sampleRequest : ScaleUpRequest where
  command := { templateName := "multi-sessions", reason := "No active workers available" }
  workerId := ⟨"worker-1", placedOn_given⟩
  now := 0
  timestamp := "20260101000000"

/-- An enabled template is large enough, and a smaller one is asked for. -/
theorem smaller_template_named :
    (∀ t ∈ seededTemplates, t.state.enabled = true)
      ∧ (∃ t ∈ seededTemplates, LargeEnough wideDefinition t)
      ∧ (PlacementEngine.schedule exactFloats wideDefinition [] Dict.empty).action = .scaleUp
      ∧ (PlacementEngine.schedule exactFloats wideDefinition [] Dict.empty).workerTemplate
          = some "multi-sessions"
      ∧ ¬Useful {} sampleRequest wideDefinition Dict.empty seededTemplates "multi-sessions" := by
  refine ⟨by decide, ⟨_, List.mem_cons_of_mem _ List.mem_cons_self, ?_⟩, rfl, rfl, ?_⟩
  · intro r
    cases r <;> decide
  · rw [useful_iff_suitable]
    rintro ⟨t, hfound, -, -, hlarge⟩
    have ht : t = seededTemplates.head (by decide) := (Option.some.inj hfound).symm
    have hcpu := hlarge .cpuCores
    rw [ht] at hcpu
    exact absurd hcpu (by decide)

end CmlCloudManager.Scheduler
