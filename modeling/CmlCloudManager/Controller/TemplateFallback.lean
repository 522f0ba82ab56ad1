/-
  CmlCloudManager.Controller.TemplateFallback
  ───────────────────────────────────────────
  **PIPELINES THAT CANNOT BE RESOLVED.**

  The reconciler resolves the template a pipeline definition extends, and where that
  raises it goes on with the definition as it is written.  Such a definition has as a
  rule no steps of its own, and a pipeline without steps is completed.

  Nor does the resolver look at what the edits leave of the needs of the steps: it
  returns what `_resolve_dag` will reject.

  Main results:
    • `resolve_cases`           — what `resolve` does, by the edits one after the other,
    • `template_runnable_iff`   — when a customization ends well.
-/
import CmlCloudManager.Pipeline.ExecutorRuns
import CmlCloudManager.Pipeline.TemplateResolver

namespace CmlCloudManager.Controller.TemplateFallback

open CmlCloudManager.Foundation
open CmlCloudManager.Pipeline

/-! ## §1. What the executor reads of a definition. -/

/-- A text field. -/
def textField (step : Payload) (key : String) : Option String :=
  match step.get? key with
  | some (.str text) => some text
  | _ => none

/-- A number field. -/
def intField (step : Payload) (key : String) : Option Int :=
  match step.get? key with
  | some (.int n) => some n
  | _ => none

/-- A dict field. -/
def dictField (step : Payload) (key : String) : Option Payload :=
  match step.get? key with
  | some (.dict entries) => some (Dict.ofList entries)
  | _ => none

/-- `step.get("needs", [])`, a list of texts. -/
def readNeeds (step : Payload) : Option (List String) :=
  match step.get? "needs" with
  | none => some []
  | some (.list items) => items.mapM fun
      | .str need => some need
      | _ => none
  | some _ => none

/-- A step with a text for its name and texts for its needs. -/
def readStep (step : Payload) : Option StepDef :=
  match rawName step, readNeeds step with
  | some name, some needs =>
      some
        { name := name
          handler := textField step "handler"
          needs := needs
          optional := (step.get "optional").truthy
          skipWhen := textField step "skip_when"
          timeoutSeconds := intField step "timeout_seconds"
          retry := (dictField step "retry").map fun retry =>
            { maxAttempts := intField retry "max_attempts" }
          params := dictField step "params" }
  | _, _ => none

/-- A list of such steps. -/
def readSteps : List Payload → Option (List StepDef)
  | [] => some []
  | step :: rest =>
      match readStep step, readSteps rest with
      | some s, some ss => some (s :: ss)
      | _, _ => none

/-- The definition `execute` is given. -/
def readPipeline (p : RawPipeline) : Option PipelineDef :=
  (readSteps (p.steps.getD [])).map fun steps =>
    { description := textField p.settings "description"
      steps := steps
      outputs := Dict.ofList (((p.outputs.getD Dict.empty).entries).filterMap fun
        | (key, .str expression) => some (key, expression)
        | _ => none)
      maxRetries := (intField p.settings "max_retries").getD 0 }

/-- `_get_pipeline_def`, of a definition that is there. -/
def getPipelineDef (templates : Dict String RawPipeline) (pipelineDef : RawPipeline) :
    RawPipeline :=
  match resolve templates pipelineDef with
  | .ok resolved => resolved
  -- fall through with the unresolved definition
  | .error _ => pipelineDef

/-! ## §2. The edits, one after the other. -/

/-- The first step with a name, replaced by a list. -/
def replaceAt (name : String) (change : Payload → List Payload) :
    List Payload → Option (List Payload)
  | [] => none
  | step :: rest =>
      if rawName step = some name then some (change step ++ rest)
      else (replaceAt name change rest).map (step :: ·)

/-- Such changes for the names of a dict, in its order. -/
def replaceAll {β : Type} (change : β → Payload → List Payload) :
    List (String × β) → List Payload → Option (List Payload)
  | [], steps => some steps
  | (name, what) :: rest, steps =>
      (replaceAt name (change what) steps).bind (replaceAll change rest)

/-- The steps of a base after the edits of a customization: what is removed is left out, what
is inserted is put before or after its anchor, what is overridden is changed.  There are none
where an anchor or an override names no step at its turn. -/
def edited (base : List Payload) (c : RawPipeline) : Option (List Payload) := do
  let steps ← replaceAll (fun new step => new ++ [step]) c.insertBefore.entries (remaining base c)
  let steps ← replaceAll (fun new step => step :: new) c.insertAfter.entries steps
  replaceAll (fun fields step => [step.update fields]) c.overrides.entries steps

theorem replaceAt_eq_none {name : String} {change : Payload → List Payload} :
    ∀ {l : List Payload}, (∀ step ∈ l, rawName step ≠ some name) → replaceAt name change l = none
  | [], _ => rfl
  | step :: rest, h => by
      unfold replaceAt
      rw [if_neg (h step List.mem_cons_self),
        replaceAt_eq_none fun s hs => h s (List.mem_cons_of_mem _ hs)]
      rfl

theorem replaceAt_append {name : String} {change : Payload → List Payload} {step : Payload}
    (hname : rawName step = some name) (back : List Payload) :
    ∀ {front : List Payload}, (∀ s ∈ front, rawName s ≠ some name) →
      replaceAt name change (front ++ step :: back) = some (front ++ (change step ++ back))
  | [], _ => if_pos hname
  | s :: front, h => by
      rw [List.cons_append, replaceAt, if_neg (h s List.mem_cons_self),
        replaceAt_append hname back fun t ht => h t (List.mem_cons_of_mem _ ht)]
      rfl

/-- Where a step is found. -/
theorem findStepIndex_cases (l : List Payload) (name : String) :
    (findStepIndex l name = none ∧ ∀ step ∈ l, rawName step ≠ some name)
      ∨ ∃ front step back, l = front ++ step :: back ∧ rawName step = some name
        ∧ (∀ s ∈ front, rawName s ≠ some name) ∧ findStepIndex l name = some front.length := by
  unfold findStepIndex
  induction l with
  | nil => exact .inl ⟨rfl, fun _ h => absurd h List.not_mem_nil⟩
  | cons step rest ih =>
      rw [List.findIdx?_cons]
      by_cases hname : rawName step = some name
      · exact .inr ⟨[], step, rest, rfl, hname, fun _ h => absurd h List.not_mem_nil,
          if_pos (decide_eq_true hname)⟩
      · have hrest : ∀ {l' : List Payload}, (∀ s ∈ l', rawName s ≠ some name) →
            ∀ s ∈ step :: l', rawName s ≠ some name := by
          intro l' h s hs
          rcases List.mem_cons.mp hs with rfl | hs
          · exact hname
          · exact h s hs
        rw [if_neg fun h => hname (of_decide_eq_true h)]
        rcases ih with ⟨hnone, hother⟩ | ⟨front, found, back, rfl, hfound, hfront, hidx⟩
        · exact .inl ⟨by rw [hnone]; rfl, hrest hother⟩
        · exact .inr ⟨step :: front, found, back, rfl, hfound, hrest hfront, by rw [hidx]; rfl⟩

/-- An edit at an index that replaces the step there. -/
def Replaces {β : Type} (edit : Nat → β → List Payload → List Payload)
    (change : β → Payload → List Payload) : Prop :=
  ∀ what front step back,
    edit front.length what (front ++ step :: back) = front ++ (change what step ++ back)

theorem insertBeforeAnchor_replaces :
    Replaces insertBeforeAnchor fun new step => new ++ [step] := by
  intro new front step back
  unfold insertBeforeAnchor
  rw [foldl_insertIdx front.length (step :: back) new 0 front rfl, List.append_assoc]
  rfl

theorem insertAfterAnchor_replaces :
    Replaces insertAfterAnchor fun new step => step :: new := by
  intro new front step back
  have hindex : front.length + 1 = (front ++ [step]).length :=
    (@List.length_append _ front [step]).symm
  unfold insertAfterAnchor
  rw [List.append_cons, hindex, foldl_insertIdx_reverse, List.append_assoc]
  rfl

theorem overrideAt_replaces :
    Replaces overrideAt fun fields step => [step.update fields] := by
  intro fields front step back
  unfold overrideAt
  rw [modify_append]
  rfl

/-- A pass over a list that may have repeated names. -/
theorem editAtNames_cases {β : Type} {edit : Nat → β → List Payload → List Payload}
    {change : β → Payload → List Payload} (h : Replaces edit change) (missing : String → String) :
    ∀ (entries : List (String × β)) (l : List Payload),
      (∃ steps, replaceAll change entries l = some steps
        ∧ editAtNames missing edit entries l = .ok steps)
      ∨ replaceAll change entries l = none
        ∧ ∃ message, editAtNames missing edit entries l = .error (.template message)
  | [], l => .inl ⟨l, rfl, rfl⟩
  | (name, what) :: rest, l => by
      unfold replaceAll editAtNames
      rcases findStepIndex_cases l name with
        ⟨hnone, hother⟩ | ⟨front, step, back, rfl, hname, hfront, hidx⟩
      · rw [hnone, replaceAt_eq_none hother]
        exact .inr ⟨rfl, missing name, rfl⟩
      · rw [hidx, replaceAt_append hname back hfront, Option.bind_some]
        dsimp only
        rw [h]
        exact editAtNames_cases h missing rest _

theorem applyEdits_cases {β : Type} {edit : Nat → β → List Payload → List Payload}
    {change : β → Payload → List Payload} (h : Replaces edit change) (missing : String → String)
    (edits : Dict String β) (base : RawPipeline) :
    (∃ steps, replaceAll change edits.entries (base.steps.getD []) = some steps
      ∧ ∃ resolved, applyEdits missing edit edits base = .ok resolved
        ∧ resolved.steps.getD [] = steps)
    ∨ replaceAll change edits.entries (base.steps.getD []) = none
      ∧ ∃ message, applyEdits missing edit edits base = .error (.template message) := by
  rcases editAtNames_cases h missing edits.entries (base.steps.getD []) with
    ⟨steps, hchanged, hedited⟩ | ⟨hchanged, message, hedited⟩
  · exact .inl ⟨steps, hchanged, applyEdits_steps hedited⟩
  · refine .inr ⟨hchanged, message, ?_⟩
    unfold applyEdits
    split
    next hempty =>
      rw [Dict.eq_empty_of_isEmpty hempty] at hedited
      cases hedited
    next => rw [hedited]

/-- What the passes come to. -/
theorem customize_cases (template c : RawPipeline)
    (hnamed : ∀ step ∈ template.steps.getD [], ∃ name, rawName step = some name) :
    (∃ steps, edited (template.steps.getD []) c = some steps
      ∧ ∃ resolved, customize template c = .ok resolved ∧ resolved.steps.getD [] = steps)
    ∨ edited (template.steps.getD []) c = none
      ∧ ∃ message, customize template c = .error (.template message) := by
  obtain ⟨first, hfirst, hremaining⟩ := applyRemoves_steps template c hnamed
  unfold edited customize applyInsertsBefore applyInsertsAfter applyOverrides
  rw [hfirst, ← hremaining]
  dsimp only [bind, Except.bind]
  rcases applyEdits_cases insertBeforeAnchor_replaces
      (fun name => "insert_before: anchor step '" ++ name ++ "' not found in template")
      c.insertBefore first with
    ⟨_, hbefore, second, hsecond, rfl⟩ | ⟨hbefore, message, hsecond⟩
  · rw [hbefore, hsecond, Option.bind_some]
    dsimp only
    rcases applyEdits_cases insertAfterAnchor_replaces
        (fun name => "insert_after: anchor step '" ++ name ++ "' not found in template")
        c.insertAfter second with
      ⟨_, hafter, third, hthird, rfl⟩ | ⟨hafter, message, hthird⟩
    · rw [hafter, hthird, Option.bind_some]
      dsimp only
      rcases applyEdits_cases overrideAt_replaces
          (fun name => "overrides: step '" ++ name ++ "' not found in template")
          c.overrides third with
        ⟨_, hoverrides, fourth, hfourth, rfl⟩ | ⟨hoverrides, message, hfourth⟩
      · rw [hoverrides, hfourth]
        exact .inl ⟨_, rfl, mergeFields fourth c, rfl, rfl⟩
      · rw [hoverrides, hfourth]
        exact .inr ⟨rfl, message, rfl⟩
    · rw [hafter, hthird]
      exact .inr ⟨rfl, message, rfl⟩
  · rw [hbefore, hsecond]
    exact .inr ⟨rfl, message, rfl⟩

/-- **What `resolve` does**, for templates whose steps have names. -/
theorem resolve_cases {templates : Dict String RawPipeline}
    (hnamed : ∀ name template, templates.get? name = some template →
      ∀ step ∈ template.steps.getD [], ∃ stepName, rawName step = some stepName)
    {c : RawPipeline} {name : String} (hextends : c.extendsName = some name) (hname : name ≠ "") :
    (∃ steps, (templates.get? name).bind (fun template => edited (template.steps.getD []) c)
        = some steps
      ∧ ∃ resolved, resolve templates c = .ok resolved ∧ resolved.steps.getD [] = steps)
    ∨ (templates.get? name).bind (fun template => edited (template.steps.getD []) c) = none
      ∧ ∃ message, resolve templates c = .error (.template message) := by
  have hload : resolve templates c = (loadTemplate templates name).bind fun base =>
      customize base c := by
    unfold resolve
    rw [hextends]
    split
    next heq => cases heq
    next heq => exact absurd (Option.some.inj heq) hname
    next heq =>
      cases heq
      rfl
  rw [hload]
  unfold loadTemplate
  cases hget : templates.get? name with
  | none => exact .inr ⟨rfl, _, rfl⟩
  | some template => exact customize_cases template c (hnamed name template hget)

/-! ## §3. How a customization ends. -/

/-- `_resolve_dag` accepts the steps. -/
def Accepted (sorter : Sorter) (steps : List Payload) : Prop :=
  ∃ defs, readSteps steps = some defs ∧ ∃ ordered, resolveDag sorter defs = .ok ordered

/-- Steps with distinct names that can be put in an order with needs first. -/
def Runnable (steps : List Payload) : Prop := ∃ defs, readSteps steps = some defs ∧ IsDag defs

/-- A customization ends well: it is resolved to steps that are accepted, or `resolve` raises
`PipelineTemplateError`; and where it raises, no run of the pipeline is reported as completed. -/
structure EndsWell (sorter : Sorter) (templates : Dict String RawPipeline) (c : RawPipeline) :
    Prop where
  accepted : (∃ message, resolve templates c = .error (.template message))
    ∨ ∃ resolved, resolve templates c = .ok resolved ∧ Accepted sorter (resolved.steps.getD [])
  not_completed : (∃ e, resolve templates c = .error e) →
    ∀ p, readPipeline (getPipelineDef templates c) = some p →
      ∀ rt existing tr result, (execute rt sorter p existing).Runs tr (.ok result) →
        result.status ≠ .completed

/-- The edited steps can be run; or, where there are none, the definition has steps of its own,
which cannot. -/
def CanEndWell (templates : Dict String RawPipeline) (c : RawPipeline) : Prop :=
  match (c.extendsName.bind templates.get?).bind
      fun template => edited (template.steps.getD []) c with
  | some steps => Runnable steps
  | none => c.steps.getD [] ≠ [] ∧ ¬ Runnable (c.steps.getD [])

theorem readSteps_named : ∀ {steps : List Payload} {defs : List StepDef},
    readSteps steps = some defs → ∀ step ∈ steps, ∃ name, rawName step = some name
  | step :: rest, defs, h, s, hs => by
      unfold readSteps at h
      split at h
      next first others hfirst hothers =>
        rcases List.mem_cons.mp hs with rfl | hs
        · unfold readStep at hfirst
          split at hfirst
          next name _ hname _ => exact ⟨name, hname⟩
          next => cases hfirst
        · exact readSteps_named hothers s hs
      next => cases h

theorem readSteps_ne_nil {steps : List Payload} {defs : List StepDef}
    (h : readSteps steps = some defs) (hsteps : steps ≠ []) : defs ≠ [] := by
  cases steps with
  | nil => exact absurd rfl hsteps
  | cons step rest =>
      unfold readSteps at h
      split at h
      next =>
        cases h
        exact List.cons_ne_nil _ _
      next => cases h

theorem readPipeline_steps {c : RawPipeline} {p : PipelineDef} (h : readPipeline c = some p) :
    readSteps (c.steps.getD []) = some p.steps := by
  obtain ⟨steps, hsteps, rfl⟩ := Option.map_eq_some_iff.mp h
  exact hsteps

theorem accepted_iff {sorter : Sorter} (hsound : sorter.Sound) (hcomplete : sorter.Complete)
    (steps : List Payload) : Accepted sorter steps ↔ Runnable steps :=
  exists_congr fun defs => and_congr_right fun _ => resolveDag_accepts_iff hsound hcomplete defs

/-- Steps that an earlier run completed are passed over. -/
theorem runLoop_completed (rt : Runtime) (steps ordered : List StepDef)
    (resume : Dict String StepInfo) :
    ∀ (rest : List StepDef) (st : ExecState),
      (∀ s ∈ rest, resume.get? s.name = some { status := some .completed }) →
        ∃ st', runLoop rt steps ordered resume rest st = .done (.ok st')
          ∧ terminalStatus st' = terminalStatus st
  | [], st, _ => ⟨st, rfl, rfl⟩
  | s :: rest, st, h => by
      obtain ⟨st', hrun, hstatus⟩ := runLoop_completed rt steps ordered resume rest
        (st.mark s.name .completed { status := some .completed, resultData := some Dict.empty })
        fun t ht => h t (List.mem_cons_of_mem _ ht)
      refine ⟨st', ?_, hstatus⟩
      have hhead : processStep rt steps ordered resume s st
          = .done (.next (st.mark s.name .completed
              { status := some .completed, resultData := some Dict.empty })) := by
        unfold processStep
        rw [h s List.mem_cons_self]
        rfl
      rw [runLoop, hhead]
      exact hrun

/-- The progress of a run that completed every step. -/
def allCompleted (steps : List StepDef) : Progress :=
  Dict.ofList (steps.map fun s => (s.name, { status := some .completed }))

theorem allCompleted_get? {steps : List StepDef} {s : StepDef} (hs : s ∈ steps) :
    (resumeStatuses (some (.flat (allCompleted steps)))).get? s.name
      = some { status := some .completed } := by
  have hkey : s.name ∈ (steps.map fun s =>
      (s.name, ({ status := some .completed } : StepInfo))).map Prod.fst := by
    rw [List.map_map]
    exact List.mem_map_of_mem hs
  obtain ⟨info, hinfo⟩ := Dict.exists_get?_ofList hkey
  obtain ⟨t, -, heq⟩ := List.mem_map.mp (Dict.mem_of_get?_ofList hinfo)
  rw [resumeStatuses_flat]
  unfold allCompleted
  rw [hinfo, ← (Prod.mk.inj heq).2]
  rfl

/-- A pipeline whose steps are accepted has a run that completes, and so has one without any. -/
theorem exists_completed {sorter : Sorter} {p : PipelineDef}
    (h : ∃ ordered, resolveDag sorter p.steps = .ok ordered) (hsound : sorter.Sound)
    (rt : Runtime) :
    ∃ existing tr result, (execute rt sorter p existing).Runs tr (.ok result)
      ∧ result.status = .completed := by
  obtain ⟨ordered, hordered⟩ := h
  unfold execute
  split
  next => exact ⟨none, [], _, Resumption.runs_done.mpr ⟨rfl, rfl⟩, rfl⟩
  next =>
    have hperm := (resolveDag_ok hsound hordered).1
    obtain ⟨st', hrun, hstatus⟩ := runLoop_completed rt p.steps ordered
      (resumeStatuses (some (.flat (allCompleted p.steps)))) ordered
      (initialState rt.context ordered) fun s hs => allCompleted_get? (hperm.subset hs)
    refine ⟨some (.flat (allCompleted p.steps)), [], finishPipeline rt p st', ?_, hstatus⟩
    unfold runPipeline
    rw [hordered]
    dsimp only
    rw [hrun]
    exact Resumption.runs_done.mpr ⟨rfl, rfl⟩

/-- A definition whose steps can be run is read, and has a run that completes. -/
theorem exists_completed_of_runnable {sorter : Sorter} (hsound : sorter.Sound)
    (hcomplete : sorter.Complete) {c : RawPipeline} (h : Runnable (c.steps.getD []))
    (rt : Runtime) :
    ∃ p existing tr result, readPipeline c = some p
      ∧ (execute rt sorter p existing).Runs tr (.ok result) ∧ result.status = .completed := by
  obtain ⟨defs, hdefs, hdag⟩ := h
  obtain ⟨p, hp, rfl⟩ : ∃ p, readPipeline c = some p ∧ p.steps = defs := by
    unfold readPipeline
    rw [hdefs]
    exact ⟨_, rfl, rfl⟩
  obtain ⟨existing, tr, result, hrun, hstatus⟩ :=
    exists_completed ((resolveDag_accepts_iff hsound hcomplete p.steps).mpr hdag) hsound rt
  exact ⟨p, existing, tr, result, hp, hrun, hstatus⟩

/-- A run of a definition that has steps only returns if they can be run. -/
theorem runnable_of_returned {sorter : Sorter} (hsound : sorter.Sound)
    (hcomplete : sorter.Complete) {c : RawPipeline} (hsome : c.steps.getD [] ≠ [])
    {p : PipelineDef} (hp : readPipeline c = some p) {rt : Runtime}
    {existing : Option ExistingProgress} {tr : Trace} {result : PipelineResult}
    (hrun : (execute rt sorter p existing).Runs tr (.ok result)) : Runnable (c.steps.getD []) := by
  have hsteps := readPipeline_steps hp
  rcases runs_execute hrun with ⟨hempty, -⟩ | ⟨out, hrun', hout⟩
  · exact absurd hempty (readSteps_ne_nil hsteps hsome)
  · rcases runs_runPipeline hrun' with ⟨e, -, -, rfl⟩ | ⟨ordered, hordered, -⟩
    · cases hout
    · exact ⟨_, hsteps, (resolveDag_accepts_iff hsound hcomplete _).mp ⟨ordered, hordered⟩⟩

/-- **A customization ends well** iff its edits can be run, or it has steps that cannot. -/
theorem template_runnable_iff {sorter : Sorter} (hsound : sorter.Sound)
    (hcomplete : sorter.Complete) (templates : Dict String RawPipeline)
    (htemplates : ∀ name template, templates.get? name = some template →
      Runnable (template.steps.getD []))
    (c : RawPipeline) {name : String} (hextends : c.extendsName = some name) (hname : name ≠ "") :
    EndsWell sorter templates c ↔ CanEndWell templates c := by
  have hnamed : ∀ name template, templates.get? name = some template →
      ∀ step ∈ template.steps.getD [], ∃ stepName, rawName step = some stepName := by
    intro n template hget
    obtain ⟨defs, hdefs, -⟩ := htemplates n template hget
    exact readSteps_named hdefs
  have hcond : CanEndWell templates c
      ↔ match (templates.get? name).bind fun template => edited (template.steps.getD []) c with
        | some steps => Runnable steps
        | none => c.steps.getD [] ≠ [] ∧ ¬ Runnable (c.steps.getD []) := by
    unfold CanEndWell
    rw [hextends]
    rfl
  rw [hcond]
  rcases resolve_cases hnamed hextends hname with
    ⟨steps, hedited, resolved, hresolved, rfl⟩ | ⟨hedited, message, hresolved⟩
  · rw [hedited]
    dsimp only
    rw [← accepted_iff hsound hcomplete]
    constructor
    · intro h
      rcases h.accepted with ⟨message, herror⟩ | ⟨resolved', hok, haccepted⟩
      · rw [hresolved] at herror
        cases herror
      · rw [hresolved] at hok
        cases hok
        exact haccepted
    · intro haccepted
      refine ⟨.inr ⟨resolved, hresolved, haccepted⟩, fun ⟨e, herror⟩ => ?_⟩
      rw [hresolved] at herror
      cases herror
  · rw [hedited]
    dsimp only
    have hraw : getPipelineDef templates c = c := by
      unfold getPipelineDef
      rw [hresolved]
    constructor
    · intro h
      have hnever := h.not_completed ⟨_, hresolved⟩
      rw [hraw] at hnever
      -- a definition whose steps are accepted could be completed
      have hrejected : ¬ Runnable (c.steps.getD []) := by
        intro hrunnable
        obtain ⟨p, existing, tr, result, hp, hrun, hstatus⟩ :=
          exists_completed_of_runnable hsound hcomplete hrunnable
            { context := { sessionId := "" }, simpleEval := fun _ _ => .value .none }
        exact hnever p hp _ existing tr result hrun hstatus
      refine ⟨fun hnil => hrejected ?_, hrejected⟩
      rw [hnil]
      exact ⟨[], rfl, List.nodup_nil, [], .refl _, trivial⟩
    · rintro ⟨hsome, hrejected⟩
      refine ⟨.inl ⟨message, hresolved⟩, fun _ p hp rt existing tr result hrun => ?_⟩
      rw [hraw] at hp
      exact absurd (runnable_of_returned hsound hcomplete hsome hp hrun) hrejected

/-- The grading template as the only one. -/
def gradingTemplates : Dict String RawPipeline :=
  Dict.ofList [("standard-compute-grading", standardComputeGrading)]

/-- Its steps can be run as they are listed. -/
theorem grading_runnable (name : String) (template : RawPipeline)
    (h : gradingTemplates.get? name = some template) : Runnable (template.steps.getD []) := by
  obtain ⟨rfl⟩ : template = standardComputeGrading := by
    have hmem := Dict.mem_of_get?_ofList h
    exact (Prod.mk.inj (List.mem_singleton.mp hmem)).2
  exact ⟨_, rfl, by decide, _, .refl _, by simp [NeedsFirst]⟩

/-- A grading pipeline without its last step and with a longer time limit. -/
def shortenedGrading : RawPipeline where
  extendsName := some "standard-compute-grading"
  remove := ["record_score"]
  overrides := Dict.ofList [("evaluate", Payload.single "timeout_seconds" (.int 600))]

/-- It ends well. -/
theorem shortened_grading_ends_well : EndsWell staticOrder gradingTemplates shortenedGrading :=
  (@template_runnable_iff _ staticOrder_sound staticOrder_complete gradingTemplates
    grading_runnable shortenedGrading "standard-compute-grading" rfl (by decide)).mpr
    ⟨_, rfl, by decide, _, .refl _, by simp [NeedsFirst]⟩

/-- A grading pipeline without the step its last step needs. -/
def brokenGrading : RawPipeline where
  extendsName := some "standard-compute-grading"
  remove := ["evaluate"]

/-- The template can be run; what is made of it is neither refused by the resolver nor accepted
by the executor. -/
theorem removed_need_not_runnable :
    (∀ name template, gradingTemplates.get? name = some template →
        Runnable (template.steps.getD []))
      ∧ inserted brokenGrading = []
      ∧ ¬ EndsWell staticOrder gradingTemplates brokenGrading := by
  refine ⟨grading_runnable, rfl, fun h => ?_⟩
  obtain ⟨resolved, hresolved, hsteps⟩ : ∃ resolved,
      resolve gradingTemplates brokenGrading = .ok resolved
        ∧ resolved.steps.getD []
          = [templateStep "load_rubric" "Load grading rules from definition (grade.xml)" [] 30,
            templateStep "record_score" "Create ScoreReport aggregate and store results"
              ["evaluate"] 10] :=
    ⟨_, rfl, rfl⟩
  rcases h.accepted with ⟨message, herror⟩ | ⟨resolved', hok, defs, hdefs, ordered, hordered⟩
  · rw [hresolved] at herror
    cases herror
  · rw [hresolved] at hok
    cases hok
    rw [hsteps] at hdefs
    cases hdefs
    obtain ⟨hperm, -, hfirst⟩ := resolveDag_ok staticOrder_sound hordered
    have hlast := hperm.symm.subset (List.mem_cons_of_mem _ List.mem_cons_self)
    rcases needs_known hfirst _ hlast "evaluate" List.mem_cons_self with hnil | hmem
    · cases hnil
    · exact absurd ((hperm.map StepDef.name).subset hmem) (by decide)

-- where the template is unknown, the pipeline is completed without a step
example :
    ¬ EndsWell staticOrder gradingTemplates { extendsName := some "standard-grading" } := by
  intro h
  refine h.not_completed ⟨_, rfl⟩ _ rfl
    { context := { sessionId := "" }, simpleEval := fun _ _ => .value .none } none [] _
    (Resumption.runs_done.mpr ⟨rfl, rfl⟩) rfl

end CmlCloudManager.Controller.TemplateFallback
