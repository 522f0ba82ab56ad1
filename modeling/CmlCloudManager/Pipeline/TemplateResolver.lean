/-
  CmlCloudManager.Pipeline.TemplateResolver
  ─────────────────────────────────────────
  **PIPELINES FROM TEMPLATES.**

  A pipeline definition may extend a registered template: steps of the template are
  removed, others are inserted before or after its steps, and fields of steps are
  overridden.  Four passes edit the list of steps one after the other; the last three
  look for a step by its name and edit the list at its index.

  Whatever the anchors, the result is the list of the remaining steps, overridden, with
  what is inserted woven in (`resolve_steps`), which is what the customization asks for
  (`resolve_edits`).
-/
import CmlCloudManager.Foundation.Weave
import CmlCloudManager.Pipeline.Value

namespace CmlCloudManager.Pipeline

open CmlCloudManager.Foundation

/-! ## §1. Definitions as they are written. -/

/-- The name of a step, if it is a text. -/
def rawName (step : Payload) : Option String :=
  match step.get? "name" with
  | some (.str name) => some name
  | _ => none

/-- A pipeline definition or a template, by its keys. -/
structure RawPipeline where
  extendsName : Option String := none
  /-- The other keys with plain values, such as `description`. -/
  settings : Payload := Dict.empty
  steps : Option (List Payload) := none
  outputs : Option Payload := none
  remove : List String := []
  insertBefore : Dict String (List Payload) := Dict.empty
  insertAfter : Dict String (List Payload) := Dict.empty
  overrides : Dict String Payload := Dict.empty

/-- What `resolve` raises. -/
inductive ResolveError where
  /-- `PipelineTemplateError`. -/
  | template (message : String)
  | keyError (key : String)

/-! ## §2. `PipelineTemplateResolver`. -/

/-- `_load_template`. -/
def loadTemplate (templates : Dict String RawPipeline) (name : String) :
    Except ResolveError RawPipeline :=
  match templates.get? name with
  | none =>
      .error (.template ("Unknown pipeline template: '" ++ name ++ "'. Available: "
        ++ ", ".intercalate (templates.keys.mergeSort fun a b => decide (a ≤ b))))
  | some template => .ok template

/-- `_find_step_index`. -/
def findStepIndex (steps : List Payload) (name : String) : Option Nat :=
  steps.findIdx? fun step => decide (rawName step = some name)

/-- Whether the name of a step is one of those to remove. -/
def isRemoved (removals : List String) (step : Payload) : Bool :=
  match rawName step with
  | none => false
  | some name => decide (name ∈ removals)

/-- `_apply_removes`. -/
def applyRemoves (base customization : RawPipeline) : Except ResolveError RawPipeline :=
  if customization.remove = [] then .ok base
  else
    let steps := base.steps.getD []
    if steps.all fun step => step.contains "name" then
      .ok { base with
        steps := some (steps.filter fun step => !isRemoved customization.remove step) }
    else .error (.keyError "name")

/-- Edits at the steps with the names of a dict, in its order. -/
def editAtNames {β : Type} (missing : String → String)
    (edit : Nat → β → List Payload → List Payload) :
    List (String × β) → List Payload → Except ResolveError (List Payload)
  | [], steps => .ok steps
  | (name, what) :: rest, steps =>
      match findStepIndex steps name with
      | none => .error (.template (missing name))
      | some idx => editAtNames missing edit rest (edit idx what steps)

/-- A pass over the steps; without anything to do it returns the base. -/
def applyEdits {β : Type} (missing : String → String)
    (edit : Nat → β → List Payload → List Payload) (edits : Dict String β) (base : RawPipeline) :
    Except ResolveError RawPipeline :=
  if edits.isEmpty then .ok base
  else
    match editAtNames missing edit edits.entries (base.steps.getD []) with
    | .error e => .error e
    | .ok steps => .ok { base with steps := some steps }

/-- New steps, each at the next index from the anchor's. -/
def insertBeforeAnchor (anchorIdx : Nat) (newSteps steps : List Payload) : List Payload :=
  newSteps.zipIdx.foldl (fun steps (newStep, i) => steps.insertIdx (anchorIdx + i) newStep) steps

/-- New steps, the last one first, each right after the anchor. -/
def insertAfterAnchor (anchorIdx : Nat) (newSteps steps : List Payload) : List Payload :=
  newSteps.reverse.foldl (fun steps newStep => steps.insertIdx (anchorIdx + 1) newStep) steps

/-- Fields merged into a step. -/
def overrideAt (stepIdx : Nat) (fields : Payload) (steps : List Payload) : List Payload :=
  steps.modify stepIdx fun step => step.update fields

/-- `_apply_inserts_before`. -/
def applyInsertsBefore (base customization : RawPipeline) : Except ResolveError RawPipeline :=
  applyEdits (fun name => "insert_before: anchor step '" ++ name ++ "' not found in template")
    insertBeforeAnchor customization.insertBefore base

/-- `_apply_inserts_after`. -/
def applyInsertsAfter (base customization : RawPipeline) : Except ResolveError RawPipeline :=
  applyEdits (fun name => "insert_after: anchor step '" ++ name ++ "' not found in template")
    insertAfterAnchor customization.insertAfter base

/-- `_apply_overrides`. -/
def applyOverrides (base customization : RawPipeline) : Except ResolveError RawPipeline :=
  applyEdits (fun name => "overrides: step '" ++ name ++ "' not found in template")
    overrideAt customization.overrides base

/-- The keys that are copied over. -/
def settingKeys : List String := ["description", "trigger", "max_retries", "retry_backoff"]

/-- Top-level fields and outputs of the customization. -/
def mergeFields (resolved customization : RawPipeline) : RawPipeline :=
  { resolved with
    settings := settingKeys.foldl (fun settings key =>
      match customization.settings.get? key with
      | none => settings
      | some value => settings.set key value) resolved.settings
    outputs :=
      match customization.outputs with
      | none => resolved.outputs
      | some outputs => some ((resolved.outputs.getD Dict.empty).update outputs) }

/-- The passes, in order. -/
def customize (base customization : RawPipeline) : Except ResolveError RawPipeline := do
  let resolved ← applyRemoves base customization
  let resolved ← applyInsertsBefore resolved customization
  let resolved ← applyInsertsAfter resolved customization
  let resolved ← applyOverrides resolved customization
  return mergeFields resolved customization

/-- `PipelineTemplateResolver.resolve`. -/
def resolve (templates : Dict String RawPipeline) (pipelineDef : RawPipeline) :
    Except ResolveError RawPipeline :=
  match pipelineDef.extendsName with
  | none => .ok pipelineDef
  | some "" => .ok pipelineDef
  | some name => do
      let base ← loadTemplate templates name
      customize base pipelineDef

/-! ## §3. The passes on woven lists. -/

/-- What a dict has for a name. -/
def newSteps (entries : List (String × List Payload)) : Option String → List Payload
  | none => []
  | some name => (Dict.lookup name entries).getD []

/-- A step with the fields that override its own. -/
def overridden (entries : List (String × Payload)) (step : Payload) : Payload :=
  match rawName step with
  | none => step
  | some name =>
      match Dict.lookup name entries with
      | none => step
      | some fields => step.update fields

theorem newSteps_nil (k : Option String) : newSteps [] k = [] := by
  cases k <;> rfl

theorem newSteps_of_not_mem {name : String} {entries : List (String × List Payload)}
    (h : name ∉ entries.map Prod.fst) : newSteps entries (some name) = [] := by
  unfold newSteps
  dsimp only
  rw [(Dict.lookup_eq_none_iff name entries).mpr h, Option.getD_none]

/-- An entry more. -/
theorem newSteps_cons (name : String) (new : List Payload) (rest : List (String × List Payload))
    (k : Option String) :
    newSteps ((name, new) :: rest) k = if k = some name then new else newSteps rest k := by
  cases k with
  | none => rfl
  | some other =>
      unfold newSteps
      dsimp only [Dict.lookup]
      by_cases heq : name = other
      · rw [if_pos heq, if_pos (congrArg some heq.symm), Option.getD_some]
      · rw [if_neg heq, if_neg fun hsome => heq (Option.some.inj hsome).symm]

section Passes

variable {l : List Payload} {before after : Option String → List Payload}

/-- A step with a name, and where it is found. -/
theorem exists_anchor {name : String} (h : some name ∈ l.map rawName)
    (hapart : Apart rawName before after l) :
    ∃ front step back, l = front ++ step :: back ∧ rawName step = some name
      ∧ findStepIndex (weave rawName before after l) name
        = some (weave rawName before after front ++ before (rawName step)).length := by
  obtain ⟨step, hstep, hname⟩ := List.mem_map.mp h
  obtain ⟨front, back, rfl⟩ := List.append_of_mem hstep
  refine ⟨front, step, back, rfl, hname, ?_⟩
  unfold findStepIndex
  rw [← hname]
  exact findIdx?_weave hapart

/-- One insertion before an anchor. -/
theorem insert_before_step (missing : String → String) {name : String} {new : List Payload}
    {rest : List (String × List Payload)} (hanchor : some name ∈ l.map rawName)
    (hapart : Apart rawName before after l) :
    editAtNames missing insertBeforeAnchor ((name, new) :: rest) (weave rawName before after l)
      = editAtNames missing insertBeforeAnchor rest (weave rawName
          (fun k => if k = some name then before k ++ new else before k) after l) := by
  obtain ⟨front, step, back, rfl, hname, hfound⟩ := exists_anchor hanchor hapart
  rw [editAtNames, hfound]
  dsimp only
  rw [insertBeforeAnchor, insert_before_weave hapart new, hname]

/-- One insertion after an anchor. -/
theorem insert_after_step (missing : String → String) {name : String} {new : List Payload}
    {rest : List (String × List Payload)} (hanchor : some name ∈ l.map rawName)
    (hapart : Apart rawName before after l) :
    editAtNames missing insertAfterAnchor ((name, new) :: rest) (weave rawName before after l)
      = editAtNames missing insertAfterAnchor rest (weave rawName before
          (fun k => if k = some name then new ++ after k else after k) l) := by
  obtain ⟨front, step, back, rfl, hname, hfound⟩ := exists_anchor hanchor hapart
  rw [editAtNames, hfound]
  dsimp only
  rw [insertAfterAnchor, insert_after_weave hapart new, hname]

/-- **All insertions of a dict**, wherever they go: one that is made as `join` says, and keeps
the list in shape for the others, leaves all of them made. -/
theorem insert_pass {missing : String → String}
    {edit : Nat → List Payload → List Payload → List Payload}
    (woven : (Option String → List Payload) → List Payload)
    (join : List Payload → List Payload → List Payload)
    (InShape : (Option String → List Payload) → Prop) (hjoin : ∀ steps, join steps [] = steps) :
    ∀ (entries : List (String × List Payload)) (inserted : Option String → List Payload),
      (∀ name new rest inserted, (name, new) ∈ entries → InShape inserted →
        editAtNames missing edit ((name, new) :: rest) (woven inserted)
            = editAtNames missing edit rest
                (woven fun k => if k = some name then join (inserted k) new else inserted k)
          ∧ InShape fun k => if k = some name then join (inserted k) new else inserted k) →
      (entries.map Prod.fst).Nodup → InShape inserted →
      editAtNames missing edit entries (woven inserted)
        = .ok (woven fun k => join (inserted k) (newSteps entries k))
  | [], inserted, _, _, _ => by
      refine congrArg (Except.ok ∘ woven) (funext fun k => ?_)
      rw [newSteps_nil, hjoin]
  | (name, new) :: rest, inserted, hinsert, hnodup, hshape => by
      rw [List.map_cons, List.nodup_cons] at hnodup
      obtain ⟨hmade, hshape'⟩ := hinsert name new rest inserted List.mem_cons_self hshape
      rw [hmade, insert_pass woven join InShape hjoin rest _
        (fun name new others inserted hentry =>
          hinsert name new others inserted (List.mem_cons_of_mem _ hentry)) hnodup.2 hshape']
      refine congrArg (Except.ok ∘ woven) (funext fun k => ?_)
      rw [newSteps_cons]
      split
      next heq => rw [heq, newSteps_of_not_mem hnodup.1, hjoin]
      next => rfl

/-- All insertions before anchors. -/
theorem insert_before_pass (missing : String → String) (entries : List (String × List Payload))
    (before : Option String → List Payload) (hnodup : (entries.map Prod.fst).Nodup)
    (hanchors : ∀ e ∈ entries, some e.1 ∈ l.map rawName)
    (hfresh : ∀ e ∈ entries, ∀ x ∈ e.2, rawName x ∉ l.map rawName)
    (hapart : Apart rawName before after l) :
    editAtNames missing insertBeforeAnchor entries (weave rawName before after l)
      = .ok (weave rawName (fun k => before k ++ newSteps entries k) after l) := by
  refine insert_pass (fun before => weave rawName before after l) (fun steps new => steps ++ new)
    (fun before => Apart rawName before after l) List.append_nil entries before ?_ hnodup hapart
  intro name new rest before hentry hapart
  exact ⟨insert_before_step missing (hanchors _ hentry) hapart,
    hapart.insert_before (hfresh _ hentry)⟩

/-- All insertions after anchors. -/
theorem insert_after_pass (missing : String → String) (entries : List (String × List Payload))
    (after : Option String → List Payload) (hnodup : (entries.map Prod.fst).Nodup)
    (hanchors : ∀ e ∈ entries, some e.1 ∈ l.map rawName)
    (hfresh : ∀ e ∈ entries, ∀ x ∈ e.2, rawName x ∉ l.map rawName)
    (hapart : Apart rawName before after l) :
    editAtNames missing insertAfterAnchor entries (weave rawName before after l)
      = .ok (weave rawName before (fun k => newSteps entries k ++ after k) l) := by
  refine insert_pass (fun after => weave rawName before after l) (fun steps new => new ++ steps)
    (fun after => Apart rawName before after l) List.nil_append entries after ?_ hnodup hapart
  intro name new rest after hentry hapart
  exact ⟨insert_after_step missing (hanchors _ hentry) hapart,
    hapart.insert_after (hfresh _ hentry)⟩

/-- Fields that leave the name as it is. -/
def KeepsName (name : String) (fields : Payload) : Prop :=
  fields.get? "name" = none ∨ fields.get? "name" = some (.str name)

theorem KeepsName.rawName_update {name : String} {fields step : Payload} (h : KeepsName name fields)
    (hname : rawName step = some name) : rawName (step.update fields) = some name := by
  unfold rawName at hname ⊢
  rw [Dict.get?_update]
  rcases h with hnone | hsome
  · rwa [hnone, Option.none_or]
  · rw [hsome, Option.some_or]

theorem overridden_nil (step : Payload) : overridden [] step = step := by
  unfold overridden
  split <;> rfl

/-- An entry more. -/
theorem overridden_cons {name : String} {fields : Payload} {rest : List (String × Payload)}
    (hfields : KeepsName name fields) (h : name ∉ rest.map Prod.fst) (step : Payload) :
    overridden ((name, fields) :: rest) step
      = overridden rest (if rawName step = some name then step.update fields else step) := by
  split
  next heq =>
    unfold overridden
    rw [hfields.rawName_update heq, heq]
    dsimp only [Dict.lookup]
    rw [if_pos rfl, (Dict.lookup_eq_none_iff name rest).mpr h]
  next hne =>
    unfold overridden
    split
    next => rfl
    next other hother =>
      dsimp only [Dict.lookup]
      rw [if_neg fun heq : name = other => hne (heq ▸ hother)]

theorem rawName_overridden {entries : List (String × Payload)}
    (h : ∀ e ∈ entries, KeepsName e.1 e.2) (step : Payload) :
    rawName (overridden entries step) = rawName step := by
  unfold overridden
  split
  next => rfl
  next name hname =>
    split
    next => rfl
    next fields hfields =>
      have hmem := Dict.mem_of_lookup hfields
      rw [hname]
      exact (h _ hmem).rawName_update hname

/-- One override. -/
theorem override_step (missing : String → String) {name : String} {fields : Payload}
    {rest : List (String × Payload)} (htarget : some name ∈ l.map rawName)
    (hfields : KeepsName name fields) (hapart : Apart rawName before after l) :
    editAtNames missing overrideAt ((name, fields) :: rest) (weave rawName before after l)
      = editAtNames missing overrideAt rest (weave rawName before after
          (l.map fun step => if rawName step = some name then step.update fields else step)) := by
  obtain ⟨front, step, back, rfl, hname, hfound⟩ := exists_anchor htarget hapart
  obtain ⟨hfront, hback⟩ := names_ne_of_nodup hapart.nodup
  have hkeep : ∀ steps : List Payload, (∀ y ∈ steps, rawName y ≠ rawName step) →
      steps.map (fun step => if rawName step = some name then step.update fields else step)
        = steps :=
    fun steps hsteps => (List.map_congr_left fun y hy => if_neg (hname ▸ hsteps y hy)).trans
      (List.map_id _)
  have hsame : rawName (step.update fields) = rawName step :=
    (hfields.rawName_update hname).trans hname.symm
  rw [editAtNames, hfound]
  dsimp only
  rw [overrideAt, modify_weave _ hsame, List.map_append, List.map_cons, hkeep front hfront,
    hkeep back hback, if_pos hname]

end Passes

/-- All overrides. -/
theorem override_pass (missing : String → String) {before after : Option String → List Payload} :
    ∀ (entries : List (String × Payload)) (l : List Payload),
      (entries.map Prod.fst).Nodup → (∀ e ∈ entries, some e.1 ∈ l.map rawName) →
      (∀ e ∈ entries, KeepsName e.1 e.2) → Apart rawName before after l →
      editAtNames missing overrideAt entries (weave rawName before after l)
        = .ok (weave rawName before after (l.map (overridden entries)))
  | [], l, _, _, _, _ => by
      rw [List.map_congr_left fun step _ => overridden_nil step, List.map_id']
      rfl
  | (name, fields) :: rest, l, hnodup, htargets, hkeeps, hapart => by
      rw [List.map_cons, List.nodup_cons] at hnodup
      have hfields := hkeeps _ List.mem_cons_self
      have hnames : (l.map fun step =>
          if rawName step = some name then step.update fields else step).map rawName
            = l.map rawName := by
        rw [List.map_map]
        refine List.map_congr_left fun step _ => ?_
        rw [Function.comp_apply]
        split
        next heq => exact (hfields.rawName_update heq).trans heq.symm
        next => rfl
      rw [override_step missing (htargets _ List.mem_cons_self) hfields hapart,
        override_pass missing rest _ hnodup.2
          (fun e he => hnames ▸ htargets e (List.mem_cons_of_mem _ he))
          (fun e he => hkeeps e (List.mem_cons_of_mem _ he))
          ⟨hnames ▸ hapart.nodup, hnames ▸ hapart.before, hnames ▸ hapart.after⟩,
        List.map_map]
      refine congrArg (fun l => Except.ok (weave rawName before after l)) ?_
      exact List.map_congr_left fun step _ => (overridden_cons hfields hnodup.1 step).symm

/-! ## §4. What is asked for. -/

/-- The steps of the base that are not removed. -/
def remaining (base : List Payload) (c : RawPipeline) : List Payload :=
  base.filter fun step => !isRemoved c.remove step

/-- All steps that are inserted. -/
def inserted (c : RawPipeline) : List Payload :=
  c.insertBefore.entries.flatMap Prod.snd ++ c.insertAfter.entries.flatMap Prod.snd

/-- A customization that fits its base: steps have distinct names, anchors and overrides name
steps of the base that remain, overrides keep names, and inserted steps have fresh, distinct
ones. -/
structure FitsBase (base : List Payload) (c : RawPipeline) : Prop where
  named : ∀ step ∈ base, ∃ name, rawName step = some name
  names_distinct : (base.map rawName).Nodup
  before_anchors : ∀ e ∈ c.insertBefore.entries, some e.1 ∈ (remaining base c).map rawName
  after_anchors : ∀ e ∈ c.insertAfter.entries, some e.1 ∈ (remaining base c).map rawName
  override_targets : ∀ e ∈ c.overrides.entries, some e.1 ∈ (remaining base c).map rawName
  names_kept : ∀ e ∈ c.overrides.entries, KeepsName e.1 e.2
  inserted_distinct : ((inserted c).map rawName).Nodup
  inserted_fresh : ∀ step ∈ inserted c, rawName step ∉ base.map rawName

/-- The steps a customization asks for. -/
structure EditedAsAsked (base : List Payload) (c : RawPipeline) (steps : List Payload) : Prop where
  /-- The remaining steps of the base, in their order. -/
  order : (steps.map rawName).filter (· ∈ base.map rawName) = (remaining base c).map rawName
  /-- An inserted step is there once. -/
  inserted_once : ∀ step ∈ inserted c, step ∈ steps ∧ (steps.map rawName).count (rawName step) = 1
  /-- What is inserted before an anchor ends right before it. -/
  before : ∀ anchor new, c.insertBefore.get? anchor = some new → ∃ front step back,
    steps = front ++ (new ++ step :: back) ∧ rawName step = some anchor
  /-- What is inserted after an anchor starts right after it. -/
  after : ∀ anchor new, c.insertAfter.get? anchor = some new → ∃ front step back,
    steps = front ++ step :: (new ++ back) ∧ rawName step = some anchor
  /-- No step has the name of a removed one. -/
  removed : ∀ step ∈ base, isRemoved c.remove step = true → rawName step ∉ steps.map rawName
  /-- Exactly the fields an override names are changed. -/
  overrides : ∀ step ∈ remaining base c, ∃ step' ∈ steps, rawName step' = rawName step
    ∧ ∀ field, step'.get? field
      = (((rawName step).bind c.overrides.get?).bind fun fields => fields.get? field).or
          (step.get? field)
  /-- There is no other step. -/
  no_other : ∀ step ∈ steps, step ∈ inserted c ∨ rawName step ∈ (remaining base c).map rawName


/-! ## §5. What `resolve` returns. -/

theorem contains_name {step : Payload} {name : String} (h : rawName step = some name) :
    step.contains "name" = true := by
  unfold rawName at h
  split at h
  next hget =>
    unfold Dict.contains
    rw [hget]
    rfl
  next => cases h

theorem applyRemoves_steps (base c : RawPipeline)
    (h : ∀ step ∈ base.steps.getD [], ∃ name, rawName step = some name) :
    ∃ resolved, applyRemoves base c = .ok resolved
      ∧ resolved.steps.getD [] = remaining (base.steps.getD []) c := by
  unfold applyRemoves
  split
  next hnone =>
    refine ⟨base, rfl, (List.filter_eq_self.mpr fun step _ => ?_).symm⟩
    unfold isRemoved
    rw [hnone]
    split
    next => rfl
    next => simp
  next =>
    have hall : ((base.steps.getD []).all fun step => step.contains "name") = true :=
      List.all_eq_true.mpr fun step hstep => contains_name (h step hstep).choose_spec
    exact ⟨_, if_pos hall, rfl⟩

theorem applyEdits_steps {β : Type} {missing : String → String}
    {edit : Nat → β → List Payload → List Payload} {edits : Dict String β} {base : RawPipeline}
    {steps : List Payload}
    (h : editAtNames missing edit edits.entries (base.steps.getD []) = .ok steps) :
    ∃ resolved, applyEdits missing edit edits base = .ok resolved
      ∧ resolved.steps.getD [] = steps := by
  unfold applyEdits
  split
  next hempty =>
    rw [Dict.eq_empty_of_isEmpty hempty] at h
    exact ⟨base, rfl, Except.ok.inj h⟩
  next =>
    rw [h]
    exact ⟨_, rfl, rfl⟩

/-- What is inserted is woven into the remaining steps, which are overridden. -/
def editedSteps (base : List Payload) (c : RawPipeline) : List Payload :=
  weave rawName (newSteps c.insertBefore.entries) (newSteps c.insertAfter.entries)
    ((remaining base c).map (overridden c.overrides.entries))

section Fitting

variable {base : List Payload} {c : RawPipeline}

theorem mem_newSteps {entries : List (String × List Payload)} {k : Option String} {x : Payload}
    (h : x ∈ newSteps entries k) : ∃ e ∈ entries, k = some e.1 ∧ x ∈ e.2 := by
  cases k with
  | none => cases h
  | some name =>
      unfold newSteps at h
      dsimp only at h
      cases hlookup : Dict.lookup name entries with
      | none =>
          rw [hlookup] at h
          cases h
      | some new =>
          rw [hlookup] at h
          exact ⟨_, Dict.mem_of_lookup hlookup, rfl, h⟩

theorem FitsBase.fresh (h : FitsBase base c) {x : Payload} (hx : x ∈ inserted c) :
    rawName x ∉ (remaining base c).map rawName := fun hmem =>
  h.inserted_fresh x hx ((List.filter_sublist.map rawName).subset hmem)

theorem inserted_of_before {e : String × List Payload} (he : e ∈ c.insertBefore.entries)
    {x : Payload} (hx : x ∈ e.2) : x ∈ inserted c :=
  List.mem_append_left _ (List.mem_flatMap.mpr ⟨e, he, hx⟩)

theorem inserted_of_after {e : String × List Payload} (he : e ∈ c.insertAfter.entries)
    {x : Payload} (hx : x ∈ e.2) : x ∈ inserted c :=
  List.mem_append_right _ (List.mem_flatMap.mpr ⟨e, he, hx⟩)

/-- The names of the remaining steps stay apart from what is inserted. -/
theorem FitsBase.apart (h : FitsBase base c) :
    Apart rawName (newSteps c.insertBefore.entries) (newSteps c.insertAfter.entries)
      (remaining base c) where
  nodup := (List.filter_sublist.map rawName).nodup h.names_distinct
  before k x hx := by
    obtain ⟨e, he, -, hmem⟩ := mem_newSteps hx
    exact h.fresh (inserted_of_before he hmem)
  after k x hx := by
    obtain ⟨e, he, -, hmem⟩ := mem_newSteps hx
    exact h.fresh (inserted_of_after he hmem)

/-- Overriding changes no name. -/
theorem FitsBase.names_overridden (h : FitsBase base c) :
    ((remaining base c).map (overridden c.overrides.entries)).map rawName
      = (remaining base c).map rawName := by
  rw [List.map_map]
  exact List.map_congr_left fun step _ => rawName_overridden h.names_kept step

/-- **The passes, one after the other**, make the woven list. -/
theorem customize_steps {template : RawPipeline} (hbase : template.steps.getD [] = base)
    (h : FitsBase base c) :
    ∃ resolved, customize template c = .ok resolved
      ∧ resolved.steps.getD [] = editedSteps base c := by
  subst hbase
  have hapart := h.apart
  obtain ⟨first, hfirst, hremaining⟩ := applyRemoves_steps template c h.named
  -- nothing is woven in yet
  have hstart : first.steps.getD []
      = weave rawName (fun _ => []) (fun _ => []) (remaining (template.steps.getD []) c) := by
    rw [hremaining, weave_nothing]
  have hnone : Apart rawName (fun _ => []) (fun _ => [])
      (remaining (template.steps.getD []) c) :=
    ⟨hapart.nodup, fun _ _ hx => absurd hx List.not_mem_nil,
      fun _ _ hx => absurd hx List.not_mem_nil⟩
  have hbeforePass := insert_before_pass
    (fun name => "insert_before: anchor step '" ++ name ++ "' not found in template")
    c.insertBefore.entries _ c.insertBefore.nodup h.before_anchors
    (fun e he x hx => h.fresh (inserted_of_before he hx)) hnone
  rw [← hstart] at hbeforePass
  obtain ⟨second, hsecond, hwoven⟩ := applyEdits_steps hbeforePass
  have hhalf : Apart rawName (newSteps c.insertBefore.entries) (fun _ => [])
      (remaining (template.steps.getD []) c) := ⟨hapart.nodup, hapart.before, hnone.after⟩
  have hafterPass := insert_after_pass
    (fun name => "insert_after: anchor step '" ++ name ++ "' not found in template")
    c.insertAfter.entries _ c.insertAfter.nodup h.after_anchors
    (fun e he x hx => h.fresh (inserted_of_after he hx)) hhalf
  simp only [List.nil_append] at hwoven
  simp only [List.append_nil] at hafterPass
  rw [← hwoven] at hafterPass
  obtain ⟨third, hthird, hwoven'⟩ := applyEdits_steps hafterPass
  have hoverridePass := override_pass
    (fun name => "overrides: step '" ++ name ++ "' not found in template")
    c.overrides.entries _ c.overrides.nodup h.override_targets h.names_kept hapart
  rw [← hwoven'] at hoverridePass
  obtain ⟨fourth, hfourth, hedited⟩ := applyEdits_steps hoverridePass
  refine ⟨mergeFields fourth c, ?_, hedited⟩
  unfold customize
  rw [hfirst]
  dsimp only [bind, Except.bind]
  unfold applyInsertsBefore
  rw [hsecond]
  dsimp only
  unfold applyInsertsAfter
  rw [hthird]
  dsimp only
  unfold applyOverrides
  rw [hfourth]
  rfl

/-! ## §6. It is what is asked for. -/

/-- What is inserted at the elements of a list is all there is to insert. -/
theorem flatMap_newSteps_perm {l : List Payload} (hl : (l.map rawName).Nodup) :
    ∀ entries : List (String × List Payload), (entries.map Prod.fst).Nodup →
      (∀ e ∈ entries, some e.1 ∈ l.map rawName) →
      (l.flatMap fun x => newSteps entries (rawName x)).Perm (entries.flatMap Prod.snd)
  | [], _, _ => by
      simp only [newSteps_nil, List.flatMap_nil]
      rw [List.flatMap_eq_nil_iff.mpr fun _ _ => rfl]
  | (name, new) :: rest, hnodup, hanchors => by
      rw [List.map_cons, List.nodup_cons] at hnodup
      have ih := flatMap_newSteps_perm hl rest hnodup.2 fun e he =>
        hanchors e (List.mem_cons_of_mem _ he)
      obtain ⟨step, hstep, hname⟩ := List.mem_map.mp (hanchors _ List.mem_cons_self)
      obtain ⟨front, back, hsplit⟩ := List.append_of_mem hstep
      have hothers := names_ne_of_nodup (hsplit ▸ hl)
      have hrest : ∀ steps : List Payload, (∀ y ∈ steps, rawName y ≠ rawName step) →
          steps.flatMap (fun x => newSteps ((name, new) :: rest) (rawName x))
            = steps.flatMap fun x => newSteps rest (rawName x) := by
        intro steps hsteps
        refine List.flatMap_congr fun y hy => ?_
        rw [newSteps_cons, if_neg fun heq => hsteps y hy (heq.trans hname.symm)]
      rw [hsplit, List.flatMap_append, List.flatMap_cons, hname, newSteps_of_not_mem hnodup.1,
        List.nil_append] at ih
      rw [hsplit, List.flatMap_append, List.flatMap_cons, hrest front hothers.1,
        hrest back hothers.2, newSteps_cons, if_pos hname, List.flatMap_cons]
      exact (List.perm_append_comm_assoc _ _ _).trans (ih.append_left new)

theorem FitsBase.editedSteps_perm (h : FitsBase base c) :
    ((editedSteps base c).map rawName).Perm
      ((inserted c).map rawName ++ (remaining base c).map rawName) := by
  have hnames := h.names_overridden
  have hnodup := h.apart.nodup
  rw [← hnames] at hnodup
  have hbefore := flatMap_newSteps_perm hnodup c.insertBefore.entries c.insertBefore.nodup
    fun e he => hnames ▸ h.before_anchors e he
  have hafter := flatMap_newSteps_perm hnodup c.insertAfter.entries c.insertAfter.nodup
    fun e he => hnames ▸ h.after_anchors e he
  have hperm := (weave_perm ((remaining base c).map (overridden c.overrides.entries))).trans
    (hbefore.append (hafter.append (.refl _)))
  rw [← List.append_assoc] at hperm
  have hmapped := hperm.map rawName
  rwa [List.map_append, hnames] at hmapped

/-- All names are distinct. -/
theorem FitsBase.names_nodup (h : FitsBase base c) :
    ((editedSteps base c).map rawName).Nodup := by
  refine h.editedSteps_perm.nodup_iff.mpr (List.nodup_append.mpr
    ⟨h.inserted_distinct, h.apart.nodup, fun name hname name' hname' heq => ?_⟩)
  obtain ⟨x, hx, rfl⟩ := List.mem_map.mp hname
  exact h.fresh hx (heq ▸ hname')

/-- A step of the result is one that remains, overridden, or one that is inserted. -/
theorem mem_editedSteps {x : Payload} (h : x ∈ editedSteps base c) :
    x ∈ (remaining base c).map (overridden c.overrides.entries) ∨ x ∈ inserted c := by
  rcases mem_weave.mp h with hmem | ⟨y, -, hmem | hmem⟩
  · exact .inl hmem
  · obtain ⟨e, he, -, hx⟩ := mem_newSteps hmem
    exact .inr (inserted_of_before he hx)
  · obtain ⟨e, he, -, hx⟩ := mem_newSteps hmem
    exact .inr (inserted_of_after he hx)

/-- An anchor, where it stands in the result. -/
theorem FitsBase.anchor_split (h : FitsBase base c) {anchor : String}
    (hanchor : some anchor ∈ (remaining base c).map rawName) :
    ∃ front step back, rawName step = some anchor
      ∧ editedSteps base c
        = (front ++ newSteps c.insertBefore.entries (some anchor))
          ++ step :: (newSteps c.insertAfter.entries (some anchor) ++ back) := by
  rw [← h.names_overridden] at hanchor
  obtain ⟨step, hstep, hname⟩ := List.mem_map.mp hanchor
  obtain ⟨front, back, hsplit⟩ := List.append_of_mem hstep
  refine ⟨weave rawName (newSteps c.insertBefore.entries) (newSteps c.insertAfter.entries) front,
    step, weave rawName (newSteps c.insertBefore.entries) (newSteps c.insertAfter.entries) back,
    hname, ?_⟩
  unfold editedSteps
  rw [hsplit, weave_split, hname]

/-- What a dict has for an anchor is what is inserted there. -/
theorem newSteps_of_get? {inserts : Dict String (List Payload)} {anchor : String}
    {new : List Payload} (h : inserts.get? anchor = some new) :
    newSteps inserts.entries (some anchor) = new :=
  congrArg (Option.getD · []) h

/-- The remaining steps are those of the result with names of the base. -/
theorem FitsBase.order (h : FitsBase base c) :
    ((editedSteps base c).map rawName).filter (· ∈ base.map rawName)
      = (remaining base c).map rawName := by
  rw [List.filter_map]
  have hl : ∀ x ∈ (remaining base c).map (overridden c.overrides.entries),
      ((fun name => decide (name ∈ base.map rawName)) ∘ rawName) x = true := by
    intro x hx
    have hname : rawName x ∈ (remaining base c).map rawName :=
      h.names_overridden ▸ List.mem_map_of_mem hx
    exact decide_eq_true ((List.filter_sublist.map rawName).subset hname)
  have hinserted : ∀ x ∈ inserted c,
      ((fun name => decide (name ∈ base.map rawName)) ∘ rawName) x = false := fun x hx =>
    decide_eq_false (h.inserted_fresh x hx)
  have hbefore : ∀ k, ∀ x ∈ newSteps c.insertBefore.entries k,
      ((fun name => decide (name ∈ base.map rawName)) ∘ rawName) x = false := by
    intro k x hx
    obtain ⟨e, he, -, hmem⟩ := mem_newSteps hx
    exact hinserted x (inserted_of_before he hmem)
  have hafter : ∀ k, ∀ x ∈ newSteps c.insertAfter.entries k,
      ((fun name => decide (name ∈ base.map rawName)) ∘ rawName) x = false := by
    intro k x hx
    obtain ⟨e, he, -, hmem⟩ := mem_newSteps hx
    exact hinserted x (inserted_of_after he hmem)
  unfold editedSteps
  rw [filter_weave hl hbefore hafter, h.names_overridden]

/-- An inserted step is in the result. -/
theorem FitsBase.inserted_mem (h : FitsBase base c) {x : Payload} (hx : x ∈ inserted c) :
    x ∈ editedSteps base c := by
  rcases List.mem_append.mp hx with hbefore | hafter
  · obtain ⟨⟨anchor, new⟩, he, hmem⟩ := List.mem_flatMap.mp hbefore
    obtain ⟨front, step, back, -, hsplit⟩ := h.anchor_split (h.before_anchors _ he)
    rw [hsplit, newSteps_of_get? ((Dict.get?_eq_some_iff _ _ _).mpr he)]
    exact List.mem_append_left _ (List.mem_append_right _ hmem)
  · obtain ⟨⟨anchor, new⟩, he, hmem⟩ := List.mem_flatMap.mp hafter
    obtain ⟨front, step, back, -, hsplit⟩ := h.anchor_split (h.after_anchors _ he)
    rw [hsplit, newSteps_of_get? ((Dict.get?_eq_some_iff _ _ _).mpr he)]
    exact List.mem_append_right _ (List.mem_cons_of_mem _ (List.mem_append_left _ hmem))

/-- The fields of a step after its overrides. -/
theorem get?_overridden (overrides : Dict String Payload) (step : Payload) (field : String) :
    (overridden overrides.entries step).get? field
      = (((rawName step).bind overrides.get?).bind fun fields => fields.get? field).or
          (step.get? field) := by
  unfold overridden
  cases hname : rawName step with
  | none => rfl
  | some name =>
      dsimp only [Option.bind_some]
      cases hfields : Dict.lookup name overrides.entries with
      | none =>
          have hget : overrides.get? name = none := hfields
          rw [hget]
          rfl
      | some fields =>
          have hget : overrides.get? name = some fields := hfields
          rw [hget]
          exact Dict.get?_update step fields field

theorem FitsBase.edited (h : FitsBase base c) : EditedAsAsked base c (editedSteps base c) where
  order := h.order
  inserted_once x hx :=
    ⟨h.inserted_mem hx, List.count_eq_one_of_mem h.names_nodup
      (List.mem_map_of_mem (h.inserted_mem hx))⟩
  before anchor new hnew := by
    obtain ⟨front, step, back, hname, hsplit⟩ :=
      h.anchor_split (h.before_anchors _ ((Dict.get?_eq_some_iff _ _ _).mp hnew))
    rw [newSteps_of_get? hnew, List.append_assoc] at hsplit
    exact ⟨front, step, _, hsplit, hname⟩
  after anchor new hnew := by
    obtain ⟨front, step, back, hname, hsplit⟩ :=
      h.anchor_split (h.after_anchors _ ((Dict.get?_eq_some_iff _ _ _).mp hnew))
    rw [newSteps_of_get? hnew] at hsplit
    exact ⟨_, step, back, hsplit, hname⟩
  removed step hstep hremoved hmem := by
    obtain ⟨x, hx, hname⟩ := List.mem_map.mp hmem
    rcases mem_editedSteps hx with hremaining | hinserted
    · have hkept : rawName x ∈ (remaining base c).map rawName :=
        h.names_overridden ▸ List.mem_map_of_mem hremaining
      obtain ⟨y, hy, hname'⟩ := List.mem_map.mp hkept
      have hnot := (List.mem_filter.mp hy).2
      -- whether a step is removed depends on its name only
      have hsame : isRemoved c.remove y = isRemoved c.remove step := by
        unfold isRemoved
        rw [hname', hname]
      rw [hsame, hremoved] at hnot
      cases hnot
    · exact h.inserted_fresh x hinserted (hname ▸ List.mem_map_of_mem hstep)
  overrides step hstep :=
    ⟨overridden c.overrides.entries step,
      mem_weave.mpr (.inl (List.mem_map_of_mem hstep)),
      rawName_overridden h.names_kept step, get?_overridden c.overrides step⟩
  no_other x hx := by
    rcases mem_editedSteps hx with hremaining | hinserted
    · exact .inr (h.names_overridden ▸ List.mem_map_of_mem hremaining)
    · exact .inl hinserted

/-- **A customization that fits its template is resolved** to the steps it asks for. -/
theorem resolve_edits (templates : Dict String RawPipeline) {name : String} {template : RawPipeline}
    (hname : name ≠ "") (hload : templates.get? name = some template)
    (hextends : c.extendsName = some name) (h : FitsBase (template.steps.getD []) c) :
    ∃ resolved, resolve templates c = .ok resolved
      ∧ EditedAsAsked (template.steps.getD []) c (resolved.steps.getD []) := by
  obtain ⟨resolved, hresolved, hsteps⟩ := customize_steps rfl h
  refine ⟨resolved, ?_, hsteps ▸ h.edited⟩
  unfold resolve
  rw [hextends]
  split
  next heq => cases heq
  next heq => exact absurd (Option.some.inj heq) hname
  next heq =>
    cases heq
    unfold loadTemplate
    rw [hload]
    exact hresolved

end Fitting

/-- A step of a standard template. -/
def templateStep (name description : String) (needs : List String) (timeoutSeconds : Int) :
    Payload :=
  Dict.ofList <| [("name", .str name), ("handler", .str name), ("description", .str description)]
    ++ (if needs = [] then [] else [("needs", .list (needs.map .str))])
    ++ [("timeout_seconds", .int timeoutSeconds)]

/-- The template `standard-compute-grading`. -/
def standardComputeGrading : RawPipeline where
  settings := Dict.ofList [("description", .str "Standard grading pipeline."),
    ("trigger", .str "on_status:grading")]
  steps := some
    [templateStep "load_rubric" "Load grading rules from definition (grade.xml)" [] 30,
      templateStep "evaluate" "Run grading engine against evidence and rubric" ["load_rubric"] 120,
      templateStep "record_score" "Create ScoreReport aggregate and store results" ["evaluate"] 10]
  outputs := some (Dict.ofList [("score", .str "$STEPS.evaluate.score"),
    ("score_report_id", .str "$STEPS.record_score.score_report_id")])

/-- A grading pipeline with steps inserted on both sides of a gap, and another time limit. -/
def customGrading : RawPipeline where
  extendsName := some "standard-compute-grading"
  remove := ["record_score"]
  insertAfter := Dict.ofList [("load_rubric", [Payload.single "name" (.str "check_rubric")])]
  insertBefore := Dict.ofList [("evaluate", [Payload.single "name" (.str "collect_answers")])]
  overrides := Dict.ofList [("evaluate", Payload.single "timeout_seconds" (.int 600))]

/-- It is resolved as asked. -/
theorem custom_grading_resolved :
    ∃ resolved, resolve (Dict.ofList [("standard-compute-grading", standardComputeGrading)])
        customGrading = .ok resolved
      ∧ EditedAsAsked (standardComputeGrading.steps.getD []) customGrading
          (resolved.steps.getD []) := by
  refine resolve_edits (c := customGrading) _ (by decide) rfl rfl ⟨?_, ?_, ?_, ?_, ?_, ?_, ?_, ?_⟩
  · intro step hstep
    have hnamed : ∀ step ∈ standardComputeGrading.steps.getD [], (rawName step).isSome := by decide
    exact Option.isSome_iff_exists.mp (hnamed step hstep)
  · decide
  · decide
  · decide
  · decide
  · intro e he
    obtain rfl := List.mem_singleton.mp he
    exact .inl rfl
  · decide
  · decide

end CmlCloudManager.Pipeline
