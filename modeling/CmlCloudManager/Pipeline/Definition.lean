/-
  CmlCloudManager.Pipeline.Definition
  ───────────────────────────────────
  **PIPELINE DEFINITIONS AND THEIR TOPOLOGICAL RESOLUTION.**

  A pipeline is a list of steps with `needs`; `resolveDag` checks that names
  are unique and needs known, hands the graph to `graphlib.TopologicalSorter`
  and returns the steps in the order it got.  The sorter is a PARAMETER: the
  iteration order of the `needs` sets is process dependent, so any topological
  order may come back (`Sorter.Sound` and `Sorter.Complete` are all that is known
  of it).  `resolveDag_ok` is the one fact most later modules use:

      resolveDag sorter steps = .ok ordered  →
        `ordered` is a permutation of `steps`, names distinct, needs first

  and `resolveDag_accepts_iff` says for which steps there is an order.
-/
import CmlCloudManager.Foundation.TopologicalOrder
import CmlCloudManager.Pipeline.Progress
import Mathlib.Data.List.Dedup

namespace CmlCloudManager.Pipeline

open CmlCloudManager.Foundation

/-! ## §1. Definitions. -/

/-- The `retry` section of a step. -/
structure RetryConfig where
  maxAttempts : Option Int := none

/-- A step of a pipeline definition. -/
structure StepDef where
  name : String
  handler : Option String := none
  needs : List String := []
  optional : Bool := false
  skipWhen : Option String := none
  timeoutSeconds : Option Int := none
  retry : Option RetryConfig := none
  params : Option Payload := none

/-- A pipeline definition (`pipelines.<name>` of a lablet definition). -/
structure PipelineDef where
  description : Option String := none
  steps : List StepDef := []
  outputs : Dict String String := Dict.empty
  maxRetries : Int := 0

/-- `step.get("handler", step_name)`. -/
def StepDef.handlerName (s : StepDef) : String := s.handler.getD s.name

/-- The number of attempts `_execute_step` makes: `retry.max_attempts` when there
is a retry section, else one. -/
def StepDef.maxAttempts (s : StepDef) : Int :=
  match s.retry with
  | some r => r.maxAttempts.getD 1
  | none => 1

/-- `_find_step`. -/
def findStep (steps : List StepDef) (name : String) : Option StepDef :=
  steps.find? (fun s => s.name == name)

/-- Why a pipeline definition is rejected. -/
inductive PipelineDefinitionError where
  | duplicateStep (name : String)
  | unknownNeeds (step : String) (unknown : List String)
  | cycle (nodes : List String)

/-- The text of the exception. -/
def PipelineDefinitionError.message : PipelineDefinitionError → String
  | .duplicateStep name => "Duplicate step name: '" ++ name ++ "'"
  | .unknownNeeds step [dep] =>
      "Step '" ++ step ++ "' depends on unknown step '" ++ dep ++ "'"
  | .unknownNeeds step unknown =>
      "Step '" ++ step ++ "' depends on unknown step(s): "
        ++ ", ".intercalate (unknown.mergeSort (fun a b => decide (a ≤ b)))
  | .cycle nodes => "Cycle detected among steps: [" ++ ", ".intercalate nodes ++ "]"

/-- An exception that leaves `execute`. -/
inductive ExecuteError where
  | definition (e : PipelineDefinitionError)
  | keyError (name : String)
  /-- `skip_when` evaluation raised something `_evaluate_skip` does not catch. -/
  | evaluation (exc : String)

/-! ## §2. The sorter. -/

/-- `{node: {predecessors}}`. -/
abbrev Graph : Type := List (String × List String)

/-- The predecessors of a node. -/
def Graph.preds (g : Graph) (n : String) : List String := (Dict.lookup n g).getD []

/-- `list(TopologicalSorter(graph).static_order())`, or the nodes of a `CycleError`. -/
abbrev Sorter : Type := Graph → Except (List String) (List String)

/-- What the documentation of `graphlib` promises of the returned order. -/
def Sorter.Sound (sorter : Sorter) : Prop :=
  ∀ (g : Graph) (order : List String),
    (∀ e ∈ g, ∀ p ∈ e.2, p ∈ g.map Prod.fst) →
    sorter g = .ok order → IsTopologicalOrder g.preds (g.map Prod.fst) order

/-- A concrete sorter. -/
def staticOrder : Sorter := fun g => kahn g.preds g.length [] (g.map Prod.fst)

theorem staticOrder_sound : Sorter.Sound staticOrder := by
  intro g order _ h
  exact kahn_sound g.preds g.length [] (g.map Prod.fst) order h

/-- `CycleError` is raised only where there is a cycle. -/
def Sorter.Complete (sorter : Sorter) : Prop :=
  ∀ (g : Graph) (order : List String),
    IsTopologicalOrder g.preds (g.map Prod.fst) order → ∃ order', sorter g = .ok order'

theorem staticOrder_complete : Sorter.Complete staticOrder := by
  intro g order h
  exact kahn_complete g.preds g.length [] (g.map Prod.fst) order
    (Nat.le_of_eq (List.length_map _)) h.1 h.2

/-! ## §3. `_resolve_dag`. -/

/-- `step_map`, rejecting a name that occurs twice. -/
def collectSteps :
    List StepDef → Dict String StepDef → Except ExecuteError (Dict String StepDef)
  | [], stepMap => .ok stepMap
  | s :: rest, stepMap =>
      -- the first step that repeats a name is reported
      if stepMap.contains s.name then .error (.definition (.duplicateStep s.name))
      else collectSteps rest (stepMap.set s.name s)

/-- The dependency graph: `graph[name] = set(step.get("needs", []))`. -/
def buildGraph (steps : List StepDef) : Graph :=
  steps.map (fun s => (s.name, s.needs.dedup))

/-- The first step with unknown needs. -/
def checkNeeds (known : List String) : Graph → Except ExecuteError Unit
  | [] => .ok ()
  | (name, deps) :: rest =>
      let unknown := deps.filter (fun d => decide (d ∉ known))
      if unknown = [] then checkNeeds known rest
      else .error (.definition (.unknownNeeds name unknown))

/-- `[step_map[name] for name in ordered_names]`. -/
def lookupAll (stepMap : Dict String StepDef) : List String → Except ExecuteError (List StepDef)
  | [] => .ok []
  | n :: rest =>
      match stepMap.get? n with
      | none => .error (.keyError n)
      | some s =>
          match lookupAll stepMap rest with
          | .error e => .error e
          | .ok ss => .ok (s :: ss)

/-- `_resolve_dag`. -/
def resolveDag (sorter : Sorter) (steps : List StepDef) : Except ExecuteError (List StepDef) :=
  match collectSteps steps Dict.empty with
  | .error e => .error e
  | .ok stepMap =>
      match checkNeeds (steps.map StepDef.name) (buildGraph steps) with
      | .error e => .error e
      | .ok () =>
          -- the sorter picks one of the orders; a `CycleError` becomes a definition error
          match sorter (buildGraph steps) with
          | .error nodes => .error (.definition (.cycle nodes))
          | .ok names => lookupAll stepMap names

/-! ## §4. What a resolved order looks like. -/

/-- Every step of the list finds its needs among `done` or earlier steps. -/
def NeedsFirst : List String → List StepDef → Prop
  | _, [] => True
  | done, s :: rest => (∀ d ∈ s.needs, d ∈ done) ∧ NeedsFirst (s.name :: done) rest

theorem collectSteps_ok :
    ∀ (steps : List StepDef) (m m' : Dict String StepDef), collectSteps steps m = .ok m' →
      (steps.map StepDef.name).Nodup
        ∧ (∀ s ∈ steps, m.get? s.name = none ∧ m'.get? s.name = some s)
        ∧ (∀ k, k ∉ steps.map StepDef.name → m'.get? k = m.get? k)
  | [], m, m', h => by
      injection h with h
      subst h
      simp
  | s :: rest, m, m', h => by
      simp only [collectSteps] at h
      split at h
      next => cases h
      next hfresh =>
        obtain ⟨hnd, hmem, hout⟩ := collectSteps_ok rest _ _ h
        have hnone : m.get? s.name = none := by
          rw [← Dict.contains_eq_false_iff]
          exact Bool.eq_false_iff.mpr hfresh
        -- a later step of the same name would have been rejected
        have hs : s.name ∉ rest.map StepDef.name := by
          intro hin
          obtain ⟨t, ht, hname⟩ := List.mem_map.mp hin
          have := (hmem t ht).1
          rw [hname, Dict.get?_set_self] at this
          cases this
        refine ⟨List.nodup_cons.mpr ⟨hs, hnd⟩, ?_, ?_⟩
        · intro t ht
          rcases List.mem_cons.mp ht with rfl | ht
          · exact ⟨hnone, by rw [hout _ hs, Dict.get?_set_self]⟩
          · have hne : t.name ≠ s.name := by
              intro heq
              exact hs (List.mem_map.mpr ⟨t, ht, heq⟩)
            have := (hmem t ht).1
            rw [Dict.get?_set_ne _ _ _ hne] at this
            exact ⟨this, (hmem t ht).2⟩
        · intro k hk
          rw [List.map_cons, List.mem_cons, not_or] at hk
          rw [hout k hk.2, Dict.get?_set_ne _ _ _ hk.1]

theorem checkNeeds_ok (known : List String) :
    ∀ (g : Graph), checkNeeds known g = .ok () → ∀ e ∈ g, ∀ p ∈ e.2, p ∈ known
  | [], _, e, he => by cases he
  | (name, deps) :: rest, h, e, he => by
      simp only [checkNeeds] at h
      split at h
      next hunk =>
        rcases List.mem_cons.mp he with rfl | he
        · intro p hp
          by_contra hnot
          have : p ∈ deps.filter (fun d => decide (d ∉ known)) :=
            List.mem_filter.mpr ⟨hp, decide_eq_true hnot⟩
          rw [hunk] at this
          cases this
        · exact checkNeeds_ok known rest h e he
      next => cases h

theorem lookupAll_ok (m : Dict String StepDef) :
    ∀ (names : List String) (ordered : List StepDef), lookupAll m names = .ok ordered →
      List.Forall₂ (fun n s => m.get? n = some s) names ordered
  | [], ordered, h => by
      injection h with h
      subst h
      exact .nil
  | n :: rest, ordered, h => by
      simp only [lookupAll] at h
      split at h
      next => cases h
      next s hs =>
        split at h
        next => cases h
        next ss hss =>
          injection h with h
          subst h
          exact .cons hs (lookupAll_ok m rest ss hss)

theorem buildGraph_preds {steps : List StepDef} (hnd : (steps.map StepDef.name).Nodup)
    {s : StepDef} (hs : s ∈ steps) : (buildGraph steps).preds s.name = s.needs.dedup := by
  have hkeys : (buildGraph steps).map Prod.fst = steps.map StepDef.name := by
    simp [buildGraph]
  have hget : Dict.lookup s.name (buildGraph steps) = some s.needs.dedup := by
    rw [Dict.lookup_eq_some_iff _ _ _ (hkeys ▸ hnd)]
    exact List.mem_map.mpr ⟨s, hs, rfl⟩
  rw [Graph.preds, hget]
  rfl

theorem needsFirst_of_readyOrder {g : Graph} :
    ∀ (ordered : List StepDef) (done : List String),
      (∀ s ∈ ordered, g.preds s.name = s.needs.dedup) →
      ReadyOrder g.preds done (ordered.map StepDef.name) → NeedsFirst done ordered
  | [], _, _, _ => trivial
  | s :: rest, done, hp, h => by
      refine ⟨?_, needsFirst_of_readyOrder rest (s.name :: done)
        (fun t ht => hp t (List.mem_cons_of_mem _ ht)) h.2⟩
      intro d hd
      refine h.1 d ?_
      rw [hp s List.mem_cons_self]
      exact List.mem_dedup.mpr hd

/-- **The resolved order**: the pipeline's own steps, distinct names, needs first. -/
theorem resolveDag_ok {sorter : Sorter} (hsound : sorter.Sound) {steps ordered : List StepDef}
    (h : resolveDag sorter steps = .ok ordered) :
    ordered.Perm steps ∧ (ordered.map StepDef.name).Nodup ∧ NeedsFirst [] ordered := by
  unfold resolveDag at h
  split at h
  next => cases h
  next stepMap hmap =>
    obtain ⟨hnd, hget, hout⟩ := collectSteps_ok steps _ _ hmap
    split at h
    next => cases h
    next hneeds =>
      split at h
      next => cases h
      next names hsort =>
        have hkeys : (buildGraph steps).map Prod.fst = steps.map StepDef.name := by
          simp [buildGraph]
        obtain ⟨hperm, hready⟩ := hsound _ _
          (by rw [hkeys]; exact checkNeeds_ok _ _ hneeds) hsort
        have hall := lookupAll_ok stepMap names ordered h
        -- the map sends every name of the pipeline to its own step
        have hnames : ordered.map StepDef.name = names ∧ ∀ s ∈ ordered, s ∈ steps := by
          have hsub : ∀ n ∈ names, n ∈ steps.map StepDef.name :=
            fun n hn => hkeys ▸ hperm.mem_iff.mp hn
          clear hready hperm hsort h
          induction hall with
          | nil => simp
          | cons hns hrest ih =>
              obtain ⟨t, ht, hname⟩ := List.mem_map.mp (hsub _ List.mem_cons_self)
              have hts := (hget t ht).2
              rw [hname, hns] at hts
              injection hts with hts
              subst hts
              obtain ⟨ih₁, ih₂⟩ := ih (fun n hn => hsub n (List.mem_cons_of_mem _ hn))
              refine ⟨by rw [List.map_cons, ih₁, hname], ?_⟩
              intro s hs
              rcases List.mem_cons.mp hs with rfl | hs
              · exact ht
              · exact ih₂ s hs
        obtain ⟨hnames, hsteps⟩ := hnames
        rw [hkeys] at hperm
        have hndo : (ordered.map StepDef.name).Nodup := by
          rw [hnames]
          exact hperm.nodup_iff.mpr hnd
        refine ⟨?_, hndo, ?_⟩
        · -- both lists are duplicate free, so the same members are enough
          rw [List.perm_ext_iff_of_nodup (hndo.of_map) (hnd.of_map)]
          intro s
          refine ⟨hsteps s, fun hs => ?_⟩
          have hin : s.name ∈ ordered.map StepDef.name := by
            rw [hnames]
            exact hperm.mem_iff.mpr (List.mem_map.mpr ⟨s, hs, rfl⟩)
          obtain ⟨t, ht, hname⟩ := List.mem_map.mp hin
          rwa [← List.inj_on_of_nodup_map hnd (hsteps t ht) hs hname]
        · refine needsFirst_of_readyOrder ordered []
            (fun s hs => buildGraph_preds hnd (hsteps s hs)) ?_
          rw [hnames]
          exact hready

/-! ## §5. The steps that are accepted. -/

/-- Distinct names, and an order in which every step comes after its needs. -/
def IsDag (steps : List StepDef) : Prop :=
  (steps.map StepDef.name).Nodup ∧ ∃ ordered, ordered.Perm steps ∧ NeedsFirst [] ordered

theorem collectSteps_isOk :
    ∀ (steps : List StepDef) (m : Dict String StepDef), (steps.map StepDef.name).Nodup →
      (∀ s ∈ steps, m.get? s.name = none) → ∃ m', collectSteps steps m = .ok m'
  | [], m, _, _ => ⟨m, rfl⟩
  | s :: rest, m, hnodup, hfresh => by
      rw [List.map_cons, List.nodup_cons] at hnodup
      have hnew : m.contains s.name = false :=
        (Dict.contains_eq_false_iff m s.name).mpr (hfresh s List.mem_cons_self)
      unfold collectSteps
      rw [hnew]
      refine collectSteps_isOk rest _ hnodup.2 fun t ht => ?_
      have hne : t.name ≠ s.name := fun heq => hnodup.1 (heq ▸ List.mem_map_of_mem ht)
      rw [Dict.get?_set_ne _ _ _ hne]
      exact hfresh t (List.mem_cons_of_mem _ ht)

theorem checkNeeds_isOk (known : List String) :
    ∀ g : Graph, (∀ e ∈ g, ∀ p ∈ e.2, p ∈ known) → checkNeeds known g = .ok ()
  | [], _ => rfl
  | (name, deps) :: rest, h => by
      have hnone : deps.filter (fun d => decide (d ∉ known)) = [] :=
        List.filter_eq_nil_iff.mpr fun d hd hnot =>
          of_decide_eq_true hnot (h _ List.mem_cons_self d hd)
      unfold checkNeeds
      dsimp only
      rw [if_pos hnone]
      exact checkNeeds_isOk known rest fun e he => h e (List.mem_cons_of_mem _ he)

theorem lookupAll_isOk (m : Dict String StepDef) :
    ∀ names : List String, (∀ n ∈ names, ∃ s, m.get? n = some s) →
      ∃ ordered, lookupAll m names = .ok ordered
  | [], _ => ⟨[], rfl⟩
  | n :: rest, h => by
      obtain ⟨s, hs⟩ := h n List.mem_cons_self
      obtain ⟨ss, hss⟩ := lookupAll_isOk m rest fun k hk => h k (List.mem_cons_of_mem _ hk)
      unfold lookupAll
      rw [hs, hss]
      exact ⟨s :: ss, rfl⟩

theorem needs_known : ∀ {ordered : List StepDef} {done : List String},
    NeedsFirst done ordered → ∀ s ∈ ordered, ∀ d ∈ s.needs, d ∈ done ∨ d ∈ ordered.map StepDef.name
  | s :: rest, done, h, t, ht, d, hd => by
      rcases List.mem_cons.mp ht with rfl | ht
      · exact .inl (h.1 d hd)
      · rcases needs_known h.2 t ht d hd with hdone | hrest
        · rcases List.mem_cons.mp hdone with rfl | hdone
          · exact .inr List.mem_cons_self
          · exact .inl hdone
        · exact .inr (List.mem_cons_of_mem _ hrest)

theorem readyOrder_of_needsFirst {g : Graph} : ∀ (ordered : List StepDef) (done : List String),
    (∀ s ∈ ordered, g.preds s.name = s.needs.dedup) → NeedsFirst done ordered →
      ReadyOrder g.preds done (ordered.map StepDef.name)
  | [], _, _, _ => trivial
  | s :: rest, done, hp, h => by
      refine ⟨fun d hd => h.1 d ?_, readyOrder_of_needsFirst rest _
        (fun t ht => hp t (List.mem_cons_of_mem _ ht)) h.2⟩
      rw [hp s List.mem_cons_self] at hd
      exact List.mem_dedup.mp hd

/-- **`_resolve_dag` accepts** a list of steps iff they have distinct names and an order. -/
theorem resolveDag_accepts_iff {sorter : Sorter} (hsound : sorter.Sound)
    (hcomplete : sorter.Complete) (steps : List StepDef) :
    (∃ ordered, resolveDag sorter steps = .ok ordered) ↔ IsDag steps := by
  constructor
  · rintro ⟨ordered, h⟩
    obtain ⟨hperm, hnodup, hfirst⟩ := resolveDag_ok hsound h
    exact ⟨(hperm.map StepDef.name).nodup_iff.mp hnodup, ordered, hperm, hfirst⟩
  · rintro ⟨hnodup, ordered, hperm, hfirst⟩
    obtain ⟨stepMap, hmap⟩ := collectSteps_isOk steps Dict.empty hnodup fun _ _ => rfl
    have hkeys : (buildGraph steps).map Prod.fst = steps.map StepDef.name := by
      simp [buildGraph]
    have hknown : ∀ e ∈ buildGraph steps, ∀ p ∈ e.2, p ∈ steps.map StepDef.name := by
      intro e he p hp
      obtain ⟨s, hs, rfl⟩ := List.mem_map.mp he
      rcases needs_known hfirst s (hperm.mem_iff.mpr hs) p (List.mem_dedup.mp hp) with hnil | hmem
      · cases hnil
      · exact (hperm.map StepDef.name).subset hmem
    have horder : IsTopologicalOrder (buildGraph steps).preds ((buildGraph steps).map Prod.fst)
        (ordered.map StepDef.name) :=
      ⟨hkeys ▸ hperm.map StepDef.name, readyOrder_of_needsFirst ordered []
        (fun s hs => buildGraph_preds hnodup (hperm.subset hs)) hfirst⟩
    obtain ⟨names, hnames⟩ := hcomplete _ _ horder
    have hsorted := (hsound _ _ (hkeys.symm ▸ hknown) hnames).1
    obtain ⟨-, hget, -⟩ := collectSteps_ok steps _ _ hmap
    have hfound : ∀ n ∈ names, ∃ s, stepMap.get? n = some s := by
      intro n hn
      obtain ⟨s, hs, rfl⟩ := List.mem_map.mp (hkeys ▸ hsorted.subset hn)
      exact ⟨s, (hget s hs).2⟩
    unfold resolveDag
    rw [hmap]
    dsimp only
    rw [checkNeeds_isOk _ _ hknown]
    dsimp only
    rw [hnames]
    exact lookupAll_isOk stepMap names hfound

end CmlCloudManager.Pipeline
