/-
  CmlCloudManager.Controller.SingleFlight
  ───────────────────────────────────────
  **ONE RUN OF A PIPELINE AT A TIME.**

  Three structures decide who may run: `_active_handlers`, the class-level
  `_registry` and the handlers' own tasks.  `ControlInv` says how they agree
  between two actions:

    • a running handler is the active one of its key,
    • a registered handler is active too, and if it is not running, it is suspended,
    • a handler exists only for a session whose definition is cached, so a phase
      call that removes a suspended handler goes on to its replacement without
      giving up control.

  Inside such a call the second clause fails for one session; `gap` names it.
  Two runs of one pipeline in flight would be two running handlers of one key.
-/
import CmlCloudManager.Controller.Reconciler

namespace CmlCloudManager.Controller

open CmlCloudManager.Foundation
open CmlCloudManager.Pipeline
open CmlCloudManager.ControlPlane

/-! ## §1. Handler keys. -/

/-- A separator that does not occur after itself splits a list in one way. -/
theorem append_cons_inj {α : Type} {c : α} {l l' q q' : List α} (h : l ++ c :: q = l' ++ c :: q')
    (hq : c ∉ q) (hq' : c ∉ q') : l = l' ∧ q = q' := by
  rcases List.append_eq_append_iff.mp h with ⟨mid, hl, hr⟩ | ⟨mid, hl, hr⟩
  · cases mid with
    | nil => simp_all
    | cons a mid =>
        rw [List.cons_append, List.cons.injEq] at hr
        exact absurd (by rw [hr.2]; simp) hq
  · cases mid with
    | nil => simp_all
    | cons a mid =>
        rw [List.cons_append, List.cons.injEq] at hr
        exact absurd (by rw [hr.2]; simp) hq'

theorem colon_not_mem : ∀ p ∈ validPipelineNames, ':' ∉ p.toList := by decide

/-- No pipeline name has a colon, so the key determines session and pipeline. -/
theorem handlerKey_inj {s s' p p' : String} (hp : p ∈ validPipelineNames)
    (hp' : p' ∈ validPipelineNames) (h : handlerKey s p = handlerKey s' p') :
    s = s' ∧ p = p' := by
  have hlist : s.toList ++ ':' :: p.toList = s'.toList ++ ':' :: p'.toList := by
    have := congrArg String.toList h
    simpa [handlerKey, String.toList_append] using this
  obtain ⟨hs, hps⟩ := append_cons_inj hlist (colon_not_mem p hp) (colon_not_mem p' hp')
  exact ⟨String.toList_injective hs, String.toList_injective hps⟩

/-- The key of a handler object. -/
def LifecyclePhaseHandler.key (h : LifecyclePhaseHandler) : String :=
  handlerKey h.sessionId h.pipelineName

/-! ## §2. The invariant. -/

/-- **How the controller's structures agree**, the registration of the session `gap` apart. -/
structure ControlInv (cat : Catalog) (gap : Option String) (w : World) : Prop where
  below : ∀ i h, w.handlers.get? i = some h → i < w.nextHandler
  named : ∀ i h, w.handlers.get? i = some h → h.pipelineName ∈ validPipelineNames
  active : ∀ k i, w.activeHandlers.get? k = some i → ∃ h, w.handlers.get? i = some h ∧ k = h.key
  running : ∀ i h, w.handlers.get? i = some h → h.isRunning = true →
    w.activeHandlers.get? h.key = some i
  registered : ∀ s i, w.registry.get? s = some i → gap ≠ some s →
    ∃ h, w.handlers.get? i = some h ∧ h.sessionId = s ∧ w.activeHandlers.get? h.key = some i
      ∧ (h.isRunning = false → h.result.map PipelineResult.status = some .suspended)
  cache : ∀ d definition, w.definitionCache.get? d = some definition →
    cat.definitions d = some definition
  cached : ∀ i h, w.handlers.get? i = some h →
    (w.definitionCache.get? (cat.definitionOf h.sessionId)).isSome
      ∧ cat.pipeline? h.sessionId h.pipelineName = some h.pipelineDef
  calls : ∀ s c, w.calls.get? s = some c →
    c.session.id = s ∧ c.session.definitionId = cat.definitionOf s
      ∧ c.pipelineName ∈ validPipelineNames
      ∧ (c.point = .loadingDefinition →
        w.activeHandlers.get? (handlerKey s c.pipelineName) = none)
  snapshots : ∀ r ∈ w.snapshots, r.definitionId = cat.definitionOf r.id

section Preservation

variable {cat : Catalog} {gap : Option String} {w w' : World}

theorem controlInv_initial (cat : Catalog) (repo : SessionRepository) :
    ControlInv cat none (World.initial repo) where
  below := by intro i h hget; cases hget
  named := by intro i h hget; cases hget
  active := by intro k i hget; cases hget
  running := by intro i h hget; cases hget
  registered := by intro s i hget; cases hget
  cache := by intro d definition hget; cases hget
  cached := by intro i h hget; cases hget
  calls := by intro s c hget; cases hget
  snapshots := by intro r hr; cases hr

/-- Fields the invariant does not read may change. -/
theorem ControlInv.frame (inv : ControlInv cat gap w) (hh : w'.handlers = w.handlers)
    (hn : w'.nextHandler = w.nextHandler) (ha : w'.activeHandlers = w.activeHandlers)
    (hr : w'.registry = w.registry) (hd : w'.definitionCache = w.definitionCache)
    (hc : w'.calls = w.calls) (hs : w'.snapshots = w.snapshots) : ControlInv cat gap w' := by
  obtain ⟨below, named, active, running, registered, cache, cached, calls, snapshots⟩ := inv
  constructor <;> simp only [hh, hn, ha, hr, hd, hc, hs] <;> assumption

/-- The number of the next handler is a fresh one. -/
theorem ControlInv.fresh (inv : ControlInv cat gap w) : w.handlers.get? w.nextHandler = none := by
  cases hnext : w.handlers.get? w.nextHandler with
  | none => rfl
  | some h => exact absurd (inv.below _ _ hnext) (Nat.lt_irrefl _)

/-- The active handlers have been made. -/
theorem ControlInv.active_below (inv : ControlInv cat gap w) :
    ∀ k i, w.activeHandlers.get? k = some i → i < w.nextHandler := by
  intro k i hact
  obtain ⟨h, hget, -⟩ := inv.active k i hact
  exact inv.below i h hget

/-! ### Handler objects -/

/-- A handler object may be replaced by a later state of the same handler, and the
registry by one that fits. -/
theorem ControlInv.replaceHandler (inv : ControlInv cat gap w) {i : Nat}
    {h h' : LifecyclePhaseHandler} (hget : w.handlers.get? i = some h)
    (hsid : h'.sessionId = h.sessionId) (hpl : h'.pipelineName = h.pipelineName)
    (hdef : h'.pipelineDef = h.pipelineDef)
    (hrun : h'.isRunning = true → w.activeHandlers.get? h.key = some i)
    {registry : Dict String Nat} {gap' : Option String}
    (hreg : ∀ s j, registry.get? s = some j → gap' ≠ some s →
      ∃ g, (w.handlers.set i h').get? j = some g ∧ g.sessionId = s
        ∧ w.activeHandlers.get? g.key = some j
        ∧ (g.isRunning = false → g.result.map PipelineResult.status = some .suspended)) :
    ControlInv cat gap' { w with handlers := w.handlers.set i h', registry := registry } := by
  -- the handler keeps its key, so that the other maps still point to it
  have hkey : h'.key = h.key := by
    unfold LifecyclePhaseHandler.key
    rw [hsid, hpl]
  constructor
  case below =>
    intro j g hj
    rcases Dict.get?_set_eq_some hj with ⟨rfl, rfl⟩ | ⟨-, hj⟩
    · exact inv.below j h hget
    · exact inv.below j g hj
  case named =>
    intro j g hj
    rcases Dict.get?_set_eq_some hj with ⟨rfl, rfl⟩ | ⟨-, hj⟩
    · rw [hpl]
      exact inv.named j h hget
    · exact inv.named j g hj
  case active =>
    intro k j hk
    obtain ⟨g, hg, rfl⟩ := inv.active k j hk
    by_cases hji : j = i
    · subst hji
      rw [hget] at hg
      obtain rfl := Option.some.inj hg
      exact ⟨h', Dict.get?_set_self _ _ _, hkey.symm⟩
    · exact ⟨g, by rw [← hg]; exact Dict.get?_set_ne _ _ _ hji, rfl⟩
  case running =>
    intro j g hj hgrun
    rcases Dict.get?_set_eq_some hj with ⟨rfl, rfl⟩ | ⟨-, hj⟩
    · rw [hkey]
      exact hrun hgrun
    · exact inv.running j g hj hgrun
  case registered => exact hreg
  case cache => exact inv.cache
  case cached =>
    intro j g hj
    rcases Dict.get?_set_eq_some hj with ⟨rfl, rfl⟩ | ⟨-, hj⟩
    · rw [hsid, hpl, hdef]
      exact inv.cached j h hget
    · exact inv.cached j g hj
  case calls => exact inv.calls
  case snapshots => exact inv.snapshots

/-- A handler object may change, as long as it does not start to run, and stays
suspended if it is registered and not running. -/
theorem ControlInv.setHandler (inv : ControlInv cat gap w) {i : Nat}
    {h h' : LifecyclePhaseHandler} (hget : w.handlers.get? i = some h)
    (hsid : h'.sessionId = h.sessionId) (hpl : h'.pipelineName = h.pipelineName)
    (hdef : h'.pipelineDef = h.pipelineDef)
    (hrun : h'.isRunning = true → h.isRunning = true)
    (hreg : w.registry.get? h.sessionId = some i → h'.isRunning = false →
      h'.result.map PipelineResult.status = some .suspended) :
    ControlInv cat gap (w.setHandler i h') := by
  apply inv.replaceHandler hget hsid hpl hdef
  · intro hgrun
    exact inv.running i h hget (hrun hgrun)
  · intro s j hj hgap
    obtain ⟨g, hg, rfl, hact, hsus⟩ := inv.registered s j hj hgap
    by_cases hji : j = i
    · subst hji
      rw [hget] at hg
      obtain rfl := Option.some.inj hg
      refine ⟨h', Dict.get?_set_self _ _ _, hsid, ?_, hreg hj⟩
      unfold LifecyclePhaseHandler.key
      rw [hsid, hpl]
      exact hact
    · exact ⟨g, by rw [← hg]; exact Dict.get?_set_ne _ _ _ hji, rfl, hact, hsus⟩

/-- A task that goes on. -/
theorem ControlInv.setTask (inv : ControlInv cat gap w) {i : Nat} {h : LifecyclePhaseHandler}
    (hget : w.handlers.get? i = some h) {t : TaskState}
    (hrun : h.isRunning = true) (ht : t ≠ .finished) :
    ControlInv cat gap (w.setHandler i { h with task := some t }) := by
  refine inv.setHandler hget rfl rfl rfl (fun _ => hrun) ?_
  intro _ hstopped
  cases t with
  | finished => exact absurd rfl ht
  | ready left => cases hstopped
  | waiting e k => cases hstopped
  | completing => cases hstopped

/-- A session may lose its registration. -/
theorem ControlInv.unregister (inv : ControlInv cat gap w) (s : String) :
    ControlInv cat gap { w with registry := w.registry.erase s } := by
  obtain ⟨below, named, active, running, registered, cache, cached, calls, snapshots⟩ := inv
  refine ⟨below, named, active, running, ?_, cache, cached, calls, snapshots⟩
  intro s' i hi hgap
  rw [Dict.get?_erase] at hi
  split at hi
  next => cases hi
  next => exact registered s' i hi hgap

/-- The active handler of a key may be started (again). -/
theorem ControlInv.startHandler (inv : ControlInv cat gap w) {i : Nat}
    {h : LifecyclePhaseHandler} (hget : w.handlers.get? i = some h)
    (hact : w.activeHandlers.get? h.key = some i) (existing : Option ExistingProgress)
    (call : Option Nat) (setup : Setup) :
    ControlInv cat (gap.filter (· ≠ h.sessionId))
      (startHandler w call i { h with existingProgress := existing } setup) := by
  have hrep : ControlInv cat (gap.filter (· ≠ h.sessionId))
      { w with
        handlers := w.handlers.set i
          (LifecyclePhaseHandler.start { h with existingProgress := existing } setup)
        registry := w.registry.set h.sessionId i } := by
    refine inv.replaceHandler hget ?sid ?pl ?pipeline (fun _ => hact) ?reg
    case sid => rfl
    case pl => rfl
    case pipeline => rfl
    intro s j hj hgap
    -- the registration closes the gap of its own session, and is the only one that changes
    by_cases hs : s = h.sessionId
    · subst hs
      have hij : i = j := Option.some.inj ((Dict.get?_set_self _ _ _).symm.trans hj)
      subst hij
      refine ⟨_, Dict.get?_set_self _ _ _, rfl, hact, ?_⟩
      intro hstopped
      cases hstopped
    · have hj' : w.registry.get? s = some j := (Dict.get?_set_ne _ _ _ hs).symm.trans hj
      have hgap' : gap ≠ some s := by
        intro heq
        subst heq
        exact hgap (by simp [Option.filter, hs])
      obtain ⟨g, hg, hgs, hgact, hsus⟩ := inv.registered s j hj' hgap'
      have hji : j ≠ i := by
        intro heq
        subst heq
        rw [hget] at hg
        obtain rfl := Option.some.inj hg
        exact hs hgs.symm
      exact ⟨g, by rw [← hg]; exact Dict.get?_set_ne _ _ _ hji, hgs, hgact, hsus⟩
  exact hrep.frame rfl rfl rfl rfl rfl rfl rfl

/-! ### Phase calls -/

/-- The lock of a session may be taken by a call that waits for something, in front of
an absent handler if it waits for the definition. -/
theorem ControlInv.setCall (inv : ControlInv cat gap w) {c : PhaseCall}
    (hdef : c.session.definitionId = cat.definitionOf c.session.id)
    (hpl : c.pipelineName ∈ validPipelineNames)
    (hfree : c.point = .loadingDefinition →
      w.activeHandlers.get? (handlerKey c.session.id c.pipelineName) = none) :
    ControlInv cat gap { w with calls := w.calls.set c.session.id c } := by
  obtain ⟨below, named, active, running, registered, cache, cached, calls, snapshots⟩ := inv
  refine ⟨below, named, active, running, registered, cache, cached, ?_, snapshots⟩
  intro s c' hc'
  rcases Dict.get?_set_eq_some hc' with ⟨rfl, rfl⟩ | ⟨-, hc'⟩
  · exact ⟨rfl, hdef, hpl, hfree⟩
  · exact calls s c' hc'

/-- A call may return. -/
theorem ControlInv.eraseCall (inv : ControlInv cat gap w) (s : String) :
    ControlInv cat gap { w with calls := w.calls.erase s } := by
  obtain ⟨below, named, active, running, registered, cache, cached, calls, snapshots⟩ := inv
  refine ⟨below, named, active, running, registered, cache, cached, ?_, snapshots⟩
  intro s' c hc
  rw [Dict.get?_erase] at hc
  split at hc
  next => cases hc
  next => exact calls s' c hc

theorem ControlInv.terminateSession (inv : ControlInv cat gap w) {c : PhaseCall}
    (hdef : c.session.definitionId = cat.definitionOf c.session.id)
    (hpl : c.pipelineName ∈ validPipelineNames) : ControlInv cat gap (terminateSession w c) :=
  (inv.setCall (c := { c with point := .terminating }) hdef hpl (by simp)).frame
    rfl rfl rfl rfl rfl rfl rfl

/-- A finished handler may be removed from the active ones; only if it is suspended is
its session left with a registration that has no active handler. -/
theorem ControlInv.deactivate (inv : ControlInv cat none w) {s pl : String} {i : Nat}
    {h : LifecyclePhaseHandler} (hpl : pl ∈ validPipelineNames)
    (hact : w.activeHandlers.get? (handlerKey s pl) = some i)
    (hget : w.handlers.get? i = some h) (hstopped : h.isRunning = false)
    (hgap : h.result.map PipelineResult.status = some .suspended → gap = some s) :
    ControlInv cat gap { w with activeHandlers := w.activeHandlers.erase (handlerKey s pl) } := by
  obtain ⟨h₀, hget₀, hkey⟩ := inv.active _ i hact
  rw [hget] at hget₀
  obtain rfl := Option.some.inj hget₀
  obtain ⟨rfl, rfl⟩ := handlerKey_inj hpl (inv.named i h hget) hkey
  -- the key belongs to this handler alone
  have other : ∀ j g, w.handlers.get? j = some g → w.activeHandlers.get? g.key = some j →
      ¬ (g = h) → (w.activeHandlers.erase h.key).get? g.key = some j := by
    intro j g hj hgact hne
    rw [Dict.get?_erase]
    split
    next heq =>
      rw [heq] at hgact
      have hij : i = j := Option.some.inj (hact.symm.trans hgact)
      subst hij
      exact absurd (Option.some.inj (hj.symm.trans hget)) hne
    next => exact hgact
  obtain ⟨below, named, active, running, registered, cache, cached, calls, snapshots⟩ := inv
  refine ⟨below, named, ?_, ?_, ?_, cache, cached, ?_, snapshots⟩
  · intro k j hk
    rw [Dict.get?_erase] at hk
    split at hk
    next => cases hk
    next => exact active k j hk
  · intro j g hj hgrun
    apply other j g hj (running j g hj hgrun)
    intro heq
    subst heq
    rw [hstopped] at hgrun
    cases hgrun
  · intro s' j hj hne
    obtain ⟨g, hg, hgs, hgact, hsus⟩ := registered s' j hj (by simp)
    refine ⟨g, hg, hgs, ?_, hsus⟩
    apply other j g hg hgact
    intro heq
    subst heq
    exact hne (by rw [← hgs]; exact hgap (hsus hstopped))
  · intro s' c hc
    obtain ⟨hid, hcdef, hcpl, hfree⟩ := calls s' c hc
    refine ⟨hid, hcdef, hcpl, fun hpoint => ?_⟩
    rw [Dict.get?_erase]
    split
    · rfl
    · exact hfree hpoint

/-- **A new handler object**, which is not started yet, under a free key. -/
theorem ControlInv.addHandler (inv : ControlInv cat gap w) {h : LifecyclePhaseHandler}
    (hpl : h.pipelineName ∈ validPipelineNames) (hidle : h.isRunning = false)
    (hfree : w.activeHandlers.get? h.key = none) (hlock : w.calls.get? h.sessionId = none)
    (hcached : (w.definitionCache.get? (cat.definitionOf h.sessionId)).isSome)
    (hpipeline : cat.pipeline? h.sessionId h.pipelineName = some h.pipelineDef) :
    ControlInv cat gap
      { w with
        handlers := w.handlers.set w.nextHandler h
        nextHandler := w.nextHandler + 1
        activeHandlers := w.activeHandlers.set h.key w.nextHandler } := by
  have kept : ∀ j g, w.handlers.get? j = some g →
      (w.handlers.set w.nextHandler h).get? j = some g := by
    intro j g hj
    rw [Dict.get?_set_ne]
    · exact hj
    · intro heq
      rw [heq, inv.fresh] at hj
      cases hj
  have keptActive : ∀ k j, w.activeHandlers.get? k = some j →
      (w.activeHandlers.set h.key w.nextHandler).get? k = some j := by
    intro k j hj
    rw [Dict.get?_set_ne]
    · exact hj
    · intro heq
      rw [heq, hfree] at hj
      cases hj
  constructor
  case below =>
    intro j g hj
    show j < w.nextHandler + 1
    rcases Dict.get?_set_eq_some hj with ⟨rfl, -⟩ | ⟨-, hj⟩
    · omega
    · have := inv.below j g hj
      omega
  case named =>
    intro j g hj
    rcases Dict.get?_set_eq_some hj with ⟨-, rfl⟩ | ⟨-, hj⟩
    · exact hpl
    · exact inv.named j g hj
  case active =>
    intro k j hj
    rcases Dict.get?_set_eq_some hj with ⟨rfl, rfl⟩ | ⟨-, hj⟩
    · exact ⟨h, Dict.get?_set_self _ _ _, rfl⟩
    · obtain ⟨g, hg, hgk⟩ := inv.active k j hj
      exact ⟨g, kept j g hg, hgk⟩
  case running =>
    intro j g hj hgrun
    rcases Dict.get?_set_eq_some hj with ⟨-, rfl⟩ | ⟨-, hj⟩
    · rw [hidle] at hgrun
      cases hgrun
    · exact keptActive _ _ (inv.running j g hj hgrun)
  case registered =>
    intro s j hj hne
    obtain ⟨g, hg, hgs, hgact, hsus⟩ := inv.registered s j hj hne
    exact ⟨g, kept j g hg, hgs, keptActive _ _ hgact, hsus⟩
  case cache => exact inv.cache
  case cached =>
    intro j g hj
    rcases Dict.get?_set_eq_some hj with ⟨-, rfl⟩ | ⟨-, hj⟩
    · exact ⟨hcached, hpipeline⟩
    · exact inv.cached j g hj
  case calls =>
    intro s c hc
    obtain ⟨hid, hcdef, hcpl, hwait⟩ := inv.calls s c hc
    refine ⟨hid, hcdef, hcpl, fun hpoint => ?_⟩
    show (w.activeHandlers.set h.key w.nextHandler).get? _ = none
    rw [Dict.get?_set_ne]
    · exact hwait hpoint
    · -- a call of the handler's session would hold the lock
      intro heq
      obtain ⟨rfl, -⟩ := handlerKey_inj hcpl hpl heq
      rw [hlock] at hc
      cases hc
  case snapshots => exact inv.snapshots

/-- A new handler for a key without one. -/
theorem ControlInv.startNewHandler (inv : ControlInv cat gap w) {c : PhaseCall}
    {pipeline : PipelineDef} (hgap : gap = none ∨ gap = some c.session.id)
    (hpl : c.pipelineName ∈ validPipelineNames)
    (hfree : w.activeHandlers.get? (handlerKey c.session.id c.pipelineName) = none)
    (hlock : w.calls.get? c.session.id = none)
    (hcached : (w.definitionCache.get? (cat.definitionOf c.session.id)).isSome)
    (hpipeline : cat.pipeline? c.session.id c.pipelineName = some pipeline) (setup : Setup) :
    ControlInv cat none (startNewHandler w c pipeline setup) := by
  set h₀ : LifecyclePhaseHandler :=
    { sessionId := c.session.id
      pipelineName := c.pipelineName
      pipelineDef := pipeline
      existingProgress := getExistingProgress c.session c.pipelineName } with hh₀
  -- first the handler object, then its start
  have hadded := inv.addHandler (h := h₀) hpl rfl hfree hlock hcached hpipeline
  have hstart := hadded.startHandler (h := h₀) (i := w.nextHandler) (Dict.get?_set_self _ _ _)
    (Dict.get?_set_self _ _ _) h₀.existingProgress (some c.number) setup
  have hnone : gap.filter (· ≠ h₀.sessionId) = none := by
    rcases hgap with rfl | rfl
    · rfl
    · simp [Option.filter, hh₀]
  rw [hnone] at hstart
  refine hstart.frame ?_ rfl rfl rfl rfl rfl rfl
  show w.handlers.set w.nextHandler _ = (w.handlers.set w.nextHandler h₀).set w.nextHandler _
  rw [Dict.set_set]

/-- The rest of a phase call once the definition is known: a gap is closed by the new
handler, which the definition then has a pipeline for. -/
theorem ControlInv.continueWith (inv : ControlInv cat gap w) {c : PhaseCall}
    (hdef : c.session.definitionId = cat.definitionOf c.session.id)
    (hpl : c.pipelineName ∈ validPipelineNames)
    (hfree : w.activeHandlers.get? (handlerKey c.session.id c.pipelineName) = none)
    {definition : Option LabletDefinition}
    (hserved : ∀ d, definition = some d → cat.definitions c.session.definitionId = some d
      ∧ (w.definitionCache.get? c.session.definitionId).isSome)
    (hgap : gap = none ∨ gap = some c.session.id
      ∧ (definition.bind fun d => d.pipelines.get? c.pipelineName).isSome) (setup : Setup) :
    ControlInv cat none (continueWith w c definition setup) := by
  unfold Controller.continueWith
  split
  next hnone =>
    rcases hgap with rfl | ⟨-, hsome⟩
    · exact inv.terminateSession hdef hpl
    · rw [hnone] at hsome
      cases hsome
  next pipeline hsome =>
    obtain ⟨d, hd, hget⟩ := Option.bind_eq_some_iff.mp hsome
    obtain ⟨hcat, hcached⟩ := hserved d hd
    refine (inv.eraseCall c.session.id).startNewHandler ?_ hpl hfree (Dict.get?_erase_self _ _)
      (hdef ▸ hcached) ?_ setup
    · rcases hgap with rfl | ⟨rfl, -⟩
      · exact .inl rfl
      · exact .inr rfl
    · rw [Catalog.pipeline?, ← hdef, hcat]
      exact hget

theorem ControlInv.getPipelineDef (inv : ControlInv cat gap w) {c : PhaseCall}
    (hdef : c.session.definitionId = cat.definitionOf c.session.id)
    (hpl : c.pipelineName ∈ validPipelineNames)
    (hfree : w.activeHandlers.get? (handlerKey c.session.id c.pipelineName) = none)
    (hgap : gap = none ∨ gap = some c.session.id
      ∧ (w.definitionCache.get? (cat.definitionOf c.session.id)).isSome
      ∧ (cat.pipeline? c.session.id c.pipelineName).isSome) (setup : Setup) :
    ControlInv cat none (getPipelineDef w c setup) := by
  unfold Controller.getPipelineDef
  split
  next d hd =>
    have hcat := inv.cache _ d hd
    refine inv.continueWith hdef hpl hfree ?_ ?_ setup
    · intro d' hd'
      injection hd' with hd'
      subst hd'
      exact ⟨hcat, by rw [hd]; rfl⟩
    · rcases hgap with hnone | ⟨hs, -, hpipe⟩
      · exact .inl hnone
      · refine .inr ⟨hs, ?_⟩
        rw [Catalog.pipeline?, ← hdef, hcat] at hpipe
        exact hpipe
  next hmiss =>
    rcases hgap with rfl | ⟨-, hcached, -⟩
    · exact inv.setCall (c := { c with point := .loadingDefinition }) hdef hpl (fun _ => hfree)
    · rw [← hdef, hmiss] at hcached
      cases hcached

/-- What a finished handler leaves: a gap, if it is suspended. -/
theorem ControlInv.removeHandler (inv : ControlInv cat none w) {c : PhaseCall} {i : Nat}
    {h : LifecyclePhaseHandler} (hpl : c.pipelineName ∈ validPipelineNames)
    (hact : w.activeHandlers.get? (handlerKey c.session.id c.pipelineName) = some i)
    (hget : w.handlers.get? i = some h) (hstopped : h.isRunning = false)
    (hgap : h.result.map PipelineResult.status = some .suspended → gap = some c.session.id) :
    ControlInv cat gap (removeHandler w c h.result) :=
  (inv.deactivate hpl hact hget hstopped hgap).frame rfl rfl rfl rfl rfl rfl rfl

/-- The handler of a key is one of its session and pipeline. -/
theorem ControlInv.of_active (inv : ControlInv cat gap w) {s pl : String} {i : Nat}
    {h : LifecyclePhaseHandler} (hpl : pl ∈ validPipelineNames)
    (hact : w.activeHandlers.get? (handlerKey s pl) = some i)
    (hget : w.handlers.get? i = some h) : h.sessionId = s ∧ h.pipelineName = pl := by
  obtain ⟨h₀, hget₀, hkey⟩ := inv.active _ i hact
  obtain rfl : h = h₀ := Option.some.inj (hget.symm.trans hget₀)
  obtain ⟨hsid, hname⟩ := handlerKey_inj hpl (inv.named i h hget) hkey
  exact ⟨hsid.symm, hname.symm⟩

/-- The first segment of a phase call. -/
theorem ControlInv.checkHandler (inv : ControlInv cat none w) {c : PhaseCall}
    (hdef : c.session.definitionId = cat.definitionOf c.session.id)
    (hpl : c.pipelineName ∈ validPipelineNames) (setup : Setup) :
    ControlInv cat none (checkHandler w c setup) := by
  unfold Controller.checkHandler
  split
  next hnone => exact inv.getPipelineDef hdef hpl hnone (.inl rfl) setup
  next i hact =>
    split
    next => exact inv
    next h hget =>
      split
      next => exact inv
      next hrun =>
        have hstopped : h.isRunning = false := Bool.eq_false_iff.mpr hrun
        obtain ⟨hsid, hname⟩ := inv.of_active hpl hact hget
        obtain ⟨hcached, hpipe⟩ := inv.cached i h hget
        rw [hsid] at hcached hpipe
        rw [hname] at hpipe
        have hfree : (w.activeHandlers.erase (handlerKey c.session.id c.pipelineName)).get?
            (handlerKey c.session.id c.pipelineName) = none := Dict.get?_erase_self _ _
        -- the definition is cached, so a gap is closed before control is given up
        have hgap : some c.session.id = none ∨ some c.session.id = some c.session.id
            ∧ (w.definitionCache.get? (cat.definitionOf c.session.id)).isSome
            ∧ (cat.pipeline? c.session.id c.pipelineName).isSome :=
          .inr ⟨rfl, hcached, by rw [hpipe]; rfl⟩
        have opened := @ControlInv.removeHandler cat (some c.session.id) w inv c i h hpl hact hget
          hstopped (fun _ => rfl)
        unfold inspectResult
        split
        next => exact opened.getPipelineDef hdef hpl hfree hgap setup
        next r hr =>
          split
          next hst => exact inv.removeHandler hpl hact hget hstopped (by simp [hr, hst])
          next hst => exact inv.removeHandler hpl hact hget hstopped (by simp [hr, hst])
          next => exact opened.getPipelineDef hdef hpl hfree hgap setup
          next hst =>
            split
            next =>
              have closed : ControlInv cat none (Controller.removeHandler w c h.result) :=
                inv.removeHandler hpl hact hget hstopped (by simp [hr, hst])
              unfold exhaustRetries
              split
              next => exact closed.setCall (c := { c with point := .cleaningUp }) hdef hpl (by simp)
              next => exact closed.terminateSession hdef hpl
            next =>
              have counted : ControlInv cat (some c.session.id)
                  (countRetry (Controller.removeHandler w c h.result) c) :=
                opened.frame rfl rfl rfl rfl rfl rfl rfl
              exact counted.getPipelineDef hdef hpl hfree hgap setup

/-! ### Every action -/

/-- A task that is somewhere in `execute` or `_on_complete` is running. -/
theorem isRunning_of_task {h : LifecyclePhaseHandler} {t : TaskState} (htask : h.task = some t)
    (ht : t ≠ .finished) : h.isRunning = true := by
  unfold LifecyclePhaseHandler.isRunning
  rw [htask]
  cases t with
  | finished => exact absurd rfl ht
  | ready left => rfl
  | waiting e k => rfl
  | completing => rfl

theorem ControlInv.finishRun (inv : ControlInv cat none w) {i : Nat} {h : LifecyclePhaseHandler}
    {out : Except ExecuteError PipelineResult} (hget : w.handlers.get? i = some h)
    (hrun : h.isRunning = true) : ControlInv cat none (finishRun w i h out) := by
  have seen : ControlInv cat none (w.observe (.ended h.sessionId h.pipelineName out)) :=
    inv.frame rfl rfl rfl rfl rfl rfl rfl
  unfold Controller.finishRun
  cases out with
  | ok result =>
      refine seen.setHandler hget ?sid ?pl ?pipeline (fun _ => hrun) ?reg
      case sid => rfl
      case pl => rfl
      case pipeline => rfl
      case reg => intro _ hstopped; cases hstopped
  | error e =>
      refine ((seen.unregister h.sessionId).setHandler hget ?sid ?pl ?pipeline (fun _ => hrun)
        ?reg).frame rfl rfl rfl rfl rfl rfl rfl
      case sid => rfl
      case pl => rfl
      case pipeline => rfl
      case reg =>
        intro hreg
        rw [Dict.get?_erase_self] at hreg
        cases hreg

theorem ControlInv.completeHandler (inv : ControlInv cat none w) {i : Nat}
    {h : LifecyclePhaseHandler} (hget : w.handlers.get? i = some h) (hrun : h.isRunning = true) :
    ControlInv cat none (completeHandler w i h) := by
  unfold Controller.completeHandler
  dsimp only
  split
  next hsus =>
    refine inv.setHandler hget ?sid ?pl ?pipeline (fun _ => hrun) (fun _ _ => hsus)
    case sid => rfl
    case pl => rfl
    case pipeline => rfl
  next =>
    have gone : ControlInv cat none
        (World.setHandler { w with registry := w.registry.erase h.sessionId } i
          { h with task := some .finished }) := by
      refine (inv.unregister h.sessionId).setHandler hget ?sid ?pl ?pipeline (fun _ => hrun) ?reg
      case sid => rfl
      case pl => rfl
      case pipeline => rfl
      case reg =>
        intro hreg
        rw [Dict.get?_erase_self] at hreg
        cases hreg
    exact gone.frame rfl rfl rfl rfl rfl rfl rfl

theorem ControlInv.signalHandler (inv : ControlInv cat none w) (sig : ResumeSignal)
    (setup : Setup) : ControlInv cat none (signalHandler w sig setup) := by
  rcases signalHandler_cases w sig setup with heq | ⟨i, h, hreg, hget, -, heq⟩
  · rw [heq]
    exact inv
  · obtain ⟨h', hget', -, hact, -⟩ := inv.registered _ i hreg (by simp)
    obtain rfl : h = h' := Option.some.inj (hget.symm.trans hget')
    rw [heq]
    exact inv.startHandler hget hact (some (.flat sig.progress)) none setup

theorem answerOf_eq_some {c : PhaseCall} {served : Bool} {d : LabletDefinition}
    (h : answerOf cat c served = some d) : cat.definitions c.session.definitionId = some d := by
  unfold answerOf at h
  split at h
  next => exact h
  next => cases h

/-- A definition that was fetched goes into the cache, which only grows. -/
theorem ControlInv.cacheDefinition (inv : ControlInv cat gap w) (c : PhaseCall) (served : Bool) :
    ControlInv cat gap (cacheDefinition w c (answerOf cat c served)) := by
  cases hans : answerOf cat c served with
  | none => exact inv
  | some d =>
      have hd := answerOf_eq_some hans
      obtain ⟨below, named, active, running, registered, cache, cached, calls, snapshots⟩ := inv
      refine ⟨below, named, active, running, registered, ?_, ?_, calls, snapshots⟩
      · intro d' definition hget
        rcases Dict.get?_set_eq_some hget with ⟨rfl, rfl⟩ | ⟨-, hget⟩
        · exact hd
        · exact cache d' definition hget
      · intro i g hg
        obtain ⟨hsome, hpipe⟩ := cached i g hg
        refine ⟨?_, hpipe⟩
        show ((w.definitionCache.set c.session.definitionId d).get? _).isSome
        rw [Dict.get?_set]
        split
        · rfl
        · exact hsome

/-- **Every action keeps the structures in agreement.** -/
theorem ControlInv.step {a : Action} (inv : ControlInv cat none w)
    (h : step cat w a = some w') : ControlInv cat none w' := by
  cases step_moves h with
  | @fetchSession sid s hget =>
      obtain ⟨below, named, active, running, registered, cache, cached, calls, snapshots⟩ := inv
      refine ⟨below, named, active, running, registered, cache, cached, calls, ?_⟩
      intro r hr
      rcases List.mem_append.mp hr with hr | hr
      · exact snapshots r hr
      · rw [List.mem_singleton.mp hr]
  | @enter n pl setup session hsnap hpl hlock =>
      have hdef := inv.snapshots session (List.mem_of_getElem? hsnap)
      -- the call is numbered before it looks at the handlers
      have counted : ControlInv cat none { w with nextCall := w.nextCall + 1 } :=
        inv.frame rfl rfl rfl rfl rfl rfl rfl
      exact counted.checkHandler (c := newCall w session pl) hdef hpl setup
  | @definitionFetched sid served setup c hcall hpoint =>
      obtain ⟨hid, hdef, hpl, hwait⟩ := inv.calls sid c hcall
      subst hid
      -- the call waited without a handler, so that its key is still free
      refine (inv.cacheDefinition c served).continueWith hdef hpl ?_ ?_ (.inl rfl) setup
      · cases hans : answerOf cat c served <;> exact hwait hpoint
      · intro d hd
        rw [hd]
        refine ⟨answerOf_eq_some hd, ?_⟩
        show ((w.definitionCache.set c.session.definitionId d).get? _).isSome
        rw [Dict.get?_set_self]
        rfl
  | @cleanedUp sid c hcall hpoint =>
      obtain ⟨hid, hdef, hpl, -⟩ := inv.calls sid c hcall
      subst hid
      exact inv.terminateSession hdef hpl
  | terminateReturned hcall hpoint => exact inv.eraseCall _
  | called hget htask =>
      exact inv.setTask hget (isRunning_of_task htask (by simp)) (by simp)
  | finished hget htask => exact inv.finishRun hget (isRunning_of_task htask (by simp))
  | dispatchReturned hget htask =>
      exact inv.setTask hget (isRunning_of_task htask (by simp)) (by simp)
  | @persistReturned i h site update k stored hget htask =>
      have next := inv.setTask (t := .ready (k ())) hget (isRunning_of_task htask (by simp))
        (by simp)
      exact next.frame rfl rfl rfl rfl rfl rfl rfl
  | recorded hget htask => exact inv.completeHandler hget (isRunning_of_task htask (by simp))
  | event => exact inv.frame rfl rfl rfl rfl rfl rfl rfl
  | @signal n setup sig hsig =>
      have taken : ControlInv cat none { w with signals := w.signals.eraseIdx n } :=
        inv.frame rfl rfl rfl rfl rfl rfl rfl
      exact taken.signalHandler sig setup

end Preservation

/-- The structures agree in every reachable state. -/
theorem reachable_controlInv {cat : Catalog} {w : World} (hw : Reachable cat w) :
    ControlInv cat none w := by
  obtain ⟨repo, acts, run⟩ := hw
  exact run.invariant (fun _ _ _ inv _ hstep => inv.step hstep) (controlInv_initial cat repo)

/-! ## §3. One run at a time. -/

/-- No two runs of the same session and pipeline have a step dispatched and not yet
returned. -/
def SingleFlight (w : World) : Prop :=
  ∀ i j h h', w.handlers.get? i = some h → w.handlers.get? j = some h' →
    h.inFlight = true → h'.inFlight = true →
    h.sessionId = h'.sessionId → h.pipelineName = h'.pipelineName → i = j

theorem isRunning_of_inFlight {h : LifecyclePhaseHandler} (hf : h.inFlight = true) :
    h.isRunning = true := by
  unfold LifecyclePhaseHandler.inFlight at hf
  split at hf
  next request k htask => exact isRunning_of_task htask (by simp)
  next => cases hf

/-- **Single flight**: whatever the reconcile calls, the tasks and the callbacks do, and
in whatever order, a pipeline of a session is executed once at a time. -/
theorem single_flight {cat : Catalog} {w : World} (hw : Reachable cat w) : SingleFlight w := by
  intro i j h h' hi hj hf hf' hsid hpl
  have inv := reachable_controlInv hw
  have hact := inv.running i h hi (isRunning_of_inFlight hf)
  have hact' := inv.running j h' hj (isRunning_of_inFlight hf')
  -- both are the active handler of the one key
  have hkey : h.key = h'.key := by
    unfold LifecyclePhaseHandler.key
    rw [hsid, hpl]
  rw [hkey, hact'] at hact
  exact (Option.some.inj hact).symm

theorem reachable_exec {cat : Catalog} {repo : SessionRepository} {acts : List Action} {w : World}
    (h : exec (step cat) (fun _ _ => true) acts (World.initial repo) = some w) :
    Reachable cat w :=
  ⟨repo, [] ++ acts, exec_run (fun _ _ _ => trivial) acts .nil h⟩

/-- Every session has the one definition, with this `instantiate` pipeline. -/
def oneDefinition (pipeline : PipelineDef) : Catalog :=
  { definitionOf := fun _ => "d1"
    definitions := fun _ => some { pipelines := Dict.ofList [("instantiate", pipeline)] } }

/-- A context in which no expression evaluates. -/
def plainSetup : Setup :=
  { rt := { context := { sessionId := "" }, simpleEval := fun _ _ => .caught "SyntaxError" }
    sorter := staticOrder
    sound := staticOrder_sound }

/-- A first reconcile call: the session is read, the definition fetched, handler 0 started. -/
def firstCycle : List Action :=
  [.fetchSession "s1", .enter 0 "instantiate" plainSetup,
    .definitionFetched "s1" true plainSetup]

/-- Handler `i` dispatches its next step, the step returns, its progress is stored. -/
def oneStep (i : Nat) (outcome : DispatchOutcome) : List Action :=
  [.advance i, .dispatchReturned i outcome, .advance i, .persistReturned i true]

/-- The only step of handler 0 is delegated and the handler suspends; the next call
replaces it, and its replacement dispatches the step. -/
def replacedHandler : List Action :=
  firstCycle
    ++ oneStep 0 (.returned (Dict.ofList [("status", .str "suspended")]))
    ++ [.advance 0, .recorded 0, .enter 0 "instantiate" plainSetup, .advance 1]

theorem single_flight_replaced :
    ∃ w, Reachable (oneDefinition { steps := [{ name := "collect" }] }) w
      ∧ (w.handlers.get? 0).map (fun h => h.result.map PipelineResult.status)
        = some (some .suspended)
      ∧ (w.handlers.get? 1).map LifecyclePhaseHandler.inFlight = some true
      ∧ SingleFlight w := by
  have hrun : (exec (step (oneDefinition { steps := [{ name := "collect" }] }))
      (fun _ _ => true) replacedHandler (World.initial newSession)).map (fun w =>
        ((w.handlers.get? 0).map (fun h => h.result.map PipelineResult.status),
          (w.handlers.get? 1).map LifecyclePhaseHandler.inFlight))
      = some (some (some .suspended), some true) := by decide
  obtain ⟨w, hw, hcheck⟩ := Option.map_eq_some_iff.mp hrun
  rw [Prod.mk.injEq] at hcheck
  exact ⟨w, reachable_exec hw, hcheck.1, hcheck.2, single_flight (reachable_exec hw)⟩

end CmlCloudManager.Controller
