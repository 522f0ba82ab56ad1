/-
  CmlCloudManager.ScenarioEngine.ContentSync
  ──────────────────────────────────────────
  **SYNCHRONISING CONTENT AND SUPERSEDING THE STALE.**

  `SyncContentCommand` downloads a content package, resolves its pod type, checks
  it, marks the definition READY, and supersedes the READY definitions of the
  same name and pod type whose content is another.  The pod type occurs three
  times on the way:

    • the guess a definition is CREATED with (the override, or CML_ON_AWS), which
      stays in its document: the READY event carries no pod type,
    • the type RESOLVED from the package of a sync,
    • the type in the query for stale definitions, which is the resolved one and
      is compared with the stored guess.

  `supersession_iff` says for which runs of commands the query finds what it is
  meant to find.
-/
import CmlCloudManager.Core.PodType
import CmlCloudManager.Foundation.Replay
import CmlCloudManager.Foundation.Repository

namespace CmlCloudManager.ScenarioEngine

open CmlCloudManager.Foundation
open CmlCloudManager.Core

/-! ## §1. Definitions. -/

/-- `PodDefinitionStatus`. -/
inductive PodDefinitionStatus where
  | defined
  | synchronizing
  | ready
  | failed
  | expired
  | superseded
  deriving DecidableEq, Repr

/-- `PodDefinitionState`, without what is extracted from the package. -/
structure PodDefinition where
  id : String
  name : String
  version : String
  podType : PodType
  status : PodDefinitionStatus := .defined
  sourceUri : String
  contentHash : Option String := none
  errorMessage : Option String := none
  errorDetail : Option String := none

/-- The definition repository. -/
abbrev PodDefinitionRepository : Type := Repository PodDefinition PodDefinition.id

namespace PodDefinition

/-- `start_sync`: what is left of an earlier failure is cleared. -/
def startSync (d : PodDefinition) : PodDefinition :=
  { d with status := .synchronizing, errorMessage := none, errorDetail := none }

/-- `mark_ready`. -/
def markReady (d : PodDefinition) (contentHash : String) : PodDefinition :=
  { d with status := .ready, contentHash := some contentHash }

/-- `supersede`. -/
def supersede (d : PodDefinition) : PodDefinition := { d with status := .superseded }

/-- `mark_failed`. -/
def markFailed (d : PodDefinition) (reason : String) (errorDetail : Option String) :
    PodDefinition :=
  { d with status := .failed, errorMessage := some reason, errorDetail := errorDetail }

end PodDefinition

/-! ## §2. The pipeline of a sync. -/

/-- What the pipeline raises. -/
inductive SyncError where
  | s3 (message : String)
  | podTypeIndeterminate (signals : List String)
  | pav1Validation (path : String) (errors : List String)
  | other (typeName message : String)

/-- `_classify_failure`: the reason and the detail. -/
def classifyFailure : SyncError → String × Option String
  | .s3 message => ("S3 download failed: " ++ message, none)
  | .podTypeIndeterminate signals =>
      ("Pod type could not be determined", some ("; ".intercalate signals))
  | .pav1Validation path errors =>
      ("PAv1 validation failed at " ++ path, some ("; ".intercalate errors))
  | .other typeName message => ("Unhandled sync error: " ++ typeName ++ ": " ++ message, none)

/-- `SyncContentCommand`. -/
structure SyncContentRequest where
  definitionId : String := ""
  name : String := ""
  version : String := "v1"
  sourceUri : String := ""
  force : Bool := false
  podTypeOverride : Option String := none

/-- What the world around a command does: the id it generates, the package that is downloaded
and what is made of it, and which of the writes raise. -/
structure SyncEnv where
  newId : String
  addRaises : Bool := false
  startRaises : Bool := false
  /-- The hash of the package, and the package as a zip file. -/
  download : Except SyncError (String × Except SyncError Package)
  extract : Except SyncError Unit := .ok ()
  validate : Except SyncError Unit := .ok ()
  readyRaises : Option SyncError := none
  failedRaises : Bool := false
  /-- The stale definition whose write raises, by its position. -/
  staleRaises : Option Nat := none
  emitRaises : Bool := false

/-- `if override:`. -/
def givenOverride (override : Option String) : Option String := override.filter fun o => o ≠ ""

/-- `_resolve_initial_pod_type`. -/
def resolveInitialPodType (override : Option String) : PodType :=
  match givenOverride override with
  | none => .cmlOnAws
  | some value => (PodType.parse value).getD .cmlOnAws

/-- `_resolve_pod_type`. -/
def resolvePodType (zip : Except SyncError Package) (override : Option String) :
    Except SyncError PodType :=
  match givenOverride override with
  | some value =>
      match PodType.parse value with
      | some podType => .ok podType
      | none =>
          .error (.pav1Validation "manifest.yaml" ["invalid pod_type_override='" ++ value ++ "'"])
  | none =>
      match zip with
      | .error e => .error e
      | .ok package =>
          match detect package with
          | .ok (podType, _) => .ok podType
          | .error signals => .error (.podTypeIndeterminate signals)

/-- Steps 4 to 8: the hash and the pod type of a package that is fine. -/
def runPipeline (env : SyncEnv) (request : SyncContentRequest) :
    Except SyncError (String × PodType) := do
  let (contentHash, zip) ← env.download
  let podType ← resolvePodType zip request.podTypeOverride
  env.extract
  env.validate
  return (contentHash, podType)

/-! ## §3. The command. -/

/-- The stored definitions and, beside them, the pod type that the package of each definition's
last successful sync resolved to: the code keeps it nowhere. -/
structure ContentStore where
  definitions : PodDefinitionRepository
  resolved : String → Option PodType

/-- The answer of the command. -/
inductive SyncResult where
  | accepted (definitionId contentHash : String) (podType : PodType) (supersededIds : List String)
  | badRequest (message : String)
  | conflict (message : String)
  | internalServerError (reason : String)
  | raised

/-- The write of a definition. -/
def ContentStore.save (store : ContentStore) (d : PodDefinition) : ContentStore :=
  { store with definitions := store.definitions.save d }

/-- `PodDefinition.create` with the arguments of the command. -/
def createDefinition (env : SyncEnv) (request : SyncContentRequest) : PodDefinition where
  id := if request.definitionId = "" then env.newId else request.definitionId
  name := request.name
  version := request.version
  podType := resolveInitialPodType request.podTypeOverride
  sourceUri := request.sourceUri

/-- Step 2: the definition that the command is about, or the answer that ends it. -/
def loadOrCreate (env : SyncEnv) (store : ContentStore) (request : SyncContentRequest) :
    Except SyncResult PodDefinition × ContentStore :=
  let found :=
    if request.definitionId = "" then none else store.definitions.find request.definitionId
  match found with
  | none =>
      if request.name = "" then
        (.error (.badRequest "name is required when creating a new PodDefinition"), store)
      else
        let podDef := createDefinition env request
        -- a generated id that is taken is a duplicate key
        if env.addRaises ∨ (store.definitions.find podDef.id).isSome then (.error .raised, store)
        else (.ok podDef, store.save podDef)
  | some podDef =>
      if podDef.status = .ready ∧ ¬ request.force then
        (.error (.conflict "PodDefinition is already READY. Use force=true to re-sync."), store)
      else (.ok podDef, store)

/-- `_handle_failure`. -/
def handleFailure (env : SyncEnv) (store : ContentStore) (podDef : PodDefinition)
    (e : SyncError) : SyncResult × ContentStore :=
  let (reason, detail) := classifyFailure e
  -- a write that raises is logged
  (.internalServerError reason,
    if env.failedRaises then store else store.save (podDef.markFailed reason detail))

/-- The query of `expire_superseded_definitions_async`. -/
def isStale (name : String) (podType : PodType) (currentId currentHash : String)
    (d : PodDefinition) : Bool :=
  d.name == name && d.podType == podType && d.status == .ready
    && d.contentHash != some currentHash && d.id != currentId

/-- The stale definitions that are written before a write raises. -/
def writtenBefore (raises : Option Nat) (stale : List PodDefinition) : List PodDefinition :=
  match raises with
  | none => stale
  | some n => stale.take n

/-- Step 10: supersede what is stale, and tell the world. -/
def supersedeStale (env : SyncEnv) (store : ContentStore) (current : PodDefinition)
    (podType : PodType) (contentHash : String) : SyncResult × ContentStore :=
  let stale := store.definitions.all.filter
    (isStale current.name podType current.id contentHash)
  -- no exception of this step is caught: the definition stays READY
  let written := writtenBefore env.staleRaises stale
  let store :=
    { store with definitions := store.definitions.saveEach PodDefinition.supersede written }
  if written.length < stale.length ∨ env.emitRaises then (.raised, store)
  else (.accepted current.id contentHash podType (stale.map PodDefinition.id), store)

/-- Steps 3 to 10. -/
def syncLoaded (env : SyncEnv) (store : ContentStore) (request : SyncContentRequest)
    (podDef : PodDefinition) : SyncResult × ContentStore :=
  if env.startRaises then (.raised, store)
  else
    let podDef := podDef.startSync
    let store := store.save podDef
    match runPipeline env request with
    | .error e => handleFailure env store podDef e
    | .ok (contentHash, podType) =>
        let podDef := podDef.markReady contentHash
        match env.readyRaises with
        | some e => handleFailure env store podDef e
        | none =>
            let store := store.save podDef
            -- the stored pod type is still that of the creation
            let resolved id := if id = podDef.id then some podType else store.resolved id
            supersedeStale env { store with resolved := resolved } podDef podType contentHash

/-- `SyncContentCommandHandler.handle_async`. -/
def syncContent (env : SyncEnv) (store : ContentStore) (request : SyncContentRequest) :
    SyncResult × ContentStore :=
  if request.sourceUri = "" then (.badRequest "source_uri is required", store)
  else
    match loadOrCreate env store request with
    | (.error result, store) => (result, store)
    | (.ok podDef, store) => syncLoaded env store request podDef

/-- A command with what happens around it. -/
structure SyncCommand where
  env : SyncEnv
  request : SyncContentRequest

/-- The store after the command. -/
def syncStep (store : ContentStore) (command : SyncCommand) : ContentStore :=
  (syncContent command.env store command.request).2

/-- A store without definitions. -/
def ContentStore.empty : ContentStore := ⟨Repository.empty, fun _ => none⟩

/-! ## §4. What an accepted command does. -/

/-- The store after an accepted command, document by document: the definition it is about is
READY with the new hash, and the others are those from before, the stale ones SUPERSEDED. -/
structure Synced (store store' : ContentStore) (current : PodDefinition) (contentHash : String)
    (podType : PodType) : Prop where
  status : current.status = .ready
  hash : current.contentHash = some contentHash
  saved : store'.definitions.find current.id = some current
  resolved : store'.resolved = fun k => if k = current.id then some podType else store.resolved k
  others : ∀ k, k ≠ current.id → store'.definitions.find k
    = (store.definitions.find k).map fun d =>
        if isStale current.name podType current.id contentHash d then d.supersede else d

theorem writtenBefore_eq {raises : Option Nat} {stale : List PodDefinition}
    (h : ¬ (writtenBefore raises stale).length < stale.length) :
    writtenBefore raises stale = stale := by
  cases raises with
  | none => rfl
  | some n =>
      unfold writtenBefore at h ⊢
      rw [List.length_take] at h
      exact List.take_of_length_le (by omega)

theorem supersedeStale_accepted {env : SyncEnv} {store : ContentStore} {current : PodDefinition}
    {podType resolved : PodType} {contentHash hash id : String} {ids : List String}
    (h : (supersedeStale env store current podType contentHash).1
      = .accepted id hash resolved ids) :
    id = current.id ∧ hash = contentHash ∧ resolved = podType
      ∧ (supersedeStale env store current podType contentHash).2
        = { store with
            definitions := store.definitions.saveEach PodDefinition.supersede
              (store.definitions.all.filter
                (isStale current.name podType current.id contentHash)) } := by
  unfold supersedeStale at h ⊢
  dsimp only at h ⊢
  split at h
  next => cases h
  next hok =>
    injection h with hid hhash hresolved
    refine ⟨hid.symm, hhash.symm, hresolved.symm, ?_⟩
    rw [if_neg hok, writtenBefore_eq (not_or.mp hok).1]

theorem supersede_id (d : PodDefinition) : d.supersede.id = d.id := rfl

theorem handleFailure_not_accepted {env : SyncEnv} {store : ContentStore}
    {podDef : PodDefinition} {e : SyncError} {id hash : String} {podType : PodType}
    {ids : List String} :
    (handleFailure env store podDef e).1 ≠ .accepted id hash podType ids := nofun

/-- The current definition is not stale, and stays as it was saved. -/
theorem not_isStale_self (d : PodDefinition) (podType : PodType) (contentHash : String) :
    isStale d.name podType d.id contentHash d = false := by
  simp [isStale]

/-- Steps 3 to 10, when they succeed. -/
theorem syncLoaded_accepted {env : SyncEnv} {store : ContentStore} {request : SyncContentRequest}
    {podDef : PodDefinition} {id hash : String} {podType : PodType} {ids : List String}
    (h : (syncLoaded env store request podDef).1 = .accepted id hash podType ids) :
    runPipeline env request = .ok (hash, podType)
      ∧ id = podDef.id
      ∧ Synced store (syncLoaded env store request podDef).2
          (podDef.startSync.markReady hash) hash podType := by
  unfold syncLoaded at h ⊢
  split at h
  next => cases h
  next hstart =>
    rw [if_neg hstart]
    dsimp only at h ⊢
    cases hrun : runPipeline env request with
    | error e =>
        rw [hrun] at h
        exact absurd h handleFailure_not_accepted
    | ok result =>
        obtain ⟨contentHash, resolved⟩ := result
        rw [hrun] at h
        dsimp only at h ⊢
        cases hready : env.readyRaises with
        | some e =>
            rw [hready] at h
            exact absurd h handleFailure_not_accepted
        | none =>
            rw [hready] at h
            dsimp only at h ⊢
            obtain ⟨rfl, rfl, rfl, hstore⟩ := supersedeStale_accepted h
            rw [hstore]
            refine ⟨rfl, rfl, rfl, rfl, ?_, rfl, ?_⟩
            · -- what is saved last is not stale
              show (Repository.saveEach _ _ _).find _ = _
              rw [Repository.find_saveEach_filter supersede_id]
              show ((Repository.save _ _).find (podDef.startSync.markReady hash).id).map _ = _
              rw [Repository.find_save_self, Option.map_some, not_isStale_self]
              rfl
            · intro k hk
              show (Repository.saveEach _ _ _).find k = _
              rw [Repository.find_saveEach_filter supersede_id]
              have hstarted : k ≠ podDef.startSync.id := hk
              show (((store.definitions.save podDef.startSync).save _).find k).map _ = _
              rw [Repository.find_save_ne _ _ hk, Repository.find_save_ne _ _ hstarted]

/-- The id and the name of the definition that a command is about. -/
def target (env : SyncEnv) (store : ContentStore) (request : SyncContentRequest) :
    String × String :=
  match if request.definitionId = "" then none else store.definitions.find request.definitionId with
  | none => (if request.definitionId = "" then env.newId else request.definitionId, request.name)
  | some podDef => (podDef.id, podDef.name)

/-- The definition that is loaded or created is the only one that may be new. -/
structure Loaded (env : SyncEnv) (store store' : ContentStore) (request : SyncContentRequest)
    (podDef : PodDefinition) : Prop where
  target : target env store request = (podDef.id, podDef.name)
  named : ∀ d, store.definitions.find podDef.id = some d → d.name = podDef.name
  resolved : store'.resolved = store.resolved
  others : ∀ k, k ≠ podDef.id → store'.definitions.find k = store.definitions.find k

theorem loadOrCreate_ok {env : SyncEnv} {store store' : ContentStore}
    {request : SyncContentRequest} {podDef : PodDefinition}
    (h : loadOrCreate env store request = (.ok podDef, store')) :
    Loaded env store store' request podDef := by
  unfold loadOrCreate at h
  dsimp only at h
  split at h
  next hfound =>
    split at h
    next => cases h
    next =>
      split at h
      next => cases h
      next hadded =>
        -- created, under an id that was free
        injection h with hdef hstore
        injection hdef with hdef
        subst hdef hstore
        refine ⟨?_, ?_, rfl, fun k hk => Repository.find_save_ne _ _ hk⟩
        · unfold target
          rw [hfound]
          rfl
        · intro d hd
          rw [hd] at hadded
          exact absurd (.inr rfl) hadded
  next podDef' hfound =>
    split at h
    next => cases h
    next =>
      injection h with hdef hstore
      injection hdef with hdef
      subst hdef hstore
      refine ⟨?_, ?_, rfl, fun k _ => rfl⟩
      · unfold target
        rw [hfound]
      · intro d hd
        split at hfound
        next => cases hfound
        next =>
          have hid := Repository.id_of_find hfound
          rw [hid, hfound] at hd
          rw [Option.some.inj hd]

theorem loadOrCreate_not_accepted {env : SyncEnv} {store : ContentStore}
    {request : SyncContentRequest} {result : SyncResult}
    (h : (loadOrCreate env store request).1 = .error result) (id hash : String)
    (podType : PodType) (ids : List String) : result ≠ .accepted id hash podType ids := by
  unfold loadOrCreate at h
  dsimp only at h
  split at h <;> split at h
  · cases h
    nofun
  · split at h <;> cases h
    nofun
  · cases h
    nofun
  · cases h

/-- **An accepted command**: its definition is READY with what the package has, the stale ones
are superseded, and nothing else has changed. -/
theorem syncContent_accepted {env : SyncEnv} {store : ContentStore}
    {request : SyncContentRequest} {id hash : String} {podType : PodType} {ids : List String}
    (h : (syncContent env store request).1 = .accepted id hash podType ids) :
    runPipeline env request = .ok (hash, podType)
      ∧ ∃ current : PodDefinition, target env store request = (id, current.name)
        ∧ (∀ d, store.definitions.find id = some d → d.name = current.name)
        ∧ current.id = id
        ∧ Synced store (syncContent env store request).2 current hash podType := by
  unfold syncContent at h ⊢
  split at h
  next => cases h
  next huri =>
    rw [if_neg huri]
    cases hload : loadOrCreate env store request with
    | mk loaded store' =>
        rw [hload] at h
        cases loaded with
        | error result =>
            exact absurd h (loadOrCreate_not_accepted (by rw [hload]) id hash podType ids)
        | ok podDef =>
            dsimp only at h ⊢
            obtain ⟨hrun, rfl, hsynced⟩ := syncLoaded_accepted h
            have hloaded := loadOrCreate_ok hload
            refine ⟨hrun, podDef.startSync.markReady hash, hloaded.target, hloaded.named, rfl, ?_⟩
            refine ⟨hsynced.status, hsynced.hash, hsynced.saved, ?_, ?_⟩
            · rw [hsynced.resolved, hloaded.resolved]
            · intro k hk
              rw [hsynced.others k hk, hloaded.others k hk]

/-! ## §5. Supersession. -/

/-- **Right after a successful sync** of a definition with a name, whose package has a pod type
and a hash: the READY definitions of that name whose own last package has that type have that
hash, and the definitions of other names or types have the status they had. -/
def Supersedes (store : ContentStore) (command : SyncCommand) : Prop :=
  ∀ id hash podType ids,
    (syncContent command.env store command.request).1 = .accepted id hash podType ids →
    ∀ current, (syncStep store command).definitions.find id = some current →
      (∀ k d, (syncStep store command).definitions.find k = some d → d.status = .ready →
          d.name = current.name → (syncStep store command).resolved k = some podType →
          d.contentHash = some hash)
        ∧ ∀ k d, store.definitions.find k = some d →
            d.name ≠ current.name ∨ (syncStep store command).resolved k ≠ some podType →
            ∃ d', (syncStep store command).definitions.find k = some d' ∧ d'.status = d.status

/-- The command succeeds. -/
def SyncResult.isAccepted : SyncResult → Bool
  | .accepted .. => true
  | _ => false

/-- **What the query needs** of a command that succeeds: among the other READY definitions of the
name with another hash, the stored pod type is the one of this package exactly where the
definition's own last package has that type. -/
def StoredTypesAgree (store : ContentStore) (command : SyncCommand) : Prop :=
  (syncContent command.env store command.request).1.isAccepted →
    ∀ hash podType, runPipeline command.env command.request = .ok (hash, podType) →
      ∀ k d, store.definitions.find k = some d →
        k ≠ (target command.env store command.request).1 →
        d.name = (target command.env store command.request).2 →
        d.status = .ready → d.contentHash ≠ some hash →
        (d.podType = podType ↔ store.resolved k = some podType)

/-- A definition is stale iff its stored data says so. -/
theorem isStale_iff {name id hash : String} {podType : PodType} {d : PodDefinition} :
    isStale name podType id hash d = true
      ↔ d.name = name ∧ d.podType = podType ∧ d.status = .ready ∧ d.contentHash ≠ some hash
        ∧ d.id ≠ id := by
  simp [isStale, and_assoc]

section Synced

variable {store store' : ContentStore} {current : PodDefinition} {hash : String}
  {podType : PodType}

/-- What an accepted command leaves of another definition. -/
theorem Synced.find_other (h : Synced store store' current hash podType) {k : String}
    {d : PodDefinition} (hk : k ≠ current.id) (hd : store.definitions.find k = some d) :
    store'.definitions.find k
      = some (if isStale current.name podType current.id hash d then d.supersede else d) := by
  rw [h.others k hk, hd, Option.map_some]

theorem Synced.resolved_other (h : Synced store store' current hash podType) {k : String}
    (hk : k ≠ current.id) : store'.resolved k = store.resolved k := by
  rw [h.resolved]
  exact if_neg hk

/-- The READY definitions of the name and the type have the hash, where the stored types agree. -/
theorem Synced.ready_hash (h : Synced store store' current hash podType)
    (hagree : ∀ k d, store.definitions.find k = some d → k ≠ current.id → d.name = current.name →
      d.status = .ready → d.contentHash ≠ some hash →
      (d.podType = podType ↔ store.resolved k = some podType))
    {k : String} {d : PodDefinition} (hd : store'.definitions.find k = some d)
    (hready : d.status = .ready) (hname : d.name = current.name)
    (hresolved : store'.resolved k = some podType) : d.contentHash = some hash := by
  by_cases hk : k = current.id
  · rw [hk, h.saved] at hd
    injection hd with hd
    rw [← hd]
    exact h.hash
  · rw [h.resolved_other hk] at hresolved
    cases hold : store.definitions.find k with
    | none =>
        rw [h.others k hk, hold] at hd
        cases hd
    | some e =>
        rw [h.find_other hk hold] at hd
        injection hd with hd
        split at hd
        next =>
          rw [← hd] at hready
          cases hready
        next hfresh =>
          -- another hash would have made it stale
          subst hd
          by_contra hhash
          have htype := (hagree k e hold hk hname hready hhash).mpr hresolved
          have hid : e.id ≠ current.id := by rwa [Repository.id_of_find hold]
          exact hfresh (isStale_iff.mpr ⟨hname, htype, hready, hhash, hid⟩)

/-- The definitions of other names or types keep their status, where the stored types agree. -/
theorem Synced.status_kept (h : Synced store store' current hash podType)
    (hagree : ∀ k d, store.definitions.find k = some d → k ≠ current.id → d.name = current.name →
      d.status = .ready → d.contentHash ≠ some hash →
      (d.podType = podType ↔ store.resolved k = some podType))
    (hname : ∀ d, store.definitions.find current.id = some d → d.name = current.name)
    {k : String} {d : PodDefinition} (hd : store.definitions.find k = some d)
    (hother : d.name ≠ current.name ∨ store'.resolved k ≠ some podType) :
    ∃ d', store'.definitions.find k = some d' ∧ d'.status = d.status := by
  by_cases hk : k = current.id
  · -- the definition of the command has its name and its type
    refine absurd hother (not_or.mpr ⟨?_, ?_⟩)
    · rw [hk] at hd
      exact not_not.mpr (hname d hd)
    · rw [h.resolved, hk]
      exact not_not.mpr (if_pos rfl)
  · refine ⟨_, h.find_other hk hd, ?_⟩
    rw [if_neg]
    intro hstale
    obtain ⟨hn, htype, hready, hhash, -⟩ := isStale_iff.mp hstale
    rw [h.resolved_other hk] at hother
    rcases hother with hother | hother
    · exact hother hn
    · exact hother ((hagree k d hd hk hn hready hhash).mp htype)

/-- Where the supersession is right, the stored types agree. -/
theorem Synced.types_agree (h : Synced store store' current hash podType)
    (hready : ∀ k d, store'.definitions.find k = some d → d.status = .ready →
      d.name = current.name → store'.resolved k = some podType → d.contentHash = some hash)
    (hkept : ∀ k d, store.definitions.find k = some d →
      d.name ≠ current.name ∨ store'.resolved k ≠ some podType →
      ∃ d', store'.definitions.find k = some d' ∧ d'.status = d.status)
    {k : String} {d : PodDefinition} (hd : store.definitions.find k = some d)
    (hk : k ≠ current.id) (hname : d.name = current.name) (hstatus : d.status = .ready)
    (hhash : d.contentHash ≠ some hash) :
    d.podType = podType ↔ store.resolved k = some podType := by
  have hfind := h.find_other hk hd
  have hid : d.id ≠ current.id := by rwa [Repository.id_of_find hd]
  constructor
  · -- superseded for its stored type, though its package has another one
    intro htype
    by_contra hresolved
    rw [← h.resolved_other hk] at hresolved
    obtain ⟨d', hd', hsame⟩ := hkept k d hd (.inr hresolved)
    rw [hfind, if_pos (isStale_iff.mpr ⟨hname, htype, hstatus, hhash, hid⟩)] at hd'
    injection hd' with hd'
    rw [← hd', hstatus] at hsame
    cases hsame
  · -- left READY for its stored type, though its package has the same one
    intro hresolved
    by_contra htype
    rw [if_neg fun hstale => htype (isStale_iff.mp hstale).2.1] at hfind
    refine hhash (hready k d hfind hstatus hname ?_)
    rw [h.resolved_other hk, hresolved]

end Synced

/-- **One command**: the supersession is right iff the stored types agree. -/
theorem supersedes_iff (store : ContentStore) (command : SyncCommand) :
    Supersedes store command ↔ StoredTypesAgree store command := by
  unfold Supersedes StoredTypesAgree
  cases h : (syncContent command.env store command.request).1 with
  | accepted id hash podType ids =>
      obtain ⟨hrun, current, htarget, hnamed, rfl, hsynced⟩ := syncContent_accepted h
      rw [htarget]
      constructor
      · intro hsupersedes _ hash' podType' hrun' k d hd hk hname hstatus hhash
        rw [hrun] at hrun'
        injection hrun' with hpair
        obtain ⟨rfl, rfl⟩ := Prod.mk.inj hpair
        obtain ⟨hready, hkept⟩ := hsupersedes _ _ _ _ rfl current hsynced.saved
        exact hsynced.types_agree hready hkept hd hk hname hstatus hhash
      · intro hagree id hash' podType' ids' haccepted current' hcurrent'
        injection haccepted with hid hhash htype
        subst hid hhash htype
        have hcurrent : current = current' := Option.some.inj (hsynced.saved.symm.trans hcurrent')
        subst hcurrent
        have hagree := hagree rfl hash podType hrun
        constructor
        · intro k d hd hready hname hresolved
          exact hsynced.ready_hash hagree hd hready hname hresolved
        · intro k d hd hother
          exact hsynced.status_kept hagree hnamed hd hother
  | _ => exact iff_of_true nofun nofun

/-- **Runs of commands**, one at a time from the empty store: every successful sync supersedes
what it should, and no more, iff the stored pod types agree at each of them. -/
theorem supersession_iff (commands : List SyncCommand) :
    (∀ before command after, commands = before ++ command :: after →
        Supersedes (replay syncStep .empty before) command)
      ↔ Meets syncStep StoredTypesAgree .empty commands := by
  rw [meets_iff]
  simp only [supersedes_iff]

/-- A package with one topology file. -/
def packageOf (topology : String) : Package := ⟨fun path => path = topology, fun _ => none⟩

/-- A new definition of the name `exam`, whose pod type is left to the package. -/
def examSync (newId contentHash topology : String) : SyncCommand where
  env := { newId := newId, download := .ok (contentHash, .ok (packageOf topology)) }
  request := { name := "exam", sourceUri := "s3://exam/SVN.zip" }

/-- Two packages for Proxmox: the definition of the first one was created as CML_ON_AWS, is not
found and stays READY with the old hash.  A package for CML instead supersedes it. -/
theorem stale_definition_stays_ready :
    ¬ (∀ before command after,
        [examSync "d1" "h1" "PAv1/topology/proxmox.yaml",
          examSync "d2" "h2" "PAv1/topology/proxmox.yaml"] = before ++ command :: after →
        Supersedes (replay syncStep .empty before) command)
      ∧ ¬ ∀ before command after,
        [examSync "d1" "h1" "PAv1/topology/proxmox.yaml",
          examSync "d2" "h2" "PAv1/topology/cml.yaml"] = before ++ command :: after →
        Supersedes (replay syncStep .empty before) command := by
  constructor
  · intro h
    obtain ⟨hready, -⟩ := h [_] _ [] rfl "d2" "h2" .proxmox [] rfl _ rfl
    have hhash := hready "d1" _ rfl rfl rfl rfl
    revert hhash
    decide +kernel
  · intro h
    obtain ⟨-, hkept⟩ := h [_] _ [] rfl "d2" "h2" .cmlOnAws ["d1"] rfl _ rfl
    obtain ⟨d', hd', hstatus⟩ := hkept "d1" _ rfl (.inr (by decide +kernel))
    have hsuperseded : d'.status = .superseded := by
      rw [← Option.some.inj hd']
      rfl
    rw [hsuperseded] at hstatus
    revert hstatus
    decide +kernel

end CmlCloudManager.ScenarioEngine
